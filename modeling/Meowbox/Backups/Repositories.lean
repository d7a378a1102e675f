import Meowbox.Lib.JsValue
import Meowbox.Lib.PosixPath

/-!
# The address of a Restic repository

Both the API (`BackupExportsService.buildResticRepoUrl` of
`api/src/backups/backup-exports.service.ts`, for exports) and the agent
(`ResticExecutor.buildRepoUrl` of `agent/src/backup/restic.executor.ts`, for everything else)
derive the address of a repository from the configuration of its storage location. The two
processes run with the same environment (`ecosystem.config.js`).

* A field of a configuration is present, empty or absent; `either` is `a || b`.
* The agent reads a variable through `env` of its `config.ts`, which takes a blank one for absent;
  the API reads it as it is.

`repository_url_agrees` says for which configurations both compute one address. They never do for a
location on the local disk without a `remotePath`: the defaults are different directories
(`local_default_differs`).
-/

namespace Meowbox.Backups

open JsData PosixPath

/-- `BackupStorageType`. -/
inductive StorageType
  | LOCAL
  | S3
  | SFTP
  | YANDEX_DISK
  | CLOUD_MAIL_RU
  deriving DecidableEq, Repr

def StorageType.text : StorageType → String
  | LOCAL => "LOCAL"
  | S3 => "S3"
  | SFTP => "SFTP"
  | YANDEX_DISK => "YANDEX_DISK"
  | CLOUD_MAIL_RU => "CLOUD_MAIL_RU"

/-- The fields of `config` an address depends on; `keyPrefix` is `prefix`. -/
structure StorageConfig where
  remotePath : Option String := none
  bucket : Option String := none
  endpoint : Option String := none
  keyPrefix : Option String := none
  sftpHost : Option String := none
  sftpUsername : Option String := none
  sftpPath : Option String := none

/-- The environment of the two processes. -/
structure Environment where
  BACKUP_LOCAL_PATH : Option String := none
  S3_DEFAULT_ENDPOINT : Option String := none
  BACKUP_S3_PREFIX : Option String := none

/-- `a || b`. -/
def either (a : Option String) (b : String) : String :=
  match a with
  | some s => if s = "" then b else s
  | none => b

/-- `/^[a-zA-Z0-9_-]+$/`. -/
def isRepositoryName (siteName : String) : Bool :=
  !siteName.toList.isEmpty &&
    siteName.toList.all fun c => c.isAlphanum || c == '_' || c == '-'

/-- `replace(/\/+$/, '')`. -/
def withoutTrailingSlashes (s : String) : String := String.ofList (dropTrailingSlashes s.toList)

/-- `replace(/^\/+|\/+$/g, '')`. -/
def withoutOuterSlashes (s : String) : String :=
  String.ofList (dropTrailingSlashes (s.toList.dropWhile (· == '/')))

def invalidName (siteName : String) : String := "Invalid siteName for restic repo: " ++ siteName

namespace BackupExportsService

variable (env : Environment)

def buildResticRepoUrl (storageType : StorageType) (cfg : StorageConfig) (siteName : String) :
    Except String String := do
  if !isRepositoryName siteName then throw (invalidName siteName)
  match storageType with
  | .LOCAL =>
    let fallback := either env.BACKUP_LOCAL_PATH "/var/backups/meowbox"
    let base := either cfg.remotePath fallback
    return withoutTrailingSlashes base ++ "/" ++ siteName
  | .S3 =>
    let bucket := either cfg.bucket ""
    if bucket = "" then throw "S3 bucket is required"
    let ep := either cfg.endpoint (either env.S3_DEFAULT_ENDPOINT "https://s3.amazonaws.com")
    let defaultPfx := either env.BACKUP_S3_PREFIX "meowbox"
    let pfx := withoutOuterSlashes (either cfg.keyPrefix defaultPfx)
    return "s3:" ++ ep ++ "/" ++ bucket ++ "/" ++ pfx ++ "/" ++ siteName
  | other => throw ("Unsupported storage type for Restic: " ++ other.text)

end BackupExportsService

namespace ResticExecutor

/-- `env(name, fallback)` of `config.ts`. -/
def variableOr (v : Option String) (fallback : String) : String :=
  match v with
  | some s => if trim s = "" then fallback else s
  | none => fallback

/-- `/^[a-zA-Z0-9.\-]+$/`. -/
def isHost (s : String) : Bool :=
  !s.toList.isEmpty && s.toList.all fun c => c.isAlphanum || c == '.' || c == '-'

/-- `/^[a-zA-Z_][a-zA-Z0-9_-]{0,31}$/`. -/
def isUsername (s : String) : Bool :=
  match s.toList with
  | [] => false
  | c :: cs => (c.isAlpha || c == '_') && decide (cs.length ≤ 31) &&
      cs.all fun c => c.isAlphanum || c == '_' || c == '-'

/-- `sftpPath.includes('..')`. -/
def hasDotdot : List Char → Bool
  | '.' :: '.' :: _ => true
  | _ :: cs => hasDotdot cs
  | [] => false

variable (env : Environment) (cwd : String)

/-- `BACKUP_LOCAL_PATH` of `config.ts`. -/
def BACKUP_LOCAL_PATH : List Char :=
  resolve cwd.toList (variableOr env.BACKUP_LOCAL_PATH "/var/meowbox/backups").toList

def buildRepoUrl (siteName : String) (storageType : StorageType) (config : StorageConfig) :
    Except String String := do
  if !isRepositoryName siteName then throw (invalidName siteName)
  match storageType with
  | .LOCAL =>
    let base := either config.remotePath
      (String.ofList (join (BACKUP_LOCAL_PATH env cwd) "restic".toList))
    return String.ofList (join base.toList siteName.toList)
  | .S3 =>
    let bucket := either config.bucket ""
    if bucket = "" then throw "S3 bucket is required"
    let ep := either config.endpoint
      (variableOr env.S3_DEFAULT_ENDPOINT "https://s3.amazonaws.com")
    let pfx := withoutOuterSlashes (either config.keyPrefix
      (variableOr env.BACKUP_S3_PREFIX "meowbox"))
    return "s3:" ++ ep ++ "/" ++ bucket ++ "/" ++ pfx ++ "/" ++ siteName
  | .SFTP =>
    let sftpHost := either config.sftpHost ""
    let sftpUsername := either config.sftpUsername ""
    let sftpPath := either config.sftpPath ""
    if sftpHost = "" ∨ sftpUsername = "" ∨ sftpPath = "" then
      throw "SFTP host/username/path are required"
    if !isHost sftpHost then throw "Invalid sftpHost"
    if !isUsername sftpUsername then throw "Invalid sftpUsername"
    if !isAbsolute sftpPath.toList || hasDotdot sftpPath.toList ||
        sftpPath.toList.any isJsSpace then throw "Invalid sftpPath"
    return "sftp:" ++ sftpUsername ++ "@" ++ sftpHost ++ ":" ++
      withoutTrailingSlashes sftpPath ++ "/" ++ siteName
  | other => throw ("Unsupported storage type for restic: " ++ other.text)

end ResticExecutor

open BackupExportsService ResticExecutor

/-! ### When the two agree -/

/-- The field is present and not empty. -/
def Given (field : Option String) : Prop := either field "" ≠ ""

/-- The variable is set to blanks only: the API takes it as it is, the agent for absent. -/
def SetBlank (v : Option String) : Prop := Given v ∧ trim (either v "") = ""

instance (field : Option String) : Decidable (Given field) :=
  inferInstanceAs (Decidable (_ ≠ _))

instance (v : Option String) : Decidable (SetBlank v) := inferInstanceAs (Decidable (_ ∧ _))

/-- The configurations for which exports read the repository that backups are written to. -/
def RepositoryAgrees (env : Environment) (storageType : StorageType) (cfg : StorageConfig)
    (siteName : String) : Prop :=
  isRepositoryName siteName = true →
    match storageType with
    | .LOCAL => Given cfg.remotePath ∧ Canonical (either cfg.remotePath "").toList
    | .S3 => Given cfg.bucket →
      (Given cfg.endpoint ∨ ¬ SetBlank env.S3_DEFAULT_ENDPOINT) ∧
        (Given cfg.keyPrefix ∨ ¬ SetBlank env.BACKUP_S3_PREFIX)
    | _ => True

theorem either_some {s : String} (h : s ≠ "") (fallback : String) :
    either (some s) fallback = s := if_neg h

theorem given_some {s : String} : Given (some s) ↔ s ≠ "" := by
  constructor
  · rintro h rfl
    exact h rfl
  · intro h
    rwa [Given, either_some h]

variable {field : Option String}

theorem either_of_given (h : Given field) (fallback : String) :
    either field fallback = either field "" := by
  cases field with
  | none => exact absurd rfl h
  | some s => rw [either_some (given_some.mp h), either_some (given_some.mp h)]

theorem either_of_not_given (h : ¬ Given field) (fallback : String) :
    either field fallback = fallback := by
  cases field with
  | none => rfl
  | some s =>
    rw [given_some, not_not] at h
    exact if_pos h

variable {v : Option String}

/-- Blanks are the only way for the two processes to read a variable differently. -/
theorem variableOr_of_not_setBlank (h : ¬ SetBlank v) (fallback : String) :
    variableOr v fallback = either v fallback := by
  cases v with
  | none => rfl
  | some s =>
    by_cases hs : s = ""
    · subst hs
      rfl
    · have htrim : trim s ≠ "" := fun ht => h ⟨given_some.mpr hs, by rw [either_some hs, ht]⟩
      rw [variableOr, if_neg htrim, either_some hs]

/-! ### Blank variables -/

theorem isJsSpace_of_trim {s : String} (h : trim s = "") : ∀ c ∈ s.toList, isJsSpace c = true := by
  have hnil : ((s.toList.dropWhile isJsSpace).reverse.dropWhile isJsSpace).reverse = [] := by
    simpa [trim, ← String.toList_inj] using h
  rw [List.reverse_eq_nil_iff, List.dropWhile_eq_nil_iff] at hnil
  intro c hc
  rw [← List.takeWhile_append_dropWhile (p := isJsSpace) (l := s.toList)] at hc
  rcases List.mem_append.mp hc with hc | hc
  · exact List.mem_takeWhile_imp hc
  · exact hnil c (List.mem_reverse.mpr hc)

/-- What the API reads of a blank variable, and the agent does not. -/
theorem blank_of_setBlank (h : SetBlank v) (fallback : String) :
    variableOr v fallback = fallback ∧ ∃ c cs, (either v fallback).toList = c :: cs ∧
      ∀ d ∈ c :: cs, isJsSpace d = true := by
  obtain ⟨hgiv, htrim⟩ := h
  rw [either_of_given hgiv fallback]
  constructor
  · cases v with
    | none => rfl
    | some s =>
      have hs : s ≠ "" := by
        rintro rfl
        exact hgiv rfl
      rw [either, if_neg hs] at htrim
      rw [variableOr, if_pos htrim]
  · obtain ⟨c, cs, hcs⟩ := List.exists_cons_of_ne_nil
      fun hnil : (either v "").toList = [] => hgiv (String.toList_inj.mp hnil)
    exact ⟨c, cs, hcs, hcs ▸ isJsSpace_of_trim htrim⟩

/-- Slashes are not blanks, so a blank text keeps its own. -/
theorem dropTrailingSlashes_blank {l : List Char} (h : ∀ d ∈ l, isJsSpace d = true) :
    dropTrailingSlashes l = l := by
  refine List.rdropWhile_eq_self_iff.mpr fun hl hlast => ?_
  have hsl : l.getLast hl = '/' := by simpa using hlast
  have hspc := h _ (List.getLast_mem hl)
  rw [hsl] at hspc
  exact absurd hspc (by decide)

theorem withoutOuterSlashes_blank {s : String} (h : ∀ d ∈ s.toList, isJsSpace d = true) :
    withoutOuterSlashes s = s := by
  have hfirst : s.toList.dropWhile (· == '/') = s.toList := by
    cases hs : s.toList with
    | nil => rfl
    | cons c cs =>
      refine List.dropWhile_cons_of_neg fun hc => ?_
      have hspc := h c (hs ▸ List.mem_cons_self)
      rw [eq_of_beq hc] at hspc
      exact absurd hspc (by decide)
  rw [withoutOuterSlashes, hfirst, dropTrailingSlashes_blank h, String.ofList_toList]

/-! ### Locations on the local disk -/

variable {siteName : String}

theorem isName_of_isRepositoryName (h : isRepositoryName siteName = true) :
    IsName siteName.toList ∧ '/' ∉ siteName.toList := by
  rw [isRepositoryName, Bool.and_eq_true, List.all_eq_true] at h
  obtain ⟨hne, hall⟩ := h
  have hdot : '.' ∉ siteName.toList := fun hm => absurd (hall _ hm) (by decide)
  refine ⟨⟨?_, ?_, ?_⟩, fun hm => absurd (hall _ hm) (by decide)⟩
  · rintro hnil
    rw [hnil] at hne
    exact absurd hne (by decide)
  · intro heq
    exact hdot (by simp [heq])
  · intro heq
    exact hdot (by simp [heq, dotdot])

theorem dropTrailingSlashes_cons {c : Char} (hc : c ≠ '/') (rest : List Char) :
    ∃ t, dropTrailingSlashes (c :: rest) = c :: t := by
  obtain ⟨t, ht⟩ := List.rdropWhile_prefix (· == '/') (c :: rest)
  cases hdrop : dropTrailingSlashes (c :: rest) with
  | nil =>
    have hall := List.rdropWhile_eq_nil_iff.mp hdrop
    exact absurd (hall c List.mem_cons_self) (by simpa using hc)
  | cons d t' =>
    unfold dropTrailingSlashes at hdrop
    rw [hdrop, List.cons_append, List.cons.injEq] at ht
    exact ⟨t', by rw [ht.1]⟩

/-- The two ways to write the address of a repository below a directory. -/
theorem url_eq_iff {base : String} {path : List Char} :
    withoutTrailingSlashes base ++ "/" ++ siteName = String.ofList path ↔
      dropTrailingSlashes base.toList ++ '/' :: siteName.toList = path := by
  rw [← String.toList_inj]
  simp [withoutTrailingSlashes]

/-- The agent's default directory, as names below the root. -/
theorem resolve_eq (cwd path : List Char) :
    ∃ names, resolve cwd path = '/' :: ['/'].intercalate names ∧ (∀ s ∈ names, IsName s) ∧
      (∀ s ∈ names, '/' ∉ s) ∧
        (isAbsolute path = true → names = resolveSegments false (segments path)) := by
  refine ⟨_, rfl, ?_, fun s hs => slash_notMem_splitOn s (mem_resolveSegments hs), fun h => ?_⟩
  · have hnor := isNormal_resolveSegments false
      ((if isAbsolute path then path else cwd ++ '/' :: path).splitOn '/')
    simpa [IsNormal] using hnor
  · rw [if_pos h, resolveSegments_segments]

/-- Joining a path below the root with a name. -/
theorem join_names {names : List (List Char)} {name : List Char} (hns : ∀ s ∈ names, IsName s)
    (hslashes : ∀ s ∈ names, '/' ∉ s) (hname : IsName name) (hsl : '/' ∉ name) :
    join ('/' :: ['/'].intercalate names) name =
      '/' :: ['/'].intercalate (names ++ [name]) := by
  have hnor : IsNormal false names := by simpa [IsNormal] using hns
  rw [join_eq (by simp) hname hsl, segments_of_names hns hslashes]
  show ['/'] ++ ['/'].intercalate (resolveSegments false names ++ [name]) = _
  rw [resolveSegments_eq_self_iff.mpr hnor]
  rfl

theorem mem_concat {P : List Char → Prop} {segs : List (List Char)} {name : List Char}
    (h : ∀ s ∈ segs, P s) (hname : P name) : ∀ s ∈ segs ++ [name], P s := by
  intro s hs
  rcases List.mem_append.mp hs with hs | hs
  · exact h s hs
  · exact List.mem_singleton.mp hs ▸ hname

theorem isName_restic : IsName "restic".toList ∧ '/' ∉ "restic".toList := by decide

/-- No directory that `BACKUP_LOCAL_PATH` names is the one with `restic` below it. -/
theorem below_ne_resolved {base cwd name : List Char} (hbase : base ≠ []) (hname : IsName name)
    (hsl : '/' ∉ name) :
    dropTrailingSlashes base ++ '/' :: name ≠ join (join (resolve cwd base) "restic".toList) name := by
  obtain ⟨names, hresolve, hns, hslashes, habsolute⟩ := resolve_eq cwd base
  obtain ⟨hrestic, hresticSlash⟩ := isName_restic
  rw [hresolve, join_names hns hslashes hrestic hresticSlash,
    join_names (mem_concat hns hrestic) (mem_concat hslashes hresticSlash) hname hsl]
  intro heq
  by_cases h : isAbsolute base = true
  · have hnor : IsNormal false (names ++ ["restic".toList]) := by
      simpa [IsNormal] using mem_concat hns hrestic
    rw [append_name_eq hsl, root, if_pos h, List.cons_append, List.nil_append,
      List.cons.injEq] at heq
    have hsegs := intercalate_inj (mem_concat slash_notMem_segments hsl)
      (mem_concat (mem_concat hslashes hresticSlash) hsl) (by simp) (by simp) heq.2
    have hbel := List.append_cancel_right hsegs
    -- The names would be the names with one more.
    have hns' := habsolute h
    rw [hbel, resolveSegments_eq_self_iff.mpr hnor] at hns'
    have hlen := congrArg List.length hns'
    rw [List.length_append] at hlen
    exact absurd hlen (by simp)
  · -- A relative path does not begin with a slash, what the agent makes of it does.
    obtain ⟨c, rest, rfl⟩ := List.exists_cons_of_ne_nil hbase
    have hc : c ≠ '/' := fun hc => h (by simp [isAbsolute, hc])
    obtain ⟨t, ht⟩ := dropTrailingSlashes_cons hc rest
    rw [ht, List.cons_append, List.cons.injEq] at heq
    exact hc heq.1

/-- **Without a `remotePath` the two processes never name one directory**: `restic` is below it in
the agent only, and the directories they default to differ. -/
theorem local_default_differs {env : Environment} {cwd : String}
    (hsite : isRepositoryName siteName = true) :
    dropTrailingSlashes (either env.BACKUP_LOCAL_PATH "/var/backups/meowbox").toList ++
      '/' :: siteName.toList ≠
        join (join (BACKUP_LOCAL_PATH env cwd) "restic".toList) siteName.toList := by
  obtain ⟨hname, hsl⟩ := isName_of_isRepositoryName hsite
  have hrestic : join "/var/meowbox/backups".toList "restic".toList =
      "/var/meowbox/backups/restic".toList := by decide
  have hres : resolve cwd.toList "/var/meowbox/backups".toList =
      "/var/meowbox/backups".toList := by
    rw [resolve, if_pos (by decide)]
    decide
  have hag : join "/var/meowbox/backups/restic".toList siteName.toList =
      "/var/meowbox/backups/restic".toList ++ '/' :: siteName.toList := by
    rw [← (join_eq_append_iff (by decide) hname hsl).mpr (by decide)]
    rfl
  unfold BACKUP_LOCAL_PATH
  by_cases hgiv : Given env.BACKUP_LOCAL_PATH
  · by_cases hbla : SetBlank env.BACKUP_LOCAL_PATH
    · obtain ⟨hagentDefault, c, cs, hcs, hspc⟩ := blank_of_setBlank hbla "/var/backups/meowbox"
      have hc : c ≠ '/' := by
        rintro rfl
        exact absurd (hspc '/' List.mem_cons_self) (by decide)
      obtain ⟨t, ht⟩ := dropTrailingSlashes_cons hc cs
      rw [(blank_of_setBlank hbla "/var/meowbox/backups").1, hres, hrestic, hag, hcs, ht]
      intro heq
      rw [List.cons_append] at heq
      exact hc (List.cons.inj heq).1
    · rw [variableOr_of_not_setBlank hbla, either_of_given hgiv "/var/meowbox/backups",
        either_of_given hgiv "/var/backups/meowbox"]
      exact below_ne_resolved (fun hnil => hgiv (String.toList_inj.mp hnil)) hname hsl
  · have hbla : ¬ SetBlank env.BACKUP_LOCAL_PATH := fun hb => hgiv hb.1
    rw [variableOr_of_not_setBlank hbla, either_of_not_given hgiv, either_of_not_given hgiv,
      hres, hrestic, hag]
    intro heq
    have hlen := congrArg List.length (List.append_cancel_right heq)
    exact absurd hlen (by decide)

/-! ### Locations on S3 -/

/-- A default that both processes use, unless the variable is blank. -/
theorem default_agrees (fallback : String) (h : Given field ∨ ¬ SetBlank v) :
    either field (either v fallback) = either field (variableOr v fallback) := by
  by_cases hfield : Given field
  · rw [either_of_given hfield, either_of_given hfield (variableOr v fallback)]
  · rw [variableOr_of_not_setBlank (h.resolve_left hfield)]

/-- A default that they do not. -/
theorem default_differs (fallback : String) (h : ¬ (Given field ∨ ¬ SetBlank v)) :
    either field (variableOr v fallback) = fallback ∧
      ∃ c cs, (either field (either v fallback)).toList = c :: cs ∧
        ∀ d ∈ c :: cs, isJsSpace d = true := by
  obtain ⟨hfield, hbla⟩ := not_or.mp h
  obtain ⟨hag, happ⟩ := blank_of_setBlank (not_not.mp hbla) fallback
  rw [either_of_not_given hfield, either_of_not_given hfield]
  exact ⟨hag, happ⟩

theorem keyPrefix_agrees_iff :
    withoutOuterSlashes (either field (either v "meowbox")) =
        withoutOuterSlashes (either field (variableOr v "meowbox")) ↔
      Given field ∨ ¬ SetBlank v := by
  constructor
  · intro heq
    by_contra h
    obtain ⟨hag, c, cs, hcs, hspc⟩ := default_differs "meowbox" h
    have hapi := withoutOuterSlashes_blank (s := either field (either v "meowbox"))
      (hcs ▸ hspc)
    have hmeowbox : withoutOuterSlashes "meowbox" = "meowbox" := by decide
    rw [hag, hmeowbox, hapi] at heq
    rw [heq] at hcs
    have hc : 'm' = c := (List.cons.inj hcs).1
    exact absurd (hspc c List.mem_cons_self) (by rw [← hc]; decide)
  · intro h
    rw [default_agrees "meowbox" h]

theorem s3_url_eq_iff {ep ep' bucket pfx pfx' : String} (h : ep = ep') :
    "s3:" ++ ep ++ "/" ++ bucket ++ "/" ++ pfx ++ "/" ++ siteName =
        "s3:" ++ ep' ++ "/" ++ bucket ++ "/" ++ pfx' ++ "/" ++ siteName ↔ pfx = pfx' := by
  subst h
  rw [← String.toList_inj, ← String.toList_inj]
  simp only [String.toList_append, List.append_assoc, List.append_cancel_left_eq,
    List.append_cancel_right_eq]

/-- Endpoints that begin differently make different addresses. -/
theorem s3_url_ne {ep ep' : String} {c c' : Char} {cs : List Char} (hep : ep.toList = c :: cs)
    (hep' : ep'.toList.head? = some c') (hc : c ≠ c') (rest rest' : String) :
    "s3:" ++ (ep ++ rest) ≠ "s3:" ++ (ep' ++ rest') := by
  obtain ⟨cs', hcs'⟩ := List.head?_eq_some_iff.mp hep'
  rw [ne_eq, ← String.toList_inj]
  simp only [String.toList_append, List.append_cancel_left_eq, hep, hcs', List.cons_append,
    List.cons.injEq]
  exact fun h => hc h.1

theorem s3_agrees_iff {env : Environment} {cfg : StorageConfig} {bucket : String} :
    "s3:" ++ either cfg.endpoint (either env.S3_DEFAULT_ENDPOINT "https://s3.amazonaws.com") ++
          "/" ++ bucket ++ "/" ++
          withoutOuterSlashes (either cfg.keyPrefix (either env.BACKUP_S3_PREFIX "meowbox")) ++
          "/" ++ siteName =
        "s3:" ++ either cfg.endpoint
            (variableOr env.S3_DEFAULT_ENDPOINT "https://s3.amazonaws.com") ++
          "/" ++ bucket ++ "/" ++
          withoutOuterSlashes (either cfg.keyPrefix (variableOr env.BACKUP_S3_PREFIX "meowbox")) ++
          "/" ++ siteName ↔
      (Given cfg.endpoint ∨ ¬ SetBlank env.S3_DEFAULT_ENDPOINT) ∧
        (Given cfg.keyPrefix ∨ ¬ SetBlank env.BACKUP_S3_PREFIX) := by
  by_cases h : Given cfg.endpoint ∨ ¬ SetBlank env.S3_DEFAULT_ENDPOINT
  · rw [s3_url_eq_iff (default_agrees _ h), keyPrefix_agrees_iff]
    exact (and_iff_right h).symm
  · obtain ⟨hag, c, cs, hcs, hspc⟩ := default_differs "https://s3.amazonaws.com" h
    refine iff_of_false ?_ fun hand => h hand.1
    have hc : c ≠ 'h' := by
      rintro rfl
      exact absurd (hspc 'h' List.mem_cons_self) (by decide)
    have hhttps : "https://s3.amazonaws.com".toList.head? = some 'h' := by decide
    rw [hag]
    simp only [String.append_assoc]
    exact s3_url_ne hcs hhttps hc _ _

/-! ### The two addresses -/

theorem local_agrees_iff {env : Environment} {cwd : String} {cfg : StorageConfig}
    (hsite : isRepositoryName siteName = true) :
    buildResticRepoUrl env .LOCAL cfg siteName = buildRepoUrl env cwd siteName .LOCAL cfg ↔
      Given cfg.remotePath ∧ Canonical (either cfg.remotePath "").toList := by
  obtain ⟨hname, hsl⟩ := isName_of_isRepositoryName hsite
  simp only [buildResticRepoUrl, buildRepoUrl, hsite, Bool.not_true, Bool.false_eq_true, if_false,
    pure, Except.pure, Except.ok.injEq]
  rw [url_eq_iff]
  by_cases hgiv : Given cfg.remotePath
  · rw [either_of_given hgiv, either_of_given hgiv
      (String.ofList (join (BACKUP_LOCAL_PATH env cwd) "restic".toList))]
    have hne : (either cfg.remotePath "").toList ≠ [] := fun hnil =>
      hgiv (String.toList_inj.mp hnil)
    rw [join_eq_append_iff hne hname hsl]
    exact (and_iff_right hgiv).symm
  · refine iff_of_false ?_ fun hand => hgiv hand.1
    rw [either_of_not_given hgiv, either_of_not_given hgiv, String.toList_ofList]
    exact local_default_differs hsite

/-- **When exports read the repository that backups are written to.** -/
theorem repository_url_agrees (env : Environment) (cwd : String) (storageType : StorageType)
    (cfg : StorageConfig) (siteName : String)
    (h : storageType = .LOCAL ∨ storageType = .S3) :
    buildResticRepoUrl env storageType cfg siteName =
        buildRepoUrl env cwd siteName storageType cfg ↔
      RepositoryAgrees env storageType cfg siteName := by
  unfold RepositoryAgrees
  by_cases hsite : isRepositoryName siteName = true
  · rw [imp_iff_right hsite]
    rcases h with rfl | rfl
    · exact local_agrees_iff hsite
    · simp only [buildResticRepoUrl, buildRepoUrl, hsite, Bool.not_true, Bool.false_eq_true,
        if_false]
      by_cases hbucket : Given cfg.bucket
      · rw [imp_iff_right hbucket, if_neg hbucket, if_neg hbucket]
        simp only [pure, Except.pure, Except.ok.injEq]
        exact s3_agrees_iff
      · rw [if_pos (not_not.mp hbucket), if_pos (not_not.mp hbucket)]
        exact iff_of_true (Eq.refl (Except.error "S3 bucket is required")) fun hb => absurd hb hbucket
  · have hboth : buildResticRepoUrl env storageType cfg siteName =
        buildRepoUrl env cwd siteName storageType cfg := by
      simp only [buildResticRepoUrl, buildRepoUrl, hsite, Bool.not_false, if_true]
      rfl
    exact iff_of_true hboth fun hs => absurd hs hsite

theorem repository_url_agrees_mounted :
    buildResticRepoUrl {} .LOCAL { remotePath := some "/mnt/backup/" } "shop" =
      buildRepoUrl {} "/opt/meowbox" "shop" .LOCAL { remotePath := some "/mnt/backup/" } :=
  (repository_url_agrees {} "/opt/meowbox" .LOCAL { remotePath := some "/mnt/backup/" } "shop"
    (.inl rfl)).mpr fun _ => ⟨by decide, by decide⟩

/-- Without a `remotePath` an export looks for the repository elsewhere. -/
theorem repository_url_differs :
    buildResticRepoUrl {} .LOCAL {} "shop" = .ok "/var/backups/meowbox/shop" ∧
      buildRepoUrl {} "/opt/meowbox" "shop" .LOCAL {} = .ok "/var/meowbox/backups/restic/shop" ∧
      buildResticRepoUrl {} .LOCAL {} "shop" ≠ buildRepoUrl {} "/opt/meowbox" "shop" .LOCAL {} := by
  decide +kernel

end Meowbox.Backups
