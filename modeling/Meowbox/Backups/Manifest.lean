import Meowbox.Lib.Except
import Meowbox.Sites.Hostnames

/-!
# The manifest of a site backup

`api/src/backups/site-backup-manifest.ts` on decoded manifests: a record of version 2 whose fields
have passed their own checks (types, lengths, formats). What is left of `normalizeSiteBackupManifest`
is what makes a manifest one of a site: canonical hostnames, the order of the domains, and the checks
across domains and databases.

* `normalize_spec`: what a normalised manifest keeps: the first domain and no other is primary, the
  positions count up from 0, ids, runtime keys and hostnames do not repeat.
-/

namespace Meowbox.Backups

open Operations Sites Failing

structure ManifestSite where
  sourceId : String
  name : String
  displayName : Option String
  status : SiteStatus
  errorMessage : Option String
  rootPath : String
  backupExcludes : Option String
  backupExcludeTables : Option String
  metadata : Option String
deriving DecidableEq

structure ManifestDomain where
  sourceId : String
  domain : String
  isPrimary : Bool
  position : Int
  aliases : List SiteAlias
  filesRelPath : String
  preset : Preset
  appStatus : AppStatus
  appErrorMessage : Option String
  phpVersion : Option String
  runtimeKey : String
  gitRepository : Option String
  deployBranch : Option String
  envVars : String
  httpsRedirect : Bool
  settings : DomainSettings
deriving DecidableEq

structure ManifestDatabase where
  sourceId : String
  sourceSiteDomainId : String
  name : String
  type : DatabaseType
  dbUser : String
  dbPasswordHash : String
  dbPasswordEnc : Option String
  purpose : DatabasePurpose
deriving DecidableEq

/-- `SiteBackupManifestV2`. -/
structure SiteBackupManifest where
  site : ManifestSite
  domains : List ManifestDomain
  databases : List ManifestDatabase
  includedDatabaseIds : List String
deriving DecidableEq

/-- The order and the digest manifests use: `localeCompare` of two ids, and `manifestChecksum`. -/
structure ManifestHost where
  localeLe : String → String → Bool
  manifestChecksum : SiteBackupManifest → String

/-! ## Normalising -/

/-- `stringifySiteAliases`, on names without white space at their ends. -/
def distinctAliases : List String → List SiteAlias → List SiteAlias
  | _, [] => []
  | seen, a :: rest =>
    if a.domain = "" ∨ a.domain ∈ seen then distinctAliases seen rest
    else a :: distinctAliases (a.domain :: seen) rest

/-- `parseAliases`. -/
def parseAliases (H : Host) (aliases : List SiteAlias) : Except Fault (List SiteAlias) :=
  if 64 < aliases.length then .error (.error "Backup manifest domain has too many aliases")
  else aliases.mapM fun a =>
    match canonicalizeHostname H a.domain with
    | none => .error invalidHostname
    | some domain => .ok { a with domain := domain }

/-- `normalizeDomain`. -/
def normalizeDomain (H : Host) (domain : ManifestDomain) : Except Fault ManifestDomain :=
  match canonicalizeHostname H domain.domain with
  | none => .error invalidHostname
  | some hostname =>
    match parseAliases H domain.aliases with
    | .error fault => .error fault
    | .ok aliases => .ok { domain with
        domain := hostname
        aliases := distinctAliases [] aliases
        position := if domain.isPrimary then 0 else domain.position }

/-- The order of the domains: the primary first, then by position, then by id. -/
def domainLe (M : ManifestHost) (a b : ManifestDomain) : Bool :=
  if a.isPrimary == b.isPrimary then
    if a.position == b.position then M.localeLe a.sourceId b.sourceId
    else decide (a.position < b.position)
  else a.isPrimary

/-- The hostnames of a domain. -/
def ManifestDomain.hostnames (domain : ManifestDomain) : List String :=
  domain.domain :: domain.aliases.map SiteAlias.domain

/-- `validateDomainSet`, on canonical names. -/
def validateDomainSet (domains : List ManifestDomain) : Bool :=
  decide (domains.map ManifestDomain.sourceId).Nodup &&
    decide (domains.map ManifestDomain.runtimeKey).Nodup &&
    decide (domains.flatMap ManifestDomain.hostnames).Nodup

/-- `validateDatabaseSet`. -/
def validateDatabaseSet (databases : List ManifestDatabase) (domains : List ManifestDomain) : Bool :=
  decide (databases.map ManifestDatabase.sourceId).Nodup &&
    decide (databases.map fun d => (d.type, d.name)).Nodup &&
    databases.all (fun d => (domains.map ManifestDomain.sourceId).contains d.sourceSiteDomainId) &&
    domains.all fun domain =>
      let primaryCount := databases.countP fun d =>
        d.sourceSiteDomainId == domain.sourceId && d.purpose == .appPrimary
      decide (primaryCount ≤ 1) && (domain.preset == .custom || primaryCount == 1)

/-- `normalizeSiteBackupManifest`. -/
def normalizeSiteBackupManifest (H : Host) (M : ManifestHost) (m : SiteBackupManifest) :
    Except Fault SiteBackupManifest :=
  if m.domains.length = 0 ∨ 128 < m.domains.length then
    .error (.error "Backup manifest must contain 1-128 domains")
  else if m.domains.countP ManifestDomain.isPrimary ≠ 1 then
    .error (.error "Backup manifest must contain exactly one primary domain")
  else
    match m.domains.mapM (normalizeDomain H) with
    | .error fault => .error fault
    | .ok normalized =>
      let domains := (normalized.insertionSort fun a b => domainLe M a b = true).mapIdx fun position domain =>
        { domain with isPrimary := position == 0, position := (position : Int) }
      if !validateDomainSet domains then .error (.error "Duplicate domain in backup manifest")
      else if 512 < m.databases.length then
        .error (.error "Backup manifest contains too many databases")
      else if !validateDatabaseSet m.databases domains then
        .error (.error "Backup manifest has invalid databases")
      else if m.includedDatabaseIds.any fun id =>
          !(m.databases.map ManifestDatabase.sourceId).contains id then
        .error (.error "Backup manifest includes an unknown database id")
      else .ok { m with domains := domains }

/-! ## What a normalised manifest keeps -/

/-- What the rest of the code relies on. -/
structure Normal (H : Host) (m : SiteBackupManifest) : Prop where
  nonempty : m.domains ≠ []
  places : ∀ (i : Nat) (d : ManifestDomain), m.domains[i]? = some d →
    d.isPrimary = (i == 0) ∧ d.position = (i : Int)
  sourceIds : (m.domains.map ManifestDomain.sourceId).Nodup
  runtimeKeys : (m.domains.map ManifestDomain.runtimeKey).Nodup
  hostnames : (m.domains.flatMap ManifestDomain.hostnames).Nodup
  canonical : H.Lawful → ∀ d ∈ m.domains, CanonicalNames H d.domain d.aliases
  databaseIds : (m.databases.map ManifestDatabase.sourceId).Nodup

variable {H : Host} {M : ManifestHost}

theorem mem_distinctAliases {seen : List String} {aliases : List SiteAlias} {a : SiteAlias}
    (h : a ∈ distinctAliases seen aliases) : a ∈ aliases := by
  induction aliases generalizing seen with
  | nil => exact absurd h List.not_mem_nil
  | cons b rest ih =>
    unfold distinctAliases at h
    split at h
    · exact List.mem_cons_of_mem b (ih h)
    · rcases List.mem_cons.mp h with rfl | hrest
      · exact List.mem_cons_self
      · exact List.mem_cons_of_mem b (ih hrest)

theorem parseAliases_canonical (hH : H.Lawful) {aliases parsed : List SiteAlias}
    (h : parseAliases H aliases = .ok parsed) :
    ∀ a ∈ parsed, canonicalizeHostname H a.domain = some a.domain := by
  intro a ha
  unfold parseAliases at h
  obtain ⟨-, h⟩ := unless_ok h
  obtain ⟨source, -, hsrc⟩ := mem_mapM h ha
  split at hsrc
  · exact absurd hsrc (by simp)
  · rename_i domain hdom
    cases hsrc
    exact canonicalizeHostname_idem hH hdom

theorem normalizeDomain_canonical (hH : H.Lawful) {domain normalized : ManifestDomain}
    (h : normalizeDomain H domain = .ok normalized) :
    CanonicalNames H normalized.domain normalized.aliases := by
  unfold normalizeDomain at h
  split at h
  · exact absurd h (by simp)
  · rename_i hostname hhostname
    split at h
    · exact absurd h (by simp)
    · rename_i aliases haliases
      cases h
      exact ⟨canonicalizeHostname_idem hH hhostname, fun a ha =>
        parseAliases_canonical hH haliases a (mem_distinctAliases ha)⟩

/-- **What a normalised manifest keeps.** -/
theorem normalize_spec {m normalized : SiteBackupManifest}
    (h : normalizeSiteBackupManifest H M m = .ok normalized) : Normal H normalized := by
  unfold normalizeSiteBackupManifest at h
  obtain ⟨hlen, h⟩ := unless_ok h
  obtain ⟨-, h⟩ := unless_ok h
  split at h
  · exact absurd h (by simp)
  · rename_i domains hdoms
    simp only at h
    obtain ⟨hset, h⟩ := unless_ok h
    obtain ⟨-, h⟩ := unless_ok h
    obtain ⟨hdatabases, h⟩ := unless_ok h
    obtain ⟨-, h⟩ := unless_ok h
    cases h
    simp only [Bool.not_eq_true', Bool.not_eq_false, validateDomainSet,
      validateDatabaseSet, Bool.and_eq_true, decide_eq_true_eq] at hset hdatabases
    refine ⟨?_, ?_, hset.1.1, hset.1.2, hset.2, ?_, hdatabases.1.1.1⟩
    · intro hnil
      have hzero := congrArg List.length hnil
      rw [List.length_mapIdx, List.length_insertionSort,
        ← (mapM_forall₂ hdoms).length_eq] at hzero
      exact hlen (.inl hzero)
    · intro i d hd
      rw [List.getElem?_mapIdx] at hd
      obtain ⟨source, -, rfl⟩ := Option.map_eq_some_iff.mp hd
      exact ⟨rfl, rfl⟩
    · intro hH d hd
      obtain ⟨i, source, hsrc, rfl⟩ := List.mem_mapIdx.mp hd
      have hmem := (List.mem_insertionSort _).mp (List.getElem_mem source)
      obtain ⟨raw, -, hraw⟩ := mem_mapM hdoms hmem
      have hns := normalizeDomain_canonical hH hraw
      exact hns

theorem normalizeDomain_sourceId {domain normalized : ManifestDomain}
    (h : normalizeDomain H domain = .ok normalized) : normalized.sourceId = domain.sourceId := by
  unfold normalizeDomain at h
  split at h
  · exact absurd h (by simp)
  · split at h
    · exact absurd h (by simp)
    · cases h
      rfl

/-- A column that numbering the rows leaves alone. -/
theorem map_mapIdx_same {α β : Type} {f : Nat → α → α} {g : α → β} (h : ∀ i a, g (f i a) = g a)
    (l : List α) : (l.mapIdx f).map g = l.map g := by
  refine List.ext_getElem (by simp) fun i h₁ h₂ => ?_
  simp only [List.getElem_map, List.getElem_mapIdx, h]

/-- Normalising orders the domains anew. -/
theorem normalize_sourceIds {m normalized : SiteBackupManifest}
    (h : normalizeSiteBackupManifest H M m = .ok normalized) :
    (normalized.domains.map ManifestDomain.sourceId).Perm
      (m.domains.map ManifestDomain.sourceId) := by
  unfold normalizeSiteBackupManifest at h
  obtain ⟨-, h⟩ := unless_ok h
  obtain ⟨-, h⟩ := unless_ok h
  split at h
  · exact absurd h (by simp)
  · rename_i domains hdoms
    have hids : domains.map ManifestDomain.sourceId = m.domains.map ManifestDomain.sourceId := by
      have hps := (mapM_forall₂ hdoms).imp fun _ _ hd => (normalizeDomain_sourceId hd).symm
      exact (List.forall₂_eq_eq_eq ▸ List.forall₂_map_left_iff.mpr
        (List.forall₂_map_right_iff.mpr hps)).symm
    simp only at h
    obtain ⟨-, h⟩ := unless_ok h
    obtain ⟨-, h⟩ := unless_ok h
    obtain ⟨-, h⟩ := unless_ok h
    obtain ⟨-, h⟩ := unless_ok h
    cases h
    rw [← hids]
    refine (List.Perm.of_eq (map_mapIdx_same ?_ _)).trans ((List.perm_insertionSort _ _).map _)
    exact fun _ _ => rfl

end Meowbox.Backups
