import Meowbox.Backups.Repositories
import Meowbox.Backups.StreamedExport
import Meowbox.Lib.JsMap

/-!
# The slots of streamed downloads

Model of the count that `streamDownload` (`api/src/backups/backup-exports.service.ts`) keeps of the
downloads of each user: it is taken in front of the preparations (the environment, the address of
the repository, the file name, the process) and given back by the handlers of the process and of the
response, which are attached behind them. What is checked in front of the count is not part of it.

* `serverStep_ledger`: what a step does to the ledger of the slots.
* **`stream_slots`**: the counts are those of the streams that run, exactly in the runs whose
  preparations all go through.
* `short_snapshot_leaks`: a backup under a short snapshot id takes a slot for good.
-/

namespace Meowbox.StreamedExport

open Stepping Backups

/-- The keys of a storage location in S3. -/
structure StorageKeys where
  accessKey : Option String := none
  secretKey : Option String := none
  region : Option String := none

/-- The environment Restic is given, beside `PATH`, `HOME` and `LANG`. -/
structure ResticEnv where
  RESTIC_PASSWORD : String
  AWS : Option (String × String × String)

/-- What a download is about. -/
structure StreamRequest where
  storageType : StorageType
  cfg : StorageConfig
  keys : StorageKeys
  resticPassword : String
  siteName : String
  rootPath : String
  snapshotId : String

/-- The configuration of the service. -/
structure ExportConfig where
  env : Environment
  S3_DEFAULT_REGION : Option String
  maxConcurrentStreamPerUser : Nat

/-- `buildResticEnv`. -/
def buildResticEnv (config : ExportConfig) (request : StreamRequest) : Except String ResticEnv :=
  match request.storageType with
  | .S3 =>
    if either request.keys.accessKey "" = "" ∨ either request.keys.secretKey "" = "" then
      .error "S3 accessKey/secretKey are required"
    else .ok ⟨request.resticPassword,
      some (either request.keys.accessKey "", either request.keys.secretKey "",
        either request.keys.region (either config.S3_DEFAULT_REGION "us-east-1"))⟩
  | _ => .ok ⟨request.resticPassword, none⟩

/-- `[A-Za-z0-9_-]`. -/
def nameChar (c : Char) : Bool := c.isAlphanum || c == '_' || c == '-'

/-- `/^[A-Za-z0-9_-]{least,most}$/`. -/
def isName (least most : Nat) (text : String) : Bool :=
  decide (least ≤ text.toList.length) && decide (text.toList.length ≤ most) &&
    text.toList.all nameChar

/-- `exportFilename`. -/
def exportFilename (siteName snapshotId : String) : Except String String :=
  if isName 1 64 siteName && isName 8 128 snapshotId then
    .ok ("backup-" ++ siteName ++ "-" ++ String.ofList (snapshotId.toList.take 8) ++ ".tar")
  else .error "Некорректные метаданные бэкапа"

/-- The arguments of `restic dump`. -/
def resticArgs (request : StreamRequest) (repo : String) : List String :=
  ["-r", repo] ++ (if request.storageType = .S3 then ["-o", "s3.connections=32"] else []) ++
    ["dump", request.snapshotId, request.rootPath, "--archive", "tar"]

/-- What comes behind the count, up to the handlers; `spawned` is what `spawn` comes to. -/
def prepare (config : ExportConfig) (request : StreamRequest) (spawned : Except String Unit) :
    Except String (ResticEnv × List String × String) := do
  let env ← buildResticEnv config request
  let repo ← BackupExportsService.buildResticRepoUrl config.env request.storageType request.cfg
    request.siteName
  let filename ← exportFilename request.siteName request.snapshotId
  spawned
  return (env, resticArgs request repo, filename)

/-- A download whose process has been spawned. -/
structure Download where
  userId : String
  stream : ExportStream
  slotReleased : Bool

/-- The service: the slots that are taken, and its downloads. -/
structure ExportServer where
  activeStreams : JsMap String Nat
  downloads : List Download

/-- `this.activeStreams.get(userId) || 0`. -/
def activeOf (activeStreams : JsMap String Nat) (userId : String) : Nat :=
  (activeStreams.get userId).getD 0

/-- `releaseSlot`. -/
def releaseSlot (activeStreams : JsMap String Nat) (userId : String) : JsMap String Nat :=
  let cur := activeOf activeStreams userId
  if cur ≤ 1 then activeStreams.delete userId else activeStreams.set userId (cur - 1)

/-- The events that `releaseOnce` hangs on. -/
def StreamEvent.releases : StreamEvent → Bool
  | exit _ | error | close => true
  | data _ | stdoutEnd | idle => false

/-- A user asks for a download, or something happens to one. -/
inductive ServerEvent
  | download (userId : String) (request : StreamRequest) (spawned : Except String Unit)
  | stream (i : Nat) (e : StreamEvent)

/-- One thing happens. A download above the limit is refused; one whose preparation throws ends
there. -/
def serverStep (config : ExportConfig) (s : ExportServer) : ServerEvent → Option ExportServer
  | .download userId request spawned =>
    let active := activeOf s.activeStreams userId
    if config.maxConcurrentStreamPerUser ≤ active then some s
    else
      let taken := { s with activeStreams := s.activeStreams.set userId (active + 1) }
      match prepare config request spawned with
      | .error _ => some taken
      | .ok _ => some { taken with downloads := taken.downloads ++ [⟨userId, .start, false⟩] }
  | .stream i e => do
    let d ← s.downloads[i]?
    let stream ← streamStep d.stream e
    if e.releases && !d.slotReleased then
      some
        { activeStreams := releaseSlot s.activeStreams d.userId
          downloads := s.downloads.set i ⟨d.userId, stream, true⟩ }
    else some { s with downloads := s.downloads.set i ⟨d.userId, stream, d.slotReleased⟩ }

def ExportServer.start : ExportServer := ⟨.empty, []⟩

/-! ## The ledger -/

/-- A stream that has not ended: its process runs and its response is open. -/
def Download.live (d : Download) : Bool :=
  d.stream.exited.isNone && !d.stream.failed && !d.stream.closed

/-- The streams of a user that have started and not ended. -/
def liveStreams (downloads : List Download) (userId : String) : Nat :=
  downloads.countP fun d => d.userId == userId && d.live

/-- **The slots are those of the streams that run.** -/
def Balanced (s : ExportServer) : Prop :=
  ∀ userId, activeOf s.activeStreams userId = liveStreams s.downloads userId

/-- The preparation of a download that takes a slot goes through. -/
def Prepared (config : ExportConfig) (s : ExportServer) : ServerEvent → Prop
  | .download userId request spawned =>
    config.maxConcurrentStreamPerUser ≤ activeOf s.activeStreams userId ∨
      (prepare config request spawned).isOk = true
  | .stream _ _ => True

instance (config : ExportConfig) (s : ExportServer) (e : ServerEvent) :
    Decidable (Prepared config s e) := by
  apply e.casesOn (motive := fun e => Decidable (Prepared config s e))
  · intro userId request spawned
    exact inferInstanceAs (Decidable (_ ∨ _))
  · intro i e
    exact isTrue trivial

/-- The slots taken are the streams that run and what has leaked. -/
structure Ledger (s : ExportServer) (leaked : String → Nat) : Prop where
  released : ∀ d ∈ s.downloads, d.slotReleased = !d.live
  slots : ∀ userId,
    activeOf s.activeStreams userId = liveStreams s.downloads userId + leaked userId

section Steps

variable {config : ExportConfig} {s s' : ExportServer} {leaked : String → Nat}

theorem activeOf_set (m : JsMap String Nat) (userId other : String) (n : Nat) :
    activeOf (m.set userId n) other = if other = userId then n else activeOf m other := by
  unfold activeOf
  rw [JsMap.get_set]
  split
  · rfl
  · rfl

theorem activeOf_releaseSlot (m : JsMap String Nat) (userId other : String) :
    activeOf (releaseSlot m userId) other =
      if other = userId then activeOf m userId - 1 else activeOf m other := by
  unfold releaseSlot
  dsimp only
  split
  · rename_i hlast
    unfold activeOf at hlast ⊢
    rw [JsMap.get_delete]
    split
    · exact (Nat.sub_eq_zero_of_le hlast).symm
    · rfl
  · exact activeOf_set m userId other _

/-- An event ends a stream exactly when it releases its slot. -/
theorem live_streamStep {d : Download} {stream : ExportStream} {e : StreamEvent} {released : Bool}
    (h : streamStep d.stream e = some stream) :
    (⟨d.userId, stream, released⟩ : Download).live = (d.live && !e.releases) := by
  have hstep := streamStep_cases h
  cases e with
  | data chunk =>
    obtain ⟨-, -, rfl⟩ := hstep
    unfold ExportStream.onData ExportStream.sendHeadersIfNeeded
    simp only [Download.live, StreamEvent.releases]
    split
    · simp
    · split
      · simp
      · simp
  | stdoutEnd =>
    obtain ⟨-, rfl⟩ := hstep
    simp [Download.live, StreamEvent.releases, ExportStream.onStdoutEnd]
  | exit code =>
    obtain ⟨-, rfl⟩ := hstep
    have hex : (d.stream.onExit code).exited = some code := by
      unfold ExportStream.onExit
      dsimp only
      split
      · split
        · rfl
        · simp
      · split
        · rfl
        · rfl
    simp [Download.live, StreamEvent.releases, hex]
  | error =>
    obtain ⟨-, rfl⟩ := hstep
    simp [Download.live, StreamEvent.releases, ExportStream.onError]
  | close =>
    obtain ⟨-, rfl⟩ := hstep
    simp [Download.live, StreamEvent.releases]
  | idle =>
    obtain ⟨-, rfl⟩ := hstep
    simp [Download.live, StreamEvent.releases, ExportStream.interrupt]

/-- The streams of a user, when one of them goes on. -/
theorem liveStreams_set {i : Nat} {d d' : Download} (hd : s.downloads[i]? = some d)
    (hsame : d'.userId = d.userId) (userId : String) :
    liveStreams (s.downloads.set i d') userId + (if d.userId = userId ∧ d.live = true then 1 else 0) =
      liveStreams s.downloads userId + (if d.userId = userId ∧ d'.live = true then 1 else 0) := by
  obtain ⟨hi, hget⟩ := List.getElem?_eq_some_iff.mp hd
  unfold liveStreams
  rw [List.countP_set hi, hget]
  simp only [Bool.and_eq_true, beq_iff_eq, hsame]
  by_cases hlive : d.userId = userId ∧ d.live = true
  · have hsome : 0 < s.downloads.countP fun d => d.userId == userId && d.live :=
      List.countP_pos_iff.mpr ⟨d, List.mem_of_getElem? hd, by simpa using hlive⟩
    rw [if_pos hlive]
    omega
  · rw [if_neg hlive]
    omega

/-- **A stream that goes on** keeps the ledger. -/
theorem stream_keeps {i : Nat} {e : StreamEvent} (hs : Ledger s leaked)
    (h : serverStep config s (.stream i e) = some s') : Ledger s' leaked := by
  simp only [serverStep, Option.bind_eq_bind, Option.bind_eq_some_iff] at h
  obtain ⟨d, hd, stream, hstep, h⟩ := h
  have hrel := hs.released d (List.mem_of_getElem? hd)
  split at h
  · -- the first event that ends it
    rename_i hfirst
    obtain rfl := Option.some.inj h
    simp only [Bool.and_eq_true, Bool.not_eq_true'] at hfirst
    have hlive : d.live = true := by
      rw [hfirst.2] at hrel
      simpa using hrel.symm
    have hover : (⟨d.userId, stream, true⟩ : Download).live = false := by
      rw [live_streamStep hstep, hfirst.1]
      simp
    refine ⟨fun d' hd' => ?_, fun userId => ?_⟩
    · rcases List.mem_or_eq_of_mem_set hd' with hold | rfl
      · exact hs.released d' hold
      · rw [hover]
        rfl
    · have hcnt := liveStreams_set hd (rfl : (⟨d.userId, stream, true⟩ : Download).userId = _) userId
      have hslo := hs.slots userId
      dsimp only
      rw [activeOf_releaseSlot]
      by_cases huser : d.userId = userId
      · subst huser
        rw [if_pos ⟨rfl, hlive⟩, if_neg (by simp [hover])] at hcnt
        rw [if_pos rfl, hslo]
        omega
      · rw [if_neg (fun h => huser h.1), if_neg (fun h => huser h.1)] at hcnt
        rw [if_neg (Ne.symm huser), hslo]
        omega
  · rename_i hlat
    obtain rfl := Option.some.inj h
    have hsame : (⟨d.userId, stream, d.slotReleased⟩ : Download).live = d.live := by
      rw [live_streamStep hstep]
      cases hreleases : e.releases with
      | false => simp
      | true =>
        rw [hreleases, hrel] at hlat
        simpa using hlat
    refine ⟨fun d' hd' => ?_, fun userId => ?_⟩
    · rcases List.mem_or_eq_of_mem_set hd' with hold | rfl
      · exact hs.released d' hold
      · rw [hsame]
        exact hrel
    · have hcnt := liveStreams_set hd
        (rfl : (⟨d.userId, stream, d.slotReleased⟩ : Download).userId = _) userId
      rw [hsame] at hcnt
      have hslo := hs.slots userId
      dsimp only
      omega

theorem liveStreams_start (userId other : String) :
    liveStreams (s.downloads ++ [⟨userId, .start, false⟩]) other =
      liveStreams s.downloads other + if other = userId then 1 else 0 := by
  unfold liveStreams
  rw [List.countP_append, List.countP_singleton]
  by_cases huser : other = userId
  · subst huser
    simp [Download.live, ExportStream.start]
  · simp [huser, Ne.symm huser]

/-- **A download whose preparation goes through**, or that is refused, keeps the ledger. -/
theorem download_keeps {userId : String} {request : StreamRequest} {spawned : Except String Unit}
    (hs : Ledger s leaked) (hok : Prepared config s (.download userId request spawned))
    (h : serverStep config s (.download userId request spawned) = some s') : Ledger s' leaked := by
  simp only [serverStep] at h
  split at h
  · obtain rfl := Option.some.inj h
    exact hs
  · rename_i hroom
    have hprep := hok.resolve_left hroom
    cases hres : prepare config request spawned with
    | error message =>
      rw [hres] at hprep
      exact absurd hprep (by simp [Except.isOk, Except.toBool])
    | ok prepared =>
      rw [hres] at h
      obtain rfl := Option.some.inj h
      refine ⟨fun d hd => ?_, fun other => ?_⟩
      · rcases List.mem_append.mp hd with hold | hnew
        · exact hs.released d hold
        · rw [List.mem_singleton.mp hnew]
          rfl
      · have hslo := hs.slots other
        rw [activeOf_set, liveStreams_start]
        split
        · rename_i hsame
          subst hsame
          omega
        · omega

/-- **A preparation that throws leaks the slot.** -/
theorem download_leaks {userId : String} {request : StreamRequest} {spawned : Except String Unit}
    (hs : Ledger s leaked) (hok : ¬ Prepared config s (.download userId request spawned))
    (h : serverStep config s (.download userId request spawned) = some s') :
    Ledger s' fun other => leaked other + if other = userId then 1 else 0 := by
  obtain ⟨hroom, hthrows⟩ := not_or.mp hok
  simp only [serverStep] at h
  rw [if_neg hroom] at h
  cases hres : prepare config request spawned with
  | ok prepared =>
    rw [hres] at hthrows
    exact absurd rfl hthrows
  | error message =>
    rw [hres] at h
    obtain rfl := Option.some.inj h
    refine ⟨hs.released, fun other => ?_⟩
    have hslo := hs.slots other
    rw [activeOf_set]
    dsimp only
    split
    · rename_i hsame
      subst hsame
      omega
    · omega

/-- **What a step does to the ledger.** -/
theorem serverStep_ledger {e : ServerEvent} (hs : Ledger s leaked)
    (h : serverStep config s e = some s') :
    (Prepared config s e → Ledger s' leaked) ∧
      ∃ leaked', (∀ userId, leaked userId ≤ leaked' userId) ∧ Ledger s' leaked' ∧
        (¬ Prepared config s e → ∃ userId, leaked userId < leaked' userId) := by
  cases e with
  | stream i e =>
    have hkept := stream_keeps hs h
    exact ⟨fun _ => hkept, leaked, fun _ => Nat.le_refl _, hkept, fun hnot => absurd trivial hnot⟩
  | download userId request spawned =>
    refine ⟨fun hok => download_keeps hs hok h, ?_⟩
    by_cases hok : Prepared config s (.download userId request spawned)
    · exact ⟨leaked, fun _ => Nat.le_refl _, download_keeps hs hok h, fun hnot => absurd hok hnot⟩
    · refine ⟨_, fun other => Nat.le_add_right _ _, download_leaks hs hok h, fun _ => ⟨userId, ?_⟩⟩
      rw [if_pos rfl]
      exact Nat.lt_succ_self _

end Steps

/-- **The slots are returned**: in every run, for any users and whatever fails in it, each user's
count is that of the user's streams that run, exactly when every preparation has gone through. -/
theorem stream_slots (config : ExportConfig) (es : List ServerEvent) (s : ExportServer)
    (hrun : run (serverStep config) anyStep ExportServer.start es = some s) :
    Balanced s ↔ run (serverStep config) (Prepared config) ExportServer.start es = some s := by
  have hsta : Ledger ExportServer.start fun _ => 0 :=
    ⟨fun d hd => absurd hd List.not_mem_nil, fun _ => rfl⟩
  have hspl := run_split (I := fun s => Ledger s fun _ => 0)
    (J := fun s => ∃ leaked, Ledger s leaked ∧ ∃ userId, 0 < leaked userId)
    (fun s e s' hs hok h => (serverStep_ledger hs h).1 hok)
    (fun s e s' hs hok h => by
      obtain ⟨-, leaked', -, hled, hmore⟩ := serverStep_ledger hs h
      exact ⟨leaked', hled, hmore hok⟩)
    (fun s e s' hs h => by
      obtain ⟨leaked, hled, userId, hleak⟩ := hs
      obtain ⟨-, leaked', hless, hled', -⟩ := serverStep_ledger hled h
      exact ⟨leaked', hled', userId, Nat.lt_of_lt_of_le hleak (hless userId)⟩) hsta hrun
  rcases hspl with ⟨hprep, hled⟩ | ⟨hnot, leaked, hled, userId, hleak⟩
  · exact iff_of_true (fun userId => hled.slots userId) hprep
  · refine iff_of_false (fun hbalanced => ?_) hnot
    have hslo := hled.slots userId
    rw [hbalanced userId] at hslo
    omega

namespace SampleStreams

def config : ExportConfig where
  env := {}
  S3_DEFAULT_REGION := none
  maxConcurrentStreamPerUser := 2

def request (snapshotId : String) : StreamRequest where
  storageType := .LOCAL
  cfg := {}
  keys := {}
  resticPassword := "qwerty"
  siteName := "shop"
  rootPath := "/var/www/shop"
  snapshotId := snapshotId

end SampleStreams

/-- A download starts, fails and is closed; the slots are balanced. -/
theorem stream_slots_closed : ∃ s,
    run (serverStep SampleStreams.config) anyStep ExportServer.start
      [.download "u" (SampleStreams.request "8c1f04d2") (.ok ()), .stream 0 (.exit (some 1)),
        .stream 0 .close] = some s ∧
      s.downloads.length = 1 ∧ Balanced s := by
  refine ⟨_, rfl, rfl, (stream_slots SampleStreams.config
    [.download "u" (SampleStreams.request "8c1f04d2") (.ok ()), .stream 0 (.exit (some 1)),
      .stream 0 .close] _ rfl).mpr ?_⟩
  rfl

/-- **A short snapshot id leaks a slot**: Restic admits ids of six hexadecimal digits, a file name
wants eight characters. -/
theorem short_snapshot_leaks : ∃ s,
    run (serverStep SampleStreams.config) anyStep ExportServer.start
      [.download "u" (SampleStreams.request "8c1f04") (.ok ())] = some s ∧
      s.downloads = [] ∧ ¬ Balanced s := by
  refine ⟨_, rfl, rfl, fun hbalanced => ?_⟩
  exact absurd (hbalanced "u") (by decide)

end Meowbox.StreamedExport
