import Meowbox.Lib.Fallible
import Meowbox.Backups.Store

/-!
# Restic retention of the panel data and of the server paths

`ResticRepositoryRetentionService` and `RetentionSweepState`. A sweep goes over the configurations
that have backups, takes the lease of a repository, lets the agent forget what the policy does not
keep, and marks the rows whose snapshot is gone. The lease and the date of the next sweep are one
JSON text in `panel_settings`, which is only replaced by comparing it with the text that was read.

A worker is a program over `RetentionInstr`; any other may run between two of its instructions. The
agent answers as the store says: its listings are those of the repository or none at all, and a
`forget` removes what `keeps` excludes, whatever it reports. `RetentionStore.works` records which
worker worked on which repository, `listed` the last listing; they steer nothing.
-/

namespace Meowbox.Backups

open Relational JsData JsonText Interleaved
open Operations (BackupStatus Fault)

/-! ## Timeouts -/

def DEFAULT_MAINTENANCE_TIMEOUT_MS : Nat := 2 * 60 * 60 * 1000
def RPC_EXTRA_MS : Nat := 5 * 60 * 1000
def LEASE_EXTRA_MS : Nat := 5 * 60 * 1000
def MAX_PROCESS_TIMEOUT_MS : Nat := 2147483647 - RPC_EXTRA_MS - LEASE_EXTRA_MS
def SUCCESS_INTERVAL_MS : Nat := 24 * 60 * 60 * 1000
def RETRY_INTERVAL_MS : Nat := 2 * 60 * 60 * 1000

structure MaintenanceTimeouts where
  processTimeoutMs : Nat
  rpcTimeoutMs : Nat
  leaseTimeoutMs : Nat

/-- `resolveResticMaintenanceTimeouts`; `none` is a variable that is not set or no number. -/
def resolveResticMaintenanceTimeouts (rawResticTimeoutMs : Option Nat) : MaintenanceTimeouts :=
  let processTimeoutMs := match rawResticTimeoutMs with
    | some parsed =>
      if 0 < parsed ∧ parsed ≤ MAX_PROCESS_TIMEOUT_MS then parsed else DEFAULT_MAINTENANCE_TIMEOUT_MS
    | none => DEFAULT_MAINTENANCE_TIMEOUT_MS
  ⟨processTimeoutMs, processTimeoutMs + RPC_EXTRA_MS, processTimeoutMs + RPC_EXTRA_MS + LEASE_EXTRA_MS⟩

/-! ## The stored state of a repository -/

inductive SweepStatus
  | running | ok | failed
deriving DecidableEq

/-- `SweepState`. -/
structure SweepState where
  status : Option SweepStatus
  leaseUntil : Option Nat
  nextAt : Option Nat
deriving DecidableEq

/-- `{}`. -/
def SweepState.empty : SweepState := ⟨none, none, none⟩

/-- A row of `panel_settings`. -/
structure PanelSetting where
  key : String
  value : SweepState

abbrev PanelSettingTable := Table [PanelSetting.key]

/-- The lease a worker holds. -/
structure RetentionLease where
  key : String
  value : SweepState

/-- What a worker that began at `now` stores when it takes the lease. -/
def leaseValue (leaseMs : Nat) (now : Nat) : SweepState :=
  ⟨some .running, some (now + leaseMs), none⟩

/-- What it stores at the end. -/
def finishValue (success : Bool) (now : Nat) : SweepState :=
  ⟨some (if success then .ok else .failed), none,
    some (now + if success then SUCCESS_INTERVAL_MS else RETRY_INTERVAL_MS)⟩

/-- The repository may not be claimed yet. -/
def SweepState.blocks (s : SweepState) (now : Nat) : Bool :=
  now < s.nextAt.getD 0 || now < s.leaseUntil.getD 0

/-! ## The rows -/

/-- `panel_data_backups` or `server_path_backups`. -/
inductive RetentionScope
  | panel | path
deriving DecidableEq

/-- A row of either table. -/
structure RetentionRow where
  id : String
  scope : RetentionScope
  configId : String
  engine : BackupEngine
  storageLocationId : Option String
  status : BackupStatus
  filePath : String
  resticSnapshotId : Option String
  errorMessage : Option String

structure RetentionPolicy where
  keepDaily : Int
  keepWeekly : Int
  keepMonthly : Int
  keepYearly : Int

/-- `Object.values(policy)`. -/
def RetentionPolicy.counts (p : RetentionPolicy) : List Int :=
  [p.keepDaily, p.keepWeekly, p.keepMonthly, p.keepYearly]

structure RetentionConfig where
  name : String
  engine : BackupEngine
  policy : RetentionPolicy

/-- The columns of a storage location, without its id. -/
structure LocationSecrets where
  type : String
  resticPassword : Option String

/-- A storage location, with the secrets the agent needs. -/
structure StorageLocation extends LocationSecrets where
  id : String

/-! ## `resticRepositoryName` -/

/-- `toLowerCase` as far as the result is one of the letters a name keeps. -/
def lowerCase (c : Char) : List Char :=
  if 'A' ≤ c ∧ c ≤ 'Z' then [Char.ofNat (c.toNat + 32)]
  else if c = 'K' then ['k']
  else if c = 'İ' then ['i', '̇']
  else [c]

def isNameChar (c : Char) : Bool :=
  ('a' ≤ c && c ≤ 'z') || ('0' ≤ c && c ≤ '9') || c == '-' || c == '_'

/-- `replace(/[^a-z0-9-_]+/g, '-')`; `inRun` when the character before was replaced too. -/
def replaceRuns (inRun : Bool) : List Char → List Char
  | [] => []
  | c :: cs =>
    if isNameChar c then c :: replaceRuns false cs
    else if inRun then replaceRuns true cs
    else '-' :: replaceRuns true cs

/-- `replace(/^-+|-+$/g, '')`. -/
def stripHyphens (cs : List Char) : List Char :=
  ((cs.dropWhile (· == '-')).reverse.dropWhile (· == '-')).reverse

def resticRepositoryName (name fallback : String) : String :=
  let kept := (stripHyphens (replaceRuns false (name.toList.flatMap lowerCase))).take 60
  if kept = [] then fallback else String.ofList kept

def RetentionScope.fallback : RetentionScope → String
  | .panel => "panel-data"
  | .path => "server-path"

def repoName (scope : RetentionScope) (config : RetentionConfig) : String :=
  resticRepositoryName config.name scope.fallback

/-! ## The agent -/

inductive RetentionCall
  | repositorySnapshots (repoName : String) (storage : StorageLocation)
  | forgetRepository (repoName : String) (storage : StorageLocation) (policy : RetentionPolicy)

structure RetentionData where
  success : Option Bool
  error : Option String
  /-- `none` is a value that is no array; a snapshot without a text id is `none`. -/
  snapshots : Option (List (Option String))

structure RetentionReply where
  success : Bool
  error : Option String
  data : Option RetentionData

/-- The snapshot ids of a listing, unless the reply is refused. -/
def RetentionReply.snapshotIds (r : RetentionReply) : Option (List String) :=
  match r.data.bind RetentionData.snapshots with
  | none => none
  | some snapshots =>
    if !r.success || (r.data.bind RetentionData.success).any (!·) || snapshots.isEmpty ||
        snapshots.any (fun id => id.all (· == "")) then none
    else some (snapshots.map fun id => id.getD "")

/-- A `forget` was reported as done. -/
def RetentionReply.granted (r : RetentionReply) : Bool :=
  r.success && (r.data.bind RetentionData.success).getD true

/-- The text of the error a refused reply is reported with. -/
def RetentionReply.errorText (r : RetentionReply) (fallback : String) : String :=
  ((truthy (r.data.bind RetentionData.error)).or (truthy r.error)).getD fallback

/-! ## The store -/

/-- How the next statement ends; a statement whose answer is lost was performed. -/
inductive StatementFate
  | done | refused | lost
deriving DecidableEq

/-- The worker that began at `began` worked on the repository, from `since` on. -/
structure Work where
  key : String
  began : Nat
  since : Nat
  /-- When it finished, whether it succeeded, and whether its lease was still there. -/
  ended : Option (Nat × Bool × Bool)
deriving DecidableEq

/-- The work after the worker that began at `now` is done with the repository `key`. -/
def Work.finished (clock : Nat) (key : String) (now : Nat) (success kept : Bool) (w : Work) : Work :=
  if w.key = key ∧ w.began = now ∧ w.ended = none then
    { w with ended := some (clock, success, kept) }
  else w

/-- A listing that the service refuses. -/
abbrev Unlisted :=
  { reply : Except Fault RetentionReply // ∀ r, reply = .ok r → r.snapshotIds = none }

structure RetentionStore where
  clock : Nat
  panelSetting : PanelSettingTable
  rows : List RetentionRow
  configs : RetentionScope → String → Option RetentionConfig
  locations : String → Option LocationSecrets
  /-- The snapshots of a repository in a location. -/
  snapshots : String → String → List String
  fate : StatementFate
  /-- What a listing answers instead of the snapshots. -/
  unlisted : Option Unlisted
  /-- What a `forget` keeps, and what it answers. -/
  keeps : String → Bool
  forgotten : Except Fault RetentionReply
  works : List Work
  listed : List String

/-- The instructions of a worker. -/
inductive RetentionInstr
  | clock
  | groups (scope : RetentionScope)
  | config (scope : RetentionScope) (configId : String)
  | active (scope : RetentionScope) (configId locationId : String)
  | findSetting (key : String)
  | createSetting (key : String)
  | claim (key : String) (expected : SweepState) (now : Nat)
  | finish (lease : RetentionLease) (success : Bool) (now : Nat)
  | location (id : String)
  | agent (call : RetentionCall)
  | markPruned (scope : RetentionScope) (configId locationId : String) (removedIds : List String)

abbrev RetentionInstr.Answer : RetentionInstr → Type
  | .clock => Nat
  | .groups _ => Except Fault (List (String × String))
  | .config _ _ => Except Fault (Option RetentionConfig)
  | .active _ _ _ => Except Fault Bool
  | .findSetting _ => Except Fault (Option SweepState)
  | .createSetting _ => Except Fault Unit
  | .claim _ _ _ => Except Fault Nat
  | .finish _ _ _ => Except Fault Nat
  | .location _ => Except Fault StorageLocation
  | .agent _ => Except Fault RetentionReply
  | .markPruned _ _ _ _ => Except Fault Unit

abbrev Retention := Fallible RetentionInstr RetentionInstr.Answer Fault

/-- Only fates other than `done` fail. -/
def databaseError : Fault := .error "Database error"

namespace RetentionStore

/-- A statement that leaves `after` and answers `answer`. -/
def perform {α : Type} (x : RetentionStore) (answer : Except Fault α) (after : RetentionStore) :
    Except Fault α × RetentionStore :=
  match x.fate with
  | .done => (answer, after)
  | .refused => (.error databaseError, x)
  | .lost => (.error databaseError, after)

/-- A query. -/
def ask {α : Type} (x : RetentionStore) (answer : α) : Except Fault α :=
  match x.fate with
  | .done => .ok answer
  | _ => .error databaseError

/-- `groupBy` configuration and location. -/
def groups (x : RetentionStore) (scope : RetentionScope) : List (String × String) :=
  (x.rows.filterMap fun r =>
    if r.scope = scope ∧ r.engine = .restic then
      r.storageLocationId.map fun locationId => (r.configId, locationId)
    else none).dedup

/-- The rows of a configuration in a location. -/
def RetentionRow.of (scope : RetentionScope) (configId locationId : String) (r : RetentionRow) :
    Bool :=
  r.scope == scope && r.configId == configId && r.storageLocationId == some locationId

def active (x : RetentionStore) (scope : RetentionScope) (configId locationId : String) : Bool :=
  x.rows.any fun r => RetentionRow.of scope configId locationId r &&
    (r.status == .pending || r.status == .inProgress)

def setting (x : RetentionStore) (key : String) : Option SweepState :=
  (x.panelSetting.find? fun row => row.key == key).map PanelSetting.value

/-- `updateMany({ where: { key, value: expected }, data: { value } })`. -/
def compareAndSet (x : RetentionStore) (key : String) (expected value : SweepState) :
    RetentionStore :=
  { x with
    panelSetting := x.panelSetting.updateMany
      (fun row => row.key == key && row.value == expected)
      (fun row => { row with value := value })
      fun k hk _ => by rw [List.mem_singleton.mp hk] }

/-- How many rows the update finds. -/
def matching (x : RetentionStore) (key : String) (expected : SweepState) : Nat :=
  x.panelSetting.count fun row => row.key == key && row.value == expected

/-- The worker begins to work, if the update took the lease and its answer arrives. -/
def begun (x : RetentionStore) (key : String) (now : Nat) (count : Nat) : RetentionStore :=
  if count = 1 ∧ x.fate = .done then { x with works := x.works ++ [⟨key, now, x.clock, none⟩] }
  else x

/-- The worker is done with the repository. -/
def finished (x : RetentionStore) (key : String) (now : Nat) (success kept : Bool) : RetentionStore :=
  { x with
    works := x.works.map (Work.finished x.clock key now success kept) }

/-- The update at the end of the work. -/
def finish (x : RetentionStore) (lease : RetentionLease) (success : Bool) (now : Nat) :
    Except Fault Nat × RetentionStore :=
  let count := x.matching lease.key lease.value
  let updated := (x.compareAndSet lease.key lease.value (finishValue success now)).finished lease.key
    now success (count == 1)
  match x.fate with
  | .done => (.ok count, updated)
  | .refused => (.error databaseError, x.finished lease.key now success false)
  | .lost => (.error databaseError, updated)

/-- `getFullConfigForAgent`. -/
def location (x : RetentionStore) (id : String) : Except Fault StorageLocation := do
  match ← x.ask (x.locations id) with
  | some location => pure ⟨location, id⟩
  | none => throw (.notFound "Storage location not found")

/-- The row of a snapshot that is gone. -/
def pruned (scope : RetentionScope) (configId locationId : String) (removedIds : List String)
    (r : RetentionRow) : RetentionRow :=
  if RetentionRow.of scope configId locationId r && r.engine == .restic && r.status == .completed &&
      r.resticSnapshotId.any (removedIds.contains ·) then
    { r with
      filePath := ""
      errorMessage := some "Snapshot удалён из репозитория (retention)" }
  else r

/-- What the agent answers and does. -/
def agent (x : RetentionStore) : RetentionCall → Except Fault RetentionReply × RetentionStore
  | .repositorySnapshots repoName storage =>
    match x.unlisted with
    | some reply => (reply.1, x)
    | none =>
      (.ok ⟨true, none, some ⟨none, none, some ((x.snapshots storage.id repoName).map some)⟩⟩,
        { x with listed := x.snapshots storage.id repoName })
  | .forgetRepository repoName storage _ =>
    (x.forgotten, { x with
      snapshots := fun locationId name =>
        if locationId = storage.id ∧ name = repoName then
          (x.snapshots locationId name).filter x.keeps
        else x.snapshots locationId name })

/-- What an instruction answers and leaves; `leaseMs` is `RESTIC_RETENTION_LEASE_MS`. -/
def answer (leaseMs : Nat) : (i : RetentionInstr) → RetentionStore → i.Answer × RetentionStore
  | .clock, x => (x.clock, x)
  | .groups scope, x => (x.ask (x.groups scope), x)
  | .config scope configId, x => (x.ask (x.configs scope configId), x)
  | .active scope configId locationId, x => (x.ask (x.active scope configId locationId), x)
  | .findSetting key, x => (x.ask (x.setting key), x)
  | .createSetting key, x =>
    match x.panelSetting.create? ⟨key, .empty⟩ with
    | some created => x.perform (.ok ()) { x with panelSetting := created }
    | none => x.perform (.error .uniqueViolation) x
  | .claim key expected now, x =>
    x.perform (.ok (x.matching key expected))
      ((x.compareAndSet key expected (leaseValue leaseMs now)).begun key now
        (x.matching key expected))
  | .finish lease success now, x => x.finish lease success now
  | .location id, x => (x.location id, x)
  | .agent call, x => x.agent call
  | .markPruned scope configId locationId removedIds, x =>
    x.perform (.ok ())
      { x with rows := x.rows.map (pruned scope configId locationId removedIds) }

end RetentionStore

/-- What changes from outside. -/
inductive RetentionChange
  | tick (ms : Nat)
  | fate (fate : StatementFate)
  | agent (unlisted : Option Unlisted) (keeps : String → Bool)
      (forgotten : Except Fault RetentionReply)
  | configure (configs : RetentionScope → String → Option RetentionConfig)
      (locations : String → Option LocationSecrets)
  /-- Backups are reserved, end and leave snapshots. -/
  | backups (rows : List RetentionRow) (snapshots : String → String → List String)

def RetentionStore.change (x : RetentionStore) : RetentionChange → RetentionStore
  | .tick ms => { x with clock := x.clock + ms }
  | .fate fate => { x with fate := fate }
  | .agent unlisted keeps forgotten =>
    { x with unlisted := unlisted, keeps := keeps, forgotten := forgotten }
  | .configure configs locations => { x with configs := configs, locations := locations }
  | .backups rows snapshots => { x with rows := rows, snapshots := snapshots }

/-! ## The service -/

namespace Retention

def clock : Retention Nat := Fallible.ask RetentionInstr.clock
def groups (scope : RetentionScope) : Retention (List (String × String)) :=
  Fallible.ask? (.groups scope) id
def config (scope : RetentionScope) (configId : String) : Retention (Option RetentionConfig) :=
  Fallible.ask? (.config scope configId) id
def active (scope : RetentionScope) (configId locationId : String) : Retention Bool :=
  Fallible.ask? (.active scope configId locationId) id
def findSetting (key : String) : Retention (Option SweepState) :=
  Fallible.ask? (.findSetting key) id
def createSetting (key : String) : Retention Unit := Fallible.ask? (.createSetting key) id
def claimSetting (key : String) (expected : SweepState) (now : Nat) : Retention Nat :=
  Fallible.ask? (.claim key expected now) id
def finishSetting (lease : RetentionLease) (success : Bool) (now : Nat) : Retention Nat :=
  Fallible.ask? (.finish lease success now) id
def location (id : String) : Retention StorageLocation := Fallible.ask? (.location id) fun r => r
def emitToAgent (call : RetentionCall) : Retention RetentionReply :=
  Fallible.ask? (.agent call) id
def markPruned (scope : RetentionScope) (configId locationId : String)
    (removedIds : List String) : Retention Unit :=
  Fallible.ask? (.markPruned scope configId locationId removedIds) id

end Retention

/-! ### `RetentionSweepState` -/

namespace RetentionSweepState

open Retention

/-- The key of a repository. -/
def key (sha256 : List Char → String) (locationId repoName : String) : String :=
  "restic-retention-v1:" ++ sha256 (render (.array [.string locationId, .string repoName]))

/-- `create`, or what another worker has created. -/
def createOrFind (key : String) : Retention (Option SweepState) := do
  match ← Fallible.attempt (createSetting key) with
  | .ok () => pure (some .empty)
  | .error .uniqueViolation => findSetting key
  | .error fault => throw fault

def findOrCreate (key : String) : Retention (Option SweepState) := do
  match ← findSetting key with
  | some value => pure (some value)
  | none => createOrFind key

/-- The update of `claim`. -/
def take (leaseMs : Nat) (key : String) (previous : SweepState) (now : Nat) :
    Retention (Option RetentionLease) := do
  if previous.blocks now then pure none
  else
    let count ← claimSetting key previous now
    pure (if count = 1 then some ⟨key, leaseValue leaseMs now⟩ else none)

def claim (leaseMs : Nat) (key : String) (now : Nat) : Retention (Option RetentionLease) := do
  match ← findOrCreate key with
  | none => pure none
  | some previous => take leaseMs key previous now

def finish (lease : RetentionLease) (success : Bool) (now : Nat) : Retention Bool := do
  let count ← finishSetting lease success now
  pure (count == 1)

end RetentionSweepState

/-! ### `ResticRepositoryRetentionService` -/

namespace ResticRepositoryRetentionService

open Retention

def RESTIC_COMPATIBLE : List String := ["LOCAL", "S3"]

/-- `Number.isSafeInteger(count) && count >= 0`. -/
def validCount (count : Int) : Bool := 0 ≤ count && count ≤ 9007199254740991

def readRepositorySnapshotIds (repoName : String) (storage : StorageLocation) :
    Retention (List String) := do
  let reply ← emitToAgent (.repositorySnapshots repoName storage)
  match reply.snapshotIds with
  | some ids => pure ids
  | none => throw (.error (reply.errorText ("Snapshot listing failed for " ++ repoName)))

/-- The agent forgets; the ids that were listed before and are not listed any more. -/
def forgetRepository (repoName : String) (storage : StorageLocation) (policy : RetentionPolicy) :
    Retention (List String) := do
  let before ← readRepositorySnapshotIds repoName storage
  let retention ← emitToAgent (.forgetRepository repoName storage policy)
  if retention.granted then
    let after ← readRepositorySnapshotIds repoName storage
    pure (before.filter fun id => !after.contains id)
  else throw (.error (retention.errorText ("Retention failed for " ++ repoName)))

/-- The location must hold a repository the agent can open. -/
def usable (location : StorageLocation) : Bool :=
  (truthy location.resticPassword).isSome && RESTIC_COMPATIBLE.contains location.type

def runRepositoryRetention (repoName storageLocationId : String) (policy : RetentionPolicy) :
    Retention (Option (List String)) := do
  if !policy.counts.all validCount then
    throw (.error ("Invalid retention policy for " ++ repoName))
  else if policy.counts.all (· == 0) then pure none
  else
    let location ← location storageLocationId
    if !usable location then
      throw (.error ("Unsupported retention location " ++ storageLocationId))
    else
      let removedIds ← forgetRepository repoName location policy
      pure (some removedIds)

/-- `applyPanelRepository` and `applyPathRepository`. -/
def applyRepository (scope : RetentionScope) (configId storageLocationId : String)
    (config : RetentionConfig) : Retention Unit := do
  match ← runRepositoryRetention (repoName scope config) storageLocationId config.policy with
  | none => pure ()
  | some [] => pure ()
  | some removedIds => markPruned scope configId storageLocationId removedIds

/-! ### The sweep -/

structure Candidate where
  scope : RetentionScope
  configId : String
  locationId : String

structure Configured where
  candidate : Candidate
  config : RetentionConfig
  repoName : String

/-- The candidates with a configuration that uses restic. -/
def configure : List Candidate → Retention (List Configured)
  | [] => pure []
  | c :: cs => do
    match ← config c.scope c.configId with
    | none => configure cs
    | some found =>
      if found.engine = .restic then
        let rest ← configure cs
        pure (⟨c, found, repoName c.scope found⟩ :: rest)
      else configure cs

/-- Another configuration has the same repository. -/
def ambiguous (all : List Configured) (c : Configured) : Bool :=
  1 < all.countP fun d => d.candidate.locationId == c.candidate.locationId && d.repoName == c.repoName

structure SweepCounts where
  attempted : Nat
  failed : Nat
deriving DecidableEq

/-- One more that failed. -/
def SweepCounts.fail (n : SweepCounts) : SweepCounts := { n with failed := n.failed + 1 }

/-- `finish`, and how often it or the work before it failed. -/
def conclude (lease : RetentionLease) (succeeded : Bool) (now : Nat) (n : SweepCounts) :
    Retention SweepCounts := do
  match ← Fallible.attempt (RetentionSweepState.finish lease succeeded now) with
  | .ok true => pure n
  | .ok false => pure n.fail
  | .error _ => pure n.fail

/-- The work under a lease. -/
def work (c : Configured) (lease : RetentionLease) (now : Nat) (n : SweepCounts) :
    Retention SweepCounts := do
  match ← Fallible.attempt (applyRepository c.candidate.scope c.candidate.configId
      c.candidate.locationId c.config) with
  | .ok () => conclude lease true now n
  | .error _ => conclude lease false now n.fail

/-- What a turn of the loop does about its repository. -/
def visit (sha256 : List Char → String) (leaseMs : Nat) (c : Configured) (now : Nat)
    (n : SweepCounts) : Retention SweepCounts := do
  match ← Fallible.attempt (active c.candidate.scope c.candidate.configId c.candidate.locationId) with
  | .error _ => pure n.fail
  | .ok true => pure n
  | .ok false =>
    match ← Fallible.attempt (RetentionSweepState.claim leaseMs
        (RetentionSweepState.key sha256 c.candidate.locationId c.repoName) now) with
    | .error _ => pure n.fail
    | .ok none => pure n
    | .ok (some lease) => work c lease now { n with attempted := n.attempted + 1 }

/-- The loop over the repositories. -/
def sweep (sha256 : List Char → String) (leaseMs : Nat) (all : List Configured) (now : Nat)
    (limit : Nat) : List Configured → SweepCounts → Retention SweepCounts
  | [], n => pure n
  | c :: cs, n => do
    if limit ≤ n.attempted then pure n
    else if ambiguous all c then sweep sha256 leaseMs all now limit cs n
    else
      let counts ← visit sha256 leaseMs c now n
      sweep sha256 leaseMs all now limit cs counts

def sweepDueRepositories (sha256 : List Char → String) (leaseMs limit : Nat) :
    Retention SweepCounts := do
  let now ← clock
  let panelRows ← groups .panel
  let pathRows ← groups .path
  let configured ← configure (panelRows.map (fun r => ⟨.panel, r.1, r.2⟩) ++
    pathRows.map fun r => ⟨.path, r.1, r.2⟩)
  sweep sha256 leaseMs configured now limit configured ⟨0, 0⟩

end ResticRepositoryRetentionService

end Meowbox.Backups
