import Mathlib.Data.List.Sort
import Meowbox.Lib.JsMap
import Meowbox.Transfers.Sessions

/-!
# Transfer artifacts

Model of `api/src/transfers/transfer-artifact.service.ts`: `stage`, `upload` behind the claim of
its session, `revoke`, `reconcileAndCleanup` with `cleanupExpired`, and the check in front of every
delivery. Each operation on the disk and each statement is one instruction.

* The spool is the database with two directories: the partial file of an artifact under its id, and
  its file under the row's `relativePath`. A partial file is opened once, so that what is written
  after it has been removed goes nowhere.
* Any operation on the disk may fail while `diskFails` says so; it then leaves the disk as it was.
* Of two removals that are started together, `partialFirst` says which is done first.
* `outside` lets time pass, switches both, issues uploads and downloads, and completes and removes
  sessions.

A claim that is refused ends the request: `reconcileUpload`, which only reads artifacts, is left
out, and so are the streaming of a delivery and its headers.
-/

namespace Meowbox.Transfers

open Interleaved Fallible

/-- The bytes of a file. -/
abbrev Content : Type := List UInt8

/-- What the service is given. The session and the artifact of an upload have their ids from one
key, and equal ids come from equal keys. -/
structure ArtifactHost extends TransferHost where
  maxArtifactBytes : Nat
  randomUUID : Nat → String
  digest : Content → String
  artifactOfSession : String → String
  artifactId_material : ∀ targetInstallationId actorUserId key,
    (deriveUploadMaterial targetInstallationId actorUserId key).artifactId =
      artifactOfSession (deriveUploadMaterial targetInstallationId actorUserId key).sessionId

def STAGING_STALE_MS : Nat := 30 * 60 * 1000

/-- The database and the disk. `started` are the sessions whose `startedAt` is set. -/
structure Spool where
  db : TransferDb
  started : List String
  partials : JsMap String Content
  files : JsMap String Content
  diskFails : Bool
  partialFirst : Bool

/-! ## Instructions -/

inductive ArtifactInstr
  | now
  | getLocalIdentity
  | randomUUID
  | ensureDirectories
  | assertDiskAdmission (expectedBytes : Nat)
  | partialFirst
  | findSession (id : String)
  /-- `startedAt` is set, if the session may still be started. -/
  | claimUpload (id : String)
  | findArtifact (id : String)
  | create (artifact : TransferArtifact)
  | openPartial (id : String)
  | write (id : String) (chunk : Content)
  | syncPartial (id : String)
  | rename (id relativePath : String)
  | chmod (relativePath : String)
  | syncDirectory
  | lstat (relativePath : String)
  | unlinkPartial (id : String)
  | unlinkArtifact (relativePath : String)
  /-- The `update` of `stage`. -/
  | setReady (id : String) (sizeBytes : Nat) (sha256 : String) (readyAt : Nat)
  /-- The `updateMany` of `upload`. -/
  | setUploaded (id : String) (sizeBytes : Nat) (sha256 : String) (readyAt : Nat)
  /-- A staging is given up. -/
  | setFailed (id : String) (deletedAt : Nat)
  /-- A delivery has found no file. -/
  | setUnavailable (id : String)
  | setDeleted (id : String) (deletedAt : Nat)
  | endSessions (artifactId : String) (now : Nat)
  | failUploads (artifactId : String) (failedAt : Nat)
  | findStale (before : Nat)
  | findExpired (now : Nat)
  | countActiveSessions (artifactId : String) (now : Nat)
deriving DecidableEq

abbrev ArtifactReply : ArtifactInstr → Type
  | .now => Nat
  | .getLocalIdentity => String
  | .randomUUID => String
  | .ensureDirectories => Except TransferError Unit
  | .assertDiskAdmission _ => Except TransferError Unit
  | .partialFirst => Bool
  | .findSession _ => Option TransferSession
  | .claimUpload _ => Bool
  | .findArtifact _ => Option TransferArtifact
  | .create _ => Bool
  | .openPartial _ => Except TransferError Unit
  | .write _ _ => Except TransferError Unit
  | .syncPartial _ => Except TransferError Unit
  | .rename _ _ => Except TransferError Unit
  | .chmod _ => Except TransferError Unit
  | .syncDirectory => Except TransferError Unit
  | .lstat _ => Option Nat
  | .unlinkPartial _ => Except TransferError Unit
  | .unlinkArtifact _ => Except TransferError Unit
  | .setReady _ _ _ _ => Unit
  | .setUploaded _ _ _ _ => Bool
  | .setFailed _ _ => Unit
  | .setUnavailable _ => Unit
  | .setDeleted _ _ => Unit
  | .endSessions _ _ => Unit
  | .failUploads _ _ => Unit
  | .findStale _ => List TransferArtifact
  | .findExpired _ => List TransferArtifact
  | .countActiveSessions _ _ => Nat

/-- The row of an artifact that has its file. -/
def markReady (sizeBytes : Nat) (sha256 : String) (readyAt : Nat) (a : TransferArtifact) :
    TransferArtifact :=
  { a with
    state := .ready
    sizeBytes := some sizeBytes
    sha256 := some sha256
    readyAt := some readyAt }

def markFailed (deletedAt : Nat) (a : TransferArtifact) : TransferArtifact :=
  { a with state := .failed, deletedAt := some deletedAt }

def markUnavailable (a : TransferArtifact) : TransferArtifact := { a with state := .failed }

def markDeleted (deletedAt : Nat) (a : TransferArtifact) : TransferArtifact :=
  { a with state := .deleted, deletedAt := some deletedAt }

namespace Spool

/-- `transferArtifact.updateMany`. -/
def updateArtifacts (x : Spool) (p : TransferArtifact → Bool)
    (f : TransferArtifact → TransferArtifact) : Spool :=
  { x with db := { x.db with artifacts := x.db.artifacts.map fun a => if p a then f a else a } }

/-- `transferSession.updateMany`. -/
def updateSessions (x : Spool) (p : TransferSession → Bool) (f : TransferSession → TransferSession)
    (hf : ∀ s, (f s).id = s.id) : Spool :=
  { x with db := x.db.updateSessions p f hf }

/-- An operation on the disk. -/
def onDisk (x : Spool) (op : Except TransferError Spool) : Except TransferError Unit × Spool :=
  if x.diskFails then (.error ⟨.error, "EIO"⟩, x)
  else
    match op with
    | .ok x' => (.ok (), x')
    | .error e => (.error e, x)

def create (x : Spool) (artifact : TransferArtifact) : Bool × Spool :=
  if x.db.artifacts.any fun other => other.id == artifact.id then (false, x)
  else (true, { x with db := { x.db with
    artifacts := x.db.artifacts ++ [{ artifact with createdAt := x.db.clock }] } })

def claimUpload (x : Spool) (id : String) : Bool × Spool :=
  let startable (s : TransferSession) : Bool := decide (s.id = id) && decide (s.purpose = .upload) &&
    s.completedAt.isNone && s.consumedAt.isNone && decide (x.db.clock < s.expiresAt)
  if (x.db.sessions.find? startable).isSome && !x.started.contains id then
    (true, { x with started := id :: x.started })
  else (false, x)

/-- `open(…, 'wx')`. -/
def openPartial (x : Spool) (id : String) : Except TransferError Spool :=
  if (x.partials.get id).isSome then .error ⟨.error, "EEXIST"⟩
  else .ok { x with partials := x.partials.set id [] }

def write (x : Spool) (id : String) (chunk : Content) : Spool :=
  match x.partials.get id with
  | some content => { x with partials := x.partials.set id (content ++ chunk) }
  | none => x

/-- `open(…, 'r+')`, `sync` and `close`. -/
def syncPartial (x : Spool) (id : String) : Except TransferError Spool :=
  if (x.partials.get id).isSome then .ok x else .error ⟨.error, "ENOENT"⟩

def rename (x : Spool) (id relativePath : String) : Except TransferError Spool :=
  match x.partials.get id with
  | some content =>
    .ok { x with
      partials := x.partials.delete id
      files := x.files.set relativePath content }
  | none => .error ⟨.error, "ENOENT"⟩

def chmod (x : Spool) (relativePath : String) : Except TransferError Spool :=
  if (x.files.get relativePath).isSome then .ok x else .error ⟨.error, "ENOENT"⟩

/-- The rows that have been in the state `STAGING` since before the time. -/
def findStale (x : Spool) (before : Nat) : List TransferArtifact :=
  (x.db.artifacts.filter fun a => decide (a.state = .staging) && decide (a.createdAt < before)).take
    100

/-- The rows that have expired, the oldest first. -/
def findExpired (x : Spool) (now : Nat) : List TransferArtifact :=
  (List.insertionSort (fun a b => a.expiresAt ≤ b.expiresAt) (x.db.artifacts.filter fun a =>
    (decide (a.state = .ready) || decide (a.state = .failed)) && decide (a.expiresAt ≤ now) &&
      a.deletedAt.isNone)).take 100

end Spool

/-- An upload that has not been finished in time is failed. -/
def failUpload (failedAt : Nat) (s : TransferSession) : TransferSession :=
  { s with
    completedAt := some failedAt
    consumedAt := some failedAt
    failureCode := some "UPLOAD_STALE" }

section Answers

variable (H : ArtifactHost)

/-- The answer to an instruction, and the spool after it. -/
def artifactReply : (i : ArtifactInstr) → Spool → ArtifactReply i × Spool
  | .now, x => (x.db.clock, x)
  | .getLocalIdentity, x => (x.db.installationId, x)
  | .randomUUID, x =>
    (H.randomUUID x.db.drawn, { x with db := { x.db with drawn := x.db.drawn + 1 } })
  | .ensureDirectories, x => x.onDisk (.ok x)
  | .assertDiskAdmission _, x =>
    (if x.diskFails then .error ⟨.insufficientStorage,
      "Transfer staging disk reserve would be violated"⟩ else .ok (), x)
  | .partialFirst, x => (x.partialFirst, x)
  | .findSession id, x => (x.db.sessions.find? fun s => s.id == id, x)
  | .claimUpload id, x => x.claimUpload id
  | .findArtifact id, x => (x.db.artifacts.find? fun a => a.id == id, x)
  | .create artifact, x => x.create artifact
  | .openPartial id, x => x.onDisk (x.openPartial id)
  | .write id chunk, x => x.onDisk (.ok (x.write id chunk))
  | .syncPartial id, x => x.onDisk (x.syncPartial id)
  | .rename id relativePath, x => x.onDisk (x.rename id relativePath)
  | .chmod relativePath, x => x.onDisk (x.chmod relativePath)
  | .syncDirectory, x => x.onDisk (.ok x)
  | .lstat relativePath, x => ((x.files.get relativePath).map List.length, x)
  | .unlinkPartial id, x => x.onDisk (.ok { x with partials := x.partials.delete id })
  | .unlinkArtifact relativePath, x => x.onDisk (.ok { x with files := x.files.delete relativePath })
  | .setReady id sizeBytes sha256 readyAt, x =>
    ((), x.updateArtifacts (fun a => decide (a.id = id)) (markReady sizeBytes sha256 readyAt))
  | .setUploaded id sizeBytes sha256 readyAt, x =>
    (x.db.artifacts.any fun a =>
        decide (a.id = id) && decide (a.state = .staging) && a.deletedAt.isNone,
      x.updateArtifacts (fun a =>
        decide (a.id = id) && decide (a.state = .staging) && a.deletedAt.isNone)
        (markReady sizeBytes sha256 readyAt))
  | .setFailed id deletedAt, x =>
    ((), x.updateArtifacts (fun a => decide (a.id = id) && decide (a.state = .staging))
      (markFailed deletedAt))
  | .setUnavailable id, x =>
    ((), x.updateArtifacts (fun a => decide (a.id = id) && decide (a.state = .ready))
      markUnavailable)
  | .setDeleted id deletedAt, x =>
    ((), x.updateArtifacts (fun a => decide (a.id = id) && a.deletedAt.isNone)
      (markDeleted deletedAt))
  | .endSessions artifactId now, x =>
    ((), x.updateSessions
      (fun s => decide (s.artifactId = some artifactId) && decide (now < s.expiresAt))
      (revokeSession now) fun _ => rfl)
  | .failUploads artifactId failedAt, x =>
    ((), x.updateSessions
      (fun s => decide (s.artifactId = some artifactId) && decide (s.purpose = .upload) &&
        s.completedAt.isNone)
      (failUpload failedAt) fun _ => rfl)
  | .findStale before, x => (x.findStale before, x)
  | .findExpired now, x => (x.findExpired now, x)
  | .countActiveSessions artifactId now, x =>
    (x.db.sessions.count fun s => decide (s.artifactId = some artifactId) &&
      decide (now < s.expiresAt), x)

end Answers

/-! ## The service -/

abbrev ArtifactCall := Fallible ArtifactInstr ArtifactReply TransferError

abbrev issue (i : ArtifactInstr) : ArtifactCall (ArtifactReply i) := Fallible.ask i

/-- `StagedArtifactResult` and `CompletedUpload`. -/
structure CompletedArtifact where
  artifactId : String
  sizeBytes : Nat
  sha256 : String
deriving DecidableEq

/-- The input of `stage`: its source yields the chunks and then ends, or fails; so may
`onArtifactCreated`. -/
structure StageArtifactInput where
  sourceKind : String
  resourceId : String
  actor : TransferActor
  filename : String
  contentType : String
  expiresAt : Nat
  expectedMaxBytes : Nat
  chunks : List Content
  sourceFails : Bool
  createdFails : Bool
deriving DecidableEq

structure RevokeArtifactInput where
  artifactId : String
  sourceKind : String
  resourceId : String
  createdByUserId : String
deriving DecidableEq

/-- `ARTIFACT_FILE`. -/
def isArtifactFile (s : String) : Bool :=
  let name := s.toList.take 36
  name.length == 36 && name.all (fun c => isHexAnyCase c || c == '-') &&
    s.toList.drop 36 == ".artifact".toList

/-- `artifactPath`, whose directory is always the same. -/
def artifactPath (relativePath : String) : Except TransferError Unit :=
  if isArtifactFile relativePath then .ok () else .error ⟨.error, "Unsafe transfer artifact path"⟩

section Service

variable (H : ArtifactHost)

/-- `pipeline(source, meter, output)`: what has been written, within the budget. -/
def receive (id : String) (budget : Nat) (exceeded : TransferError) :
    List Content → Content → ArtifactCall Content
  | [], written => return written
  | chunk :: chunks, written => do
    if budget < (written ++ chunk).length then throw exceeded
    else
      ask? (.write id chunk) fun r => r
      receive id budget exceeded chunks (written ++ chunk)

/-- The file of an artifact, from `createWriteStream` to the sync of its directory. -/
def deposit (id relativePath : String) (budget : Nat) (exceeded : TransferError)
    (chunks : List Content) (sourceFails : Bool) (expected : Option Nat) : ArtifactCall Content := do
  ask? (.openPartial id) fun r => r
  let written ← receive id budget exceeded chunks []
  if sourceFails then throw ⟨.error, "source failed"⟩
  else if expected.any fun n => written.length != n then
    throw ⟨.badRequest, "Upload ended before the declared length"⟩
  else
    ask? (.syncPartial id) fun r => r
    ask? (.rename id relativePath) fun r => r
    ask? (.chmod relativePath) fun r => r
    ask? .syncDirectory fun r => r
    return written

/-- `Promise.all` of both `unlinkIfExists`: each is done, whatever becomes of the other. -/
def unlinkBoth (id relativePath : String) : ArtifactCall Unit := do
  if ← issue .partialFirst then
    let first ← issue (.unlinkPartial id)
    let second ← issue (.unlinkArtifact relativePath)
    Fallible.ofExcept first
    Fallible.ofExcept second
  else
    let first ← issue (.unlinkArtifact relativePath)
    let second ← issue (.unlinkPartial id)
    Fallible.ofExcept first
    Fallible.ofExcept second

/-- The removal of both files of a row: the path is checked when the first has been started. -/
def unlinkFiles (artifact : TransferArtifact) : ArtifactCall Unit := do
  match artifactPath artifact.relativePath with
  | .ok _ => unlinkBoth artifact.id artifact.relativePath
  | .error e =>
    let _ ← issue (.unlinkPartial artifact.id)
    throw e

/-- The `catch` of `stage` and of `upload`. -/
def giveUp (id relativePath : String) (e : TransferError) :
    ArtifactCall (Option CompletedArtifact) := do
  unlinkBoth id relativePath
  let failedAt ← issue .now
  issue (.setFailed id failedAt)
  throw e

/-- `validateStage`. -/
def validateStage (input : StageArtifactInput) : ArtifactCall Unit := do
  Fallible.ofExcept (assertTransferResource input.sourceKind input.resourceId)
  Fallible.ofExcept (assertTransferPresentation input.filename input.contentType)
  Fallible.ofExcept (assertTransferActor input.actor)
  let now ← issue .now
  if input.expiresAt ≤ now + 1000 ∨ H.maxArtifactBytes < input.expectedMaxBytes then
    throw ⟨.error, "Transfer artifact request is invalid"⟩
  else return ()

/-- `stage`, inside its `try`. -/
def stageFile (input : StageArtifactInput) (id relativePath : String) :
    ArtifactCall (Option CompletedArtifact) := do
  if input.createdFails then throw ⟨.error, "onArtifactCreated failed"⟩
  else
    let content ← deposit id relativePath (min input.expectedMaxBytes H.maxArtifactBytes)
      ⟨.error, "Transfer artifact exceeded declared size budget"⟩ input.chunks input.sourceFails none
    let readyAt ← issue .now
    issue (.setReady id content.length (H.digest content) readyAt)
    return some ⟨id, content.length, H.digest content⟩

/-- The row of a staging. -/
def stagingRow (input : StageArtifactInput) (installationId id : String) : TransferArtifact where
  id := id
  targetInstallationId := installationId
  sourceKind := input.sourceKind
  resourceId := input.resourceId
  state := .staging
  relativePath := id ++ ".artifact"
  contentType := input.contentType
  filename := input.filename
  createdByUserId := input.actor.userId
  sizeBytes := none
  sha256 := none
  readyAt := none
  deletedAt := none
  expiresAt := input.expiresAt
  createdAt := 0

/-- `stage`. -/
def stage (input : StageArtifactInput) : ArtifactCall (Option CompletedArtifact) := do
  validateStage H input
  ask? .ensureDirectories fun r => r
  ask? (.assertDiskAdmission input.expectedMaxBytes) fun r => r
  let installationId ← issue .getLocalIdentity
  let id ← issue .randomUUID
  Fallible.ofExcept (artifactPath (id ++ ".artifact"))
  if ← issue (.create (stagingRow input installationId id)) then
    match ← attempt (stageFile H input id (id ++ ".artifact")) with
    | .ok result => return result
    | .error e => giveUp id (id ++ ".artifact") e
  else throw ⟨.p2002, "Unique constraint failed"⟩

/-- `validateUploadSession`, at the time. -/
def validateUploadSession (session : TransferSession) (artifactId : String) (contentLength now : Nat) :
    Except TransferError Unit := do
  assertTransferResource session.sourceKind session.resourceId
  assertTransferPresentation session.filename session.contentType
  assertTransferActor ⟨session.actorUserId, session.actorRole⟩
  if !isTransferUuid session.id || !isTransferUuid session.targetInstallationId ||
      !isTransferUuid artifactId || decide (H.maxArtifactBytes < contentLength) ||
      decide (9007199254740991 < contentLength) || decide (session.expiresAt ≤ now) then
    .error ⟨.gone, "Staged upload session is invalid or expired"⟩
  else .ok ()

/-- `assertUploadArtifactMatchesSession`, of an artifact that is being staged. -/
def assertUploadArtifactMatchesSession (artifact : TransferArtifact) (session : TransferSession) :
    Except TransferError Unit :=
  if artifact.state ≠ .staging ∨ artifact.deletedAt.isSome ∨
      artifact.targetInstallationId ≠ session.targetInstallationId ∨
      artifact.sourceKind ≠ session.sourceKind ∨ artifact.resourceId ≠ session.resourceId ∨
      artifact.contentType ≠ session.contentType ∨ artifact.filename ≠ session.filename ∨
      artifact.createdByUserId ≠ session.actorUserId then
    .error ⟨.conflict, "Upload artifact metadata mismatch"⟩
  else .ok ()

/-- `upload`, inside its `try`. -/
def uploadFile (artifact : TransferArtifact) (contentLength : Nat) (chunks : List Content)
    (sourceFails : Bool) : ArtifactCall (Option CompletedArtifact) := do
  let content ← deposit artifact.id artifact.relativePath (min contentLength H.maxArtifactBytes)
    ⟨.payloadTooLarge, "Upload exceeded the declared length"⟩ chunks sourceFails (some contentLength)
  let readyAt ← issue .now
  if ← issue (.setUploaded artifact.id content.length (H.digest content) readyAt) then
    return some ⟨artifact.id, content.length, H.digest content⟩
  else throw ⟨.conflict, "Transfer artifact state changed during upload"⟩

/-- `upload`, of a session that has been claimed. -/
def uploadClaimed (session : TransferSession) (artifactId : String) (contentLength : Nat)
    (chunks : List Content) (sourceFails : Bool) : ArtifactCall (Option CompletedArtifact) := do
  let now ← issue .now
  Fallible.ofExcept (validateUploadSession H session artifactId contentLength now)
  ask? .ensureDirectories fun r => r
  match ← issue (.findArtifact artifactId) with
  | none => throw ⟨.notFound, "Transfer artifact not found"⟩
  | some artifact =>
    Fallible.ofExcept (assertUploadArtifactMatchesSession artifact session)
    Fallible.ofExcept (artifactPath artifact.relativePath)
    match ← attempt (uploadFile H artifact contentLength chunks sourceFails) with
    | .ok result => return result
    | .error e => giveUp artifact.id artifact.relativePath e

/-- `TransferSessionService.upload`, of a session whose secret has been shown. -/
def upload (sessionId : String) (chunks : List Content) (sourceFails : Bool) :
    ArtifactCall (Option CompletedArtifact) := do
  match ← issue (.findSession sessionId) with
  | none => throw ⟨.unauthorized, "Transfer session is invalid"⟩
  | some session =>
    if session.purpose ≠ .upload ∨ session.transferMode ≠ .stagedArtifact then
      throw ⟨.conflict, "Transfer session is not an upload"⟩
    else
      match session.artifactId, session.contentLength with
      | some artifactId, some contentLength =>
        if ← issue (.claimUpload session.id) then
          uploadClaimed H session artifactId contentLength chunks sourceFails
        else throw ⟨.conflict, "Transfer upload is already in progress"⟩
      | _, _ => throw ⟨.conflict, "Staged upload metadata is incomplete"⟩

/-- `revoke`. -/
def revoke (input : RevokeArtifactInput) : ArtifactCall (Option CompletedArtifact) := do
  Fallible.ofExcept (assertTransferResource input.sourceKind input.resourceId)
  if !isTransferUuid input.artifactId || !isTransferUuid input.createdByUserId then
    throw ⟨.error, "Transfer artifact revocation request is invalid"⟩
  else
    match ← issue (.findArtifact input.artifactId) with
    | none => return none
    | some artifact =>
      if artifact.deletedAt.isSome then return none
      else if artifact.sourceKind ≠ input.sourceKind ∨ artifact.resourceId ≠ input.resourceId ∨
          artifact.createdByUserId ≠ input.createdByUserId then
        throw ⟨.conflict, "Transfer artifact revocation binding mismatch"⟩
      else
        let now ← issue .now
        issue (.endSessions artifact.id now)
        unlinkFiles artifact
        issue (.setDeleted artifact.id now)
        return none

/-- The loop of `cleanupExpired`. -/
def removeExpired (now : Nat) : List TransferArtifact → ArtifactCall (Option CompletedArtifact)
  | [] => return none
  | artifact :: artifacts => do
    if 0 < (← issue (.countActiveSessions artifact.id now)) then removeExpired now artifacts
    else
      Fallible.ofExcept (artifactPath artifact.relativePath)
      ask? (.unlinkArtifact artifact.relativePath) fun r => r
      issue (.setDeleted artifact.id now)
      removeExpired now artifacts

/-- `cleanupExpired`. -/
def cleanupExpired : ArtifactCall (Option CompletedArtifact) := do
  let now ← issue .now
  let artifacts ← issue (.findExpired now)
  removeExpired now artifacts

/-- The loop of `reconcileAndCleanup`. -/
def removeStale : List TransferArtifact → ArtifactCall Unit
  | [] => return ()
  | artifact :: artifacts => do
    let failedAt ← issue .now
    unlinkFiles artifact
    issue (.setFailed artifact.id failedAt)
    issue (.failUploads artifact.id failedAt)
    removeStale artifacts

/-- `reconcileAndCleanup`. -/
def reconcileAndCleanup : ArtifactCall (Option CompletedArtifact) := do
  let now ← issue .now
  let stale ← issue (.findStale (now - STAGING_STALE_MS))
  removeStale stale
  cleanupExpired

/-- `assertArtifactMatchesSession`. -/
def assertArtifactMatchesSession (artifact : TransferArtifact) (session : TransferSession) :
    Except TransferError Unit :=
  if artifact.state ≠ .ready ∨ artifact.deletedAt.isSome ∨
      artifact.targetInstallationId ≠ session.targetInstallationId ∨
      artifact.sourceKind ≠ session.sourceKind ∨ artifact.resourceId ≠ session.resourceId ∨
      artifact.contentType ≠ session.contentType ∨ artifact.filename ≠ session.filename ∨
      artifact.sizeBytes ≠ session.contentLength ∨ artifact.sha256 ≠ session.sha256 then
    .error ⟨.conflict, "Transfer artifact metadata mismatch"⟩
  else .ok ()

/-- `requireArtifact`, in front of a delivery. -/
def requireArtifact (session : TransferSession) : ArtifactCall (Option CompletedArtifact) := do
  let now ← issue .now
  if session.expiresAt ≤ now then throw ⟨.gone, "Transfer lease expired"⟩
  else
    match ← issue (.findArtifact (session.artifactId.getD "")) with
    | none => throw ⟨.notFound, "Transfer artifact not found"⟩
    | some artifact =>
      Fallible.ofExcept (assertArtifactMatchesSession artifact session)
      Fallible.ofExcept (artifactPath artifact.relativePath)
      let size ← issue (.lstat artifact.relativePath)
      if size.isNone ∨ size ≠ session.contentLength then
        issue (.setUnavailable artifact.id)
        throw ⟨.gone, "Transfer artifact file is unavailable"⟩
      else return none

end Service

inductive ArtifactRequest
  | stage (input : StageArtifactInput)
  | upload (sessionId : String) (chunks : List Content) (sourceFails : Bool)
  | revoke (input : RevokeArtifactInput)
  | reconcileAndCleanup
  | cleanupExpired
  | deliver (session : TransferSession)
deriving DecidableEq

/-- What happens besides. -/
inductive SpoolChange
  | advance (ms : Nat)
  | disk (fails partialFirst : Bool)
  /-- `issueStagedUpload` creates a session with its artifact. -/
  | issueUpload (input : IssueStagedUploadInput) (installationId : String)
      (artifactExpiresAt expiresAt : Nat)
  /-- A download is issued. -/
  | issueDownload (session : TransferSession)
  /-- Sessions are completed, and expired ones removed. -/
  | complete (ids : List String) (consumed : Bool) (failureCode sha256 : Option String)
  | cleanupSessions

/-- The spool after a change. -/
def Spool.outside (H : ArtifactHost) : SpoolChange → Spool → Spool
  | .advance ms, x => { x with db := x.db.outside (.advance ms) }
  | .disk fails partialFirst, x => { x with diskFails := fails, partialFirst := partialFirst }
  | .issueUpload input installationId artifactExpiresAt expiresAt, x =>
    let material := H.deriveUploadMaterial installationId input.actor.userId input.idempotencyKey
    let rows := uploadRows H.toTransferHost input material installationId artifactExpiresAt expiresAt
    { x with db := (x.db.createUpload rows.1 rows.2).2 }
  | .issueDownload session, x => { x with db := (x.db.create { session with purpose := .download }).2 }
  | .complete ids consumed failureCode sha256, x =>
    { x with db := x.db.outside (.complete ids consumed failureCode sha256) }
  | .cleanupSessions, x => { x with db := x.db.outside .cleanup }

/-- The service over one spool. -/
def artifacts (H : ArtifactHost) : Service Spool SpoolChange ArtifactRequest ArtifactInstr
    ArtifactReply (Except TransferError (Option CompletedArtifact)) where
  program
    | .stage input => (stage H input).run
    | .upload sessionId chunks sourceFails => (upload H sessionId chunks sourceFails).run
    | .revoke input => (revoke input).run
    | .reconcileAndCleanup => reconcileAndCleanup.run
    | .cleanupExpired => cleanupExpired.run
    | .deliver session => (requireArtifact session).run
  answer := artifactReply H
  outside := Spool.outside H

end Meowbox.Transfers
