import Meowbox.Lib.JsValue
import Meowbox.Lib.Phases
import Meowbox.Lib.Table

/-!
# Issuing transfer sessions

Model of the issuing half of `api/src/transfers/transfer-session.service.ts`:
`issueGeneratedStream`, `issueStagedArtifact` and `issueStagedUpload`, with `assertAdmission` in
front of every creation.

* A statement is one instruction, and so is each of the three counts; the transaction that creates
  an upload with its artifact is one.
* `outside` lets time pass and does what the other half of the service, the artifact service and the
  panel do: it completes, revokes and removes sessions, and changes artifacts, the identity of the
  panel, its transfer origin and its registered sources at will.
* HMAC, SHA-256 and the contract of a delivery are parameters. Ids and secrets of downloads are
  drawn.

The members of a delivery that are the same for all, and `startedAt`, which no count and no replay
reads, are left out.
-/

namespace Meowbox.Transfers

open Interleaved Fallible JsData Relational

/-! ## Rows -/

inductive TransferPurpose
  | download
  | upload
deriving DecidableEq

inductive TransferMode
  | generatedStream
  | stagedArtifact
deriving DecidableEq

inductive ArtifactState
  | staging
  | ready
  | failed
  | deleted
deriving DecidableEq

structure TransferActor where
  userId : String
  role : String
deriving DecidableEq

structure TransferSession where
  id : String
  targetInstallationId : String
  purpose : TransferPurpose
  sourceKind : String
  resourceId : String
  /-- What `resourcePayloadEnc` encrypts. -/
  resourcePayload : Option String
  transferMode : TransferMode
  secretHash : String
  actorUserId : String
  actorRole : String
  contentType : String
  filename : String
  artifactId : Option String
  contentLength : Option Nat
  sha256 : Option String
  expiresAt : Nat
  completedAt : Option Nat
  consumedAt : Option Nat
  failureCode : Option String
  createdAt : Nat
deriving DecidableEq

structure TransferArtifact where
  id : String
  targetInstallationId : String
  sourceKind : String
  resourceId : String
  state : ArtifactState
  relativePath : String
  contentType : String
  filename : String
  createdByUserId : String
  sizeBytes : Option Nat
  sha256 : Option String
  readyAt : Option Nat
  deletedAt : Option Nat
  expiresAt : Nat
  createdAt : Nat
deriving DecidableEq

/-! ## Errors and validation -/

inductive TransferErrorKind
  /-- A plain `Error`. -/
  | error
  | conflict
  | gone
  | notFound
  | unauthorized
  | payloadTooLarge
  | badRequest
  | insufficientStorage
  /-- The unique violation of the database. -/
  | p2002
deriving DecidableEq

structure TransferError where
  kind : TransferErrorKind
  message : String
deriving DecidableEq

/-- `[0-9a-f]`, in either case. -/
def isHexAnyCase (c : Char) : Bool :=
  isDigitAscii c || (decide ('a' ≤ c) && decide (c ≤ 'f')) || (decide ('A' ≤ c) && decide (c ≤ 'F'))

/-- `TRANSFER_UUID`. -/
def isTransferUuid (s : String) : Bool :=
  s.toList.length == 36 && s.toList.zipIdx.all fun (c, i) =>
    if i == 8 || i == 13 || i == 18 || i == 23 then c == '-'
    else if i == 14 then decide ('1' ≤ c) && decide (c ≤ '8')
    else if i == 19 then ['8', '9', 'a', 'b', 'A', 'B'].contains c
    else isHexAnyCase c

/-- `TRANSFER_SOURCE_KIND`. -/
def isTransferSourceKind (s : String) : Bool :=
  match s.toList with
  | [] => false
  | c :: rest => isUpperAscii c && decide (1 ≤ rest.length) && decide (rest.length ≤ 63) &&
      rest.all fun d => isUpperAscii d || isDigitAscii d || d == '_'

/-- `[A-Za-z0-9]`. -/
def isAlphanumeric (c : Char) : Bool := isUpperAscii c || isLowerAscii c || isDigitAscii c

/-- `TRANSFER_RESOURCE_ID`. -/
def isTransferResourceId (s : String) : Bool :=
  allIn (fun c => isAlphanumeric c || ['.', '_', ':', '-'].contains c) 1 256 s

/-- The characters of a type and of a subtype. -/
def isMediaChar (c : Char) : Bool :=
  isAlphanumeric c || ['!', '#', '$', '&', '^', '_', '.', '+', '-'].contains c

/-- `TRANSFER_CONTENT_TYPE`. -/
def isTransferContentType (s : String) : Bool :=
  let type := s.toList.takeWhile isMediaChar
  match s.toList.dropWhile isMediaChar with
  | '/' :: subtype => !type.isEmpty && !subtype.isEmpty && subtype.all isMediaChar
  | _ => false

/-- `TRANSFER_FILENAME` and the length in bytes. -/
def isTransferFilename (s : String) : Bool :=
  !s.toList.isEmpty && decide (s.utf8ByteSize ≤ 255) && s.toList.all fun c =>
    decide (0x1f < c.toNat) && decide (c.toNat ≠ 0x7f) && c != '/' && c != '\\'

def assertTransferActor (actor : TransferActor) : Except TransferError Unit :=
  if !isTransferUuid actor.userId || !List.contains ["ADMIN", "MANAGER"] actor.role then
    .error ⟨.error, "Transfer actor is invalid"⟩
  else .ok ()

def assertTransferResource (sourceKind resourceId : String) : Except TransferError Unit :=
  if !isTransferSourceKind sourceKind || !isTransferResourceId resourceId then
    .error ⟨.error, "Transfer resource is invalid"⟩
  else .ok ()

def assertTransferPresentation (filename contentType : String) : Except TransferError Unit :=
  if !isTransferFilename filename || !isTransferContentType contentType then
    .error ⟨.error, "Transfer presentation is invalid"⟩
  else .ok ()

/-- `IDEMPOTENCY_KEY`. -/
def isTransferIdempotencyKey (s : String) : Bool :=
  allIn (fun c => decide (' ' ≤ c) && decide (c ≤ '~')) 8 128 s

/-- `^[0-9a-f]{64}$`. -/
def isSha256Hex (s : String) : Bool :=
  allIn (fun c => isDigitAscii c || (decide ('a' ≤ c) && decide (c ≤ 'f'))) 64 64 s

/-! ## Requests -/

structure IssueGeneratedStreamInput where
  sourceKind : String
  resourceId : String
  actor : TransferActor
  filename : String
  contentType : String
  resourceExpiresAt : Nat
  /-- `some none` is a payload that cannot be serialized. -/
  resourcePayload : Option (Option String)
deriving DecidableEq

structure IssueStagedArtifactInput where
  artifactId : String
  actor : TransferActor
deriving DecidableEq

structure IssueStagedUploadInput where
  sourceKind : String
  resourceId : String
  actor : TransferActor
  filename : String
  contentType : String
  /-- Safe integers of zero and more. -/
  contentLength : Option Nat
  resourceExpiresAt : Nat
  idempotencyKey : String
deriving DecidableEq

/-- `TransferSessionDelivery`, what of it depends on the session. -/
structure TransferSessionDelivery where
  purpose : TransferPurpose
  targetInstallationId : String
  resourceKind : String
  resourceId : String
  expiresAt : Nat
  url : String
  transferMode : TransferMode
  contentLength : Option Nat
  sha256 : Option String
  leaseId : String
deriving DecidableEq

structure UploadMaterial where
  sessionId : String
  artifactId : String
  secret : String
deriving DecidableEq

/-- The limits and lifetimes of the configuration, and the platform. -/
structure TransferHost where
  firstByteTtlMs : Nat
  stagedLeaseTtlMs : Nat
  maxNewPerMinute : Nat
  maxActivePerActor : Nat
  maxActivePerTarget : Nat
  sha256 : String → String
  deriveUploadMaterial : (targetInstallationId actorUserId idempotencyKey : String) → UploadMaterial
  /-- `validatePublicDelivery`. -/
  validatePublicDelivery : TransferSessionDelivery → Except TransferError TransferSessionDelivery

/-! ## The store -/

structure TransferDb where
  clock : Nat
  sessions : Table [TransferSession.id]
  artifacts : List TransferArtifact
  installationId : String
  directTransferOrigin : Except TransferError String
  /-- The registered sources. -/
  sources : List String
  /-- What `prepareUploadAdmission` of the staged handler answers, when it is registered. -/
  stagedHandler : Option (Except TransferError Unit)
  /-- How many ids have been drawn. -/
  drawn : Nat

namespace TransferDb

/-- The sessions of the actor that were created in the minute before `now`. -/
def countRecent (x : TransferDb) (actorUserId : String) (now : Nat) : Nat :=
  x.sessions.count fun s =>
    decide (s.actorUserId = actorUserId) && decide (now ≤ s.createdAt + 60000)

/-- `activeWhere`. -/
def active (now : Nat) (s : TransferSession) : Bool :=
  decide (now < s.expiresAt) && s.completedAt.isNone

def countActorActive (x : TransferDb) (actorUserId : String) (now : Nat) : Nat :=
  x.sessions.count fun s => decide (s.actorUserId = actorUserId) && active now s

def countTargetActive (x : TransferDb) (targetInstallationId : String) (now : Nat) : Nat :=
  x.sessions.count fun s => decide (s.targetInstallationId = targetInstallationId) && active now s

/-- `transferSession.create`; the database sets `createdAt`. -/
def create (x : TransferDb) (s : TransferSession) : Bool × TransferDb :=
  match x.sessions.create? { s with createdAt := x.clock } with
  | some sessions => (true, { x with sessions := sessions })
  | none => (false, x)

/-- The transaction of an upload: its artifact, and then its session. -/
def createUpload (x : TransferDb) (s : TransferSession) (artifact : TransferArtifact) :
    Bool × TransferDb :=
  if x.artifacts.any fun other => other.id == artifact.id then (false, x)
  else
    match x.sessions.create? { s with createdAt := x.clock } with
    | some sessions => (true, { x with
        sessions := sessions
        artifacts := x.artifacts ++ [{ artifact with createdAt := x.clock }] })
    | none => (false, x)

end TransferDb

inductive TransferInstr
  | now
  | directTransferOrigin
  | getLocalIdentity
  | hasSource (sourceKind : String)
  | hasHandler
  | findArtifact (id : String)
  | findSession (id : String)
  | prepareUploadAdmission (expectedBytes : Nat)
  | countRecent (actorUserId : String) (now : Nat)
  | countActorActive (actorUserId : String) (now : Nat)
  | countTargetActive (targetInstallationId : String) (now : Nat)
  | randomBytes
  | create (session : TransferSession)
  | createUpload (session : TransferSession) (artifact : TransferArtifact)
deriving DecidableEq

abbrev TransferReply : TransferInstr → Type
  | .now => Nat
  | .directTransferOrigin => Except TransferError String
  | .getLocalIdentity => String
  | .hasSource _ => Bool
  | .hasHandler => Bool
  | .findArtifact _ => Option TransferArtifact
  | .findSession _ => Option TransferSession
  | .prepareUploadAdmission _ => Except TransferError Unit
  | .countRecent _ _ => Nat
  | .countActorActive _ _ => Nat
  | .countTargetActive _ _ => Nat
  | .randomBytes => Nat
  | .create _ => Bool
  | .createUpload _ _ => Bool

/-- The answer to an instruction, and the store after it. -/
def transferReply : (i : TransferInstr) → TransferDb → TransferReply i × TransferDb
  | .now, x => (x.clock, x)
  | .directTransferOrigin, x => (x.directTransferOrigin, x)
  | .getLocalIdentity, x => (x.installationId, x)
  | .hasSource sourceKind, x => (x.sources.contains sourceKind, x)
  | .hasHandler, x => (x.stagedHandler.isSome, x)
  | .findArtifact id, x => (x.artifacts.find? fun a => a.id == id, x)
  | .findSession id, x => (x.sessions.find? fun s => s.id == id, x)
  | .prepareUploadAdmission _, x => (x.stagedHandler.getD (.ok ()), x)
  | .countRecent actorUserId now, x => (x.countRecent actorUserId now, x)
  | .countActorActive actorUserId now, x => (x.countActorActive actorUserId now, x)
  | .countTargetActive targetInstallationId now, x =>
    (x.countTargetActive targetInstallationId now, x)
  | .randomBytes, x => (x.drawn, { x with drawn := x.drawn + 1 })
  | .create session, x => x.create session
  | .createUpload session artifact, x => x.createUpload session artifact

/-! ## The service -/

abbrev TransferCall := Fallible TransferInstr TransferReply TransferError

abbrev perform (i : TransferInstr) : TransferCall (TransferReply i) := Fallible.ask i

section Service

variable (C : TransferHost)

/-- `assertAdmission`. -/
def assertAdmission (actorUserId targetInstallationId : String) (now : Nat) :
    TransferCall Unit := do
  let recent ← perform (.countRecent actorUserId now)
  let actorActive ← perform (.countActorActive actorUserId now)
  let targetActive ← perform (.countTargetActive targetInstallationId now)
  if C.maxNewPerMinute ≤ recent then throw ⟨.conflict, "Transfer creation rate exceeded"⟩
  else if C.maxActivePerActor ≤ actorActive then
    throw ⟨.conflict, "Actor transfer limit exceeded"⟩
  else if C.maxActivePerTarget ≤ targetActive then
    throw ⟨.conflict, "Target transfer limit exceeded"⟩
  else return ()

/-- The id and the secret of a download. -/
def drawSession : TransferCall (String × String) := do
  let n ← perform .randomBytes
  return ("session-" ++ toString n, "secret-" ++ toString n)

/-- `transferSession.create` of a download. -/
def createSession (session : TransferSession) : TransferCall Unit :=
  ask? (.create session) fun created =>
    if created then .ok () else .error ⟨.p2002, "Unique constraint failed"⟩

/-- The delivery of a session. -/
def deliveryOf (publicOrigin secret : String) (s : TransferSession) : TransferSessionDelivery where
  purpose := s.purpose
  targetInstallationId := s.targetInstallationId
  resourceKind := s.sourceKind
  resourceId := s.resourceId
  expiresAt := s.expiresAt
  url := publicOrigin ++ "/api/public/v1/transfers/" ++ s.id ++
    (if s.purpose = .upload then "/upload?secret=" else "/download?secret=") ++ secret
  transferMode := s.transferMode
  contentLength := s.contentLength
  sha256 := if s.purpose = .upload then none else s.sha256
  leaseId := s.id

/-- `validateIssue`. -/
def validateIssue (input : IssueGeneratedStreamInput) : TransferCall Unit := do
  Fallible.ofExcept (assertTransferResource input.sourceKind input.resourceId)
  Fallible.ofExcept (assertTransferPresentation input.filename input.contentType)
  Fallible.ofExcept (assertTransferActor input.actor)
  if input.resourcePayload = some none then
    throw ⟨.error, "Transfer resource payload is not serializable"⟩
  else
    let registered ← perform (.hasSource input.sourceKind)
    let payloadBytes := (input.resourcePayload.join.map String.utf8ByteSize).getD 0
    if 16 * 1024 < payloadBytes ∨ !registered then
      throw ⟨.error, "Transfer session request is invalid"⟩
    else return ()

/-- `issueGeneratedStream`. -/
def issueGeneratedStream (input : IssueGeneratedStreamInput) :
    TransferCall TransferSessionDelivery := do
  validateIssue input
  let publicOrigin ← ask? .directTransferOrigin id
  let installationId ← perform .getLocalIdentity
  let now ← perform .now
  let expiresAt := min input.resourceExpiresAt (now + C.firstByteTtlMs)
  if expiresAt ≤ now + 1000 then throw ⟨.gone, "Transfer resource is expired"⟩
  else
    assertAdmission C input.actor.userId installationId now
    let drawn ← drawSession
    let session : TransferSession := {
      id := drawn.1
      targetInstallationId := installationId
      purpose := .download
      sourceKind := input.sourceKind
      resourceId := input.resourceId
      resourcePayload := input.resourcePayload.join
      transferMode := .generatedStream
      secretHash := C.sha256 drawn.2
      actorUserId := input.actor.userId
      actorRole := input.actor.role
      contentType := input.contentType
      filename := input.filename
      artifactId := none
      contentLength := none
      sha256 := none
      expiresAt := expiresAt
      completedAt := none
      consumedAt := none
      failureCode := none
      createdAt := 0 }
    createSession session
    Fallible.ofExcept (C.validatePublicDelivery (deliveryOf publicOrigin drawn.2 session))

/-- The artifact may be delivered to the actor. -/
def assertArtifactDeliverable (artifact : TransferArtifact) (actor : TransferActor) (now : Nat) :
    Except TransferError Unit :=
  if artifact.state ≠ .ready ∨ artifact.readyAt.isNone ∨ artifact.deletedAt.isSome then
    .error ⟨.conflict, "Transfer artifact is not ready"⟩
  else if actor.role ≠ "ADMIN" ∧ artifact.createdByUserId ≠ actor.userId then
    .error ⟨.unauthorized, "Transfer artifact does not belong to actor"⟩
  else if artifact.expiresAt ≤ now ∨ !(artifact.sizeBytes.any (· ≤ 9007199254740991)) ∨
      !(artifact.sha256.any isSha256Hex) then
    .error ⟨.gone, "Transfer artifact is expired or incomplete"⟩
  else .ok ()

/-- `issueStagedArtifact`. -/
def issueStagedArtifact (input : IssueStagedArtifactInput) :
    TransferCall TransferSessionDelivery := do
  Fallible.ofExcept (assertTransferActor input.actor)
  let registered ← perform .hasHandler
  if !isTransferUuid input.artifactId ∨ !registered then
    throw ⟨.error, "Staged transfer session request is invalid"⟩
  else
    let publicOrigin ← ask? .directTransferOrigin id
    match ← perform (.findArtifact input.artifactId) with
    | none => throw ⟨.notFound, "Transfer artifact not found"⟩
    | some artifact =>
      let checkedAt ← perform .now
      Fallible.ofExcept (assertArtifactDeliverable artifact input.actor checkedAt)
      let installationId ← perform .getLocalIdentity
      if artifact.targetInstallationId ≠ installationId then
        throw ⟨.unauthorized, "Transfer artifact target mismatch"⟩
      else
        let now ← perform .now
        assertAdmission C input.actor.userId installationId now
        let drawn ← drawSession
        let session : TransferSession := {
          id := drawn.1
          targetInstallationId := installationId
          purpose := .download
          sourceKind := artifact.sourceKind
          resourceId := artifact.resourceId
          resourcePayload := none
          transferMode := .stagedArtifact
          secretHash := C.sha256 drawn.2
          actorUserId := input.actor.userId
          actorRole := input.actor.role
          contentType := artifact.contentType
          filename := artifact.filename
          artifactId := some artifact.id
          contentLength := artifact.sizeBytes
          sha256 := artifact.sha256
          expiresAt := min artifact.expiresAt (now + C.stagedLeaseTtlMs)
          completedAt := none
          consumedAt := none
          failureCode := none
          createdAt := 0 }
        createSession session
        Fallible.ofExcept (C.validatePublicDelivery (deliveryOf publicOrigin drawn.2 session))

/-- `buildUploadDelivery`. -/
def buildUploadDelivery (session : TransferSession) (secret publicOrigin : String) :
    Except TransferError TransferSessionDelivery :=
  if session.contentLength.any (· ≤ 9007199254740991) then
    C.validatePublicDelivery (deliveryOf publicOrigin secret session)
  else .error ⟨.conflict, "Upload session length is invalid"⟩

/-- `replayStagedUpload`. -/
def replayStagedUpload (session : TransferSession) (secret artifactId : String)
    (input : IssueStagedUploadInput) (publicOrigin : String) :
    TransferCall TransferSessionDelivery := do
  if session.purpose ≠ .upload ∨ session.transferMode ≠ .stagedArtifact ∨
      session.artifactId ≠ some artifactId ∨ session.sourceKind ≠ input.sourceKind ∨
      session.resourceId ≠ input.resourceId ∨ session.actorUserId ≠ input.actor.userId ∨
      session.actorRole ≠ input.actor.role ∨ session.contentType ≠ input.contentType ∨
      session.filename ≠ input.filename ∨ session.contentLength ≠ input.contentLength ∨
      session.secretHash ≠ C.sha256 secret then
    throw ⟨.conflict, "Idempotency key is bound to a different upload"⟩
  else
    let now ← perform .now
    if session.expiresAt ≤ now ∨ session.failureCode.isSome ∨ session.completedAt.isSome ∨
        session.consumedAt.isSome then
      throw ⟨.gone, "Idempotent upload session is no longer writable"⟩
    else Fallible.ofExcept (buildUploadDelivery C session secret publicOrigin)

/-- The rows of a new upload. -/
def uploadRows (input : IssueStagedUploadInput) (material : UploadMaterial)
    (installationId : String) (artifactExpiresAt expiresAt : Nat) :
    TransferSession × TransferArtifact :=
  ({ id := material.sessionId
     targetInstallationId := installationId
     purpose := .upload
     sourceKind := input.sourceKind
     resourceId := input.resourceId
     resourcePayload := none
     transferMode := .stagedArtifact
     secretHash := C.sha256 material.secret
     actorUserId := input.actor.userId
     actorRole := input.actor.role
     contentType := input.contentType
     filename := input.filename
     artifactId := some material.artifactId
     contentLength := input.contentLength
     sha256 := none
     expiresAt := expiresAt
     completedAt := none
     consumedAt := none
     failureCode := none
     createdAt := 0 },
   { id := material.artifactId
     targetInstallationId := installationId
     sourceKind := input.sourceKind
     resourceId := input.resourceId
     state := .staging
     relativePath := material.artifactId ++ ".artifact"
     contentType := input.contentType
     filename := input.filename
     createdByUserId := input.actor.userId
     sizeBytes := none
     sha256 := none
     readyAt := none
     deletedAt := none
     expiresAt := artifactExpiresAt
     createdAt := 0 })

/-- `issueStagedUpload`. -/
def issueStagedUpload (input : IssueStagedUploadInput) :
    TransferCall TransferSessionDelivery := do
  Fallible.ofExcept (assertTransferResource input.sourceKind input.resourceId)
  Fallible.ofExcept (assertTransferPresentation input.filename input.contentType)
  Fallible.ofExcept (assertTransferActor input.actor)
  if !isTransferIdempotencyKey input.idempotencyKey ∨ input.contentLength.isNone then
    throw ⟨.error, "Staged upload session request is invalid"⟩
  else
    let registered ← perform .hasHandler
    if !registered then throw ⟨.notFound, "Staged transfer handler is unavailable"⟩
    else
      let publicOrigin ← ask? .directTransferOrigin id
      let installationId ← perform .getLocalIdentity
      let now ← perform .now
      let artifactExpiresAt := min input.resourceExpiresAt (now + C.stagedLeaseTtlMs)
      let expiresAt := min artifactExpiresAt (now + C.firstByteTtlMs)
      if expiresAt ≤ now + 1000 then throw ⟨.gone, "Transfer resource is expired"⟩
      else
        let material := C.deriveUploadMaterial installationId input.actor.userId
          input.idempotencyKey
        match ← perform (.findSession material.sessionId) with
        | some existing =>
          replayStagedUpload C existing material.secret material.artifactId input publicOrigin
        | none =>
          ask? (.prepareUploadAdmission (input.contentLength.getD 0)) id
          assertAdmission C input.actor.userId installationId now
          let rows := uploadRows C input material installationId artifactExpiresAt expiresAt
          if ← perform (.createUpload rows.1 rows.2) then
            Fallible.ofExcept (buildUploadDelivery C rows.1 material.secret publicOrigin)
          else
            match ← perform (.findSession material.sessionId) with
            | some raced =>
              replayStagedUpload C raced material.secret material.artifactId input publicOrigin
            | none => throw ⟨.p2002, "Unique constraint failed"⟩

end Service

inductive TransferRequest
  | generatedStream (input : IssueGeneratedStreamInput)
  | stagedArtifact (input : IssueStagedArtifactInput)
  | stagedUpload (input : IssueStagedUploadInput)
deriving DecidableEq

/-- What happens besides the issuing of sessions. -/
inductive TransferChange
  | advance (ms : Nat)
  /-- `finalize`, `finalizeUpload`, a failed upload and a stale one: the sessions are completed. -/
  | complete (ids : List String) (consumed : Bool) (failureCode sha256 : Option String)
  /-- `revoke` of an artifact ends its sessions now. -/
  | revoke (artifactId : String)
  /-- `cleanupExpired`. -/
  | cleanup
  | setArtifacts (artifacts : List TransferArtifact)
  | setPanel (installationId : String) (directTransferOrigin : Except TransferError String)
      (sources : List String) (stagedHandler : Option (Except TransferError Unit))

def SESSION_RETENTION_MS : Nat := 24 * 60 * 60 * 1000

/-- A session is completed now. -/
def completeSession (now : Nat) (consumed : Bool) (failureCode sha256 : Option String)
    (s : TransferSession) : TransferSession :=
  { s with
    completedAt := some now
    consumedAt := if consumed then some now else s.consumedAt
    failureCode := failureCode
    sha256 := sha256.or s.sha256 }

/-- A session ends now. -/
def revokeSession (now : Nat) (s : TransferSession) : TransferSession :=
  { s with expiresAt := now, failureCode := some "ARTIFACT_REVOKED" }

namespace TransferDb

theorem keeps_id {f : TransferSession → TransferSession} (hf : ∀ s, (f s).id = s.id) :
    ∀ k ∈ [TransferSession.id], ∀ s, k (f s) = k s := by
  intro k hk s
  rw [List.mem_singleton.mp hk]
  exact hf s

/-- `updateMany` of sessions; it leaves their ids alone. -/
def updateSessions (x : TransferDb) (p : TransferSession → Bool)
    (f : TransferSession → TransferSession) (hf : ∀ s, (f s).id = s.id) : TransferDb :=
  { x with sessions := x.sessions.updateMany p f (keeps_id hf) }

/-- `deleteMany` of sessions. -/
def deleteSessions (x : TransferDb) (p : TransferSession → Bool) : TransferDb :=
  { x with sessions := x.sessions.deleteMany p }

def outside : TransferChange → TransferDb → TransferDb
  | .advance ms, x => { x with clock := x.clock + ms }
  | .complete ids consumed failureCode sha256, x =>
    x.updateSessions (fun s => ids.contains s.id)
      (completeSession x.clock consumed failureCode sha256) fun _ => rfl
  | .revoke artifactId, x =>
    x.updateSessions
      (fun s => decide (s.artifactId = some artifactId) && decide (x.clock < s.expiresAt))
      (revokeSession x.clock) fun _ => rfl
  | .cleanup, x => x.deleteSessions fun s => decide (s.expiresAt + SESSION_RETENTION_MS < x.clock)
  | .setArtifacts artifacts, x => { x with artifacts := artifacts }
  | .setPanel installationId directTransferOrigin sources stagedHandler, x =>
    { x with
      installationId := installationId
      directTransferOrigin := directTransferOrigin
      sources := sources
      stagedHandler := stagedHandler }

end TransferDb

/-- The service over one database. -/
def transfers (C : TransferHost) : Service TransferDb TransferChange TransferRequest TransferInstr
    TransferReply (Except TransferError TransferSessionDelivery) where
  program
    | .generatedStream input => (issueGeneratedStream C input).run
    | .stagedArtifact input => (issueStagedArtifact C input).run
    | .stagedUpload input => (issueStagedUpload C input).run
  answer := transferReply
  outside := TransferDb.outside

end Meowbox.Transfers
