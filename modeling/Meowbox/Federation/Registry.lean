import Meowbox.Federation.RegistryStore

/-!
# `RemoteRegistryService`

The methods of `api/src/federation/remote-registry.service.ts` that change the registry, and
`ingestManifest` of `federation-compatibility.service.ts`, as programs over the statements and the
writes of the legacy file.

* `commitMutationDecision` looks at the authority before its transaction, writes the file behind it,
  and then commits the journal entry; an error of the last two freezes the registry.
* A statement that fails ends its call, except where the source catches the error. A process that
  dies leaves its calls where they are.
* Only `outside` lets writes of the file and statements fail; it also creates pending issuers and
  changes enrolments, which other services do.

The import of the file and the changes of authority (`importAuthoritativeJson`, `cutoverToDb`,
`rollbackAuthorityToJson`) are left out.
-/

namespace Meowbox.Registry

open Interleaved Fallible

inductive RegistryAuthority
  | json
  | db
  | frozen
deriving DecidableEq

/-- `authority`, of the newest journal entry. -/
def authorityOf : Option Journal → RegistryAuthority
  | none => .json
  | some latest =>
    match latest.state with
    | .imported => .json
    | .rolledBack => .json
    | .committed => .db
    | .prepared => .frozen
    | .failed => .frozen

namespace RegistryDb

def authority (x : RegistryDb) : RegistryAuthority := authorityOf x.journal.head?

/-- `registryProjectionJournal.update` by id: the state. -/
def setJournal (x : RegistryDb) (generation : Nat) (state : JournalState) : RegistryDb :=
  { x with journal := x.journal.map fun j =>
      if j.registryGeneration = generation then { j with state := state } else j }

/-- `updateMany` of `mutationFrozenAt`, on all servers. -/
def setFrozen (x : RegistryDb) (at? : Option Nat) : RegistryDb :=
  { x with remoteServer := x.remoteServer.map fun row => { row with mutationFrozenAt := at? } }

/-- `writeMode600`. -/
def writeFile (x : RegistryDb) (content : String) : Except RegistryError Unit × RegistryDb :=
  match x.disk with
  | .writes => (.ok (), { x with file := content })
  | .fails => (.error ⟨.internal, "write failed"⟩, x)
  | .failsAfter => (.error ⟨.internal, "write failed"⟩, { x with file := content })

/-- A statement behind the write of the file. -/
def statement (x : RegistryDb) (x' : RegistryDb) : Except RegistryError Unit × RegistryDb :=
  if x.down then (.error statementError, x) else (.ok (), x')

/-- The writes of `ingestManifest` on the server; an update of a row that is not there fails. -/
def updateTrust (x : RegistryDb) (id : String) (trustState : TrustState)
    (trustReasonCode : Option String) : Except RegistryError Unit × RegistryDb :=
  if (x.findServer id).isNone then (.error statementError, x)
  else (.ok (), x.updateServer id fun row => { row with
    trustState := trustState, trustReasonCode := trustReasonCode })

end RegistryDb

/-! ## Instructions -/

inductive RegistryInstr
  | getLocalIdentity
  | latestJournal
  | transact (m : Mutation)
  | writeFile (content : String)
  /-- `COMMITTED`, with the digest of the projection. -/
  | commitJournal (journalId : Nat)
  /-- `freezeProjection`. -/
  | freezeProjection (journalId : Nat)
  | renderDbProjection
  /-- The transaction of `repairProjection`. -/
  | repairJournal (journalId : Nat)
  | findServer (id : String)
  /-- The trust that `ingestManifest` records on the server. -/
  | recordTrust (id : String) (trustState : TrustState) (trustReasonCode : Option String)
deriving DecidableEq

abbrev Answer : RegistryInstr → Type
  | .getLocalIdentity => PanelIdentity
  | .latestJournal => Option Journal
  | .transact _ => Except RegistryError Prepared
  | .writeFile _ => Except RegistryError Unit
  | .commitJournal _ => Except RegistryError Unit
  | .freezeProjection _ => Except RegistryError Unit
  | .renderDbProjection => Except RegistryError String
  | .repairJournal _ => Except RegistryError Unit
  | .findServer _ => Option (RemoteServer × List FederationIssuer)
  | .recordTrust _ _ _ => Except RegistryError Unit

/-- The answer to an instruction, and the database after it. -/
def answer (H : RegistryHost) : (i : RegistryInstr) → RegistryDb → Answer i × RegistryDb
  | .getLocalIdentity, x => (x.identity, x)
  | .latestJournal, x => (x.journal.head?, x)
  | .transact m, x => transact H m x
  | .writeFile content, x => x.writeFile content
  | .commitJournal journalId, x => x.statement (x.setJournal journalId .committed)
  | .freezeProjection journalId, x =>
    x.statement ((x.setJournal journalId .failed).setFrozen (some 0))
  | .renderDbProjection, x => (x.renderDbProjection H, x)
  | .repairJournal journalId, x =>
    x.statement ((x.setJournal journalId .committed).setFrozen none)
  | .findServer id, x => ((x.findServer id).map fun server => (server, x.issuersOf id), x)
  | .recordTrust id trustState trustReasonCode, x => x.updateTrust id trustState trustReasonCode

/-- What happens besides the calls. -/
inductive RegistryChange
  | setDisk (disk : Disk) (down : Bool)
  /-- A pending issuer of an enrolment, with its key. -/
  | createIssuer (id issuerInstallationId targetInstallationId : String) (key : FederationKey)
  /-- An enrolment is cancelled: its issuer is revoked. -/
  | revokeIssuer (id : String) (now : Nat)
  | setEnrollments (enrollments : List FederationEnrollment)

def RegistryDb.outside : RegistryChange → RegistryDb → RegistryDb
  | .setDisk disk down, x => { x with disk := disk, down := down }
  | .createIssuer id issuerInstallationId targetInstallationId key, x =>
    if x.federationIssuer.any fun i => i.id == id || i.keys.any fun k => k.kid == key.kid then x
    else { x with federationIssuer := x.federationIssuer ++ [{
      id := id
      remoteServerId := none
      issuerInstallationId := issuerInstallationId
      targetInstallationId := targetInstallationId
      state := .pending
      revokedAt := none
      keys := [{ key with state := .pending }] }] }
  | .revokeIssuer id now, x =>
    x.updateIssuers (fun i => i.id == id && i.revokedAt.isNone) fun i =>
      { i with
        state := .revoked
        revokedAt := some now
        keys := i.keys.map fun k =>
          if k.revokedAt.isNone then { k with state := .revoked, revokedAt := some now } else k }
  | .setEnrollments enrollments, x => { x with federationEnrollment := enrollments }

/-! ## Programs -/

abbrev RegistryCall := Fallible RegistryInstr Answer RegistryError

abbrev perform (i : RegistryInstr) : RegistryCall (Answer i) := Fallible.ask i

def assertControlPlane : RegistryCall Unit := do
  let identity ← perform .getLocalIdentity
  if identity.installationRole ≠ "MASTER" then
    throw ⟨.badRequest, "Remote registry exists only on a control-plane installation"⟩
  else return ()

/-- `commitMutationDecision`, from its transaction on. -/
def commitPrepared (m : Mutation) : RegistryCall RegistryValue := do
  let prepared ← ask? (.transact m) id
  match prepared.projection with
  | none => return prepared.value
  | some (journalId, projection) =>
    let written ← attempt (do
      ask? (.writeFile projection) id
      ask? (.commitJournal journalId) id)
    match written with
    | .ok _ => return prepared.value
    | .error _ =>
      ask? (.freezeProjection journalId) id
      throw ⟨.unavailable, "Registry projection failed; further mutations are frozen"⟩

/-- `commitMutationDecision`. -/
def commitMutationDecision (m : Mutation) : RegistryCall RegistryValue := do
  assertControlPlane
  let latest ← perform .latestJournal
  if authorityOf latest ≠ .db then
    throw ⟨.unavailable, "DB registry is not mutable in the current authority state"⟩
  else commitPrepared m

/-- `prepareFederationKeyRotation`, with the key it generates. -/
def prepareKeyRotation (serverId : String) (key : FederationKey) (now : Nat) :
    RegistryCall RegistryValue := do
  let identity ← perform .getLocalIdentity
  if identity.installationRole ≠ "MASTER" then
    throw ⟨.badRequest, "Federation key rotation is control-plane only"⟩
  else
    match (← perform (.findServer serverId)).bind fun found => found.1.installationId with
    | none => throw ⟨.notFound, "Federated remote server not found"⟩
    | some target =>
      commitMutationDecision (.prepareFederationKeyRotation serverId target key now)

/-- `activateFederationKeyRotation`. -/
def activateKeyRotation (serverId newKid : String) (graceUntil now : Nat) :
    RegistryCall RegistryValue := do
  if graceUntil < now + 30000 ∨ now + 86460000 < graceUntil then
    throw ⟨.badRequest, "Federation key grace deadline is invalid"⟩
  else do
    let identity ← perform .getLocalIdentity
    if identity.installationRole ≠ "MASTER" then
      throw ⟨.badRequest, "Federation key rotation is control-plane only"⟩
    else commitMutationDecision (.activateFederationKeyRotation serverId newKid graceUntil now)

/-- `addLegacyServer`. -/
def addLegacy (H : RegistryHost) (input : LegacyServerRecord) : RegistryCall RegistryValue := do
  let record ← Fallible.ofExcept (H.validateLegacyServerRecord input)
  Fallible.ofExcept (H.assertPublicHttpUrl record.url)
  let tokenEnc ← Fallible.ofExcept
    (H.encryptLegacyToken record.id record.token record.tlsCaCertificatePem)
  commitMutationDecision (.addLegacyServer record tokenEnc)

/-- The patch of `updateLegacyServer`; of the certificate, `some none` removes it. -/
structure LegacyPatch where
  name : Option String
  url : Option String
  token : Option String
  tlsCaCertificatePem : Option (Option String)
deriving DecidableEq

/-- `updateLegacyServer`. -/
def updateLegacy (H : RegistryHost) (id : String) (patch : LegacyPatch) :
    RegistryCall RegistryValue := do
  match (← perform (.findServer id)).filter fun found => found.1.legacyEnabled with
  | none => throw ⟨.notFound, "Server \"" ++ id ++ "\" not found"⟩
  | some (server, _) =>
    let current ← Fallible.ofExcept (toLegacyRecord H server)
    let next ← Fallible.ofExcept (H.validateLegacyServerRecord {
      id := id
      name := patch.name.getD current.name
      url := patch.url.getD current.url
      token := patch.token.getD current.token
      tlsCaCertificatePem := patch.tlsCaCertificatePem.getD current.tlsCaCertificatePem })
    if patch.url.isSome then Fallible.ofExcept (H.assertPublicHttpUrl next.url) else pure ()
    let tokenEnc ← Fallible.ofExcept
      (H.encryptLegacyToken id next.token next.tlsCaCertificatePem)
    commitMutationDecision (.updateLegacyServer next tokenEnc)

/-- `removeLegacyServer`; `enrolled` is whether an enrolment names the server. -/
def removeLegacy (id : String) (enrolled : Bool) : RegistryCall RegistryValue := do
  match (← perform (.findServer id)).filter fun found => found.1.legacyEnabled with
  | none => throw ⟨.notFound, "Server \"" ++ id ++ "\" not found"⟩
  | some (server, issuers) =>
    if server.installationId.isSome ∨ !issuers.isEmpty ∨ enrolled then
      throw ⟨.conflict,
        "Enrolled server must be revoked and removed through federation lifecycle"⟩
    else commitMutationDecision (.removeLegacyServer id)

/-- `prepareEndpointCutover`. -/
def prepareCutover (H : RegistryHost) (cutoverId remoteServerId : String) (deadlineAt now : Nat) :
    RegistryCall RegistryValue := do
  if !H.cutoverIdValid cutoverId ∨ deadlineAt < now + 30000 ∨ now + 20 * 60000 < deadlineAt then
    throw ⟨.badRequest, "Endpoint cutover identity or deadline is invalid"⟩
  else commitMutationDecision (.prepareEndpointCutover cutoverId remoteServerId deadlineAt)

/-- `stageEndpointCutover`. -/
def stageCutover (H : RegistryHost) (cutoverId : String) (address : EndpointAddress) (now : Nat) :
    RegistryCall RegistryValue := do
  Fallible.ofExcept (H.endpointValid address)
  commitMutationDecision (.stageEndpointCutover cutoverId address now)

/-- `commitFederatedEnrollment`; `activationSafe` is its evaluation of the manifest. -/
def commitEnrollment (input : EnrollmentCommit) (activationSafe : Bool) :
    RegistryCall RegistryValue := do
  if !activationSafe then
    throw ⟨.conflict, "Federation enrollment is not activation-safe"⟩
  else commitMutationDecision (.commitFederatedEnrollment input)

/-- `repairProjection`. -/
def repairProjection : RegistryCall RegistryValue := do
  assertControlPlane
  match ← perform .latestJournal with
  | none => throw ⟨.conflict, "No failed registry projection requires repair"⟩
  | some latest =>
    if latest.state ≠ .prepared ∧ latest.state ≠ .failed then
      throw ⟨.conflict, "No failed registry projection requires repair"⟩
    else do
      let projection ← ask? .renderDbProjection id
      ask? (.writeFile projection) id
      ask? (.repairJournal latest.registryGeneration) id
      return .done

/-- The delegation trust that `ingestManifest` asks for. -/
def delegationTrust (identity : PanelIdentity) (server : RemoteServer)
    (issuers : List FederationIssuer) : Bool :=
  issuers.any fun issuer =>
    issuer.issuerInstallationId == identity.installationId &&
      some issuer.targetInstallationId == server.installationId &&
      decide (issuer.state = .active) && issuer.revokedAt.isNone && issuer.keys.any fun k =>
        decide (k.state = .active) && k.revokedAt.isNone && k.encryptedPrivateKey.isSome

/-- `ingestManifest`; its two reads do not depend on each other. -/
def ingestManifest (H : RegistryHost) (remoteServerId manifest : String) (now : Nat) :
    RegistryCall RegistryValue := do
  let found ← perform (.findServer remoteServerId)
  let identity ← perform .getLocalIdentity
  match found with
  | none => throw ⟨.notFound, "Remote server not found"⟩
  | some (server, issuers) =>
    if identity.installationRole ≠ "MASTER" then
      throw ⟨.conflict, "Manifest ingestion is control-plane only"⟩
    else if server.installationId.isNone ∨ server.targetManifestKid.isNone ∨
        server.targetManifestPublicKeySpki.isNone then
      throw ⟨.conflict, "Target manifest identity is not pinned"⟩
    else if !delegationTrust identity server issuers then
      throw ⟨.conflict, "Target delegation trust is not active"⟩
    else
      match H.verifyManifest manifest server now with
      | .verified => do
        ask? (.recordTrust server.id .active (some "READY")) id
        return .ingested
      | .notCurrent => do
        ask? (.recordTrust server.id server.trustState server.trustReasonCode) id
        throw ⟨.unavailable, "Target manifest verification failed"⟩
      | .invalid => do
        ask? (.recordTrust server.id .failed (some "MANIFEST_INVALID")) id
        throw ⟨.unavailable, "Target manifest verification failed"⟩
      | .throws e => throw e

inductive RegistryRequest
  | updateFederationRollout (input : RolloutRequest) (now : Nat)
  | prepareFederationKeyRotation (serverId : String) (key : FederationKey) (now : Nat)
  | activateFederationKeyRotation (serverId newKid : String) (graceUntil now : Nat)
  | revokeFederationTrust (serverId : String) (now : Nat)
  | addLegacyServer (input : LegacyServerRecord)
  | updateLegacyServer (id : String) (patch : LegacyPatch)
  | removeLegacyServer (id : String) (enrolled : Bool)
  | commitFederatedEnrollment (input : EnrollmentCommit) (activationSafe : Bool)
  | prepareEndpointCutover (cutoverId remoteServerId : String) (deadlineAt now : Nat)
  | stageEndpointCutover (cutoverId : String) (address : EndpointAddress) (now : Nat)
  | activateEndpointCutover (cutoverId : String) (now : Nat)
  | finalizeEndpointCutover (cutoverId : String)
  | markEndpointCutoverNeedsAttention (cutoverId code : String)
  | rollbackEndpointCutover (cutoverId code : String)
  | repairProjection
  | ingestManifest (remoteServerId manifest : String) (now : Nat)
deriving DecidableEq

def requestProgram (H : RegistryHost) : RegistryRequest → RegistryCall RegistryValue
  | .updateFederationRollout input now =>
    commitMutationDecision (.updateFederationRollout input now)
  | .prepareFederationKeyRotation serverId key now => prepareKeyRotation serverId key now
  | .activateFederationKeyRotation serverId newKid graceUntil now =>
    activateKeyRotation serverId newKid graceUntil now
  | .revokeFederationTrust serverId now =>
    commitMutationDecision (.revokeFederationTrust serverId now)
  | .addLegacyServer input => addLegacy H input
  | .updateLegacyServer id patch => updateLegacy H id patch
  | .removeLegacyServer id enrolled => removeLegacy id enrolled
  | .commitFederatedEnrollment input activationSafe => commitEnrollment input activationSafe
  | .prepareEndpointCutover cutoverId remoteServerId deadlineAt now =>
    prepareCutover H cutoverId remoteServerId deadlineAt now
  | .stageEndpointCutover cutoverId address now => stageCutover H cutoverId address now
  | .activateEndpointCutover cutoverId now =>
    commitMutationDecision (.activateEndpointCutover cutoverId now)
  | .finalizeEndpointCutover cutoverId =>
    commitMutationDecision (.finalizeEndpointCutover cutoverId)
  | .markEndpointCutoverNeedsAttention cutoverId code =>
    commitMutationDecision (.markEndpointCutoverNeedsAttention cutoverId code)
  | .rollbackEndpointCutover cutoverId code =>
    commitMutationDecision (.rollbackEndpointCutover cutoverId code)
  | .repairProjection => repairProjection
  | .ingestManifest remoteServerId manifest now => ingestManifest H remoteServerId manifest now

/-- The registry over one database. -/
def registry (H : RegistryHost) : Service RegistryDb RegistryChange RegistryRequest RegistryInstr
    Answer (Except RegistryError RegistryValue) where
  program request := (requestProgram H request).run
  answer := answer H
  outside := RegistryDb.outside

/-! ### A registry with one enrolment under way -/

namespace Sample

/-- Tokens stand in the rows as they are, and the file lists names and addresses. -/
def host : RegistryHost where
  decryptLegacyCredentials _ encoded := .ok (encoded, none)
  validateLegacyServerRecord record := .ok record
  renderLegacyRegistry records :=
    String.intercalate "," (records.map fun r => r.name ++ "=" ++ r.url)
  encryptLegacyToken _ token _ := .ok token
  assertPublicHttpUrl _ := .ok ()
  endpointHash address := address.apiOrigin
  endpointValid _ := .ok ()
  cutoverIdValid _ := true
  rolloutReplayed _ _ := .ok false
  rolloutDecision _ _ _ := .error ⟨.conflict, "Federated target transport is not fresh and online"⟩
  verifyManifest _ _ _ := .verified

def key : FederationKey where
  kid := "ed25519-1"
  publicKeySpki := "spki"
  encryptedPrivateKey := some "private"
  state := .pending
  validFrom := 0
  expiresAt := none
  revokedAt := none

/-- The database is authoritative and its file is empty. -/
def registry : RegistryDb where
  identity := ⟨"master-1", "MASTER"⟩
  remoteServer := []
  federationIssuer := [⟨"issuer-1", none, "master-1", "target-1", .pending, none, [key]⟩]
  federationEnrollment := [⟨"server-1", "CONTROL_PLANE", "MANIFEST_VERIFIED", none, some "target-1",
    some "manifest-1", some "spki", some "issuer-1"⟩]
  journal := [⟨1, .committed⟩]
  file := ""
  disk := .writes
  down := false
  history := []

def address (origin : String) : EndpointAddress :=
  ⟨origin, origin, "/socket.io", origin, origin, "203.0.113.7", 22, "pin", origin⟩

def enrollment : RegistryRequest :=
  .commitFederatedEnrollment ⟨"server-1", "issuer-1", "Target", "target-1", "manifest-1", "spki",
    address "https://old.example", 0⟩ true

/-- One call after the other, each with so many statements. -/
def sequence : Nat → List (RegistryRequest × Nat) → List (Event RegistryChange RegistryRequest)
  | _, [] => []
  | k, (request, n) :: rest =>
    .call request :: List.replicate n (.advance k) ++ sequence (k + 1) rest

end Sample

end Meowbox.Registry
