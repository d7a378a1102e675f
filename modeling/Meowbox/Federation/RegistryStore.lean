import Meowbox.Lib.Fallible

/-!
# The registry of remote servers

Model of the transactions of `api/src/federation/remote-registry.service.ts`: what a mutation does
to the rows (`mutate`), and how `commitMutationDecision` puts it into one transaction with the next
generation, the rendering of the legacy file and a `PREPARED` journal entry (`transact`).

* The endpoints and cutovers of a server stand in its row; `RemoteServer` has the columns that a
  mutation or the projection reads or that decide on trust. What the rollout policy looks at besides
  them (freshness of transport and capabilities, canary evidence) is the parameter
  `rolloutDecision`.
* The journal is listed with the newest generation first, and an entry is named by its generation.
* Rendering is `renderLegacyRegistry` after `decryptLegacyCredentials` and
  `validateLegacyServerRecord`; ciphers, the parsing of URLs and certificates, and the text of the
  file are parameters (`RegistryHost`).
* `history` records enrolments, revocations, and preparations and rollbacks of cutovers, newest
  first, and steers nothing.

Every `now` is an argument of its call.
-/

namespace Meowbox.Registry

open Interleaved

/-! ## Rows -/

inductive EndpointState
  | candidate
  | active
  | previous
  | rolledBack
deriving DecidableEq

/-- Where an endpoint is; no statement changes it. -/
structure EndpointAddress where
  apiOrigin : String
  wsOrigin : String
  wsPath : String
  browserPublicOrigin : String
  directTransferOrigin : String
  sshHost : String
  sshPort : Nat
  spkiSha256 : String
  normalizedHash : String
deriving DecidableEq

structure RemoteEndpoint where
  generation : Nat
  state : EndpointState
  address : EndpointAddress
  verifiedAt : Option Nat
deriving DecidableEq

inductive CutoverState
  | prepared
  | staged
  | activated
  | needsAttention
  | finalized
  | rolledBack
deriving DecidableEq

/-- `CUTOVER_TERMINAL_STATES`. -/
def CutoverState.terminal : CutoverState → Bool
  | finalized => true
  | rolledBack => true
  | _ => false

structure RemoteEndpointCutover where
  id : String
  fromGeneration : Nat
  toGeneration : Nat
  state : CutoverState
  deadlineAt : Nat
  sanitizedErrorCode : Option String
deriving DecidableEq

inductive TrustState
  | unenrolled
  | active
  | failed
  | revoked
deriving DecidableEq

structure RemoteServer where
  id : String
  installationId : Option String
  displayName : String
  registryGeneration : Nat
  activationMode : String
  topologyMode : String
  targetManifestKid : Option String
  targetManifestPublicKeySpki : Option String
  trustState : TrustState
  trustReasonCode : Option String
  reasonCode : Option String
  activeEndpointGeneration : Option Nat
  candidateEndpointGeneration : Option Nat
  previousEndpointGeneration : Option Nat
  httpEnabled : Bool
  wsEnabled : Bool
  publicEnabled : Bool
  legacyEnabled : Bool
  legacyUrl : Option String
  legacyTokenEnc : Option String
  rolloutStage : String
  mutationFrozenAt : Option Nat
  endpoints : List RemoteEndpoint
  cutovers : List RemoteEndpointCutover
deriving DecidableEq

inductive RelationState
  | pending
  | active
  | revoked
deriving DecidableEq

structure FederationKey where
  kid : String
  publicKeySpki : String
  encryptedPrivateKey : Option String
  state : RelationState
  validFrom : Nat
  expiresAt : Option Nat
  revokedAt : Option Nat
deriving DecidableEq

structure FederationIssuer where
  id : String
  remoteServerId : Option String
  issuerInstallationId : String
  targetInstallationId : String
  state : RelationState
  revokedAt : Option Nat
  keys : List FederationKey
deriving DecidableEq

structure FederationEnrollment where
  id : String
  enrollmentRole : String
  state : String
  remoteServerId : Option String
  targetInstallationId : Option String
  targetManifestKid : Option String
  targetManifestKeySpki : Option String
  delegationIssuerId : Option String
deriving DecidableEq

inductive JournalState
  | prepared
  | committed
  | failed
  | imported
  | rolledBack
deriving DecidableEq

/-- A row of `RegistryProjectionJournal`. -/
structure Journal where
  registryGeneration : Nat
  state : JournalState
deriving DecidableEq

/-- What the legacy file lists of a server. -/
structure LegacyServerRecord where
  id : String
  name : String
  url : String
  token : String
  tlsCaCertificatePem : Option String
deriving DecidableEq

inductive RegistryErrorKind
  | badRequest
  | notFound
  | conflict
  | unavailable
  /-- What a statement, a cipher or the file system throws. -/
  | internal
deriving DecidableEq

structure RegistryError where
  kind : RegistryErrorKind
  message : String
deriving DecidableEq

def conflict (message : String) : Except RegistryError α := .error ⟨.conflict, message⟩

theorem conflict_ne_ok {message : String} {a : α} : conflict message ≠ .ok a := by
  unfold conflict
  intro h
  cases h

/-- The error of a statement on a row that is not there, or of a unique column. -/
def statementError : RegistryError := ⟨.internal, "database request failed"⟩

inductive RegistryEvent
  /-- A server was enrolled. -/
  | enrolled (serverId : String)
  /-- The trust in a server was revoked. -/
  | revoked (serverId : String)
  /-- A cutover was prepared, when this endpoint was active. -/
  | prepared (cutoverId : String) (active : Option RemoteEndpoint)
  /-- A cutover was rolled back, and now this endpoint is active. -/
  | rolledBack (cutoverId : String) (active : Option RemoteEndpoint)
deriving DecidableEq

structure PanelIdentity where
  installationId : String
  installationRole : String
deriving DecidableEq

/-- What a write of the legacy file does: the file is replaced, nothing happens, or the file is
replaced and a later call on it or on its directory fails. -/
inductive Disk
  | writes
  | fails
  | failsAfter
deriving DecidableEq

structure RegistryDb where
  identity : PanelIdentity
  remoteServer : List RemoteServer
  federationIssuer : List FederationIssuer
  federationEnrollment : List FederationEnrollment
  journal : List Journal
  file : String
  disk : Disk
  /-- The statements behind the write of the file fail. -/
  down : Bool
  history : List RegistryEvent

/-- The rollout asked for, and what the policy made of it. -/
structure RolloutSwitches where
  stage : String
  activationMode : String
  httpEnabled : Bool
  wsEnabled : Bool
  publicEnabled : Bool
  reasonCode : String
deriving DecidableEq

structure RolloutRequest where
  serverId : String
  requestKeyHash : String
  expectedRegistryGeneration : Nat
  stage : String
deriving DecidableEq

/-- What the verification of a manifest throws, if it does: a `FederationManifestVerificationError`
with the code `NOT_CURRENT` or another, or something else. -/
inductive ManifestVerdict
  | verified
  | notCurrent
  | invalid
  | throws (e : RegistryError)
deriving DecidableEq

structure RegistryHost where
  /-- `decryptLegacyCredentials`: the token and the certificate. -/
  decryptLegacyCredentials : (serverId encoded : String) →
    Except RegistryError (String × Option String)
  validateLegacyServerRecord : LegacyServerRecord → Except RegistryError LegacyServerRecord
  renderLegacyRegistry : List LegacyServerRecord → String
  encryptLegacyToken : (serverId token : String) → Option String → Except RegistryError String
  /-- `assertPublicHttpUrl`. -/
  assertPublicHttpUrl : String → Except RegistryError Unit
  endpointHash : EndpointAddress → String
  /-- The origins, path and pin of a candidate are well formed. -/
  endpointValid : EndpointAddress → Except RegistryError Unit
  cutoverIdValid : String → Bool
  /-- The request was answered before (`parseRolloutEvidence`). -/
  rolloutReplayed : RemoteServer → RolloutRequest → Except RegistryError Bool
  /-- The checks of `updateFederationRollout` behind the generation. -/
  rolloutDecision : RemoteServer → RolloutRequest → (now : Nat) →
    Except RegistryError RolloutSwitches
  /-- `verifier.verify`. -/
  verifyManifest : (manifest : String) → RemoteServer → (now : Nat) → ManifestVerdict

/-! ## The rendering -/

/-- `rowsToLegacyRecords`, of one row. -/
def toLegacyRecord (H : RegistryHost) (row : RemoteServer) :
    Except RegistryError LegacyServerRecord :=
  match row.legacyUrl.filter (· ≠ ""), row.legacyTokenEnc.filter (· ≠ "") with
  | some url, some encoded => do
    let (token, tlsCaCertificatePem) ← H.decryptLegacyCredentials row.id encoded
    H.validateLegacyServerRecord ⟨row.id, row.displayName, url, token, tlsCaCertificatePem⟩
  | _, _ => .error ⟨.internal, "Legacy projection is incomplete for server " ++ row.id⟩

/-- `rowsToLegacyRecords`. -/
def rowsToLegacyRecords (H : RegistryHost) (rows : List RemoteServer) :
    Except RegistryError (List LegacyServerRecord) :=
  (rows.filter RemoteServer.legacyEnabled).mapM (toLegacyRecord H)

/-- The text of the legacy file for the given rows, in the order of their ids. -/
def renderRows (H : RegistryHost) (rows : List RemoteServer) : Except RegistryError String := do
  let records ← rowsToLegacyRecords H (rows.mergeSort fun a b => decide (a.id ≤ b.id))
  return H.renderLegacyRegistry records

namespace RegistryDb

/-- `renderDbProjection`. -/
def renderDbProjection (H : RegistryHost) (x : RegistryDb) : Except RegistryError String :=
  renderRows H x.remoteServer

/-! ## Lookups and updates -/

def findServer (x : RegistryDb) (id : String) : Option RemoteServer :=
  x.remoteServer.find? fun row => row.id == id

/-- The issuers of a server. -/
def issuersOf (x : RegistryDb) (serverId : String) : List FederationIssuer :=
  x.federationIssuer.filter fun issuer => issuer.remoteServerId == some serverId

/-- The row that has the cutover, and the cutover. -/
def findCutover (x : RegistryDb) (id : String) : Option (RemoteServer × RemoteEndpointCutover) :=
  x.remoteServer.findSome? fun row =>
    (row.cutovers.find? fun c => c.id == id).map fun c => (row, c)

def updateServer (x : RegistryDb) (id : String) (f : RemoteServer → RemoteServer) : RegistryDb :=
  { x with remoteServer := x.remoteServer.map fun row => if row.id == id then f row else row }

def updateIssuers (x : RegistryDb) (p : FederationIssuer → Bool)
    (f : FederationIssuer → FederationIssuer) : RegistryDb :=
  { x with
    federationIssuer := x.federationIssuer.map fun issuer =>
      if p issuer = true then f issuer else issuer }

def record (x : RegistryDb) (event : RegistryEvent) : RegistryDb :=
  { x with history := event :: x.history }

/-- `nextGeneration`. -/
def nextGeneration (x : RegistryDb) : Nat :=
  ((x.journal.head?.map Journal.registryGeneration).getD 0) + 1

end RegistryDb

namespace RemoteServer

/-- The endpoint that is active and has the active generation. -/
def activeEndpoint? (row : RemoteServer) : Option RemoteEndpoint :=
  row.endpoints.find? fun e =>
    decide (some e.generation = row.activeEndpointGeneration) && decide (e.state = .active)

/-- `remoteEndpoint.update` by generation: the state. -/
def setEndpoint (row : RemoteServer) (generation : Nat) (state : EndpointState) : RemoteServer :=
  { row with endpoints := row.endpoints.map fun e =>
      if e.generation = generation then { e with state := state } else e }

/-- `remoteEndpointCutover.update`. -/
def setCutover (row : RemoteServer) (id : String) (state : CutoverState)
    (sanitizedErrorCode : Option String) : RemoteServer :=
  { row with cutovers := row.cutovers.map fun c =>
      if c.id == id then { c with state := state, sanitizedErrorCode := sanitizedErrorCode }
      else c }

/-- The greatest generation of an endpoint, or zero. -/
def lastGeneration (row : RemoteServer) : Nat :=
  (row.endpoints.map RemoteEndpoint.generation).foldl max 0

end RemoteServer

/-! ## Mutations -/

/-- What a mutation returns. -/
inductive RegistryValue
  | record (record : LegacyServerRecord)
  | cutover (cutover : RemoteEndpointCutover)
  | server (id : String)
  | revoked (replayed : Bool)
  | rotation (previousKid newKid : String) (replayed : Bool)
  | activated (kid : String) (replayed : Bool)
  | rollout (replayed : Bool)
  | ingested
  | done
deriving DecidableEq

/-- `changed`, the value, and the rows as the mutation leaves them. -/
abbrev Decision : Type := Except RegistryError (Bool × RegistryValue × RegistryDb)

structure EnrollmentCommit where
  enrollmentId : String
  issuerId : String
  displayName : String
  targetInstallationId : String
  targetManifestKid : String
  targetManifestPublicKeySpki : String
  endpoint : EndpointAddress
  now : Nat
deriving DecidableEq

section Mutations

variable (H : RegistryHost) (x : RegistryDb) (generation : Nat)

/-- `updateFederationRollout`. -/
def updateFederationRollout (input : RolloutRequest) (now : Nat) : Decision :=
  match x.findServer input.serverId with
  | none => .error ⟨.notFound, "Federated remote server not found"⟩
  | some server =>
    if server.installationId.isNone then
      .error ⟨.notFound, "Federated remote server not found"⟩
    else
      match H.rolloutReplayed server input with
      | .error e => .error e
      | .ok true => .ok (false, .rollout true, x)
      | .ok false =>
        if server.registryGeneration ≠ input.expectedRegistryGeneration then
          conflict "Remote registry generation changed"
        else
          match H.rolloutDecision server input now with
          | .error e => .error e
          | .ok switches =>
            .ok (true, .rollout false, x.updateServer server.id fun row => { row with
              registryGeneration := generation
              rolloutStage := switches.stage
              activationMode := switches.activationMode
              httpEnabled := switches.httpEnabled
              wsEnabled := switches.wsEnabled
              publicEnabled := switches.publicEnabled
              legacyEnabled := false
              reasonCode := some switches.reasonCode })

/-- The issuer of this panel for the server, with trust. -/
def trustedIssuer (server : RemoteServer) : Option FederationIssuer :=
  (x.issuersOf server.id).find? fun issuer =>
    issuer.issuerInstallationId == x.identity.installationId &&
      some issuer.targetInstallationId == server.installationId &&
      decide (issuer.state = .active) && issuer.revokedAt.isNone

/-- `prepareFederationKeyRotation`; `key` is the generated key, for the target it was read for. -/
def prepareFederationKeyRotation (serverId targetInstallationId : String) (key : FederationKey)
    (now : Nat) : Decision :=
  match x.findServer serverId with
  | none => conflict "Federated target identity changed"
  | some server =>
    if server.installationId ≠ some targetInstallationId then
      conflict "Federated target identity changed"
    else
      match trustedIssuer x server with
      | none => conflict "Active federation relationship key is unavailable"
      | some issuer =>
        let previous := issuer.keys.find? fun k =>
          decide (k.state = .active) && k.revokedAt.isNone && k.encryptedPrivateKey.isSome &&
            decide (k.validFrom ≤ now) && k.expiresAt.all fun t => decide (now < t)
        match previous with
        | none => conflict "Active federation relationship key is unavailable"
        | some previous =>
          match issuer.keys.filter fun k =>
            decide (k.state = .pending) && k.revokedAt.isNone && k.encryptedPrivateKey.isSome with
          | [pending] => .ok (false, .rotation previous.kid pending.kid true, x)
          | _ :: _ :: _ => conflict "Federation key rotation state is inconsistent"
          | [] =>
            if x.federationIssuer.any fun i => i.keys.any fun k => k.kid == key.kid then
              .error statementError
            else
              let created := x.updateIssuers (fun i => i.id == issuer.id) fun i =>
                { i with keys := i.keys ++
                  [{ key with state := .pending, validFrom := now, revokedAt := none }] }
              .ok (true, .rotation previous.kid key.kid false,
                created.updateServer server.id fun row => { row with
                  registryGeneration := generation
                  reasonCode := some "KEY_ROTATION_PENDING" })

/-- `activateFederationKeyRotation`. -/
def activateFederationKeyRotation (serverId newKid : String) (graceUntil now : Nat) : Decision :=
  match x.findServer serverId with
  | none => .error ⟨.notFound, "Federated remote server not found"⟩
  | some server =>
    if server.installationId.isNone then
      .error ⟨.notFound, "Federated remote server not found"⟩
    else
      match trustedIssuer x server with
      | none => conflict "Pending federation relationship key is unavailable"
      | some issuer =>
        match issuer.keys.find? fun k => k.kid == newKid with
        | none => conflict "Pending federation relationship key is unavailable"
        | some next =>
          if next.encryptedPrivateKey.isNone ∨ next.revokedAt.isSome then
            conflict "Pending federation relationship key is unavailable"
          else if next.state = .active then .ok (false, .activated next.kid true, x)
          else if next.state ≠ .pending then conflict "Federation key cannot be activated"
          else
            let rotated := x.updateIssuers (fun i => i.id == issuer.id) fun i =>
              { i with keys := i.keys.map fun k =>
                  if k.kid = next.kid then { k with state := .active, validFrom := now }
                  else if k.state = .active ∧ k.revokedAt.isNone then
                    { k with expiresAt := some graceUntil }
                  else k }
            .ok (true, .activated next.kid false, rotated.updateServer server.id fun row =>
              { row with
                registryGeneration := generation
                trustState := .active
                trustReasonCode := some "READY"
                reasonCode := some "READY" })

/-- `revokeFederationTrust`. -/
def revokeFederationTrust (serverId : String) (now : Nat) : Decision :=
  match x.findServer serverId with
  | none => .error ⟨.notFound, "Federated remote server not found"⟩
  | some server =>
    if server.installationId.isNone then
      .error ⟨.notFound, "Federated remote server not found"⟩
    else if (x.issuersOf server.id).all (fun issuer => issuer.revokedAt.isSome) ∧
        server.trustState = .revoked ∧ !server.httpEnabled ∧ !server.wsEnabled ∧
        !server.publicEnabled then
      .ok (false, .revoked true, x)
    else
      let revoked := x.updateIssuers
        (fun i => i.remoteServerId == some server.id && i.revokedAt.isNone) fun i =>
          { i with
            state := .revoked
            revokedAt := some now
            keys := i.keys.map fun k =>
              if k.revokedAt.isNone then
                { k with state := .revoked, revokedAt := some now, expiresAt := some now }
              else k }
      .ok (true, .revoked false,
        (revoked.updateServer server.id fun row => { row with
          registryGeneration := generation
          activationMode := "DISABLED"
          rolloutStage := "DISABLED"
          httpEnabled := false
          wsEnabled := false
          publicEnabled := false
          legacyEnabled := false
          trustState := .revoked
          trustReasonCode := some "TRUST_REVOKED"
          reasonCode := some "TRUST_REVOKED" }).record (.revoked server.id))

/-- `addLegacyServer`; the record is validated and its token encrypted. -/
def addLegacyServer (record : LegacyServerRecord) (tokenEnc : String) : Decision :=
  if x.remoteServer.any fun row => row.id == record.id || row.displayName == record.name then
    .error statementError
  else
    .ok (true, .record record, { x with remoteServer := x.remoteServer ++ [{
      id := record.id
      installationId := none
      displayName := record.name
      registryGeneration := generation
      activationMode := "LEGACY_UPGRADE_ONLY"
      topologyMode := "PUBLIC"
      targetManifestKid := none
      targetManifestPublicKeySpki := none
      trustState := .unenrolled
      trustReasonCode := none
      reasonCode := some "LEGACY_UPGRADE_REQUIRED"
      activeEndpointGeneration := none
      candidateEndpointGeneration := none
      previousEndpointGeneration := none
      httpEnabled := false
      wsEnabled := false
      publicEnabled := false
      legacyEnabled := true
      legacyUrl := some record.url
      legacyTokenEnc := some tokenEnc
      rolloutStage := "DISABLED"
      mutationFrozenAt := none
      endpoints := []
      cutovers := [] }] })

/-- `updateLegacyServer`, with the record as it is to be. -/
def updateLegacyServer (next : LegacyServerRecord) (tokenEnc : String) : Decision :=
  if (x.findServer next.id).isNone ∨
      x.remoteServer.any (fun row => row.id != next.id && row.displayName == next.name) then
    .error statementError
  else
    .ok (true, .record next, x.updateServer next.id fun row => { row with
      displayName := next.name
      legacyUrl := some next.url
      legacyTokenEnc := some tokenEnc
      registryGeneration := generation })

/-- `removeLegacyServer`; the endpoints and cutovers of a row go with it, and issuers lose it. -/
def removeLegacyServer (id : String) : Decision :=
  if (x.findServer id).isNone then .error statementError
  else
    .ok (true, .done, { x.updateIssuers (fun i => i.remoteServerId == some id) (fun i =>
        { i with remoteServerId := none }) with
      remoteServer := x.remoteServer.filter fun row => row.id != id })

/-- `commitFederatedEnrollment`; its evaluation of the manifest is a check of its call. -/
def commitFederatedEnrollment (input : EnrollmentCommit) : Decision :=
  match x.federationEnrollment.find? fun e => e.id == input.enrollmentId,
    x.federationIssuer.find? fun i => i.id == input.issuerId with
  | some enrollment, some issuer =>
    match issuer.keys with
    | [key] =>
      if enrollment.enrollmentRole ≠ "CONTROL_PLANE" ∨ enrollment.state ≠ "MANIFEST_VERIFIED" ∨
          enrollment.remoteServerId.isSome ∨
          enrollment.targetInstallationId ≠ some input.targetInstallationId ∨
          enrollment.targetManifestKid ≠ some input.targetManifestKid ∨
          enrollment.targetManifestKeySpki ≠ some input.targetManifestPublicKeySpki ∨
          enrollment.delegationIssuerId ≠ some input.issuerId ∨
          issuer.remoteServerId.isSome ∨
          issuer.targetInstallationId ≠ input.targetInstallationId ∨ issuer.state ≠ .pending ∨
          key.state ≠ .pending ∨ key.encryptedPrivateKey.isNone then
        conflict "Federation enrollment state changed"
      else if x.remoteServer.any fun row => row.id == input.enrollmentId ||
          row.displayName == input.displayName ||
          row.installationId == some input.targetInstallationId then
        .error statementError
      else
        let linked := x.updateIssuers (fun i => i.id == issuer.id) fun i =>
          { i with
            remoteServerId := some input.enrollmentId
            state := .active
            keys := i.keys.map fun k => { k with state := .active } }
        .ok (true, .server input.enrollmentId, { linked with
          remoteServer := x.remoteServer ++ [{
            id := input.enrollmentId
            installationId := some input.targetInstallationId
            displayName := input.displayName
            registryGeneration := generation
            activationMode := "DISABLED"
            topologyMode := "PUBLIC"
            targetManifestKid := some input.targetManifestKid
            targetManifestPublicKeySpki := some input.targetManifestPublicKeySpki
            trustState := .active
            trustReasonCode := some "READY"
            reasonCode := some "ACTIVATION_DISABLED"
            activeEndpointGeneration := some 1
            candidateEndpointGeneration := none
            previousEndpointGeneration := none
            httpEnabled := false
            wsEnabled := false
            publicEnabled := false
            legacyEnabled := false
            legacyUrl := none
            legacyTokenEnc := none
            rolloutStage := "DISABLED"
            mutationFrozenAt := none
            endpoints := [⟨1, .active, input.endpoint, some input.now⟩]
            cutovers := [] }]
          federationEnrollment := x.federationEnrollment.map fun e =>
            if e.id == enrollment.id then
              { e with remoteServerId := some input.enrollmentId, state := "COMPLETED" }
            else e
          history := .enrolled input.enrollmentId :: x.history })
    | _ => conflict "Federation enrollment state changed"
  | _, _ => conflict "Federation enrollment state changed"

/-! ### Endpoint cutovers -/

/-- `prepareEndpointCutover`. -/
def prepareEndpointCutover (cutoverId remoteServerId : String) (deadlineAt : Nat) : Decision :=
  match x.findServer remoteServerId with
  | none => conflict "Remote server is not ready for endpoint cutover"
  | some server =>
    if server.installationId.isNone ∨ server.activeEndpointGeneration.all (· = 0) ∨
        server.trustState ≠ .active ∨ server.topologyMode ≠ "PUBLIC" then
      conflict "Remote server is not ready for endpoint cutover"
    else
      match server.cutovers.find? fun c => !c.state.terminal with
      | some c =>
        if c.id == cutoverId then .ok (true, .cutover c, x)
        else conflict "Another endpoint cutover is already active"
      | none =>
        match server.activeEndpoint? with
        | none => conflict "Active endpoint is not verified"
        | some active =>
          if active.verifiedAt.isNone then conflict "Active endpoint is not verified"
          else if x.remoteServer.any fun row => row.cutovers.any fun c => c.id == cutoverId then
            .error statementError
          else
            let cutover : RemoteEndpointCutover :=
              ⟨cutoverId, active.generation, server.lastGeneration + 1, .prepared, deadlineAt, none⟩
            .ok (true, .cutover cutover,
              (x.updateServer server.id fun row => { row with
                cutovers := row.cutovers ++ [cutover]
                registryGeneration := generation
                reasonCode := some "ENDPOINT_CUTOVER" }).record
                  (.prepared cutoverId (some active)))

/-- `stageEndpointCutover`; of `address`, the SSH address and the hash are not read. -/
def stageEndpointCutover (cutoverId : String) (address : EndpointAddress) (now : Nat) : Decision :=
  match x.findCutover cutoverId with
  | none => .error ⟨.notFound, "Endpoint cutover not found"⟩
  | some (server, cutover) =>
    if cutover.state = .staged then .ok (true, .cutover cutover, x)
    else if cutover.state ≠ .prepared then conflict "Endpoint cutover cannot stage"
    else if server.activeEndpointGeneration ≠ some cutover.fromGeneration ∨
        server.candidateEndpointGeneration.isSome ∨ cutover.deadlineAt ≤ now then
      conflict "Endpoint cutover registry state changed"
    else
      match server.endpoints.find? fun e =>
        decide (e.generation = cutover.fromGeneration) && decide (e.state = .active) with
      | none => conflict "Active endpoint disappeared"
      | some active =>
        if server.endpoints.any fun e => decide (e.generation = cutover.toGeneration) then
          .error statementError
        else
          let candidate : RemoteEndpoint := {
            generation := cutover.toGeneration
            state := .candidate
            address := { address with
              sshHost := active.address.sshHost
              sshPort := active.address.sshPort
              normalizedHash := H.endpointHash address }
            verifiedAt := some now }
          .ok (true, .cutover { cutover with state := .staged, sanitizedErrorCode := none },
            x.updateServer server.id fun row =>
              { row with
                endpoints := row.endpoints ++ [candidate]
                candidateEndpointGeneration := some cutover.toGeneration
                registryGeneration := generation
                reasonCode := some "ENDPOINT_CUTOVER" }.setCutover cutoverId .staged none)

/-- `activateEndpointCutover`. -/
def activateEndpointCutover (cutoverId : String) (now : Nat) : Decision :=
  match x.findCutover cutoverId with
  | none => .error ⟨.notFound, "Endpoint cutover not found"⟩
  | some (server, cutover) =>
    if cutover.state = .activated ∨ cutover.state = .finalized then
      .ok (true, .cutover cutover, x)
    else if cutover.state ≠ .staged ∨ cutover.deadlineAt ≤ now then
      conflict "Endpoint cutover cannot activate"
    else
      let candidate := server.endpoints.find? fun e =>
        decide (e.generation = cutover.toGeneration) && decide (e.state = .candidate)
      if server.activeEndpointGeneration ≠ some cutover.fromGeneration ∨
          server.candidateEndpointGeneration ≠ some cutover.toGeneration ∨
          (candidate.bind RemoteEndpoint.verifiedAt).isNone then
        conflict "Endpoint cutover candidate is not activation-safe"
      else
        .ok (true, .cutover { cutover with state := .activated, sanitizedErrorCode := none },
          x.updateServer server.id fun row =>
            ({ ((row.setEndpoint cutover.fromGeneration .previous).setEndpoint
                cutover.toGeneration .active) with
              activeEndpointGeneration := some cutover.toGeneration
              candidateEndpointGeneration := none
              previousEndpointGeneration := some cutover.fromGeneration
              registryGeneration := generation
              reasonCode := some "ENDPOINT_CUTOVER" }).setCutover cutoverId .activated none)

/-- `finalizeEndpointCutover`. -/
def finalizeEndpointCutover (cutoverId : String) : Decision :=
  match x.findCutover cutoverId with
  | none => .error ⟨.notFound, "Endpoint cutover not found"⟩
  | some (server, cutover) =>
    if cutover.state = .finalized then .ok (true, .cutover cutover, x)
    else if (cutover.state ≠ .activated ∧ cutover.state ≠ .needsAttention) ∨
        server.activeEndpointGeneration ≠ some cutover.toGeneration then
      conflict "Endpoint cutover cannot finalize"
    else
      .ok (true, .cutover { cutover with state := .finalized, sanitizedErrorCode := none },
        x.updateServer server.id fun row =>
          { row with
            registryGeneration := generation
            reasonCode := some "READY" }.setCutover cutoverId .finalized none)

/-- `markEndpointCutoverNeedsAttention`. -/
def markEndpointCutoverNeedsAttention (cutoverId code : String) : Decision :=
  match x.findCutover cutoverId with
  | none => .error ⟨.notFound, "Endpoint cutover not found"⟩
  | some (server, cutover) =>
    if cutover.state.terminal then .ok (true, .cutover cutover, x)
    else
      .ok (true, .cutover { cutover with
          state := .needsAttention, sanitizedErrorCode := some (code.take 64).toString },
        x.updateServer server.id fun row =>
          { row with
            registryGeneration := generation
            reasonCode := some "ENDPOINT_CUTOVER_NEEDS_ATTENTION" }.setCutover cutoverId
              .needsAttention (some (code.take 64).toString))

/-- The endpoints as a rollback leaves them; `staged` is whether the cutover has its endpoint. -/
def RemoteServer.restore (row : RemoteServer) (cutover : RemoteEndpointCutover) (staged : Bool) :
    RemoteServer :=
  { (if row.activeEndpointGeneration = some cutover.toGeneration then
      (row.setEndpoint cutover.fromGeneration .active).setEndpoint cutover.toGeneration .rolledBack
    else row.setEndpoint cutover.toGeneration .rolledBack) with
    activeEndpointGeneration := some cutover.fromGeneration
    candidateEndpointGeneration := none
    previousEndpointGeneration :=
      if staged then some cutover.toGeneration else row.previousEndpointGeneration
    registryGeneration := generation
    reasonCode := some "READY" }

/-- `rollbackEndpointCutover`. -/
def rollbackEndpointCutover (cutoverId code : String) : Decision :=
  match x.findCutover cutoverId with
  | none => .error ⟨.notFound, "Endpoint cutover not found"⟩
  | some (server, cutover) =>
    if cutover.state = .rolledBack then .ok (true, .cutover cutover, x)
    else if cutover.state = .finalized then
      conflict "Finalized endpoint cutover requires an explicit recovery cutover"
    else
      let origin := server.endpoints.find? fun e => decide (e.generation = cutover.fromGeneration)
      let target := server.endpoints.find? fun e => decide (e.generation = cutover.toGeneration)
      if (origin.bind RemoteEndpoint.verifiedAt).isNone then
        conflict "Previous endpoint is not rollback-safe"
      else if server.activeEndpointGeneration ≠ some cutover.toGeneration ∧
          server.activeEndpointGeneration ≠ some cutover.fromGeneration then
        conflict "Endpoint cutover active generation is inconsistent"
      else if server.activeEndpointGeneration = some cutover.toGeneration ∧ target.isNone then
        conflict "Activated endpoint cutover state is inconsistent"
      else
        let restored := fun row : RemoteServer =>
          (RemoteServer.restore generation row cutover target.isSome).setCutover cutoverId
            .rolledBack (some (code.take 64).toString)
        .ok (true, .cutover { cutover with
            state := .rolledBack, sanitizedErrorCode := some (code.take 64).toString },
          (x.updateServer server.id restored).record
            (.rolledBack cutoverId (restored server).activeEndpoint?))

end Mutations

/-- The mutations, each with what it was called with. -/
inductive Mutation
  | updateFederationRollout (input : RolloutRequest) (now : Nat)
  | prepareFederationKeyRotation (serverId targetInstallationId : String) (key : FederationKey)
      (now : Nat)
  | activateFederationKeyRotation (serverId newKid : String) (graceUntil now : Nat)
  | revokeFederationTrust (serverId : String) (now : Nat)
  | addLegacyServer (record : LegacyServerRecord) (tokenEnc : String)
  | updateLegacyServer (next : LegacyServerRecord) (tokenEnc : String)
  | removeLegacyServer (id : String)
  | commitFederatedEnrollment (input : EnrollmentCommit)
  | prepareEndpointCutover (cutoverId remoteServerId : String) (deadlineAt : Nat)
  | stageEndpointCutover (cutoverId : String) (address : EndpointAddress) (now : Nat)
  | activateEndpointCutover (cutoverId : String) (now : Nat)
  | finalizeEndpointCutover (cutoverId : String)
  | markEndpointCutoverNeedsAttention (cutoverId code : String)
  | rollbackEndpointCutover (cutoverId code : String)
deriving DecidableEq

/-- `mutate`, the function that a method passes to `commitMutation`. -/
def mutate (H : RegistryHost) (x : RegistryDb) (generation : Nat) : Mutation → Decision
  | .updateFederationRollout input now => updateFederationRollout H x generation input now
  | .prepareFederationKeyRotation serverId target key now =>
    prepareFederationKeyRotation x generation serverId target key now
  | .activateFederationKeyRotation serverId newKid graceUntil now =>
    activateFederationKeyRotation x generation serverId newKid graceUntil now
  | .revokeFederationTrust serverId now => revokeFederationTrust x generation serverId now
  | .addLegacyServer record tokenEnc => addLegacyServer x generation record tokenEnc
  | .updateLegacyServer next tokenEnc => updateLegacyServer x generation next tokenEnc
  | .removeLegacyServer id => removeLegacyServer x id
  | .commitFederatedEnrollment input => commitFederatedEnrollment x generation input
  | .prepareEndpointCutover cutoverId remoteServerId deadlineAt =>
    prepareEndpointCutover x generation cutoverId remoteServerId deadlineAt
  | .stageEndpointCutover cutoverId address now =>
    stageEndpointCutover H x generation cutoverId address now
  | .activateEndpointCutover cutoverId now => activateEndpointCutover x generation cutoverId now
  | .finalizeEndpointCutover cutoverId => finalizeEndpointCutover x generation cutoverId
  | .markEndpointCutoverNeedsAttention cutoverId code =>
    markEndpointCutoverNeedsAttention x generation cutoverId code
  | .rollbackEndpointCutover cutoverId code => rollbackEndpointCutover x generation cutoverId code

/-- What the transaction of a mutation returns: the journal entry and the projection, when the rows
have changed. -/
structure Prepared where
  projection : Option (Nat × String)
  value : RegistryValue
deriving DecidableEq

/-- The transaction of `commitMutationDecision`. -/
def transact (H : RegistryHost) (m : Mutation) (x : RegistryDb) :
    Except RegistryError Prepared × RegistryDb :=
  if x.remoteServer.any fun row => row.mutationFrozenAt.isSome then
    (.error ⟨.unavailable, "Remote registry is frozen"⟩, x)
  else
    match mutate H x x.nextGeneration m with
    | .error e => (.error e, x)
    | .ok (false, value, _) => (.ok ⟨none, value⟩, x)
    | .ok (true, value, x') =>
      match x'.renderDbProjection H with
      | .error e => (.error e, x)
      | .ok projection =>
        (.ok ⟨some (x.nextGeneration, projection), value⟩,
          { x' with journal := ⟨x.nextGeneration, .prepared⟩ :: x'.journal })

end Meowbox.Registry
