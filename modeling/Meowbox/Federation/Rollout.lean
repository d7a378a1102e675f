import Meowbox.Federation.Registry
import Meowbox.Federation.RolloutPolicy
import Meowbox.Lib.Ladder

/-!
# Rollouts of federated servers

`updateFederationRollout` in full, and everything else that writes rows of `RemoteServer`, as steps
over the registry. What the policy reads of a server and `RegistryStore` leaves out stands in
`RolloutColumns`; the transaction itself is `transact` of the registry, of which `rolloutHost`
instantiates the two functions that stood for the policy.

* A rollout and a revocation of trust are made at a time, and times do not fall along a run. The
  other steps may come between them in any number and order: mutations, statements of other methods,
  probes, the import of the legacy file and the return of the authority to it.
* A row that a step creates starts with the defaults of its columns.
* The record of the last request is JSON in the source, which reads back what it has written.
* `climbs` and `applied` record how a server came to its stage and which requests were applied,
  newest first, and steer nothing.
-/

namespace Meowbox.Registry

open FederationRolloutStage Ladder

/-! ## Columns and states -/

/-- `rolloutEvidenceJson`. -/
structure RolloutRecord where
  requestKeyHash : String
  requestFingerprint : String
  stage : FederationRolloutStage
  reason : String
  recordedAt : Nat
  switches : TrafficSwitches
  evidence : Option FederationCanaryEvidence
  decision : Option FederationCanaryDecision
deriving DecidableEq

structure RolloutColumns where
  status : ServerStatus
  rolloutStageStartedAt : Option Nat
  rolloutEvidence : Option RolloutRecord
  rolloutApprovedAt : Option Nat
deriving DecidableEq

/-- The defaults of the columns. -/
def RolloutColumns.initial (status : ServerStatus) : RolloutColumns := ⟨status, none, none, none⟩

/-- A request that was applied, and the generation it has made. -/
structure RolloutChange where
  input : UpdateFederationRolloutInput
  generation : Nat
deriving DecidableEq

structure RolloutDb where
  registry : RegistryDb
  /-- By the id of the server. -/
  columns : String → RolloutColumns
  /-- The time of the last rollout or revocation. -/
  clock : Nat
  climbs : String → Climb
  applied : List RolloutChange

/-- The functions the registry takes as they are, and `rolloutRequestFingerprint`. -/
structure RolloutHost where
  base : RegistryHost
  rolloutRequestFingerprint : FederationRolloutRequest → String

/-- Sixty-four hexadecimal digits. -/
def requestKeyHashValid (hash : String) : Bool :=
  hash.length == 64 && hash.toList.all fun c =>
    decide ('0' ≤ c) && decide (c ≤ '9') || decide ('a' ≤ c) && decide (c ≤ 'f')

/-! ## `updateFederationRollout` -/

section Update

variable (H : RolloutHost) (x : RolloutDb) (input : UpdateFederationRolloutInput)

/-- The look at the stage and at the record of the last request. -/
def rolloutReplayed (server : RemoteServer) : Except RegistryError Bool :=
  if (ofName? server.rolloutStage).isNone then
    .error ⟨.unavailable, "Federation rollout state is invalid"⟩
  else
    match (x.columns server.id).rolloutEvidence with
    | none => .ok false
    | some persisted =>
      if persisted.requestKeyHash ≠ input.requestKeyHash then .ok false
      else if persisted.requestFingerprint ≠
          H.rolloutRequestFingerprint input.toFederationRolloutRequest then
        conflict "Idempotency-Key is already bound to another rollout request"
      else .ok true

/-- The policy on the server. -/
def rolloutPolicy (server : RemoteServer) (now : Nat) :
    Except RegistryError (TrafficSwitches × Option FederationCanaryDecision) :=
  match ofName? server.rolloutStage with
  | none => .error ⟨.unavailable, "Federation rollout state is invalid"⟩
  | some currentStage =>
    decideRollout server currentStage (x.columns server.id).status
      (x.columns server.id).rolloutStageStartedAt input.toFederationRolloutRequest now

/-- The registry for one request. -/
def rolloutHost : RegistryHost :=
  { H.base with
    rolloutReplayed := fun server _ => rolloutReplayed H x input server
    rolloutDecision := fun server _ now =>
      match rolloutPolicy x input server now with
      | .error e => .error e
      | .ok (switches, _) => .ok {
          stage := input.stage.name
          activationMode := input.stage.activationMode
          httpEnabled := switches.httpEnabled
          wsEnabled := switches.wsEnabled
          publicEnabled := switches.publicEnabled
          reasonCode := if input.stage = disabled ∨ input.stage = observe then "DISABLED"
            else "READY" } }

/-- The transaction of the request. -/
def rolloutTransact (now : Nat) : Except RegistryError Prepared × RegistryDb :=
  transact (rolloutHost H x input) (.updateFederationRollout
    ⟨input.serverId, input.requestKeyHash, input.expectedRegistryGeneration, input.stage.name⟩ now)
    x.registry

/-- The columns that an update writes on the server. -/
def updatedColumns (server : RemoteServer) (now : Nat) (switches : TrafficSwitches)
    (decision : Option FederationCanaryDecision) : RolloutColumns :=
  let columns := x.columns server.id
  { columns with
    rolloutStageStartedAt :=
      if server.rolloutStage ≠ input.stage.name ∨ columns.rolloutStageStartedAt.isNone then some now
      else columns.rolloutStageStartedAt
    rolloutEvidence := some {
      requestKeyHash := input.requestKeyHash
      requestFingerprint := H.rolloutRequestFingerprint input.toFederationRolloutRequest
      stage := input.stage
      reason := input.reason
      recordedAt := now
      switches := switches
      evidence := input.evidence
      decision := decision }
    rolloutApprovedAt := if canary5.index ≤ input.stage.index then some now else none }

/-- `updateFederationRollout`. -/
def RolloutDb.update (now : Nat) : Except RegistryError Prepared × RolloutDb :=
  if !requestKeyHashValid input.requestKeyHash then
    (.error ⟨.badRequest, "Rollout request identity is invalid"⟩, x)
  else
    match rolloutTransact H x input now, x.registry.findServer input.serverId with
    | (.ok ⟨some (generation, projection), value⟩, registry), some server =>
      match rolloutPolicy x input server now with
      | .error e => (.error e, x)
      | .ok (switches, decision) =>
        (.ok ⟨some (generation, projection), value⟩, { x with
          registry := registry
          columns := Function.update x.columns input.serverId
            (updatedColumns H x input server now switches decision)
          climbs := Function.update x.climbs input.serverId
            ((x.climbs input.serverId).move input.stage.index now)
          applied := ⟨input, generation⟩ :: x.applied })
    | (result, _), _ => (result, x)

end Update

/-! ## The other writers -/

/-- The row of the server has appeared. -/
def rowCreated (before after : RegistryDb) (id : String) : Bool :=
  (before.findServer id).isNone && (after.findServer id).isSome

/-- The registry after other writes, with the columns of the rows that have appeared. -/
def RolloutDb.advance (x : RolloutDb) (registry : RegistryDb) (status : ServerStatus) : RolloutDb :=
  { x with
    registry := registry
    columns := fun id =>
      if rowCreated x.registry registry id = true then .initial status else x.columns id
    climbs := fun id =>
      if rowCreated x.registry registry id = true then .start x.clock else x.climbs id }

/-- `revokeFederationTrust`. -/
def RolloutDb.revoke (H : RolloutHost) (x : RolloutDb) (serverId : String) (now : Nat) :
    RolloutDb :=
  match transact H.base (.revokeFederationTrust serverId now) x.registry with
  | (.ok ⟨some _, _⟩, registry) => { x with
      registry := registry
      columns := Function.update x.columns serverId { x.columns serverId with
        rolloutStageStartedAt := some now
        rolloutEvidence := none
        rolloutApprovedAt := none }
      climbs := Function.update x.climbs serverId ((x.climbs serverId).move disabled.index now) }
  | _ => x

/-- The mutations that write no columns of the rollout. -/
def Mutation.writesRollout : Mutation → Bool
  | .updateFederationRollout _ _ => true
  | .revokeFederationTrust _ _ => true
  | _ => false

def RegistryInstr.isTransact : RegistryInstr → Bool
  | .transact _ => true
  | _ => false

/-- One record of `importAuthoritativeJson`, with its encrypted token. -/
def importRecord (generation : Nat) (x : RegistryDb) (record : LegacyServerRecord × String) :
    Except RegistryError RegistryDb :=
  match x.findServer record.1.id with
  | some existing =>
    if existing.mutationFrozenAt.isSome then conflict "Remote registry is frozen"
    else if x.remoteServer.any (fun row =>
        row.id != record.1.id && row.displayName == record.1.name) then
      conflict "Legacy registry conflicts with an existing server identity"
    else
      .ok (x.updateServer record.1.id fun row => { row with
        displayName := record.1.name
        registryGeneration := generation
        legacyEnabled := true
        legacyUrl := some record.1.url
        legacyTokenEnc := some record.2 })
  | none =>
    match addLegacyServer x generation record.1 record.2 with
    | .ok (_, _, x') => .ok x'
    | .error _ => conflict "Legacy registry conflicts with an existing server identity"

/-- `importAuthoritativeJson`, of a file that was not imported last. -/
def importAuthoritativeJson (x : RegistryDb) (records : List (LegacyServerRecord × String)) :
    Except RegistryError RegistryDb :=
  if x.authority ≠ .json then conflict "Legacy JSON is not authoritative"
  else
    match records.foldlM (importRecord x.nextGeneration) x with
    | .error e => .error e
    | .ok x' => .ok { x' with journal := ⟨x.nextGeneration, .imported⟩ :: x'.journal }

/-- The transaction of `rollbackAuthorityToJson`. -/
def rollbackAuthorityToJson (x : RegistryDb) : RegistryDb :=
  { x.setFrozen none with journal := ⟨x.nextGeneration, .rolledBack⟩ :: x.journal }

/-! ## Steps -/

inductive RolloutEvent
  | updateFederationRollout (input : UpdateFederationRolloutInput) (now : Nat)
  | revokeFederationTrust (serverId : String) (now : Nat)
  /-- Another mutation, and the status that a row it creates has. -/
  | mutation (m : Mutation) (status : ServerStatus)
  /-- A statement of a method outside its transaction, or of the change of authority to the
  database. -/
  | statement (i : RegistryInstr)
  | outside (change : RegistryChange)
  /-- What is known of a server is recorded. -/
  | probe (serverId : String) (status : ServerStatus)
  | importAuthoritativeJson (records : List (LegacyServerRecord × String)) (status : ServerStatus)
  | rollbackAuthorityToJson

/-- A step; `none` when the time would fall, or the event is another one. -/
def RolloutDb.step (H : RolloutHost) (x : RolloutDb) : RolloutEvent → Option RolloutDb
  | .updateFederationRollout input now =>
    if now < x.clock then none else some { (x.update H input now).2 with clock := now }
  | .revokeFederationTrust serverId now =>
    if now < x.clock then none else some { x.revoke H serverId now with clock := now }
  | .mutation m status =>
    if m.writesRollout then none else some (x.advance (transact H.base m x.registry).2 status)
  | .statement i =>
    if i.isTransact then none else some { x with registry := (answer H.base i x.registry).2 }
  | .outside change => some { x with registry := x.registry.outside change }
  | .probe serverId status => some { x with
      columns := Function.update x.columns serverId { x.columns serverId with status := status } }
  | .importAuthoritativeJson records status =>
    match Registry.importAuthoritativeJson x.registry records with
    | .error _ => some x
    | .ok registry => some (x.advance registry status)
  | .rollbackAuthorityToJson => some { x with registry := rollbackAuthorityToJson x.registry }

end Meowbox.Registry
