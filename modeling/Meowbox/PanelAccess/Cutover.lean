import Meowbox.PanelAccess.Store

/-!
# The coordinator and the target of a cutover

The methods of `PanelAccessCutoverCoordinatorService` and `PanelAccessCutoverTargetService` as
programs over the statements and messages of `PanelAccess/Store.lean`.

* The master's methods call the registry by the programs of `Federation/Registry.lean`; the other
  requests of the registry run beside them.
* `serve` is what the target does with a message; an error is its answer as well. A handler that
  dies does not answer.
* `reconcileExpired` is one turn of its loop; what a turn has read may be old when it goes on.
* A view of a cutover is its row. Which user asks is checked by the controllers.
-/

namespace Meowbox.PanelAccess

open Interleaved Fallible Meowbox.Registry Meowbox.Operations

/-- What the two sides compute without looking at their state. -/
structure CutoverHost where
  registry : RegistryHost
  deterministicCutoverId : (serverId userId idempotencyKey : String) → String
  /-- `trim().toLowerCase()`. -/
  normalize : String → String
  /-- `validateRequest`. -/
  requestValid : CutoverRequest → Bool
  /-- `validateFederationSpkiPin` leaves the pin as it is. -/
  pinValid : String → Bool
  /-- The host name of an origin that `parseFederationOrigin` accepts. -/
  originHostname : String → Option String
  /-- `manifestForEndpoint`, with the validation of what it returns. -/
  manifestForEndpoint : (origin socketPath : String) → Except RegistryError String

abbrev CutoverCall := Fallible CutoverInstr Reply RegistryError

abbrev perform (i : CutoverInstr) : CutoverCall (Reply i) := Fallible.ask i

/-- A method of the registry. -/
def registryCall {α : Type} (c : RegistryCall α) : CutoverCall α :=
  ExceptT.mk (c.run.along CutoverInstr.registry)

/-! ## The coordinator -/

/-- `assertIdempotencyKey`: 8 to 128 printable characters. -/
def idempotencyKeyValid (key : Option String) : Bool :=
  key.any fun k => decide (8 ≤ k.length) && decide (k.length ≤ 128) &&
    k.toList.all fun c => decide (0x21 ≤ c.toNat) && decide (c.toNat ≤ 0x7e)

def keyError : RegistryError :=
  ⟨.badRequest, "Idempotency-Key must be 8-128 printable ASCII characters"⟩

/-- `ROLLBACK_SAFE_OPERATION_STATES`. -/
def rollbackSafe : OperationStatus → Bool
  | .cancelled | .failed | .succeeded => true
  | _ => false

/-- `TERMINAL_OPERATION_STATES`. -/
def terminalOperation : OperationStatus → Bool
  | .cancelled | .failed | .needsAttention | .succeeded | .unknownRecoveryRequired => true
  | _ => false

/-- `targetJson`: a request that is refused, lost or not answered in time throws. -/
def targetJson (request : TargetRequest) : CutoverCall TargetData := do
  let n ← perform (.send request)
  match ← perform (.receive n) with
  | some (.ok data) => return data
  | _ => throw ⟨.conflict, "Target Panel Access cutover request failed"⟩

/-- The `state` of what the target has answered. -/
def TargetData.state? : TargetData → Option TargetState
  | .journal j => some j.state
  | _ => none

/-- The `candidate` of what the target has answered. -/
def TargetData.candidate? : TargetData → Option CutoverCandidate
  | .journal j => j.candidate
  | _ => none

/-- `targetOperation`. -/
def targetOperation (data : TargetData) (expectedId : String) :
    Except RegistryError TargetOperation :=
  match data with
  | .operation operation =>
    if operation.id = expectedId then .ok operation
    else conflict "Target returned an invalid operation status"
  | _ => conflict "Target returned an invalid operation status"

/-- `candidateResult`. -/
def candidateResult (result : Option StageResult) (cutoverId : String) :
    Except RegistryError CutoverCandidate :=
  match result with
  | some result =>
    if result.cutoverId = cutoverId ∧ result.state = .staged then .ok result.candidate
    else conflict "Target returned an invalid endpoint candidate"
  | none => conflict "Target returned an invalid endpoint candidate"

section Coordinator

variable (K : CutoverHost)

/-- `registry.markEndpointCutoverNeedsAttention`. -/
def markNeedsAttention (cutoverId code : String) : CutoverCall Unit := do
  let _ ← registryCall
    (requestProgram K.registry (.markEndpointCutoverNeedsAttention cutoverId code))
  return ()

/-- `registry.finalizeEndpointCutover`. -/
def finalizeRegistry (cutoverId : String) : CutoverCall Unit := do
  let _ ← registryCall (requestProgram K.registry (.finalizeEndpointCutover cutoverId))
  return ()

/-- `registry.rollbackEndpointCutover`. -/
def rollbackRegistry (cutoverId code : String) : CutoverCall Unit := do
  let _ ← registryCall (requestProgram K.registry (.rollbackEndpointCutover cutoverId code))
  return ()

/-- `view`. -/
def view (cutoverId : String) : CutoverCall RemoteEndpointCutover := do
  match ← perform (.findCutover cutoverId) with
  | some (_, cutover) => return cutover
  | none => throw ⟨.notFound, "Endpoint cutover not found"⟩

/-- `cutover`: the row and its server. -/
def cutoverOf (serverId cutoverId : String) :
    CutoverCall (RemoteServer × RemoteEndpointCutover) := do
  if !K.registry.cutoverIdValid cutoverId then throw ⟨.badRequest, "Invalid cutover ID"⟩
  else
    match (← perform (.findCutover cutoverId)).filter fun found => found.1.id == serverId &&
        found.1.installationId.isSome with
    | some found => return found
    | none => throw ⟨.notFound, "Endpoint cutover not found"⟩

/-- `verifyCandidate`: the pinned identity of the target, and then the probes. -/
def verifyCandidate (server : RemoteServer) (candidate : CutoverCandidate) : CutoverCall Unit := do
  if server.installationId.isNone ∨ server.targetManifestKid.isNone ∨
      server.targetManifestPublicKeySpki.isNone then
    throw ⟨.conflict, "Target manifest identity is unavailable"⟩
  else ask? (.verifyCandidate candidate) id

/-- The `try` of `confirmBrowser` and of `reconcileActivated`: the target finalizes, and then the
registry. -/
def finalizeBoth (cutoverId : String) : CutoverCall Unit := do
  let finalized ← targetJson (.finalize cutoverId)
  if finalized.state? ≠ some .finalized then
    throw ⟨.conflict, "Target did not confirm endpoint finalization"⟩
  else finalizeRegistry K cutoverId

/-- `rollbackUncommitted`. -/
def rollbackUncommitted (cutoverId reasonCode : String) : CutoverCall Unit := do
  match ← attempt (targetJson (.rollback cutoverId)) with
  | .error _ =>
    let _ ← attempt (markNeedsAttention K cutoverId "TARGET_ROLLBACK_UNCONFIRMED")
    throw ⟨.conflict, "Target rollback could not be confirmed"⟩
  | .ok _ => rollbackRegistry K cutoverId reasonCode

/-- `ensureTargetRollbackSafe`. -/
def ensureTargetRollbackSafe (serverId cutoverId : String) : CutoverCall Unit := do
  match ← perform (.findLink serverId cutoverId) with
  | none =>
    markNeedsAttention K cutoverId "TARGET_OPERATION_LINK_MISSING"
    throw ⟨.conflict, "Target stage operation identity is unavailable"⟩
  | some link =>
    let data ← targetJson (.operation link.targetOperationId)
    let operation ← Fallible.ofExcept (targetOperation data link.targetOperationId)
    if rollbackSafe operation.status then return ()
    else if terminalOperation operation.status then
      markNeedsAttention K cutoverId "TARGET_OPERATION_UNSAFE_TO_ROLLBACK"
      throw ⟨.conflict, "Target stage operation requires manual reconciliation"⟩
    else
      let _ ← targetJson (.cancelOperation link.targetOperationId)
      markNeedsAttention K cutoverId "TARGET_OPERATION_CANCEL_REQUESTED"
      throw ⟨.conflict, "Target stage cancellation requested; retry rollback after it stops"⟩

/-- `reconcile`. -/
def reconcile (cutoverId : String) (now : Nat) : CutoverCall Unit := do
  match (← perform (.findCutover cutoverId)).filter fun found =>
      decide (found.2.state = .prepared) with
  | none => return ()
  | some (server, _) =>
    match ← perform (.findLink server.id cutoverId) with
    | none => return ()
    | some link =>
      let data ← targetJson (.operation link.targetOperationId)
      let operation ← Fallible.ofExcept (targetOperation data link.targetOperationId)
      if !terminalOperation operation.status then return ()
      else if operation.status ≠ .succeeded then
        if !rollbackSafe operation.status then
          markNeedsAttention K cutoverId "TARGET_OPERATION_UNSAFE_TO_ROLLBACK"
        else
          let reasonCode := if operation.status = .needsAttention then "TARGET_NEEDS_ATTENTION"
            else "TARGET_STAGE_FAILED"
          rollbackUncommitted K cutoverId reasonCode
      else
        let candidate ← Fallible.ofExcept (candidateResult operation.result cutoverId)
        let staged ← attempt (do
          verifyCandidate server candidate
          let _ ← registryCall (requestProgram K.registry (.stageEndpointCutover cutoverId {
            apiOrigin := candidate.apiOrigin
            wsOrigin := candidate.wsOrigin
            wsPath := candidate.socketPath
            browserPublicOrigin := candidate.browserPublicOrigin
            directTransferOrigin := candidate.directTransferOrigin
            sshHost := ""
            sshPort := 0
            spkiSha256 := candidate.spkiSha256
            normalizedHash := "" } now))
          return ())
        match staged with
        | .ok _ => return ()
        | .error e =>
          rollbackUncommitted K cutoverId "CANDIDATE_VERIFICATION_FAILED"
          throw e

/-- `ACTIVATED` or `NEEDS_ATTENTION`, with the endpoint of the cutover active. -/
def activatedAt (server : RemoteServer) (cutover : RemoteEndpointCutover) : Bool :=
  (decide (cutover.state = .activated) || decide (cutover.state = .needsAttention)) &&
    decide (server.activeEndpointGeneration = some cutover.toGeneration)

/-- `reconcileActivated`. -/
def reconcileActivated (cutoverId : String) (now : Nat) : CutoverCall Unit := do
  match (← perform (.findCutover cutoverId)).filter fun found =>
      found.1.installationId.isSome && activatedAt found.1 found.2 with
  | none => return ()
  | some (_, cutover) =>
    match ← attempt (targetJson (.status cutoverId)) with
    | .error _ =>
      let _ ← attempt (markNeedsAttention K cutoverId "TARGET_STATUS_UNAVAILABLE")
      throw ⟨.conflict, "Activated target endpoint status is unavailable"⟩
    | .ok data =>
      if data.state? = some .finalized then finalizeRegistry K cutoverId
      else if data.state? = some .rolledBack then
        rollbackRegistry K cutoverId "TARGET_CONFIRMED_ROLLBACK"
      else if cutover.deadlineAt ≤ now then
        rollbackUncommitted K cutoverId "CUTOVER_DEADLINE_EXPIRED"
      else if data.state? ≠ some .staged ∧ data.state? ≠ some .finalizing ∧
          data.state? ≠ some .needsAttention then
        markNeedsAttention K cutoverId "TARGET_STATE_INCONSISTENT"
        throw ⟨.conflict, "Activated target endpoint state is inconsistent"⟩
      else
        match ← attempt (finalizeBoth K cutoverId) with
        | .ok _ => return ()
        | .error _ =>
          let _ ← attempt (markNeedsAttention K cutoverId "TARGET_FINALIZE_ACK_LOST")
          throw ⟨.conflict, "Activated target endpoint needs reconciliation"⟩

/-- `StartPanelAccessCutoverDto`. -/
structure StartDto where
  domain : String
  email : String
  httpsRedirect : Bool
  denyIpAccess : Bool
deriving DecidableEq

/-- `startTargetStage`. -/
def startTargetStage (serverId cutoverId userId : String) (dto : StartDto) (deadlineAt : Nat) :
    CutoverCall Unit := do
  let data ← targetJson (.stage {
    cutoverId := cutoverId
    domain := K.normalize dto.domain
    email := K.normalize dto.email
    httpsRedirect := dto.httpsRedirect
    denyIpAccess := dto.denyIpAccess
    deadlineAt := deadlineAt })
  match data with
  | .ticket ticket => ask? (.recordLink ⟨serverId, ticket.operationId, userId, cutoverId⟩) id
  | _ => throw ⟨.conflict, "Target returned an invalid operation ticket"⟩

/-- `server`: it is enrolled. -/
def assertServer (serverId : String) : CutoverCall Unit := do
  match (← perform (.findServer serverId)).filter fun server => server.installationId.isSome &&
      server.targetManifestKid.isSome && server.targetManifestPublicKeySpki.isSome with
  | some _ => return ()
  | none => throw ⟨.notFound, "Federated target not found"⟩

/-- `start`. -/
def start (serverId userId : String) (admin : Bool) (dto : StartDto) (key : Option String)
    (now : Nat) : CutoverCall RemoteEndpointCutover := do
  if !admin then throw ⟨.badRequest, "Panel Access cutover requires ADMIN"⟩
  else if !idempotencyKeyValid key then throw keyError
  else
    let cutoverId := K.deterministicCutoverId serverId userId (key.getD "")
    match ← perform (.findCutover cutoverId) with
    | some (server, existing) =>
      if server.id ≠ serverId then throw ⟨.conflict, "Cutover idempotency conflict"⟩
      else if existing.state = .prepared then
        match ← perform (.findLink serverId cutoverId) with
        | none =>
          assertServer serverId
          startTargetStage K serverId cutoverId userId dto existing.deadlineAt
          reconcile K cutoverId now
          view cutoverId
        | some _ =>
          reconcile K cutoverId now
          view cutoverId
      else
        reconcile K cutoverId now
        view cutoverId
    | none =>
      assertServer serverId
      let _ ← registryCall (requestProgram K.registry
        (.prepareEndpointCutover cutoverId serverId (now + 15 * 60000) now))
      startTargetStage K serverId cutoverId userId dto (now + 15 * 60000)
      view cutoverId

/-- `get`. -/
def get (serverId cutoverId : String) (now : Nat) : CutoverCall RemoteEndpointCutover := do
  let found ← cutoverOf K serverId cutoverId
  if found.2.state = .prepared then
    reconcile K cutoverId now
    view cutoverId
  else if activatedAt found.1 found.2 then
    reconcileActivated K cutoverId now
    view cutoverId
  else view cutoverId

/-- The candidate is the endpoint that was staged. -/
def sameCandidate (candidate : CutoverCandidate) (endpoint : RemoteEndpoint) : Bool :=
  candidate.spkiSha256 == endpoint.address.spkiSha256 &&
    candidate.apiOrigin == endpoint.address.apiOrigin &&
    candidate.wsOrigin == endpoint.address.wsOrigin &&
    candidate.socketPath == endpoint.address.wsPath &&
    candidate.browserPublicOrigin == endpoint.address.browserPublicOrigin &&
    candidate.directTransferOrigin == endpoint.address.directTransferOrigin

/-- `confirmBrowser`, where the cutover is staged. -/
def confirmStaged (server : RemoteServer) (cutover : RemoteEndpointCutover)
    (candidateOrigin : String) (now : Nat) : CutoverCall RemoteEndpointCutover := do
  match (server.endpoints.find? fun e => decide (e.generation = cutover.toGeneration) &&
      decide (e.state = .candidate)).filter fun e =>
        e.address.browserPublicOrigin == candidateOrigin with
  | none => throw ⟨.conflict, "Browser probe is stale or bound to another candidate"⟩
  | some endpoint =>
    let data ← targetJson (.status cutover.id)
    match data.candidate? with
    | none => throw ⟨.conflict, "Target candidate state is unavailable"⟩
    | some candidate =>
      if !sameCandidate candidate endpoint then
        throw ⟨.conflict, "Target candidate changed after staging"⟩
      else
        verifyCandidate server candidate
        let _ ← registryCall (requestProgram K.registry (.activateEndpointCutover cutover.id now))
        match ← attempt (finalizeBoth K cutover.id) with
        | .ok _ => view cutover.id
        | .error _ =>
          let _ ← attempt (markNeedsAttention K cutover.id "TARGET_FINALIZE_ACK_LOST")
          throw ⟨.conflict, "Endpoint activated but target finalize acknowledgement was lost"⟩

def stateName : CutoverState → String
  | .prepared => "PREPARED"
  | .staged => "STAGED"
  | .activated => "ACTIVATED"
  | .needsAttention => "NEEDS_ATTENTION"
  | .finalized => "FINALIZED"
  | .rolledBack => "ROLLED_BACK"

/-- `confirmBrowser`. -/
def confirmBrowser (serverId cutoverId candidateOrigin : String) (key : Option String)
    (now : Nat) : CutoverCall RemoteEndpointCutover := do
  if !idempotencyKeyValid key then throw keyError
  else
    let found ← cutoverOf K serverId cutoverId
    if found.2.state = .finalized then view cutoverId
    else if activatedAt found.1 found.2 then
      reconcileActivated K cutoverId now
      view cutoverId
    else if found.2.state ≠ .staged then
      throw ⟨.conflict, "Endpoint cutover cannot confirm from " ++ stateName found.2.state⟩
    else confirmStaged K found.1 found.2 candidateOrigin now

/-- `rollback`. -/
def rollback (serverId cutoverId : String) (key : Option String) :
    CutoverCall RemoteEndpointCutover := do
  if !idempotencyKeyValid key then throw keyError
  else
    let found ← cutoverOf K serverId cutoverId
    if found.2.state = .rolledBack then view cutoverId
    else if found.2.state = .finalized then
      throw ⟨.conflict, "Finalized endpoint requires a new recovery cutover"⟩
    else
      ensureTargetRollbackSafe K serverId cutoverId
      match ← attempt (targetJson (.rollback cutoverId)) with
      | .error _ =>
        let _ ← attempt (markNeedsAttention K cutoverId "TARGET_ROLLBACK_ACK_LOST")
        throw ⟨.conflict, "Target rollback could not be confirmed"⟩
      | .ok _ =>
        rollbackRegistry K cutoverId "OPERATOR_ROLLBACK"
        view cutoverId

/-- One turn of `reconcileExpired`. -/
def reconcileExpired (cutoverId : String) (now : Nat) : CutoverCall Unit := do
  match (← perform (.findCutover cutoverId)).filter fun found =>
      decide (found.2.deadlineAt ≤ now) && !found.2.state.terminal with
  | none => return ()
  | some (server, cutover) =>
    match ← perform (.findLink server.id cutoverId) with
    | none =>
      let _ ← attempt (markNeedsAttention K cutoverId "TARGET_OPERATION_LINK_MISSING")
      return ()
    | some link =>
      let admin ← perform (.isAdmin link.masterUserId)
      if !admin ∨ server.installationId.isNone then
        let _ ← attempt (markNeedsAttention K cutoverId "CUTOVER_OPERATOR_UNAVAILABLE")
        return ()
      else if server.activeEndpointGeneration = some cutover.toGeneration then
        let _ ← attempt (reconcileActivated K cutoverId now)
        return ()
      else
        let _ ← attempt (do
          ensureTargetRollbackSafe K server.id cutoverId
          rollbackUncommitted K cutoverId "CUTOVER_DEADLINE_EXPIRED")
        return ()

end Coordinator

/-! ## The target -/

section Target

variable (K : CutoverHost)

/-- `reconcileAgentState`. -/
def reconcileAgentState (journal : TargetJournal) : CutoverCall TargetJournal := do
  if journal.state ≠ .finalizing ∧ journal.state ≠ .rollingBack ∧
      journal.state ≠ .needsAttention then return journal
  else
    match ← perform (.agentStatus journal.cutoverId) with
    | .error _ => return journal
    | .ok status =>
      if !status.success ∨ status.state.isNone then return journal
      else if journal.candidate.any fun c => status.candidateOrigin != some c.apiOrigin then
        let attention := { journal with
          state := .needsAttention
          sanitizedErrorCode := some "AGENT_CUTOVER_IDENTITY_MISMATCH" }
        perform (.setJournal attention)
        return attention
      else
        match status.state, journal.candidateSettings with
        | some .finalized, some candidateSettings =>
          let finalized := { journal with state := .finalized, sanitizedErrorCode := none }
          perform (.setSettingsAndJournal candidateSettings finalized)
          return finalized
        | some .rolledBack, _ =>
          let rolledBack := { journal with state := .rolledBack, sanitizedErrorCode := none }
          perform (.setSettingsAndJournal journal.previousSettings rolledBack)
          return rolledBack
        | _, _ => return journal

/-- `status`. -/
def targetStatus (cutoverId : String) : CutoverCall TargetJournal := do
  if !K.registry.cutoverIdValid cutoverId then throw ⟨.badRequest, "Invalid cutover ID"⟩
  else
    match (← perform .getJournal).filter fun j => j.cutoverId == cutoverId with
    | none => throw ⟨.conflict, "Panel Access cutover is not present on this target"⟩
    | some journal => reconcileAgentState journal

def targetStateName : TargetState → String
  | .prepared => "PREPARED"
  | .staging => "STAGING"
  | .staged => "STAGED"
  | .finalizing => "FINALIZING"
  | .finalized => "FINALIZED"
  | .rollingBack => "ROLLING_BACK"
  | .rolledBack => "ROLLED_BACK"
  | .needsAttention => "NEEDS_ATTENTION"

/-- `finalize`, from a journal that is not finalized, with its candidate. -/
def finalizeJournal (journal : TargetJournal) (candidateSettings : PanelAccessSettings)
    (candidate : CutoverCandidate) : CutoverCall TargetJournal := do
  let finalizing := { journal with state := .finalizing }
  perform (.setJournal finalizing)
  let ack ← ask? (.agentFinalize journal.cutoverId candidate.apiOrigin) id
  if !ack.success then
    perform (.setJournal { finalizing with
      state := .needsAttention, sanitizedErrorCode := some "TARGET_FINALIZE_FAILED" })
    throw ⟨.conflict, (ack.error.filter (· ≠ "")).getD "Target Panel Access finalize failed"⟩
  else
    let finalized := { journal with state := .finalized, sanitizedErrorCode := none }
    perform (.setSettingsAndJournal candidateSettings finalized)
    return finalized

/-- `finalize`. -/
def targetFinalize (cutoverId : String) : CutoverCall TargetJournal := do
  let journal ← targetStatus K cutoverId
  if journal.state = .finalized then return journal
  else
    match journal.candidateSettings, journal.candidate with
    | some candidateSettings, some candidate =>
      if journal.state ≠ .staged ∧ journal.state ≠ .finalizing ∧
          journal.state ≠ .needsAttention then
        throw ⟨.conflict,
          "Panel Access cutover cannot finalize from " ++ targetStateName journal.state⟩
      else finalizeJournal journal candidateSettings candidate
    | _, _ => throw ⟨.conflict,
        "Panel Access cutover cannot finalize from " ++ targetStateName journal.state⟩

/-- `rollback`, from a journal that is not rolled back. -/
def rollbackJournal (journal : TargetJournal) : CutoverCall TargetJournal := do
  let rolling := { journal with state := .rollingBack }
  perform (.setJournal rolling)
  let ack ← ask? (.agentRollback journal.cutoverId) id
  if !ack.success then
    perform (.setJournal { rolling with
      state := .needsAttention, sanitizedErrorCode := some "TARGET_ROLLBACK_FAILED" })
    throw ⟨.conflict, (ack.error.filter (· ≠ "")).getD "Target Panel Access rollback failed"⟩
  else
    let rolledBack := { journal with state := .rolledBack, sanitizedErrorCode := none }
    perform (.setSettingsAndJournal journal.previousSettings rolledBack)
    return rolledBack

/-- `rollback`. -/
def targetRollback (cutoverId : String) : CutoverCall TargetJournal := do
  if !K.registry.cutoverIdValid cutoverId then throw ⟨.badRequest, "Invalid cutover ID"⟩
  else
    match ← perform .getJournal with
    | none =>
      match ← perform .getClaim with
      | none => throw ⟨.conflict, "Target federation endpoint is not configured"⟩
      | some _ =>
        let previousSettings ← perform .getPanelAccess
        return {
          cutoverId := cutoverId
          state := .rolledBack
          operationId := cutoverId
          previousSettings := previousSettings
          candidateSettings := none
          candidate := none
          sanitizedErrorCode := none }
    | some stored =>
      if stored.cutoverId ≠ cutoverId then
        throw ⟨.conflict, "Another Panel Access cutover is present on this target"⟩
      else if !(← perform (.findOperation stored.operationId)).any
          (fun operation => rollbackSafe operation.status) then
        throw ⟨.conflict,
          "Panel Access stage operation must reach a rollback-safe terminal state"⟩
      else
        let journal ← reconcileAgentState stored
        if journal.state = .rolledBack then return journal
        else rollbackJournal journal

/-- `start`; `userIsAdmin` is the role of its actor. -/
def targetStart (request : CutoverRequest) (userIsAdmin : Bool) (now : Nat) :
    CutoverCall Ticket := do
  if !K.requestValid request then
    throw ⟨.badRequest, "Panel Access cutover request is invalid"⟩
  else if request.deadlineAt < now + 30000 ∨ now + 20 * 60000 < request.deadlineAt then
    throw ⟨.badRequest, "Panel Access cutover deadline is invalid"⟩
  else if !userIsAdmin then throw ⟨.badRequest, "Panel Access cutover requires ADMIN"⟩
  else if (← perform .getJournal).any fun j =>
      j.state.active && j.cutoverId != request.cutoverId then
    throw ⟨.conflict, "Another Panel Access cutover is active"⟩
  else ask? (.admitOperation request) id

/-- `validateAgentStageResult`. -/
def stageResultValid (request : CutoverRequest) (result : AgentStageResult) : Bool :=
  result.cutoverId == request.cutoverId && K.pinValid result.spkiSha256 &&
    K.originHostname result.candidateOrigin == some request.domain &&
    result.candidateSettings.domain == some request.domain &&
    result.candidateSettings.certMode == "LE" &&
    result.candidateSettings.httpsRedirect == request.httpsRedirect &&
    result.candidateSettings.denyIpAccess == request.denyIpAccess &&
    result.candidateSettings.certPath.any (· ≠ "") && result.candidateSettings.keyPath.any (· ≠ "")

/-- The candidate of `stage`, behind its `STAGING` journal. -/
def stageCandidate (request : CutoverRequest) (staging : TargetJournal) (socketPath : String) :
    CutoverCall StageResult := do
  let result ← ask? (.agentStage request staging.operationId staging.previousSettings) id
  if !stageResultValid K request result then
    throw ⟨.internal, "Agent returned an invalid Panel Access candidate"⟩
  else
    let manifest ← Fallible.ofExcept (K.manifestForEndpoint result.candidateOrigin socketPath)
    let candidate : CutoverCandidate := {
      apiOrigin := result.candidateOrigin
      wsOrigin := result.candidateOrigin
      socketPath := socketPath
      browserPublicOrigin := result.candidateOrigin
      directTransferOrigin := result.candidateOrigin
      spkiSha256 := result.spkiSha256
      manifest := manifest }
    perform (.setJournal { staging with
      state := .staged
      candidateSettings := some result.candidateSettings
      candidate := some candidate })
    return ⟨request.cutoverId, .staged, candidate⟩

/-- `stage`, the handler of the operation. -/
def stage (request : CutoverRequest) (operationId : String) (userIsAdmin : Bool) :
    CutoverCall StageResult := do
  if !K.requestValid request then
    throw ⟨.badRequest, "Panel Access cutover request is invalid"⟩
  else if !userIsAdmin then throw ⟨.internal, "Panel Access cutover actor is not ADMIN"⟩
  else
    match ← perform .getClaim with
    | none => throw ⟨.internal, "Target federation endpoint is not configured"⟩
    | some socketPath =>
      let currentSettings ← perform .getPanelAccess
      if currentSettings.certMode = "NONE" then
        throw ⟨.internal, "Current federation endpoint has no rollback-safe TLS listener"⟩
      else
        let existing ← perform .getJournal
        match existing.bind fun j =>
            (j.candidate.filter fun _ => j.cutoverId == request.cutoverId).map fun c => (j, c) with
        | some (journal, candidate) => return ⟨request.cutoverId, journal.state, candidate⟩
        | none =>
          if existing.any fun j => j.state.active && j.cutoverId != request.cutoverId then
            throw ⟨.internal, "Another Panel Access cutover is active"⟩
          else
            let staging : TargetJournal := {
              cutoverId := request.cutoverId
              state := .staging
              operationId := operationId
              previousSettings := currentSettings
              candidateSettings := none
              candidate := none
              sanitizedErrorCode := none }
            perform (.setJournal staging)
            match ← attempt (stageCandidate K request staging socketPath) with
            | .ok result => return result
            | .error e =>
              perform (.setJournal { staging with
                state := .needsAttention, sanitizedErrorCode := some "TARGET_STAGE_FAILED" })
              throw e

/-- What the target makes of a request. -/
def handle (request : TargetRequest) (now : Nat) : CutoverCall TargetData :=
  match request with
  | .stage request => do return .ticket (← targetStart K request true now)
  | .status cutoverId => do return .journal (← targetStatus K cutoverId)
  | .finalize cutoverId => do return .journal (← targetFinalize K cutoverId)
  | .rollback cutoverId => do return .journal (← targetRollback K cutoverId)
  | .operation id => do
    match ← perform (.findOperation id) with
    | some operation => return .operation operation
    | none => throw ⟨.notFound, "Operation not found"⟩
  | .cancelOperation id => do
    match ← perform (.findOperation id) with
    | some _ => return .cancelled
    | none => throw ⟨.notFound, "Operation not found"⟩

/-- The target takes a message and answers it. -/
def serve (n now : Nat) : CutoverCall Unit := do
  match ← perform (.take n) with
  | none => return ()
  | some request =>
    let response ← attempt (handle K request now)
    perform (.respond n response)

end Target

/-! ## The service -/

/-- The requests of the registry that end a cutover; only the coordinator makes them. -/
def endsCutover : RegistryRequest → Bool
  | .finalizeEndpointCutover _ => true
  | .rollbackEndpointCutover _ _ => true
  | _ => false

inductive CutoverOrder
  | start (serverId userId : String) (admin : Bool) (dto : StartDto) (key : Option String)
      (now : Nat)
  | get (serverId cutoverId : String) (now : Nat)
  | confirmBrowser (serverId cutoverId candidateOrigin : String) (key : Option String) (now : Nat)
  | rollback (serverId cutoverId : String) (key : Option String)
  | reconcileExpired (cutoverId : String) (now : Nat)
  | registry (request : RegistryRequest) (h : endsCutover request = false)
  | serve (n now : Nat)
  | stage (request : CutoverRequest) (operationId : String) (userIsAdmin : Bool)
deriving DecidableEq

/-- The calls return nothing to the system. -/
def discard {α : Type} (c : CutoverCall α) : CutoverCall Unit := do
  let _ ← c
  return ()

def orderProgram (K : CutoverHost) : CutoverOrder → CutoverCall Unit
  | .start serverId userId admin dto key now => discard (start K serverId userId admin dto key now)
  | .get serverId cutoverId now => discard (get K serverId cutoverId now)
  | .confirmBrowser serverId cutoverId candidateOrigin key now =>
    discard (confirmBrowser K serverId cutoverId candidateOrigin key now)
  | .rollback serverId cutoverId key => discard (rollback K serverId cutoverId key)
  | .reconcileExpired cutoverId now => reconcileExpired K cutoverId now
  | .registry request _ => discard (registryCall (requestProgram K.registry request))
  | .serve n now => serve K n now
  | .stage request operationId userIsAdmin => discard (stage K request operationId userIsAdmin)

/-- The master and its target. -/
def cutovers (K : CutoverHost) : Service CutoverSystem CutoverChange CutoverOrder CutoverInstr Reply
    (Except RegistryError Unit) where
  program order := (orderProgram K order).run
  answer := reply K.registry
  outside := CutoverSystem.outside

end Meowbox.PanelAccess
