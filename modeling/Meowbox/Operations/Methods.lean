import Meowbox.Lib.Interleaving
import Meowbox.Operations.Locks

/-!
# The methods of `OperationsService` and `OperationsWorkerService`

A method is a program over the instructions of `Instr`: it reads the database, commits a write,
reads the clock (`new Date()`), or takes an answer from outside. Other programs may run between
any two of its instructions, which is where the source awaits. What a method keeps from a read is
all it knows later: a date read before a statement is older than the statement.

`flip` stands for a condition on process state that is not modelled: whether maintenance is due
(`nextQueueMaintenanceAt`) and whether a handler is registered for an action. `handler` is the
call of the handler in `execute`, with what it returns or throws. A method that fails on the
database itself ends there, which is the same as a crash of its call (`System.lean`); the retries
of `claimNext` on a busy database and of `withFinalizationTransaction` on a timed-out transaction
are later attempts of the same instruction.
-/

namespace Meowbox.Operations

open JsData Interleaved

/-! ## Instructions -/

/-- What a handler, or the code around it in `execute`, throws. The messages are what
`safeErrorMessage` makes of the error. -/
inductive HandlerError
  | failed (message : String)
  | needsAttention (message : String)
  | cancelled
  | other (message : String)

inductive HandlerOutcome
  | returned (result : JsValue)
  | threw (error : HandlerError)

inductive Instr
  | read
  | write (w : Write)
  | clock
  | flip
  | handler
  | loseLease

/-- The answer to a committed write: how many rows it matched, and for the claim statement its
`RETURNING` row, as `claimedId`. -/
structure Reply where
  count : Nat
  returning : Option (String × Bool)

/-- The answers. `handler` also tells the execution whether its lease was found lost meanwhile. -/
def Instr.Answer : Instr → Type
  | .read => Db
  | .write _ => Except Fault Reply
  | .clock => Time
  | .flip => Bool
  | .handler => Bool × HandlerOutcome
  | .loseLease => Unit

abbrev Program := Prog Instr Instr.Answer

/-- How a method ends. A `begin` that returned a ticket keeps its prepared call. -/
inductive Outcome
  | returned
  | threw (fault : Fault)
  | ticket (p : PreparedBegin) (t : OperationTicket)

namespace Method

def read : Program Db := .ask Instr.read .done
def write (w : Write) : Program (Except Fault Reply) := .ask (Instr.write w) .done
def clock : Program Time := .ask Instr.clock .done
def flip : Program Bool := .ask Instr.flip .done
def handler : Program (Bool × HandlerOutcome) := .ask Instr.handler .done
def loseLease : Program Unit := .ask Instr.loseLease .done

/-- A write whose dates are read just before it. -/
def stamped (w : Time → Write) : Program (Except Fault Reply) := do
  let now ← clock
  write (w now)

/-- A method that is one write. -/
def single (reply : Program (Except Fault Reply)) : Program Outcome := do
  match ← reply with
  | .ok _ => pure .returned
  | .error fault => pure (.threw fault)

/-! ## `begin` -/

def answer (p : PreparedBegin) : Except Fault OperationTicket → Outcome
  | .ok t => .ticket p t
  | .error fault => .threw fault

/-- The ticket of a created operation. -/
def createdTicket (p : PreparedBegin) : OperationTicket :=
  ⟨p.operationId, truthy p.input.siteId, truthy p.input.siteDomainId, false,
    if p.input.queued.isSome then .queued else .pending, none⟩

/-- `begin` after its transaction failed on a unique column. -/
def replayAfterViolation (p : PreparedBegin) : Program Outcome := do
  match findByKey (← read) p.idempotencyKey with
  | some existing => pure (answer p (replay existing p))
  | none =>
    match findResourceLock (← read) (p.lockSpecs.map OperationLockSpec.resourceKey) with
    | some active => pure (.threw (scopeLocked active.id))
    | none =>
      let active := findInScope (← read) p
      pure (.threw (.conflict "Operation scope is locked" (active.map Operation.id)))

/-- `begin` behind its first lookup. -/
def create (p : PreparedBegin) : Program Outcome := do
  match scopeFault p.input with
  | some fault => pure (.threw fault)
  | none =>
    match ← stamped (.create p) with
    | .ok _ => pure (.ticket p (createdTicket p))
    | .error .uniqueViolation => replayAfterViolation p
    | .error fault => pure (.threw fault)

/-- `begin`. The two random ids are arguments. -/
def begin (sha256 : String → String) (input : BeginOperationInput) (uuid operationId : String)
    (releaseMaintenance : Bool) : Program Outcome := do
  match prepare sha256 input uuid operationId releaseMaintenance (← clock) with
  | .error fault => pure (.threw fault)
  | .ok p =>
    match findByKey (← read) p.idempotencyKey with
    | some existing => pure (answer p (replay existing p))
    | none => create p

/-! ## `claimNext` -/

/-- The write of `maintainQueue` for an expired operation, and the release of its locks. -/
def expireOne (now : Time) (operation : String × OperationStatus) : Program Unit := do
  match ← write (.expire operation.1 operation.2 now) with
  | .ok ⟨1, _⟩ => discard (write (.releaseExpired operation.1))
  | _ => pure ()

/-- The write of `maintainQueue` for an operation attempted before. -/
def exhaustOne (now : Time) (operation : String × Nat × Nat) : Program Unit :=
  if operation.2.1 < operation.2.2 then pure ()
  else discard (write (.exhaust operation.1 operation.2.1 now))

/-- `maintainQueue`. -/
def maintainQueue (now : Time) : Program Unit := do
  Prog.each (fun l => discard (write (.recoverLease l now))) (lostLeases (← read) now)
  Prog.each (expireOne now) (expired (← read) now)
  Prog.each (exhaustOne now) (exhausted (← read))

/-- `claimNext` up to its claim statement: `claimedId`. -/
def claimOnce (leaseOwner : String) (now : Time) : Program (Option (String × Bool)) := do
  if ← flip then maintainQueue now
  match ← write (.claim leaseOwner now) with
  | .ok reply => pure reply.returning
  | .error _ => pure none

/-- The checks on the row of a claimed operation; a message is what `requireAttention` gets. -/
def loadClaimed (operation : Option Operation) (recovering : Bool) :
    Except String ClaimedOperation :=
  match operation with
  | none => .error "Queued operation state is incomplete"
  | some operation =>
    match truthy operation.actionId, operation.deadlineAt, operation.requestPayloadEnc,
        operation.policySnapshot with
    | some actionId, some deadlineAt, some payload, some policySnapshot =>
      if payload.operationId ≠ operation.id then
        .error "Queued operation payload cannot be decrypted"
      else .ok {
        id := operation.id
        actionId := actionId
        recovering := recovering
        attempt := operation.attempt
        maxAttempts := operation.maxAttempts
        retryable := operation.retryable
        recoveryPolicy := operation.recoveryPolicy
        deadlineAt := deadlineAt
        request := payload.request
        policySnapshot := policySnapshot
        cancelRequestedAt := operation.cancelRequestedAt }
    | _, _, _, _ => .error "Queued operation state is incomplete"

/-- `claimNext` behind its claim statement. -/
def loadClaim (leaseOwner : String) (claimedId : String × Bool) :
    Program (Option ClaimedOperation) := do
  let db ← read
  match loadClaimed (db.operation.find? fun o => o.id == claimedId.1) claimedId.2 with
  | .ok operation => pure (some operation)
  | .error message =>
    let _ ← stamped (.requireAttention claimedId.1 leaseOwner message)
    pure none

/-- Whether some lease has run out. -/
def hasExpiredLease (now : Time) (db : Db) : Bool :=
  (db.operation.find? fun o =>
    o.executionMode == .queued && HELD_STATUSES.contains o.status &&
      upTo o.leaseExpiresAt now).isSome

/-- `claimNext`: when nothing was claimed and a lease has run out, maintenance and one more
attempt. -/
def claimNext (leaseOwner : String) (now : Time) (recoverExpired : Bool) :
    Program (Option ClaimedOperation) := do
  match ← claimOnce leaseOwner now with
  | some claimedId => loadClaim leaseOwner claimedId
  | none =>
    if recoverExpired && hasExpiredLease now (← read) then
      maintainQueue now
      match ← claimOnce leaseOwner now with
      | some claimedId => loadClaim leaseOwner claimedId
      | none => pure none
    else pure none

/-! ## `execute` -/

def Fault.message : Fault → String
  | .badRequest message => message
  | .conflict message _ => message
  | .forbidden message => message
  | .notFound message => message
  | .tooManyRequests message => message
  | .serviceUnavailable message => message
  | .error message => message
  | .uniqueViolation => "Unique constraint failed"

/-- The `catch` of `execute`. -/
def onError (operation : ClaimedOperation) (workerId : String) :
    HandlerError → Program (Except Fault Reply)
  | .failed message => stamped (.failClaimed operation.id workerId message)
  | .needsAttention message => stamped (.requireAttention operation.id workerId message)
  | .cancelled => stamped (.cancelClaimed operation.id workerId)
  | .other message => do
    if isCancellationRequested (← read) operation.id workerId then
      stamped (.cancelClaimed operation.id workerId)
    else
      stamped (.retryOrRequireAttention operation workerId message)

/-- The `try` of `execute` behind the handler. -/
def finish (operation : ClaimedOperation) (workerId : String) (result : JsValue) :
    Program (Except Fault Reply) := do
  let cancelTooLate := isCancellationRequested (← read) operation.id workerId
  match ← stamped (.succeedClaimed operation.id workerId result cancelTooLate) with
  | .ok reply => pure (.ok reply)
  | .error fault => onError operation workerId (.other (Fault.message fault))

/-- `execute`. -/
def execute (workerId : String) (operation : ClaimedOperation) :
    Program (Except Fault Reply) := do
  if ← flip then
    match ← stamped (.startClaimed operation.id workerId
        (if operation.recovering then "reconcile" else "start")) with
    | .error fault => pure (.error fault)
    | .ok _ =>
      match ← handler with
      | (_, .threw error) => onError operation workerId error
      | (true, .returned _) => onError operation workerId (.other "Operation lease was lost")
      | (false, .returned result) => finish operation workerId result
  else
    stamped (.requireAttention operation.id workerId "No registered handler for queued action")

/-- One turn of `pollOnce`: claim an operation and execute it. -/
def poll (workerId : String) : Program Outcome := do
  if !isIdempotencyKey workerId then
    pure (.threw (.error "Invalid operation lease owner"))
  else
    match ← claimNext workerId (← clock) true with
    | none => pure .returned
    | some operation => single (execute workerId operation)

/-- A heartbeat of an execution, from its timer or from the handler. -/
def heartbeat (operationId leaseOwner : String) (step : Option String) (progress : Option Int) :
    Program Outcome := do
  match ← stamped (.heartbeatClaim operationId leaseOwner step progress) with
  | .ok ⟨1, _⟩ => pure .returned
  | _ =>
    loseLease
    pure .returned

/-! ## `requestCancellation` and `onModuleInit` -/

/-- `requestCancellation`. -/
def requestCancellation (operationId userId role : String) : Program Outcome := do
  match readForCancellation (← read) operationId userId role with
  | .error fault => pure (.threw fault)
  | .ok none => pure .returned
  | .ok (some status) => single (stamped (.requestCancellation operationId status))

/-- `onModuleInit`. -/
def onModuleInit : Program Outcome := do
  match interrupted (← read) with
  | [] => pure .returned
  | found => single (stamped (.recoverInterrupted found))

end Method

/-! ## Calls -/

/-- A call of a method by its arguments. -/
inductive Request
  | begin (input : BeginOperationInput) (uuid operationId : String) (releaseMaintenance : Bool)
  | attachScope (operationId : String) (scope : AttachedScope)
  | start (operationId step : String)
  | step (operationId step : String) (progress : Int)
  | succeed (operationId : String) (result : JsValue)
  | fail (operationId message : String)
  | poll (workerId : String)
  | requestCancellation (operationId userId role : String)
  | onModuleInit

/-- The program of a call. -/
def Request.program (sha256 : String → String) : Request → Program Outcome
  | .begin input uuid operationId releaseMaintenance =>
    Method.begin sha256 input uuid operationId releaseMaintenance
  | .attachScope operationId scope => Method.single (Method.write (.attachScope operationId scope))
  | .start operationId currentStep =>
    Method.single (Method.stamped (.start operationId currentStep))
  | .step operationId currentStep progress =>
    Method.single (Method.write (.step operationId currentStep progress))
  | .succeed operationId result => Method.single (Method.stamped (.succeed operationId result))
  | .fail operationId message => Method.single (Method.stamped (.fail operationId message))
  | .poll workerId => Method.poll workerId
  | .requestCancellation operationId userId role =>
    Method.requestCancellation operationId userId role
  | .onModuleInit => Method.onModuleInit

end Meowbox.Operations
