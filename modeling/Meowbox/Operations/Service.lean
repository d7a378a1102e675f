import Meowbox.Operations.Store

/-!
# The statements of `OperationsService`

Every statement and transaction of `api/src/operations/operations.service.ts` that writes
`operations` or `operation_locks`, as a function of the database. A transaction that throws rolls
back: it is an `Except.error`, and leaves no database. `now` is the value of the `new Date()` the
source reads for the statement. An error message a method stores is what `safeErrorMessage` made
of the error before the statement runs, so the functions take the message.

A method that reads before it writes is split where the source awaits: the read is a function that
returns what the method keeps of it, the write takes that as an argument. Between the two any other
statement may run (`System.lean`).
-/

namespace Meowbox.Operations

open JsData

/-! ## Comparing nullable dates, as SQL does -/

/-- `{ gt: now }`: false on `NULL`. -/
def after (date : Option Time) (now : Time) : Bool :=
  match date with
  | some t => decide (now < t)
  | none => false

/-- `{ lte: now }`: false on `NULL`. -/
def upTo (date : Option Time) (now : Time) : Bool :=
  match date with
  | some t => decide (t ≤ now)
  | none => false

/-- `if (updated.count !== 1) throw`. -/
def Committed.requireOne (c : Committed) (fault : Fault) : Except Fault Committed :=
  if c.count = 1 then .ok c else .error fault

/-- `tx.operationLock.deleteMany({ where: { operationId } })` after the update of a transaction. -/
def Committed.releaseLocks (c : Committed) (operationId : String) : Committed :=
  { c with db := c.db.deleteLocks fun l => l.operationId == operationId }

/-- `{ id: operationId, leaseOwner, status: { in: … } }`. -/
def heldBy (operationId leaseOwner : String) (statuses : List OperationStatus) (o : Operation) :
    Bool :=
  o.id == operationId && o.leaseOwner == some leaseOwner && statuses.contains o.status

def staleClaim : Fault := .conflict "Operation claim is stale" none

/-- `Math.max(0, Math.min(99, Math.trunc(progress)))`. -/
def clampProgress (progress : Int) : Nat := (max 0 (min 99 progress)).toNat

/-- The `result` column: an absent result is `null`. -/
def resultText (result : JsValue) : Option String :=
  stringify (match result with
    | .undefined => .null
    | v => v)

/-! ## Inline operations -/

/-- `start`. -/
def start (db : Db) (operationId step : String) (now : Time) : Except Fault Committed :=
  (db.updateOperations
    (fun o => o.id == operationId && o.status == .pending)
    (fun o => { o with
      status := .running, currentStep := some step, startedAt := some now, progress := 0 })
    fun _ => ⟨rfl, rfl⟩).requireOne (.conflict "Operation is not pending" none)

/-- `step`. -/
def step (db : Db) (operationId step : String) (progress : Int) : Except Fault Committed :=
  (db.updateOperations
    (fun o => o.id == operationId && o.status == .running)
    (fun o => { o with currentStep := some step, progress := clampProgress progress })
    fun _ => ⟨rfl, rfl⟩).requireOne (.conflict "Operation is not running" none)

/-- `{ parentOperationId: operationId, status: { in: LOCK_HOLDING_STATUSES } }`. -/
def activeChildOf (operationId : String) (o : Operation) : Bool :=
  o.parentOperationId == some operationId && LOCK_HOLDING_STATUSES.contains o.status

/-- `succeed`. -/
def succeed (db : Db) (operationId : String) (result : JsValue) (now : Time) :
    Except Fault Committed :=
  match assertNoSecretFields "result" result with
  | .error message => .error (.error message)
  | .ok () =>
    match db.operation.find? (activeChildOf operationId) with
    | some activeChild => .error (.conflict "Child operation is still active" (some activeChild.id))
    | none =>
      match (db.updateOperations
          (fun o => o.id == operationId && o.status == .running)
          (fun o => { o with
            status := .succeeded, currentStep := none, progress := 100,
            result := resultText result, errorMessage := none, completedAt := some now })
          fun _ => ⟨rfl, rfl⟩).requireOne (.conflict "Operation is not running" none) with
      | .error fault => .error fault
      | .ok updated => .ok (updated.releaseLocks operationId)

/-- The row `fail` leaves of an operation or an active child. -/
def failedRow (message : String) (now : Time) (o : Operation) : Operation :=
  { o with
    status := .failed, currentStep := none, errorMessage := some message, completedAt := some now }

/-- `fail`: the active children first, then the operation itself. -/
def fail (db : Db) (operationId message : String) (now : Time) : Committed :=
  let childIds := (db.operation.findMany (activeChildOf operationId)).map Operation.id
  let children := (db.updateOperations
    (fun o => childIds.contains o.id && LOCK_HOLDING_STATUSES.contains o.status)
    (failedRow message now) fun _ => ⟨rfl, rfl⟩).db.deleteLocks fun l => childIds.contains l.operationId
  (children.updateOperations
    (fun o => o.id == operationId && LOCK_HOLDING_STATUSES.contains o.status)
    (failedRow message now) fun _ => ⟨rfl, rfl⟩).releaseLocks operationId

/-! ## Claims -/

/-- A queued operation handed to a worker (`ClaimedOperation`). -/
structure ClaimedOperation where
  id : String
  actionId : String
  recovering : Bool
  attempt : Nat
  maxAttempts : Nat
  retryable : Bool
  recoveryPolicy : OperationRecoveryPolicy
  deadlineAt : Time
  request : JsValue
  policySnapshot : OperationPolicySnapshot
  cancelRequestedAt : Option Time

/-- The lease a claim or a heartbeat grants. -/
def LEASE_MS : Time := 30000

/-- The candidates of the claim statement. -/
def claimable (now : Time) (o : Operation) : Bool :=
  o.executionMode == .queued && (o.status == .queued || o.status == .recovering) &&
    o.leaseOwner.isNone && o.cancelRequestedAt.isNone && after o.deadlineAt now &&
    (o.status == .recovering || decide (o.attempt < o.maxAttempts))

/-- The operations the capacity check counts. -/
def leased (now : Time) (o : Operation) : Bool :=
  o.executionMode == .queued && HELD_STATUSES.contains o.status && after o.leaseExpiresAt now

/-- `ORDER BY created_at ASC, id ASC LIMIT 1`. -/
def oldest : List Operation → Option Operation
  | [] => none
  | o :: os =>
    match oldest os with
    | none => some o
    | some p =>
      if o.createdAt < p.createdAt ∨ (o.createdAt = p.createdAt ∧ o.id ≤ p.id) then some o else some p

/-- The row the claim statement would take. -/
def nextClaim (db : Db) (now : Time) : Option Operation :=
  if db.operation.count (leased now) < 2 then oldest (db.operation.findMany (claimable now))
  else none

/-- The claim: one `UPDATE` that owns both the capacity check and the choice of the row. -/
def claim (db : Db) (leaseOwner : String) (now : Time) : Committed :=
  db.updateOperations
    (fun o => (nextClaim db now).any fun c => c.id == o.id)
    (fun o => { o with
      status := .claimed,
      currentStep := some (if o.status = .recovering then "reconcile" else "start"),
      attempt := if o.status = .queued then o.attempt + 1 else o.attempt,
      leaseOwner := some leaseOwner, leaseExpiresAt := some (now + LEASE_MS),
      heartbeatAt := some now, claimedAt := some now, completedAt := none })
    fun _ => ⟨rfl, rfl⟩

/-- `startClaimed`. -/
def startClaimed (db : Db) (operationId leaseOwner step : String) (now : Time) :
    Except Fault Committed :=
  (db.updateOperations
    (fun o => heldBy operationId leaseOwner [.claimed] o && after o.leaseExpiresAt now)
    (fun o => { o with
      status := .running, currentStep := some step, startedAt := some now, heartbeatAt := some now })
    fun _ => ⟨rfl, rfl⟩).requireOne staleClaim

/-- `heartbeatClaim`; it reports whether one row was renewed. -/
def heartbeatClaim (db : Db) (operationId leaseOwner : String) (step : Option String)
    (progress : Option Int) (now : Time) : Committed :=
  db.updateOperations
    (fun o => heldBy operationId leaseOwner HELD_STATUSES o && after o.leaseExpiresAt now &&
      after o.deadlineAt now)
    (fun o => { o with
      heartbeatAt := some now, leaseExpiresAt := some (now + LEASE_MS),
      currentStep := step.orElse fun _ => o.currentStep,
      progress := (progress.map clampProgress).getD o.progress })
    fun _ => ⟨rfl, rfl⟩

/-- `isCancellationRequested`. -/
def isCancellationRequested (db : Db) (operationId leaseOwner : String) : Bool :=
  match db.operation.find? fun o => o.id == operationId && o.leaseOwner == some leaseOwner with
  | some o => o.status == .cancelRequested || o.cancelRequestedAt.isSome
  | none => false

/-- `succeedClaimed`. -/
def succeedClaimed (db : Db) (operationId leaseOwner : String) (result : JsValue)
    (cancelTooLate : Bool) (now : Time) : Except Fault Committed :=
  match assertNoSecretFields "result" result with
  | .error message => .error (.error message)
  | .ok () =>
    match db.operation.find? (heldBy operationId leaseOwner [.running, .cancelRequested]) with
    | none => .error staleClaim
    | some current =>
      match (db.updateOperations
          (heldBy operationId leaseOwner [current.status])
          (fun o => { o with
            status := .succeeded, currentStep := none, progress := 100,
            result := resultText result, errorMessage := none,
            leaseOwner := none, leaseExpiresAt := none, heartbeatAt := none,
            completedAt := some now,
            cancelOutcome := some (if cancelTooLate || current.status == .cancelRequested ||
              current.cancelRequestedAt.isSome then .tooLate else .notRequested) })
          fun _ => ⟨rfl, rfl⟩).requireOne staleClaim with
      | .error fault => .error fault
      | .ok updated => .ok (updated.releaseLocks operationId)

/-- `failClaimed`. -/
def failClaimed (db : Db) (operationId leaseOwner message : String) (now : Time) :
    Except Fault Committed :=
  match (db.updateOperations
      (heldBy operationId leaseOwner HELD_STATUSES)
      (fun o => { o with
        status := .failed, currentStep := none, errorMessage := some message,
        leaseOwner := none, leaseExpiresAt := none, heartbeatAt := none,
        completedAt := some now, cancelOutcome := some .notRequested })
      fun _ => ⟨rfl, rfl⟩).requireOne staleClaim with
  | .error fault => .error fault
  | .ok updated => .ok (updated.releaseLocks operationId)

/-- `canRetry`, from the worker's copy of the operation. -/
def ClaimedOperation.canRetry (operation : ClaimedOperation) (now : Time) : Bool :=
  operation.retryable && operation.recoveryPolicy == .retrySafe &&
    decide (operation.attempt < operation.maxAttempts) && decide (now < operation.deadlineAt)

/-- `retryOrRequireAttention`. -/
def retryOrRequireAttention (db : Db) (operation : ClaimedOperation) (leaseOwner message : String)
    (now : Time) : Except Fault Committed :=
  (db.updateOperations
    (heldBy operation.id leaseOwner HELD_STATUSES)
    (fun o =>
      if operation.canRetry now then
        { o with
          status := .queued, currentStep := none, errorMessage := some message,
          leaseOwner := none, leaseExpiresAt := none, heartbeatAt := none, claimedAt := none }
      else
        { o with
          status := .needsAttention, currentStep := none, errorMessage := some message,
          leaseOwner := none, leaseExpiresAt := none, heartbeatAt := none,
          completedAt := some now })
    fun _ => by split <;> exact ⟨rfl, rfl⟩).requireOne staleClaim

/-- `cancelClaimed`. -/
def cancelClaimed (db : Db) (operationId leaseOwner : String) (now : Time) :
    Except Fault Committed :=
  match (db.updateOperations
      (heldBy operationId leaseOwner HELD_STATUSES)
      (fun o => { o with
        status := .cancelled, currentStep := none,
        leaseOwner := none, leaseExpiresAt := none, heartbeatAt := none,
        cancelOutcome := some .cancelled, completedAt := some now })
      fun _ => ⟨rfl, rfl⟩).requireOne staleClaim with
  | .error fault => .error fault
  | .ok updated => .ok (updated.releaseLocks operationId)

/-- `requireAttention`: the lease owner alone is the guard. -/
def requireAttention (db : Db) (operationId leaseOwner message : String) (now : Time) :
    Except Fault Committed :=
  (db.updateOperations
    (fun o => o.id == operationId && o.leaseOwner == some leaseOwner)
    (fun o => { o with
      status := .needsAttention, currentStep := none, errorMessage := some message,
      leaseOwner := none, leaseExpiresAt := none, heartbeatAt := none, completedAt := some now })
    fun _ => ⟨rfl, rfl⟩).requireOne staleClaim

/-! ## Queue maintenance -/

/-- Rows maintenance reads in one pass (`take: 16`). -/
def MAINTENANCE_BATCH : Nat := 16

/-- What maintenance keeps of an operation whose lease ran out. -/
structure LostLease where
  id : String
  status : OperationStatus
  recoveryPolicy : OperationRecoveryPolicy
  retryable : Bool
deriving DecidableEq

/-- The first read of `maintainQueue`. -/
def lostLeases (db : Db) (now : Time) : List LostLease :=
  ((db.operation.findMany fun o =>
      o.executionMode == .queued && HELD_STATUSES.contains o.status &&
        upTo o.leaseExpiresAt now).take MAINTENANCE_BATCH).map
    fun o => ⟨o.id, o.status, o.recoveryPolicy, o.retryable⟩

/-- A policy under which an interrupted operation may run again. -/
def recoverablePolicy (recoveryPolicy : OperationRecoveryPolicy) (retryable : Bool) : Bool :=
  recoveryPolicy == .reconcileOnly || (recoveryPolicy == .retrySafe && retryable)

def LostLease.recoverable (l : LostLease) : Bool :=
  l.status != .cancelRequested && recoverablePolicy l.recoveryPolicy l.retryable

/-- The write for one lost lease. -/
def recoverLease (db : Db) (l : LostLease) (now : Time) : Committed :=
  db.updateOperations
    (fun o => o.id == l.id && o.status == l.status && upTo o.leaseExpiresAt now)
    (fun o =>
      if l.recoverable then
        { o with
          status := .recovering, currentStep := some "reconcile",
          leaseOwner := none, leaseExpiresAt := none, heartbeatAt := none }
      else
        { o with
          status := .needsAttention, currentStep := none,
          errorMessage := some "Operation lease expired; reconciliation is required",
          leaseOwner := none, leaseExpiresAt := none, heartbeatAt := none,
          completedAt := some now })
    fun _ => by split <;> exact ⟨rfl, rfl⟩

/-- The second read: operations whose deadline has passed before they ran. -/
def expired (db : Db) (now : Time) : List (String × OperationStatus) :=
  ((db.operation.findMany fun o =>
      o.executionMode == .queued && (o.status == .queued || o.status == .recovering) &&
        upTo o.deadlineAt now).take MAINTENANCE_BATCH).map fun o => (o.id, o.status)

/-- The write for one of them; its locks go in a later statement. -/
def expire (db : Db) (operationId : String) (status : OperationStatus) (now : Time) : Committed :=
  db.updateOperations
    (fun o => o.id == operationId && o.status == status && upTo o.deadlineAt now)
    (fun o => { o with
      status := .failed,
      errorMessage := some "Operation deadline expired before execution",
      completedAt := some now, currentStep := none })
    fun _ => ⟨rfl, rfl⟩

/-- `deleteMany({ where: { operationId, operation: { status: 'FAILED' } } })`. -/
def releaseExpired (db : Db) (operationId : String) : Committed :=
  ⟨db.deleteLocks fun l => l.operationId == operationId &&
      (db.operation.find? fun o => o.id == l.operationId).any fun o => o.status == .failed, 0⟩

/-- The third read: queued operations that were attempted before. -/
def exhausted (db : Db) : List (String × Nat × Nat) :=
  ((db.operation.findMany fun o =>
      o.executionMode == .queued && o.status == .queued && decide (1 ≤ o.attempt)).take
    MAINTENANCE_BATCH).map fun o => (o.id, o.attempt, o.maxAttempts)

/-- The write for one whose attempts are used up. -/
def exhaust (db : Db) (operationId : String) (attempt : Nat) (now : Time) : Committed :=
  db.updateOperations
    (fun o => o.id == operationId && o.status == .queued && o.attempt == attempt)
    (fun o => { o with
      status := .needsAttention,
      errorMessage := some "Operation attempt budget exhausted", completedAt := some now })
    fun _ => ⟨rfl, rfl⟩

/-! ## Cancellation -/

/-- The read of `requestCancellation` and its access checks: `none` when the operation is already
terminal and is only returned, else the status the transaction will rely on. -/
def readForCancellation (db : Db) (operationId userId role : String) :
    Except Fault (Option OperationStatus) :=
  match db.operation.find? fun o => o.id == operationId with
  | none => .error (.notFound "Operation not found")
  | some operation =>
    let siteUser := operation.siteId.bind fun siteId =>
      (db.site.find? fun s => s.id == siteId).map Site.userId
    if role ≠ "ADMIN" ∧ operation.createdByUserId ≠ userId ∧ siteUser ≠ some userId then
      .error (.forbidden "Access denied")
    else if operation.status.terminal then .ok none
    else if operation.status = .unknownRecoveryRequired ∨ operation.status = .needsAttention then
      .error (.conflict "Operation requires manual reconciliation" none)
    else .ok (some operation.status)

def stateChanged : Fault := .conflict "Operation state changed" none

/-- The transaction of `requestCancellation`, with the status read before. -/
def requestCancellation (db : Db) (operationId : String) (status : OperationStatus) (now : Time) :
    Except Fault Committed :=
  if [OperationStatus.pending, .queued, .recovering].contains status then
    match (db.updateOperations
        (fun o => o.id == operationId && o.status == status && o.cancelRequestedAt.isNone)
        (fun o => { o with
          status := .cancelled, cancelRequestedAt := some now,
          cancelOutcome := some .cancelled, completedAt := some now, currentStep := none })
        fun _ => ⟨rfl, rfl⟩).requireOne stateChanged with
    | .error fault => .error fault
    | .ok updated => .ok (updated.releaseLocks operationId)
  else
    (db.updateOperations
      (fun o => o.id == operationId && (o.status == .claimed || o.status == .running) &&
        o.cancelRequestedAt.isNone)
      (fun o => { o with
        status := .cancelRequested, cancelRequestedAt := some now,
        cancelOutcome := some .pending })
      fun _ => ⟨rfl, rfl⟩).requireOne stateChanged

/-! ## Restart -/

def RESTART_ATTENTION : String :=
  "Interrupted by API restart; operator reconciliation is required"

/-- What `onModuleInit` keeps of an interrupted operation. -/
structure Interrupted where
  id : String
  siteId : Option String
  siteDomainId : Option String
  executionMode : ExecutionMode
  recoveryPolicy : OperationRecoveryPolicy
  retryable : Bool
deriving DecidableEq

/-- The rows a restart interrupted, as the service selects them. -/
def wasInterrupted (o : Operation) : Bool :=
  (o.executionMode == .inline && [OperationStatus.pending, .running].contains o.status) ||
    (o.executionMode == .queued &&
      [OperationStatus.claimed, .running, .recovering, .cancelRequested].contains o.status)

/-- The read of `onModuleInit`. -/
def interrupted (db : Db) : List Interrupted :=
  (db.operation.findMany wasInterrupted).map fun o =>
    ⟨o.id, o.siteId, o.siteDomainId, o.executionMode, o.recoveryPolicy, o.retryable⟩

def Interrupted.recoverable (i : Interrupted) : Bool :=
  i.executionMode == .queued && recoverablePolicy i.recoveryPolicy i.retryable

/-- `recoveringIds`. -/
def recoveringIds (found : List Interrupted) : List String :=
  (found.filter Interrupted.recoverable).map Interrupted.id

/-- `attention`. -/
def attention (found : List Interrupted) : List Interrupted :=
  found.filter fun i => !(recoveringIds found).contains i.id

/-- The transaction of `onModuleInit`: the rows are matched by id alone. -/
def recoverInterrupted (db : Db) (found : List Interrupted) (completedAt : Time) : Committed :=
  let attentionIds := (attention found).map Interrupted.id
  let recovered := db.updateOperations
    (fun o => (recoveringIds found).contains o.id)
    (fun o => { o with
      status := .recovering, currentStep := some "reconcile",
      leaseOwner := none, leaseExpiresAt := none, heartbeatAt := none, completedAt := none })
    fun _ => ⟨rfl, rfl⟩
  let marked := recovered.db.updateOperations
    (fun o => attentionIds.contains o.id)
    (fun o => { o with
      status := .needsAttention, currentStep := none,
      leaseOwner := none, leaseExpiresAt := none,
      errorMessage := some RESTART_ATTENTION, completedAt := some completedAt })
    fun _ => ⟨rfl, rfl⟩
  let siteDomainIds := (attention found).filterMap Interrupted.siteDomainId
  let siteIds := (attention found).filterMap Interrupted.siteId
  ⟨{ marked.db with
      siteDomain := db.siteDomain.map fun d =>
        if siteDomainIds.contains d.id && TRANSITIONAL_APP_STATUSES.contains d.appStatus then
          { d with appStatus := .error, appErrorMessage := some RESTART_ATTENTION }
        else d
      site := db.site.map fun s =>
        if siteIds.contains s.id && s.status == .deploying then
          { s with status := .error, errorMessage := some RESTART_ATTENTION }
        else s
      deployLog := db.deployLog.map fun l =>
        if l.operationId.any attentionIds.contains && (l.status == .pending || l.status == .inProgress)
        then { l with status := .failed, completedAt := some completedAt }
        else l },
    recovered.count + marked.count⟩

end Meowbox.Operations
