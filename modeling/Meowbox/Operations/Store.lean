import Meowbox.Lib.Table
import Meowbox.Common.StableJson

/-!
# The tables `OperationsService` works on

Rows and tables of `api/prisma/schema.prisma` as `api/src/operations/operations.service.ts` reads
and writes them: `operations` with its two unique columns, `operation_locks` keyed by the resource,
and the columns of the backup, site, domain and deploy tables the service touches. Times are
milliseconds. `updatedAt` is left out: nothing in the service reads it.

Two columns hold encoded records, which the model keeps as the records: `requestPayloadEnc` is the
payload `encryptWithDomain` seals, and `policySnapshot` the record whose stable JSON is stored.
-/

namespace Meowbox.Operations

open Relational JsData

/-- Milliseconds since the epoch (`Date.getTime`). -/
abbrev Time := Nat

/-- `OPERATION_STATES`. -/
inductive OperationStatus
  | pending | queued | claimed | running | recovering | cancelRequested
  | cancelled | succeeded | failed | unknownRecoveryRequired | needsAttention
deriving DecidableEq

/-- `EXECUTING_STATUSES`. -/
def EXECUTING_STATUSES : List OperationStatus :=
  [.pending, .queued, .claimed, .running, .recovering, .cancelRequested]

/-- `LOCK_HOLDING_STATUSES`. -/
def LOCK_HOLDING_STATUSES : List OperationStatus :=
  EXECUTING_STATUSES ++ [.unknownRecoveryRequired, .needsAttention]

/-- The statuses admission counts as active (`begin`). -/
def ACTIVE_STATUSES : List OperationStatus :=
  [.queued, .claimed, .running, .recovering, .cancelRequested]

/-- The statuses of an operation a worker holds. -/
def HELD_STATUSES : List OperationStatus := [.claimed, .running, .cancelRequested]

/-- The statuses from which nothing is left to do. -/
def OperationStatus.terminal (s : OperationStatus) : Bool :=
  s == .succeeded || s == .failed || s == .cancelled

/-- `executionMode`. -/
inductive ExecutionMode
  | inline | queued
deriving DecidableEq

/-- `OPERATION_RECOVERY_POLICIES`. -/
inductive OperationRecoveryPolicy
  | retrySafe | reconcileOnly | manual
deriving DecidableEq

/-- The cancel outcomes the service writes. -/
inductive OperationCancelOutcome
  | notRequested | pending | cancelled | tooLate
deriving DecidableEq

inductive ActorKind
  | operator | service
deriving DecidableEq

inductive PolicyRole
  | admin | manager | viewer | service
deriving DecidableEq

/-- `OperationPolicySnapshot`. -/
structure OperationPolicySnapshot where
  actionId : String
  schemaVersion : Nat
  actorKind : ActorKind
  issuerId : String
  subject : String
  role : PolicyRole
  permissions : List String
  idempotencyId : String
  requestId : String
  recoveryPolicy : OperationRecoveryPolicy
  retryable : Bool
deriving DecidableEq

/-- What `encryptWithDomain('operations', …)` seals. -/
structure SealedPayload where
  operationId : String
  request : JsValue

/-- A row of `operations`. -/
structure Operation where
  id : String
  idempotencyKey : String
  requestHash : String
  type : String
  status : OperationStatus
  siteId : Option String
  siteDomainId : Option String
  databaseId : Option String
  globalLockKey : Option String
  parentOperationId : Option String
  createdByUserId : String
  currentStep : Option String
  progress : Nat
  actionId : Option String
  executionMode : ExecutionMode
  policySnapshot : Option OperationPolicySnapshot
  requestPayloadEnc : Option SealedPayload
  attempt : Nat
  maxAttempts : Nat
  retryable : Bool
  recoveryPolicy : OperationRecoveryPolicy
  leaseOwner : Option String
  leaseExpiresAt : Option Time
  heartbeatAt : Option Time
  claimedAt : Option Time
  deadlineAt : Option Time
  cancelRequestedAt : Option Time
  cancelOutcome : Option OperationCancelOutcome
  result : Option String
  errorMessage : Option String
  startedAt : Option Time
  completedAt : Option Time
  createdAt : Time

inductive LockKind
  | global | site | domain | database
deriving DecidableEq

/-- `OperationLockSpec`. -/
structure OperationLockSpec where
  resourceKey : String
  kind : LockKind
deriving DecidableEq

/-- A row of `operation_locks`. -/
structure OperationLock where
  resourceKey : String
  operationId : String
  kind : LockKind
deriving DecidableEq

inductive BackupStatus
  | pending | inProgress | completed | failed
deriving DecidableEq

/-- The columns of a backup `begin` reads. -/
structure Backup where
  id : String
  siteId : String
  status : BackupStatus
deriving DecidableEq

/-- `DomainApplicationStatus`. -/
inductive AppStatus
  | provisioning | running | deploying | updating | error
deriving DecidableEq

/-- `TRANSITIONAL_APP_STATUSES`. -/
def TRANSITIONAL_APP_STATUSES : List AppStatus := [.provisioning, .deploying, .updating]

structure SiteDomain where
  id : String
  appStatus : AppStatus
  appErrorMessage : Option String
deriving DecidableEq

inductive SiteStatus
  | running | stopped | deploying | error
deriving DecidableEq

structure Site where
  id : String
  userId : String
  status : SiteStatus
  errorMessage : Option String
deriving DecidableEq

inductive DeployStatus
  | pending | inProgress | success | failed | rolledBack
deriving DecidableEq

structure DeployLog where
  operationId : Option String
  status : DeployStatus
  completedAt : Option Time
deriving DecidableEq

/-- `operations`: the primary key and `@unique idempotencyKey`. -/
abbrev OperationTable := Table [Operation.id, Operation.idempotencyKey]

/-- `operation_locks`: the primary key. -/
abbrev LockTable := Table [OperationLock.resourceKey]

/-- The database as the service sees it. -/
structure Db where
  operation : OperationTable
  operationLock : LockTable
  backup : List Backup
  siteDomain : List SiteDomain
  site : List Site
  deployLog : List DeployLog

/-- The database before any operation was begun. -/
def Db.empty : Db := ⟨.empty, .empty, [], [], [], []⟩

/-- What a method throws. A conflict may name the operation or backup in its way;
`uniqueViolation` is Prisma's `P2002`. -/
inductive Fault
  | badRequest (message : String)
  | conflict (message : String) (blocking : Option String)
  | forbidden (message : String)
  | notFound (message : String)
  | tooManyRequests (message : String)
  | serviceUnavailable (message : String)
  | error (message : String)
  | uniqueViolation
deriving DecidableEq

/-- A committed write: the database after it and how many rows its `updateMany` matched. -/
structure Committed where
  db : Db
  count : Nat

/-! ## Small facts -/

theorem holding_iff_not_terminal (s : OperationStatus) :
    s ∈ LOCK_HOLDING_STATUSES ↔ s.terminal = false := by
  cases s <;> decide

theorem executing_holding {s : OperationStatus} (h : s ∈ EXECUTING_STATUSES) :
    s.terminal = false := by
  revert h
  cases s <;> decide

theorem id_mem_keys : Operation.id ∈ [Operation.id, Operation.idempotencyKey] :=
  List.mem_cons_self

theorem idempotencyKey_mem_keys :
    Operation.idempotencyKey ∈ [Operation.id, Operation.idempotencyKey] :=
  List.mem_cons_of_mem _ List.mem_cons_self

/-- An update that keeps the id and the idempotency key keeps the unique columns. -/
theorem keepsKeys {f : Operation → Operation}
    (h : ∀ o, (f o).id = o.id ∧ (f o).idempotencyKey = o.idempotencyKey) :
    ∀ k ∈ [Operation.id, Operation.idempotencyKey], ∀ o, k (f o) = k o := by
  intro k hk o
  simp only [List.mem_cons, List.not_mem_nil, or_false] at hk
  rcases hk with rfl | rfl
  · exact (h o).1
  · exact (h o).2

/-- `updateMany` on `operations`. -/
def Db.updateOperations (db : Db) (p : Operation → Bool) (f : Operation → Operation)
    (hf : ∀ o, (f o).id = o.id ∧ (f o).idempotencyKey = o.idempotencyKey) : Committed :=
  ⟨{ db with operation := db.operation.updateMany p f (keepsKeys hf) }, db.operation.count p⟩

/-- `deleteMany` on `operation_locks`. -/
def Db.deleteLocks (db : Db) (p : OperationLock → Bool) : Db :=
  { db with operationLock := db.operationLock.deleteMany p }

@[simp] theorem updateOperations_count (db : Db) (p f hf) :
    (db.updateOperations p f hf).count = db.operation.count p := rfl

@[simp] theorem updateOperations_operationLock (db : Db) (p f hf) :
    (db.updateOperations p f hf).db.operationLock = db.operationLock := rfl

end Meowbox.Operations
