import Meowbox.Lib.Phases
import Meowbox.Lib.Table

/-!
# Federated idempotency receipts

Model of `api/src/federation/federation-idempotency.service.ts`: `claim` and `pruneExpired` as
programs over the rows of `FederationIdempotencyReceipt`, which are unique in the columns of
`Selector`.

* A statement is one instruction. SQLite runs transactions one at a time, so what really happens is
  among the interleavings of these instructions, and the unique violation can happen here as in the
  source.
* A transaction that throws behind `deleteMany` finds a row that has taken the place of what it
  deleted, so its rollback puts nothing back.
* The id of a receipt is a new one each time: what it is about, and how many receipts there have
  been about that.
* `granted` lists every receipt ever created, with its input and the time; no instruction reads it
  but for that number.

Only `outside` lets time pass. A database that fails is a call that goes no further. The columns
`state`, `createdAt` and `updatedAt`, which nothing reads, are left out.
-/

namespace Meowbox.FederationIdempotency

open Interleaved Fallible Relational

/-! ## Rows -/

/-- `DelegatedActorKind`. -/
inductive DelegatedActorKind
  | operator
  | service
deriving DecidableEq

def DelegatedActorKind.name : DelegatedActorKind → String
  | operator => "OPERATOR"
  | service => "SERVICE"

/-- `ClaimFederationIdempotencyInput`; `now` is read where the call begins. -/
structure ClaimInput where
  issuerId : String
  actorKind : DelegatedActorKind
  subject : String
  actionId : String
  idempotencyKey : String
  requestId : String
  requestHash : String
deriving DecidableEq

/-- What a claim is about. -/
structure Scope where
  issuerId : String
  actorKind : DelegatedActorKind
  subject : String
  actionId : String
  idempotencyKey : String
deriving DecidableEq

def ClaimInput.scope (input : ClaimInput) : Scope :=
  ⟨input.issuerId, input.actorKind, input.subject, input.actionId, input.idempotencyKey⟩

/-- The unique columns. -/
structure Selector where
  issuerId : String
  actorKind : DelegatedActorKind
  subjectHash : String
  actionId : String
  idempotencyKeyHash : String
deriving DecidableEq

structure ReceiptId where
  scope : Scope
  number : Nat
deriving DecidableEq

structure Receipt where
  id : ReceiptId
  selector : Selector
  requestHash : String
  requestId : String
  expiresAt : Nat
deriving DecidableEq

/-- A receipt when it is created. -/
structure Grant where
  input : ClaimInput
  receipt : Receipt
  grantedAt : Nat
deriving DecidableEq

/-- `digest`, given what SHA-256 makes of the bytes that are hashed. -/
def digest (sha256 : String → String) (parts : List String) : String :=
  sha256 (String.join (parts.map fun part => part ++ "\x00"))

/-- The `selector` of a claim. -/
def selectorOf (sha256 : String → String) (scope : Scope) : Selector where
  issuerId := scope.issuerId
  actorKind := scope.actorKind
  subjectHash := digest sha256 [scope.actorKind.name, scope.subject]
  actionId := scope.actionId
  idempotencyKeyHash := digest sha256 [scope.idempotencyKey]

def DEFAULT_RECEIPT_TTL_MS : Int := 24 * 60 * 60 * 1000

def MAX_RECEIPT_TTL_MS : Int := 30 * 24 * 60 * 60 * 1000

/-- The `receiptTtlMs` of what is configured; `none` is what is no integer. -/
def receiptTtlMs (configured : Option Int) : Nat :=
  match configured with
  | some n =>
    if n ≤ 9007199254740991 ∧ 0 < n then (min n MAX_RECEIPT_TTL_MS).toNat
    else DEFAULT_RECEIPT_TTL_MS.toNat
  | none => DEFAULT_RECEIPT_TTL_MS.toNat

/-! ## Errors -/

inductive IdempotencyCode
  | conflict
  | replay
deriving DecidableEq

inductive ClaimError
  /-- `FederationIdempotencyError`. -/
  | idempotency (code : IdempotencyCode) (message : String)
  /-- The unique violation, which is thrown on. -/
  | p2002
deriving DecidableEq

/-- `throwExisting`. -/
def throwExisting (existingHash requestHash : String) : ClaimError :=
  if existingHash ≠ requestHash then
    .idempotency .conflict "Idempotency key is already bound to a different request"
  else .idempotency .replay "Mutation was already admitted and requires result reconciliation"

/-! ## The store -/

structure ReceiptStore where
  clock : Nat
  receipts : Table [Receipt.selector]
  /-- Oldest first. -/
  granted : List Grant

inductive ReceiptInstr
  | now
  | deleteExpired (selector : Selector) (now : Nat)
  | findFirst (selector : Selector)
  | create (input : ClaimInput) (expiresAt : Nat)
  | findExpired (now : Nat) (limit : Nat)
  | deleteMany (ids : List ReceiptId)
deriving DecidableEq

abbrev Reply : ReceiptInstr → Type
  | .now => Nat
  | .deleteExpired _ _ => Unit
  | .findFirst _ => Option Receipt
  | .create _ _ => Option ReceiptId
  | .findExpired _ _ => List ReceiptId
  | .deleteMany _ => Nat

namespace ReceiptStore

/-- The row that `create` makes of a claim. -/
def newReceipt (sha256 : String → String) (x : ReceiptStore) (input : ClaimInput)
    (expiresAt : Nat) : Receipt where
  id := ⟨input.scope, x.granted.countP fun g => decide (g.input.scope = input.scope)⟩
  selector := selectorOf sha256 input.scope
  requestHash := input.requestHash
  requestId := input.requestId
  expiresAt := expiresAt

/-- `create`, or the unique violation. -/
def create (sha256 : String → String) (x : ReceiptStore) (input : ClaimInput) (expiresAt : Nat) :
    Option ReceiptId × ReceiptStore :=
  match x.receipts.create? (x.newReceipt sha256 input expiresAt) with
  | some receipts =>
    (some (x.newReceipt sha256 input expiresAt).id, { x with
      receipts := receipts
      granted := x.granted ++ [⟨input, x.newReceipt sha256 input expiresAt, x.clock⟩] })
  | none => (none, x)

/-- `deleteMany`. -/
def delete (x : ReceiptStore) (p : Receipt → Bool) : ReceiptStore :=
  { x with receipts := x.receipts.deleteMany p }

/-- The `deleteMany` of `claim`. -/
def deleteExpired (x : ReceiptStore) (selector : Selector) (now : Nat) : ReceiptStore :=
  x.delete fun r => decide (r.selector = selector) && decide (r.expiresAt ≤ now)

/-- The rows that expire by `now`, the earliest first. -/
def expired (x : ReceiptStore) (now limit : Nat) : List Receipt :=
  ((x.receipts.findMany fun r => decide (r.expiresAt ≤ now)).mergeSort
    fun r r' => decide (r.expiresAt ≤ r'.expiresAt)).take limit

end ReceiptStore

/-- The answer to an instruction, and the store after it. -/
def reply (sha256 : String → String) : (i : ReceiptInstr) → ReceiptStore → Reply i × ReceiptStore
  | .now, x => (x.clock, x)
  | .deleteExpired selector now, x => ((), x.deleteExpired selector now)
  | .findFirst selector, x => (x.receipts.find? fun r => decide (r.selector = selector), x)
  | .create input expiresAt, x => x.create sha256 input expiresAt
  | .findExpired now limit, x => ((x.expired now limit).map Receipt.id, x)
  | .deleteMany ids, x =>
    (x.receipts.count fun r => ids.contains r.id, x.delete fun r => ids.contains r.id)

/-! ## The service -/

abbrev ReceiptCall := Fallible ReceiptInstr Reply ClaimError

abbrev perform (i : ReceiptInstr) : ReceiptCall (Reply i) := Fallible.ask i

/-- The transaction of `claim`. -/
def claimTransaction (sha256 : String → String) (ttl : Nat) (input : ClaimInput) (now : Nat) :
    ReceiptCall ReceiptId := do
  perform (.deleteExpired (selectorOf sha256 input.scope) now)
  match ← perform (.findFirst (selectorOf sha256 input.scope)) with
  | some existing => throw (throwExisting existing.requestHash input.requestHash)
  | none =>
    ask? (.create input (now + ttl)) fun created =>
      match created with
      | some id => .ok id
      | none => .error .p2002

/-- `claim`. -/
def claim (sha256 : String → String) (ttl : Nat) (input : ClaimInput) : ReceiptCall ReceiptId := do
  let now ← perform .now
  match ← attempt (claimTransaction sha256 ttl input now) with
  | .ok id => return id
  | .error .p2002 =>
    match ← perform (.findFirst (selectorOf sha256 input.scope)) with
    | some existing => throw (throwExisting existing.requestHash input.requestHash)
    | none => throw .p2002
  | .error e => throw e

/-- The `take` of `pruneExpired`. -/
def pruneLimit (limit : Int) : Nat := (max 1 (min 1000 limit)).toNat

/-- `pruneExpired`. -/
def pruneExpired (limit : Int) : ReceiptCall Nat := do
  let now ← perform .now
  let rows ← perform (.findExpired now (pruneLimit limit))
  if rows.isEmpty then return 0
  else perform (.deleteMany rows)

inductive ReceiptRequest
  | claim (input : ClaimInput)
  | pruneExpired (limit : Int)
deriving DecidableEq

inductive ReceiptResult
  | claimed (id : ReceiptId)
  | pruned (count : Nat)
deriving DecidableEq

/-- Time passes. -/
inductive ClockChange
  | advance (ms : Nat)
deriving DecidableEq

/-- The service over one database. -/
def receiptService (sha256 : String → String) (configured : Option Int) :
    Service ReceiptStore ClockChange ReceiptRequest ReceiptInstr Reply
      (Except ClaimError ReceiptResult) where
  program
    | .claim input =>
      (do return .claimed (← claim sha256 (receiptTtlMs configured) input) :
        ReceiptCall ReceiptResult).run
    | .pruneExpired limit => (do return .pruned (← pruneExpired limit) :
        ReceiptCall ReceiptResult).run
  answer := reply sha256
  outside
    | .advance ms, x => { x with clock := x.clock + ms }

/-- The database before the first claim. -/
def emptyStore (clock : Nat) : ReceiptStore := ⟨clock, .empty, []⟩

end Meowbox.FederationIdempotency
