import Meowbox.Operations.Service

/-!
# `begin` and the scope locks

`begin` runs in three stages, with other statements between them: `prepare` checks the input and
computes the request hash, a lookup by idempotency key may answer with the stored operation
(`replay`), and otherwise `beginTransaction` creates the row and its locks. When that transaction
fails on a unique column the lookup runs once more (`Method.begin` in `Methods.lean`).

`attachScopeWithClient` is the transaction behind `attachScope` and `attachCreatedSiteScope`. Both
go through `assertScopeHierarchyAvailable`.

`sha256` stands for Node's `createHash('sha256')`; the model fixes nothing about it.
-/

namespace Meowbox.Operations

open JsData

/-! ## Input -/

/-- `BeginOperationInput.queued`. `deadlineAt` is `none` for an invalid date. -/
structure QueuedInput where
  actionId : String
  policySnapshot : OperationPolicySnapshot
  recoveryPolicy : OperationRecoveryPolicy
  retryable : Bool
  deadlineAt : Option Time
  maxAttempts : Option Int

/-- `BeginOperationInput`. -/
structure BeginOperationInput where
  idempotencyKey : Option String
  type : String
  siteId : Option String
  siteDomainId : Option String
  databaseId : Option String
  globalLockKey : Option String
  lockSite : Option Bool
  parentOperationId : Option String
  userId : String
  request : JsValue
  queued : Option QueuedInput

/-- `OperationTicket`; `result` is the stored text, which the caller gets parsed. -/
structure OperationTicket where
  id : String
  siteId : Option String
  siteDomainId : Option String
  replayed : Bool
  status : OperationStatus
  result : Option String
deriving DecidableEq

def MAX_QUEUED_PER_TARGET : Nat := 128
def MAX_QUEUED_PER_ACTOR : Nat := 32
def MAX_OPERATION_PAYLOAD_BYTES : Nat := 1024 * 1024

/-- `[A-Za-z0-9._:-]`. -/
def isKeyChar (c : Char) : Bool :=
  isUpperAscii c || isLowerAscii c || isDigitAscii c || c == '.' || c == '_' || c == ':' || c == '-'

/-- `IDEMPOTENCY_KEY`, also the form of a lease owner. -/
def isIdempotencyKey (s : String) : Bool := allIn isKeyChar 8 128 s

/-- `GLOBAL_LOCK_KEY`. -/
def isGlobalLockKey (s : String) : Bool :=
  match s.toList with
  | c :: rest =>
    isLowerAscii c && rest.all (fun d => isLowerAscii d || isDigitAscii d || d == ':' || d == '-') &&
      decide (rest.length ≤ 63)
  | [] => false

/-- The parts of an action id behind the first dot: each dot is followed by a part. -/
def actionIdTail : Bool → List Char → Bool
  | nonempty, [] => nonempty
  | nonempty, c :: rest =>
    if c = '.' then nonempty && actionIdTail false rest
    else (isLowerAscii c || isDigitAscii c || c == '_' || c == '-') && actionIdTail true rest

/-- `ACTION_ID`. -/
def isActionId (s : String) : Bool :=
  match s.toList with
  | c :: rest =>
    isLowerAscii c &&
      (match rest.dropWhile fun d => isLowerAscii d || isDigitAscii d with
        | '.' :: parts => actionIdTail false parts
        | _ => false)
  | [] => false

def OperationRecoveryPolicy.text : OperationRecoveryPolicy → String
  | .retrySafe => "RETRY_SAFE"
  | .reconcileOnly => "RECONCILE_ONLY"
  | .manual => "MANUAL"

def ActorKind.text : ActorKind → String
  | .operator => "OPERATOR"
  | .service => "SERVICE"

def PolicyRole.text : PolicyRole → String
  | .admin => "ADMIN"
  | .manager => "MANAGER"
  | .viewer => "VIEWER"
  | .service => "SERVICE"

/-! ## The request hash -/

/-- `value || null` for a string, as a JSON value. -/
def orNull (s : Option String) : JsValue :=
  match truthy s with
  | some t => .string t
  | none => .null

/-- A policy snapshot as a data object, with what stands under `requestId`. -/
def policyObject (policy : OperationPolicySnapshot) (requestId : JsValue) : JsValue :=
  .object [
    ("actionId", .string policy.actionId),
    ("schemaVersion", .number (.ofInt policy.schemaVersion)),
    ("actorKind", .string policy.actorKind.text),
    ("issuerId", .string policy.issuerId),
    ("subject", .string policy.subject),
    ("role", .string policy.role.text),
    ("permissions", .array (policy.permissions.map .string)),
    ("idempotencyId", .string policy.idempotencyId),
    ("requestId", requestId),
    ("recoveryPolicy", .string policy.recoveryPolicy.text),
    ("retryable", .boolean policy.retryable)]

/-- `maxAttempts ?? (retryable ? 3 : 1)`. -/
def QueuedInput.attempts (queued : QueuedInput) : Int :=
  queued.maxAttempts.getD (if queued.retryable then 3 else 1)

/-- The `scope` part of the hashed object. -/
def scopeObject (input : BeginOperationInput) (globalLockKey : Option String) : JsValue :=
  .object [
    ("siteId", orNull input.siteId),
    ("siteDomainId", orNull input.siteDomainId),
    ("databaseId", orNull input.databaseId),
    ("globalLockKey", orNull globalLockKey),
    ("lockSite", .boolean (input.lockSite != some false)),
    ("parentOperationId", orNull input.parentOperationId)]

/-- The `execution` part: the policy goes in without its request id, the deadline not at all. -/
def executionObject : Option QueuedInput → JsValue
  | some queued => .object [
      ("actionId", .string queued.actionId),
      ("policy", policyObject queued.policySnapshot .undefined),
      ("recoveryPolicy", .string queued.recoveryPolicy.text),
      ("retryable", .boolean queued.retryable),
      ("maxAttempts", .number (.ofInt queued.attempts))]
  | none => .null

/-- What the request hash is taken over. -/
def hashedObject (input : BeginOperationInput) (globalLockKey : Option String) : JsValue :=
  .object [
    ("request", input.request),
    ("scope", scopeObject input globalLockKey),
    ("execution", executionObject input.queued)]

/-! ## Locks -/

/-- `operationLockSpecs`. -/
def operationLockSpecs (globalLockKey siteId siteDomainId databaseId : Option String)
    (lockSite : Option Bool) (parentOperationId : Option String) : List OperationLockSpec :=
  (match truthy (globalLockKey.map trim), truthy parentOperationId with
    | some key, none => [⟨"global:" ++ key, .global⟩]
    | _, _ => []) ++
  (match truthy siteId, truthy parentOperationId with
    | some id, none => if lockSite != some false then [⟨"site:" ++ id, .site⟩] else []
    | _, _ => []) ++
  (match truthy siteDomainId with
    | some id => [⟨"domain:" ++ id, .domain⟩]
    | none => []) ++
  (match truthy databaseId with
    | some id => [⟨"database:" ++ id, .database⟩]
    | none => [])

/-! ## Preparing a call -/

/-- `assertQueuedConfiguration`; the whole configuration is checked before any read. -/
def assertQueuedConfiguration (queued : QueuedInput) (idempotencyKey : String) (now : Time) :
    Except Fault Unit :=
  if !isActionId queued.actionId || queued.policySnapshot.actionId != queued.actionId then
    .error (.conflict "Queued operation action is invalid" none)
  else if queued.policySnapshot.idempotencyId != idempotencyKey then
    .error (.conflict "Operation policy idempotency binding is invalid" none)
  else if queued.policySnapshot.recoveryPolicy != queued.recoveryPolicy ||
      queued.policySnapshot.retryable != queued.retryable then
    .error (.conflict "Operation policy recovery binding is invalid" none)
  else if queued.retryable != (queued.recoveryPolicy == .retrySafe) then
    .error (.conflict "Only RETRY_SAFE operations may be retried" none)
  else if !after queued.deadlineAt now || !upTo queued.deadlineAt (now + 30 * 24 * 60 * 60 * 1000) then
    .error (.conflict "Queued operation deadline is invalid" none)
  else if queued.attempts < 1 ∨ 3 < queued.attempts then
    .error (.conflict "Queued operation maxAttempts must be 1-3" none)
  else match assertNoSecretFields "policySnapshot"
      (policyObject queued.policySnapshot (.string queued.policySnapshot.requestId)) with
    | .error message => .error (.error message)
    | .ok () => .ok ()

/-- The check of the queued part of the input. -/
def checkQueued (input : BeginOperationInput) (idempotencyKey : String) (now : Time) :
    Except Fault Unit :=
  match input.queued with
  | none => .ok ()
  | some queued =>
    match assertQueuedConfiguration queued idempotencyKey now with
    | .error fault => .error fault
    | .ok () =>
      if MAX_OPERATION_PAYLOAD_BYTES < (stableJson input.request).utf8ByteSize then
        .error (.conflict "Queued operation payload exceeds 1 MiB" none)
      else .ok ()

/-- A call that passed the checks on its input. `operationId` is the id it will create. -/
structure PreparedBegin where
  input : BeginOperationInput
  idempotencyKey : String
  globalLockKey : Option String
  lockSpecs : List OperationLockSpec
  requestHash : String
  operationId : String

/-- The idempotency key of a call: `uuid` is the `randomUUID()` drawn when it carries none. -/
def effectiveKey (input : BeginOperationInput) (uuid : String) : String :=
  (truthy (input.idempotencyKey.map trim)).getD uuid

/-- The hash stored with the operation. -/
def requestHash (sha256 : String → String) (input : BeginOperationInput) : String :=
  sha256 (stableJson (hashedObject input (truthy (input.globalLockKey.map trim))))

/-- `begin` up to its first read. -/
def prepare (sha256 : String → String) (input : BeginOperationInput) (uuid operationId : String)
    (releaseMaintenance : Bool) (now : Time) : Except Fault PreparedBegin :=
  let key := effectiveKey input uuid
  let globalLockKey := truthy (input.globalLockKey.map trim)
  if releaseMaintenance then
    .error (.serviceUnavailable "Panel writes are temporarily paused for a release migration")
  else if !isIdempotencyKey key then
    .error (.conflict "Idempotency-Key must be 8-128 safe ASCII characters" none)
  else match checkQueued input key now with
    | .error fault => .error fault
    | .ok () =>
      if globalLockKey.any fun k => !isGlobalLockKey k then
        .error (.conflict "Global operation lock key must be 1-64 safe lowercase characters" none)
      else if globalLockKey.isSome && (truthy input.parentOperationId).isSome then
        .error (.conflict "Only top-level operations can acquire a global lock" none)
      else .ok {
        input := input
        idempotencyKey := key
        globalLockKey := globalLockKey
        lockSpecs := operationLockSpecs globalLockKey input.siteId input.siteDomainId
          input.databaseId input.lockSite input.parentOperationId
        requestHash := requestHash sha256 input
        operationId := operationId }

/-- What a prepared call is made of, and the checks it passed. -/
structure PreparedSpec (sha256 : String → String) (input : BeginOperationInput)
    (uuid operationId : String) (now : Time) (p : PreparedBegin) : Prop where
  key : p.idempotencyKey = effectiveKey input uuid
  global : p.globalLockKey = truthy (input.globalLockKey.map trim)
  locks : p.lockSpecs = operationLockSpecs p.globalLockKey input.siteId input.siteDomainId
    input.databaseId input.lockSite input.parentOperationId
  hash : p.requestHash = requestHash sha256 input
  created : p.operationId = operationId
  keyForm : isIdempotencyKey p.idempotencyKey = true
  queued : checkQueued input p.idempotencyKey now = .ok ()
  of : p.input = input

theorem prepare_spec {sha256 : String → String} {input : BeginOperationInput}
    {uuid operationId : String} {releaseMaintenance : Bool} {now : Time} {p : PreparedBegin}
    (h : prepare sha256 input uuid operationId releaseMaintenance now = .ok p) :
    PreparedSpec sha256 input uuid operationId now p := by
  simp only [prepare] at h
  split at h
  · exact absurd h (by simp)
  split at h
  · exact absurd h (by simp)
  rename_i hkey
  split at h
  · exact absurd h (by simp)
  rename_i hqu
  split at h
  · exact absurd h (by simp)
  split at h
  · exact absurd h (by simp)
  simp only [Except.ok.injEq] at h
  subst h
  exact ⟨rfl, rfl, rfl, rfl, rfl, by simpa using hkey, hqu, rfl⟩

/-! ## Replaying a stored operation -/

/-- `assertReplay`. -/
def assertReplay (existing : Operation) (p : PreparedBegin) : Except Fault Unit :=
  if existing.type != p.input.type || existing.createdByUserId != p.input.userId ||
      existing.requestHash != p.requestHash then
    .error (.conflict "Idempotency-Key was already used for a different request" none)
  else .ok ()

/-- The ticket of a stored operation. -/
def replayTicket (existing : Operation) : OperationTicket :=
  ⟨existing.id, existing.siteId, existing.siteDomainId, true, existing.status, existing.result⟩

/-- The answer for a stored operation with the key of the call. -/
def replay (existing : Operation) (p : PreparedBegin) : Except Fault OperationTicket :=
  match assertReplay existing p with
  | .error fault => .error fault
  | .ok () => .ok (replayTicket existing)

/-- `findUnique({ where: { idempotencyKey } })`. -/
def findByKey (db : Db) (idempotencyKey : String) : Option Operation :=
  db.operation.find? fun o => o.idempotencyKey == idempotencyKey

/-- The check behind the first lookup. -/
def scopeFault (input : BeginOperationInput) : Option Fault :=
  if ((truthy input.siteDomainId).isSome || (truthy input.databaseId).isSome) &&
      (truthy input.siteId).isNone then
    some (.conflict "Domain and database operations require a Site scope" none)
  else none

/-- `findResourceLock`: the operation that holds one of the resources. -/
def findResourceLock (db : Db) (resourceKeys : List String) : Option Operation :=
  (db.operationLock.find? fun l =>
    resourceKeys.contains l.resourceKey &&
      (db.operation.find? fun o => o.id == l.operationId).any fun o =>
        LOCK_HOLDING_STATUSES.contains o.status).bind
    fun l => db.operation.find? fun o => o.id == l.operationId

/-- An operation that still holds locks and works in the scope of the call. -/
def findInScope (db : Db) (p : PreparedBegin) : Option Operation :=
  db.operation.find? fun o =>
    LOCK_HOLDING_STATUSES.contains o.status &&
      (((truthy p.input.siteId).any fun id => o.siteId == some id) ||
        ((truthy p.input.siteDomainId).any fun id => o.siteDomainId == some id) ||
        ((truthy p.input.databaseId).any fun id => o.databaseId == some id) ||
        (p.globalLockKey.any fun key => o.globalLockKey == some key))

/-! ## The transactions -/

/-- The operations admission counts. -/
def activeQueued (o : Operation) : Bool :=
  o.executionMode == .queued && ACTIVE_STATUSES.contains o.status

/-- Those of one actor. -/
def activeQueuedOf (userId : String) (o : Operation) : Bool :=
  activeQueued o && o.createdByUserId == userId

/-- The admission limits, for a queued call. -/
def checkAdmission (db : Db) (input : BeginOperationInput) : Except Fault Unit :=
  if input.queued.isSome && (decide (MAX_QUEUED_PER_TARGET ≤ db.operation.count activeQueued) ||
      decide (MAX_QUEUED_PER_ACTOR ≤ db.operation.count (activeQueuedOf input.userId))) then
    .error (.tooManyRequests "Operation queue admission limit reached")
  else .ok ()

def parentFault : Fault := .conflict "Parent operation is not active or compatible" none

/-- The parent must be executing, of the same user and, for a scoped child, of the same site. -/
def checkParent (db : Db) (input : BeginOperationInput) : Except Fault Unit :=
  match truthy input.parentOperationId with
  | none => .ok ()
  | some parentId =>
    match db.operation.find? fun o => o.id == parentId with
    | none => .error parentFault
    | some parent =>
      if !EXECUTING_STATUSES.contains parent.status || parent.createdByUserId != input.userId ||
          (input.siteId.isSome && parent.siteId != input.siteId) then
        .error parentFault
      else .ok ()

/-- No backup of the site may be running. -/
def checkBackup (db : Db) (siteId : Option String) : Except Fault Unit :=
  match siteId with
  | none => .ok ()
  | some id =>
    match db.backup.find? fun b =>
        b.siteId == id && (b.status == .pending || b.status == .inProgress) with
    | some activeBackup => .error (.conflict "Site backup is active" (some activeBackup.id))
    | none => .ok ()

/-- The scope `assertScopeHierarchyAvailable` looks at. -/
structure ScopeRequest where
  siteId : Option String
  lockSite : Option Bool
  parentOperationId : Option String

def scopeLocked (operationId : String) : Fault :=
  .conflict "Operation scope is locked" (some operationId)

/-- The lock on a whole site. -/
def siteLockOf (db : Db) (siteId : String) : Option OperationLock :=
  db.operationLock.find? fun l => l.resourceKey == "site:" ++ siteId

/-- A domain or database lock inside the site, of another operation than `exclude`. -/
def nestedLockOf (db : Db) (siteId : String) (exclude : Option String) : Option OperationLock :=
  db.operationLock.find? fun l =>
    (l.kind == .domain || l.kind == .database) && exclude != some l.operationId &&
      (db.operation.find? fun o => o.id == l.operationId).any fun o =>
        o.siteId == some siteId && LOCK_HOLDING_STATUSES.contains o.status

/-- `assertScopeHierarchyAvailable`: a child may work inside its parent's site lock, a call that
locks no site needs the site unlocked, and a call that locks the site needs no lock inside it. -/
def assertScopeHierarchyAvailable (db : Db) (scope : ScopeRequest)
    (excludeOperationId : Option String) : Except Fault Unit :=
  match truthy scope.siteId with
  | none => .ok ()
  | some siteId =>
    match truthy scope.parentOperationId with
    | some parentId =>
      match siteLockOf db siteId with
      | some siteLock =>
        if siteLock.operationId ≠ parentId ∧ excludeOperationId ≠ some siteLock.operationId then
          .error (scopeLocked siteLock.operationId)
        else .ok ()
      | none => .ok ()
    | none =>
      if scope.lockSite = some false then
        match siteLockOf db siteId with
        | some siteLock =>
          if excludeOperationId ≠ some siteLock.operationId then
            .error (scopeLocked siteLock.operationId)
          else .ok ()
        | none => .ok ()
      else
        match nestedLockOf db siteId excludeOperationId with
        | some nestedLock => .error (scopeLocked nestedLock.operationId)
        | none => .ok ()

/-- The row `begin` creates. -/
def PreparedBegin.row (p : PreparedBegin) (now : Time) : Operation where
  id := p.operationId
  idempotencyKey := p.idempotencyKey
  requestHash := p.requestHash
  type := p.input.type
  status := if p.input.queued.isSome then .queued else .pending
  siteId := truthy p.input.siteId
  siteDomainId := truthy p.input.siteDomainId
  databaseId := truthy p.input.databaseId
  globalLockKey := p.globalLockKey
  parentOperationId := truthy p.input.parentOperationId
  createdByUserId := p.input.userId
  currentStep := none
  progress := 0
  actionId := truthy (p.input.queued.map QueuedInput.actionId)
  executionMode := if p.input.queued.isSome then .queued else .inline
  policySnapshot := p.input.queued.map QueuedInput.policySnapshot
  requestPayloadEnc := p.input.queued.map fun _ => ⟨p.operationId, p.input.request⟩
  attempt := 0
  maxAttempts := match p.input.queued with
    | some queued => queued.attempts.toNat
    | none => 1
  retryable := p.input.queued.any QueuedInput.retryable
  recoveryPolicy := (p.input.queued.map QueuedInput.recoveryPolicy).getD .manual
  leaseOwner := none
  leaseExpiresAt := none
  heartbeatAt := none
  claimedAt := none
  deadlineAt := p.input.queued.bind QueuedInput.deadlineAt
  cancelRequestedAt := none
  cancelOutcome := p.input.queued.map fun _ => .notRequested
  result := none
  errorMessage := none
  startedAt := none
  completedAt := none
  createdAt := now

/-- The lock rows of an operation. -/
def lockRows (operationId : String) (specs : List OperationLockSpec) : List OperationLock :=
  specs.map fun s => ⟨s.resourceKey, operationId, s.kind⟩

/-- `operation.create` with its nested locks. -/
def createOperation (db : Db) (p : PreparedBegin) (now : Time) : Except Fault Committed :=
  match db.operation.create? (p.row now) with
  | none => .error .uniqueViolation
  | some operation =>
    match db.operationLock.createMany? (lockRows p.operationId p.lockSpecs) with
    | none => .error .uniqueViolation
    | some operationLock =>
      .ok ⟨{ db with operation := operation, operationLock := operationLock }, 1⟩

/-- The transaction of `begin`. -/
def beginTransaction (db : Db) (p : PreparedBegin) (now : Time) : Except Fault Committed := do
  checkAdmission db p.input
  checkParent db p.input
  checkBackup db (truthy p.input.siteId)
  assertScopeHierarchyAvailable db
    ⟨p.input.siteId, p.input.lockSite, p.input.parentOperationId⟩ none
  createOperation db p now

/-- `scope` of `attachScope`. -/
structure AttachedScope where
  siteId : String
  siteDomainId : Option String
deriving DecidableEq

def AttachedScope.lockSpecs (scope : AttachedScope) : List OperationLockSpec :=
  operationLockSpecs none (some scope.siteId) scope.siteDomainId none none none

def notActive : Fault := .conflict "Operation is not active" none

/-- `attachScopeWithClient`. -/
def attachScopeWithClient (db : Db) (operationId : String) (scope : AttachedScope) :
    Except Fault Committed :=
  match db.operation.find? fun o => o.id == operationId && EXECUTING_STATUSES.contains o.status with
  | none => .error notActive
  | some _ => do
    checkBackup db (some scope.siteId)
    assertScopeHierarchyAvailable db ⟨some scope.siteId, some true, none⟩ (some operationId)
    let missing := scope.lockSpecs.filter fun s =>
      !(db.operationLock.findMany fun l => l.operationId == operationId).any fun l =>
        l.resourceKey == s.resourceKey
    match db.operationLock.createMany? (lockRows operationId missing) with
    | none => .error .uniqueViolation
    | some operationLock =>
      ({ db with operationLock := operationLock }.updateOperations
        (fun o => o.id == operationId && EXECUTING_STATUSES.contains o.status)
        (fun o => { o with
          siteId := some scope.siteId, siteDomainId := truthy scope.siteDomainId })
        fun _ => ⟨rfl, rfl⟩).requireOne notActive

end Meowbox.Operations
