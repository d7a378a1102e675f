import Mathlib.Data.List.Sort
import Meowbox.Webhooks.Store

/-!
# What the webhook services perform

`WebhookInstr` has a statement or an effect for every `await` of `WebhookIngressService.accept` and
of `WebhookDeliveryWorkerService`; `answer` is what it does to the store. The store holds besides
the rows and the payloads the routes, the clock, what each worker process keeps in memory, and for
every target the idempotency receipts that a request leaves there.

`dispatches` records the deliveries handed to a target, and `discarded` those whose payload a
clean-up has removed and that were not redriven since; they steer nothing.
-/

namespace Meowbox.Webhooks

/-- What a call throws. -/
inductive WebhookError
  | badRequest (message : String)
  | notFound (message : String)
  | conflict (message : String)
  | unavailable (message : String)
  /-- `P2002`. -/
  | uniqueViolation
  /-- Any other error, by its code. -/
  | failed (code : String)
deriving DecidableEq

/-! ## Idempotency receipts of a target -/

structure FederationReceipt where
  targetInstallationId : String
  idempotencyKey : String
  requestHash : String
  expiresAt : Nat
deriving DecidableEq

/-- A service request as a target sees it: issuer, subject and action are those of the worker, and
the key stands for its hash. -/
structure ServiceRequest where
  targetInstallationId : String
  idempotencyKey : String
  requestHash : String
deriving DecidableEq

def FederationReceipt.selects (r : FederationReceipt) (request : ServiceRequest) : Bool :=
  r.targetInstallationId == request.targetInstallationId &&
    r.idempotencyKey == request.idempotencyKey

/-- `FederationIdempotencyService.claim`. -/
def claimReceipt (receiptTtlMs : Nat) (receipts : List FederationReceipt) (request : ServiceRequest)
    (now : Nat) : Except WebhookError Unit × List FederationReceipt :=
  let kept := receipts.filter fun r => !(r.selects request && decide (r.expiresAt ≤ now))
  match kept.find? fun r => r.selects request with
  | some existing =>
    (.error (.failed (if existing.requestHash ≠ request.requestHash then "IDEMPOTENCY_CONFLICT"
      else "IDEMPOTENCY_REPLAY")), receipts)
  | none =>
    (.ok (), kept ++ [⟨request.targetInstallationId, request.idempotencyKey, request.requestHash,
      now + receiptTtlMs⟩])

/-! ## The store -/

/-- What a worker process keeps in memory. -/
structure WorkerMemory where
  polling : Bool
  active : List Nat
  activeTargets : List String
deriving DecidableEq

/-- What becomes of the next request to a target. -/
inductive Transport
  /-- The target does not get it. -/
  | lost (code : String)
  /-- The target gets it and answers with a result for this delivery, or fails. -/
  | arrives (result : Except String Nat)

/-- A delivery that was handed to a target. -/
structure Dispatch where
  delivery : Nat
  attempt : Nat
  /-- How often the delivery had been redriven when this attempt was claimed. -/
  redrives : Nat
  remote : Bool
  /-- The receipts of the target refused it. -/
  refused : Bool
deriving DecidableEq

structure WebhookStore where
  deliveries : DeliveryTable
  spool : Spool
  routes : String → WebhookRoute
  /-- How many UUIDs were made. -/
  minted : Nat
  clock : Nat
  /-- `assertDiskAdmission` lets a payload in. -/
  diskAdmits : Bool
  /-- The process that runs, and the memory of every one. -/
  worker : String
  memory : String → WorkerMemory
  transport : Transport
  receipts : List FederationReceipt
  dispatches : List Dispatch
  discarded : List Nat

/-- What changes from outside: time, routes, the disk, the network, the process. -/
inductive WebhookChange
  | time (now : Nat)
  | routes (routes : String → WebhookRoute)
  | disk (admits : Bool)
  | transport (next : Transport)
  | restart (worker : String)

def WebhookChange.apply (change : WebhookChange) (x : WebhookStore) : WebhookStore :=
  match change with
  | .time now => { x with clock := now }
  | .routes current => { x with routes := current }
  | .disk admits => { x with diskAdmits := admits }
  | .transport next => { x with transport := next }
  | .restart worker => { x with worker := worker }

/-! ## Instructions -/

/-- What the ingress transaction answers. -/
inductive Admission
  | created
  | found (delivery : WebhookDelivery)
deriving DecidableEq

structure WebhookConfig where
  queueLimit : Nat
  concurrency : Nat
  dlqRetentionMs : Nat
  receiptTtlMs : Nat
  resolvePublicToken : (String → WebhookRoute) → String → Except WebhookError WebhookRoute

inductive WebhookInstr
  -- `WebhookIngressService`
  | resolvePublicToken (token : String)
  | findProvided (routeId providerDeliveryId : String)
  | countQueued
  | randomUUID
  | write (delivery : FederatedWebhookDelivery)
  | admitDelivery (id : Nat) (routeId providerDeliveryId bodySha256 : String) (now : Nat)
  | remove (id : Nat) (location : Location)
  -- `WebhookDeliveryWorkerService`
  | beginPoll (worker : String)
  | endPoll (worker : String)
  | findDue (worker : String) (now : Nat)
  | targetActive (worker target : String)
  | claim (worker : String) (id now : Nat)
  | findClaimed (worker : String) (id : Nat)
  | activate (worker : String) (id : Nat) (target : String)
  | deactivate (worker : String) (id : Nat) (target : String)
  | readPayload (worker : String) (id : Nat) (routeId rawBodySha256 : String)
  | dispatch (worker : String) (id attempt redrives : Nat) (target : Option String)
      (payload : FederatedWebhookDelivery)
  | complete (worker : String) (id : Nat)
  | removeDelivered (worker : String) (id : Nat)
  | toDlq (worker : String) (id : Nat) (code : String)
  | moveToDlq (worker : String) (id : Nat)
  | retryLater (worker : String) (id delay : Nat) (code : String)
  | findById (id : Nat)
  | moveToQueue (id : Nat)
  | redriveRow (id : Nat)
  | findExpired (now : Nat)
  | discard (id : Nat) (location : Location)
  | deleteExpired (ids : List Nat)

@[reducible] def Answer : WebhookInstr → Type
  | .resolvePublicToken _ => Except WebhookError WebhookRoute
  | .findProvided _ _ => Option WebhookDelivery
  | .countQueued | .randomUUID => Nat
  | .write _ => Except WebhookError Unit
  | .admitDelivery _ _ _ _ _ => Except WebhookError Admission
  | .remove _ _ | .endPoll _ | .activate _ _ _ | .deactivate _ _ _ | .removeDelivered _ _ => Unit
  | .retryLater _ _ _ _ | .discard _ _ | .deleteExpired _ => Unit
  | .beginPoll _ | .targetActive _ _ | .claim _ _ _ | .complete _ _ | .toDlq _ _ _ => Bool
  | .redriveRow _ => Bool
  | .findDue _ _ => List (WebhookDelivery × WebhookRoute)
  | .findClaimed _ _ | .findById _ => Option (WebhookDelivery × WebhookRoute)
  | .readPayload _ _ _ _ => Except WebhookError FederatedWebhookDelivery
  | .dispatch _ _ _ _ _ _ => Except WebhookError Nat
  | .moveToDlq _ _ | .moveToQueue _ => Except WebhookError Unit
  | .findExpired _ => List Nat

/-! ### Statements of the ingress -/

/-- The row of an accepted delivery. -/
def acceptedRow (id : Nat) (routeId providerDeliveryId bodySha256 : String) (now clock : Nat) :
    WebhookDelivery where
  id := id
  routeId := routeId
  providerDeliveryId := providerDeliveryId
  event := "push"
  bodySha256 := bodySha256
  state := .accepted
  attempt := 0
  maxAttempts := WEBHOOK_MAX_ATTEMPTS
  availableAt := now
  leaseOwner := none
  leaseExpiresAt := none
  lastErrorCode := none
  dlqAt := none
  createdAt := clock
  redrives := 0

/-- The transaction of `accept`. -/
def admitDelivery (queueLimit : Nat) (t : DeliveryTable) (row : WebhookDelivery) :
    Except WebhookError Admission × DeliveryTable :=
  match t.byProvider row.routeId row.providerDeliveryId with
  | some concurrent => (.ok (.found concurrent), t)
  | none =>
    if queueLimit ≤ t.countQueued then (.error (.unavailable "Webhook delivery queue is full"), t)
    else
      match t.create? row with
      | some created => (.ok .created, created)
      | none => (.error .uniqueViolation, t)

/-! ### Statements of the worker -/

/-- `ACCEPTED` or `RETRY_WAIT` and available, or `DELIVERING` on a lease that has expired. -/
def WebhookDelivery.due (d : WebhookDelivery) (now : Nat) : Bool :=
  match d.state with
  | .accepted | .retryWait => d.availableAt ≤ now
  | .delivering => d.leaseExpiresAt.any fun expires => expires ≤ now
  | .delivered | .dlq => false

/-- `orderBy: [{ availableAt: 'asc' }, { createdAt: 'asc' }]`. -/
def WebhookDelivery.earlier (a b : WebhookDelivery) : Prop :=
  a.availableAt < b.availableAt ∨ (a.availableAt = b.availableAt ∧ a.createdAt ≤ b.createdAt)

instance : DecidableRel WebhookDelivery.earlier := fun a b =>
  inferInstanceAs (Decidable (a.availableAt < b.availableAt ∨ _))

def DeliveryTable.findDue (t : DeliveryTable) (now : Nat) : List WebhookDelivery :=
  ((t.findMany fun d => d.due now).insertionSort WebhookDelivery.earlier).take 32

def DeliveryTable.findExpired (t : DeliveryTable) (now dlqRetentionMs : Nat) : List Nat :=
  (((t.findMany fun d => d.state == .dlq &&
      d.dlqAt.any fun dlqAt => dlqAt + dlqRetentionMs ≤ now).insertionSort
    fun a b => a.dlqAt.getD 0 ≤ b.dlqAt.getD 0).take 100).map WebhookDelivery.id

/-- The row is under a lease of the worker. -/
def WebhookDelivery.leasedBy (d : WebhookDelivery) (worker : String) (id : Nat) : Bool :=
  d.id == id && d.state == .delivering && d.leaseOwner == some worker

def claimed (worker : String) (now : Nat) (d : WebhookDelivery) : WebhookDelivery :=
  { d with
    state := .delivering
    leaseOwner := some worker
    leaseExpiresAt := some (now + WEBHOOK_LEASE_MS)
    attempt := d.attempt + 1 }

theorem claimed_keys (worker : String) (now : Nat) (d : WebhookDelivery) :
    (claimed worker now d).id = d.id ∧ (claimed worker now d).routeId = d.routeId ∧
      (claimed worker now d).providerDeliveryId = d.providerDeliveryId := ⟨rfl, rfl, rfl⟩

def completed (d : WebhookDelivery) : WebhookDelivery :=
  { d with state := .delivered, leaseOwner := none, leaseExpiresAt := none, lastErrorCode := none }

def deadLettered (code : String) (now : Nat) (d : WebhookDelivery) : WebhookDelivery :=
  { d with
    state := .dlq
    leaseOwner := none
    leaseExpiresAt := none
    lastErrorCode := some code
    dlqAt := some now }

def postponed (code : String) (availableAt : Nat) (d : WebhookDelivery) : WebhookDelivery :=
  { d with
    state := .retryWait
    availableAt := availableAt
    leaseOwner := none
    leaseExpiresAt := none
    lastErrorCode := some code }

def redriven (now : Nat) (d : WebhookDelivery) : WebhookDelivery :=
  { d with
    state := .accepted
    attempt := 0
    availableAt := now
    leaseOwner := none
    leaseExpiresAt := none
    lastErrorCode := none
    dlqAt := none
    redrives := d.redrives + 1 }

/-- `updateMany` of one row, as far as its condition holds; whether it changed a row. -/
def updateOne (x : WebhookStore) (p : WebhookDelivery → Bool) (f : WebhookDelivery → WebhookDelivery)
    (hf : ∀ d, (f d).id = d.id ∧ (f d).routeId = d.routeId ∧
      (f d).providerDeliveryId = d.providerDeliveryId) : Bool × WebhookStore :=
  (decide (0 < x.deliveries.count p), { x with deliveries := x.deliveries.update p f hf })

def remember (x : WebhookStore) (worker : String) (f : WorkerMemory → WorkerMemory) : WebhookStore :=
  { x with memory := fun w => if w = worker then f (x.memory w) else x.memory w }

/-! ### Requests to a target -/

/-- `webhook-${delivery.id}-${delivery.attempt}`. -/
def idempotencyKey (id attempt : Nat) : String :=
  "webhook-" ++ toString id ++ "-" ++ toString attempt

/-- The request of a delivery; its hash covers the path and the body, which are those of the
delivery. -/
def serviceRequest (target : String) (id attempt : Nat) : ServiceRequest :=
  ⟨target, idempotencyKey id attempt, toString id⟩

/-- `dispatchService` and what comes back, or `localTarget.deliver`. -/
def dispatch (receiptTtlMs : Nat) (x : WebhookStore) (id attempt redrives : Nat)
    (target : Option String) : Except WebhookError Nat × WebhookStore :=
  match target, x.transport with
  | none, .lost code => (.error (.failed code),
      { x with dispatches := x.dispatches ++ [⟨id, attempt, redrives, false, false⟩] })
  | none, .arrives result => (result.mapError .failed,
      { x with dispatches := x.dispatches ++ [⟨id, attempt, redrives, false, false⟩] })
  | some _, .lost code => (.error (.failed code),
      { x with dispatches := x.dispatches ++ [⟨id, attempt, redrives, true, false⟩] })
  | some target, .arrives result =>
    match claimReceipt receiptTtlMs x.receipts (serviceRequest target id attempt) x.clock with
    | (.error e, _) => (.error e,
        { x with dispatches := x.dispatches ++ [⟨id, attempt, redrives, true, true⟩] })
    | (.ok _, receipts) => (result.mapError .failed,
        { x with
          receipts := receipts
          dispatches := x.dispatches ++ [⟨id, attempt, redrives, true, false⟩] })

/-! ## Answers -/

def moved (x : WebhookStore) (id : Nat) (source target : Location) :
    Except WebhookError Unit × WebhookStore :=
  match x.spool.move id source target with
  | some spool => (.ok (), { x with spool := spool })
  | none => (.error (.failed "ENOENT"), x)

def withRoute (x : WebhookStore) (d : WebhookDelivery) : WebhookDelivery × WebhookRoute :=
  (d, x.routes d.routeId)

def answer (C : WebhookConfig) : (i : WebhookInstr) → WebhookStore → Answer i × WebhookStore
  | .resolvePublicToken token, x => (C.resolvePublicToken x.routes token, x)
  | .findProvided routeId providerDeliveryId, x =>
    (x.deliveries.byProvider routeId providerDeliveryId, x)
  | .countQueued, x => (x.deliveries.countQueued, x)
  | .randomUUID, x => (x.minted, { x with minted := x.minted + 1 })
  | .write delivery, x =>
    if x.diskAdmits then (.ok (), { x with spool := x.spool.write delivery })
    else (.error (.unavailable "Webhook spool disk reserve would be violated"), x)
  | .admitDelivery id routeId providerDeliveryId bodySha256 now, x =>
    let row := acceptedRow id routeId providerDeliveryId bodySha256 now x.clock
    ((admitDelivery C.queueLimit x.deliveries row).1,
      { x with deliveries := (admitDelivery C.queueLimit x.deliveries row).2 })
  | .remove id location, x => ((), { x with spool := x.spool.remove location id })
  | .discard id location, x =>
    ((), { x with spool := x.spool.remove location id, discarded := x.discarded ++ [id] })
  | .removeDelivered _ id, x => ((), { x with spool := x.spool.remove .queue id })
  | .beginPoll worker, x =>
    let m := x.memory worker
    if m.polling || C.concurrency ≤ m.active.length then (false, x)
    else (true, remember x worker fun m => { m with polling := true })
  | .endPoll worker, x => ((), remember x worker fun m => { m with polling := false })
  | .findDue _ now, x => ((x.deliveries.findDue now).map (withRoute x), x)
  | .targetActive worker target, x => ((x.memory worker).activeTargets.contains target, x)
  | .claim worker id now, x =>
    updateOne x (fun d => d.id == id && d.due now) (claimed worker now) (claimed_keys worker now)
  | .findClaimed _ id, x | .findById id, x => ((x.deliveries.byId id).map (withRoute x), x)
  | .activate worker id target, x =>
    ((), remember x worker fun m => { m with
      polling := false
      active := m.active ++ [id]
      activeTargets := m.activeTargets ++ [target] })
  | .deactivate worker id target, x =>
    ((), remember x worker fun m => { m with
      active := m.active.filter fun a => a != id
      activeTargets := m.activeTargets.filter fun t => t != target })
  | .readPayload _ id routeId rawBodySha256, x =>
    (match x.spool.read id routeId rawBodySha256 with
      | some payload => .ok payload
      | none => .error (.failed "ERROR"), x)
  | .dispatch _ id attempt redrives target _, x =>
    dispatch C.receiptTtlMs x id attempt redrives target
  | .complete worker id, x =>
    updateOne x (fun d => d.leasedBy worker id) completed fun _ => ⟨rfl, rfl, rfl⟩
  | .toDlq worker id code, x =>
    updateOne x (fun d => d.leasedBy worker id) (deadLettered code x.clock)
      fun _ => ⟨rfl, rfl, rfl⟩
  | .moveToDlq _ id, x => moved x id .queue .dlq
  | .retryLater worker id delay code, x =>
    ((), (updateOne x (fun d => d.leasedBy worker id) (postponed code (x.clock + delay))
      fun _ => ⟨rfl, rfl, rfl⟩).2)
  | .moveToQueue id, x => moved x id .dlq .queue
  | .redriveRow id, x =>
    updateOne { x with discarded := x.discarded.filter fun n => n != id }
      (fun d => d.id == id && d.state == .dlq) (redriven x.clock) fun _ => ⟨rfl, rfl, rfl⟩
  | .findExpired now, x => (x.deliveries.findExpired now C.dlqRetentionMs, x)
  | .deleteExpired ids, x =>
    ((), { x with
      deliveries := x.deliveries.deleteMany fun d => ids.contains d.id && d.state == .dlq })

end Meowbox.Webhooks
