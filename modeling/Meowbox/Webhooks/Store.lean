import Meowbox.Lib.Protocol
import Meowbox.Lib.Table

/-!
# Webhook deliveries and their payloads

The rows of `webhook_deliveries`, the directories `queue` and `dlq` of `WebhookSpoolService`, and
every statement and file operation that `WebhookIngressService` and `WebhookDeliveryWorkerService`
perform on them. File operations succeed, as far as the file they name is there.

* `mem_update`: the rows a conditional update leaves.
* `has_put`, `has_move`: where a payload is after a file operation.
-/

namespace Meowbox.Webhooks

open Relational

/-! ## Rows -/

inductive DeliveryState
  | accepted | delivering | retryWait | delivered | dlq
deriving DecidableEq

structure WebhookRoute where
  id : String
  active : Bool
  revokedAt : Option Nat
  remoteServerId : Option String
  targetInstallationId : String
  targetSiteId : String
  targetDomainId : String
  targetDomain : String
deriving DecidableEq

/-- A row of `webhook_deliveries`; `id` is the number of its UUID. -/
structure WebhookDelivery where
  id : Nat
  routeId : String
  providerDeliveryId : String
  event : String
  bodySha256 : String
  state : DeliveryState
  attempt : Nat
  maxAttempts : Nat
  availableAt : Nat
  leaseOwner : Option String
  leaseExpiresAt : Option Nat
  lastErrorCode : Option String
  dlqAt : Option Nat
  createdAt : Nat
  /-- How often the delivery was redriven; no column, and nothing reads it. -/
  redrives : Nat
deriving DecidableEq

/-- The primary key and `@@unique([routeId, providerDeliveryId])`. -/
abbrev DeliveryKey := Nat ⊕ String × String

def WebhookDelivery.primary (d : WebhookDelivery) : DeliveryKey := .inl d.id
def WebhookDelivery.provided (d : WebhookDelivery) : DeliveryKey :=
  .inr (d.routeId, d.providerDeliveryId)

abbrev DeliveryTable := Table [WebhookDelivery.primary, WebhookDelivery.provided]

/-- `{ in: ['ACCEPTED', 'DELIVERING', 'RETRY_WAIT'] }`. -/
def DeliveryState.queued : DeliveryState → Bool
  | .accepted | .delivering | .retryWait => true
  | .delivered | .dlq => false

def WEBHOOK_MAX_ATTEMPTS : Nat := 6
def WEBHOOK_LEASE_MS : Nat := 30000

/-! ### Statements -/

namespace DeliveryTable

/-- `findUnique({ where: { id } })`. -/
def byId (t : DeliveryTable) (id : Nat) : Option WebhookDelivery := t.find? fun d => d.id == id

/-- `findUnique({ where: { routeId_providerDeliveryId } })`. -/
def byProvider (t : DeliveryTable) (routeId providerDeliveryId : String) : Option WebhookDelivery :=
  t.find? fun d => d.routeId == routeId && d.providerDeliveryId == providerDeliveryId

def countQueued (t : DeliveryTable) : Nat := t.count fun d => d.state.queued

/-- An `updateMany` that touches neither key. -/
def update (t : DeliveryTable) (p : WebhookDelivery → Bool) (f : WebhookDelivery → WebhookDelivery)
    (hf : ∀ d, (f d).id = d.id ∧ (f d).routeId = d.routeId ∧
      (f d).providerDeliveryId = d.providerDeliveryId) : DeliveryTable :=
  t.updateMany p f fun k hk d => by
    obtain ⟨hid, hrt, hprov⟩ := hf d
    rcases List.mem_cons.mp hk with rfl | hk
    · rw [WebhookDelivery.primary, WebhookDelivery.primary, hid]
    · rw [List.mem_singleton.mp hk, WebhookDelivery.provided, WebhookDelivery.provided, hrt,
        hprov]

end DeliveryTable

section Statements

variable {t t' : DeliveryTable} {d e : WebhookDelivery}

theorem eq_of_id (hd : d ∈ t) (he : e ∈ t) (h : d.id = e.id) : d = e :=
  Table.eq_of_key (k := WebhookDelivery.primary) (by simp) hd he (congrArg Sum.inl h)

theorem mem_byId {id : Nat} (h : t.byId id = some d) : d ∈ t ∧ d.id = id := by
  obtain ⟨hmem, hid⟩ := Table.mem_of_find? h
  exact ⟨hmem, by simpa using hid⟩

theorem mem_byProvider {routeId providerDeliveryId : String}
    (h : t.byProvider routeId providerDeliveryId = some d) :
    d ∈ t ∧ d.routeId = routeId ∧ d.providerDeliveryId = providerDeliveryId := by
  obtain ⟨hmem, hkey⟩ := Table.mem_of_find? h
  rw [Bool.and_eq_true, beq_iff_eq, beq_iff_eq] at hkey
  exact ⟨hmem, hkey⟩

/-- The rows after an update. -/
theorem mem_update {p : WebhookDelivery → Bool} {f : WebhookDelivery → WebhookDelivery}
    {hf : ∀ d, (f d).id = d.id ∧ (f d).routeId = d.routeId ∧
      (f d).providerDeliveryId = d.providerDeliveryId} :
    e ∈ t.update p f hf ↔ ∃ d ∈ t, e = if p d then f d else d := by
  rw [Table.mem_def]
  constructor
  · intro h
    obtain ⟨d, hd, rfl⟩ := List.mem_map.mp h
    exact ⟨d, hd, rfl⟩
  · rintro ⟨d, hd, rfl⟩
    exact List.mem_map.mpr ⟨d, hd, rfl⟩

end Statements

/-! ## Payloads -/

/-- `FederatedWebhookDelivery`; the body is its bytes. -/
structure FederatedWebhookDelivery where
  deliveryId : Nat
  routeId : String
  targetInstallationId : String
  siteId : String
  domainId : String
  domain : String
  provider : String
  providerDeliveryId : String
  event : String
  receivedAt : Nat
  rawBody : List UInt8
  rawBodySha256 : String
  providerSignature : String
deriving DecidableEq

inductive Location
  | queue | dlq
deriving DecidableEq

/-- The files of `queue` and `dlq`; the name of a file is the id of its delivery. -/
abbrev Spool := Location → Nat → Option FederatedWebhookDelivery

namespace Spool

def has (s : Spool) (location : Location) (id : Nat) : Bool := (s location id).isSome

/-- What a directory holds under a name. -/
def put (s : Spool) (location : Location) (id : Nat) (file : Option FederatedWebhookDelivery) :
    Spool :=
  fun l n => if l = location ∧ n = id then file else s l n

/-- The `rename` of the temporary file into the queue. -/
def write (s : Spool) (delivery : FederatedWebhookDelivery) : Spool :=
  s.put .queue delivery.deliveryId (some delivery)

/-- `unlink`; no file of that name is no error. -/
def remove (s : Spool) (location : Location) (id : Nat) : Spool := s.put location id none

/-- The payload is bound to the delivery, the route and the body. -/
def read (s : Spool) (id : Nat) (routeId rawBodySha256 : String) :
    Option FederatedWebhookDelivery :=
  (s .queue id).filter fun f => f.deliveryId == id && f.routeId == routeId &&
    f.rawBodySha256 == rawBodySha256

/-- `move`: an error when the file is in neither directory. -/
def move (s : Spool) (id : Nat) (source target : Location) : Option Spool :=
  match s source id with
  | some file => some ((s.put source id none).put target id (some file))
  | none => if s.has target id then some s else none

variable {s s' : Spool} {location other : Location} {id n : Nat}
  {file : Option FederatedWebhookDelivery}

theorem has_put : (s.put location id file).has other n =
    if other = location ∧ n = id then file.isSome else s.has other n := by
  rw [has, put]
  split <;> rfl

/-- Other files stay. -/
theorem has_put_other (h : n ≠ id) : (s.put location id file).has other n = s.has other n := by
  rw [has_put, if_neg fun hn => h hn.2]

theorem has_move_other {source target : Location} (h : s.move id source target = some s')
    (hn : n ≠ id) : s'.has other n = s.has other n := by
  rw [move] at h
  split at h
  · cases h
    rw [has_put_other hn, has_put_other hn]
  · obtain ⟨-, h⟩ := Option.ite_none_right_eq_some.mp h
    cases h
    rfl

/-- A file that was moved is where it was moved to. -/
theorem has_move {source target : Location} (h : s.move id source target = some s') :
    s'.has target id = true := by
  rw [move] at h
  split at h
  · cases h
    rw [has_put, if_pos ⟨rfl, rfl⟩]
    rfl
  · obtain ⟨hhas, h⟩ := Option.ite_none_right_eq_some.mp h
    cases h
    exact hhas

end Spool

end Meowbox.Webhooks
