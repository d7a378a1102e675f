import Meowbox.Webhooks.Phases

/-!
# The attempts of a delivery

A claim counts an attempt, a redrive counts from zero again; the number of the attempt is part of
the idempotency key of its request. An attempt is a delivery, how often it was redriven and that
number: `Taken` is one that a call holds or that was dispatched. `Counted` is the invariant, of
which the calls that poll are a part: a process has at most one of them.

* `idempotencyKey_inj`: requests with one key are of one delivery and one number.
* `webhook_attempts`: what is dispatched in every run whose steps are `Accountable`.
* `attempts_exceeded`: a worker that is gone after every dispatch, and a delivery that is redriven
  to a remote target.
-/

namespace Meowbox.Webhooks

open Relational Interleaved Fallible Stepping

/-! ## Keys -/

theorem idempotencyKey_inj {id id' attempt attempt' : Nat}
    (h : idempotencyKey id attempt = idempotencyKey id' attempt') :
    id = id' ∧ attempt = attempt' := by
  have hdash : ∀ n : Nat, '-' ∉ n.repr.toList := by
    intro n hmem
    rw [Nat.toList_repr] at hmem
    have hdig := Nat.isDigit_of_mem_toDigits (b := 10) (by decide) (by decide) hmem
    exact absurd hdig (by decide)
  have hrepr : ∀ m n : Nat, m.repr.toList = n.repr.toList → m = n := by
    intro m n hmn
    rw [Nat.toList_repr, Nat.toList_repr] at hmn
    have hval := congrArg (Nat.ofDigitChars 10 · 0) hmn
    simpa only [Nat.ofDigitChars_toDigits (b := 10) (by decide) (by decide)] using hval
  have hlist := congrArg String.toList h
  simp only [idempotencyKey, toString, String.toList_append, List.append_assoc] at hlist
  obtain ⟨hid, -, hatt⟩ := (List.append_cons_inj_of_notMem (hdash id') (hdash attempt')).mp
    (List.append_cancel_left hlist).symm
  exact ⟨hrepr _ _ hid.symm, hrepr _ _ hatt.symm⟩

/-! ## Attempts -/

/-- The attempt with a number since the delivery was redriven so often. -/
structure Attempt where
  delivery : Nat
  redrives : Nat
  number : Nat
deriving DecidableEq

def Dispatch.made (e : Dispatch) : Attempt := ⟨e.delivery, e.redrives, e.attempt⟩

def WebhookDelivery.current (d : WebhookDelivery) : Attempt := ⟨d.id, d.redrives, d.attempt⟩

/-- The row has counted the attempt. -/
def Attempt.countedBy (a : Attempt) (d : WebhookDelivery) : Prop :=
  a.redrives < d.redrives ∨ (a.redrives = d.redrives ∧ a.number ≤ d.attempt)

/-- A claim finds an attempt left, and its process reads the row before another claim takes it and
dispatches it before it is redriven; a delivery is redriven only before any attempt to a remote
target. -/
def Accountable (x : WebhookStore) : WebhookInstr → Prop
  | .claim _ id now => ∀ d ∈ x.deliveries, d.id = id → d.due now = true → d.attempt < d.maxAttempts
  | .findClaimed worker id => ∀ d ∈ x.deliveries, d.id = id → d.leasedBy worker id = true
  | .dispatch _ id _ redrives _ _ => ∃ d ∈ x.deliveries, d.id = id ∧ d.redrives = redrives
  | .redriveRow id => ∀ d ∈ x.deliveries, d.id = id → d.state = .dlq →
      ∀ e ∈ x.dispatches, e.delivery = id → e.remote = false
  | _ => True

instance (x : WebhookStore) (i : WebhookInstr) : Decidable (Accountable x i) := by
  cases i with
  | claim worker id now =>
    exact inferInstanceAs (Decidable (∀ d ∈ x.deliveries, d.id = id → d.due now = true →
      d.attempt < d.maxAttempts))
  | findClaimed worker id =>
    exact inferInstanceAs (Decidable (∀ d ∈ x.deliveries, d.id = id →
      d.leasedBy worker id = true))
  | dispatch worker id attempt redrives target payload =>
    exact inferInstanceAs (Decidable (∃ d ∈ x.deliveries, d.id = id ∧ d.redrives = redrives))
  | redriveRow id =>
    exact inferInstanceAs (Decidable (∀ d ∈ x.deliveries, d.id = id → d.state = .dlq →
      ∀ e ∈ x.dispatches, e.delivery = id → e.remote = false))
  | _ => exact .isTrue trivial

/-- What holds of the dispatches. -/
structure AttemptsCounted (x : WebhookStore) : Prop where
  /-- A delivery is dispatched at most `maxAttempts` times since it was redriven. -/
  budget : ∀ d ∈ x.deliveries, x.dispatches.countP (fun e => e.delivery == d.id &&
    e.redrives == d.redrives) ≤ d.maxAttempts
  /-- No two requests to a target have the same key. -/
  keys : ((x.dispatches.filter fun e => e.remote).map fun e =>
    idempotencyKey e.delivery e.attempt).Nodup
  /-- No target takes one for a replay. -/
  accepted : ∀ e ∈ x.dispatches, e.refused = false

/-! ## Phases of the worker -/

/-- How far a call of the worker has come. -/
inductive AttemptPhase
  | idle
  | polling (worker : String)
  | claimed (worker : String) (id : Nat)
  /-- It has read the row and is not yet active. -/
  | found (worker : String) (attempt : Attempt)
  | holding (attempt : Attempt)
  | spent
deriving DecidableEq

namespace AttemptPhase

/-- The process that polls in this call. -/
def worker : AttemptPhase → Option String
  | polling worker | claimed worker _ | found worker _ => some worker
  | idle | holding _ | spent => none

/-- The attempt the call is to dispatch. -/
def held : AttemptPhase → Option Attempt
  | found _ attempt | holding attempt => some attempt
  | idle | polling _ | claimed _ _ | spent => none

def known : AttemptPhase → List Nat
  | claimed _ id => [id]
  | found _ attempt | holding attempt => [attempt.delivery]
  | idle | polling _ | spent => []

end AttemptPhase

def attemptAllows (p : AttemptPhase) : WebhookInstr → Prop
  | .beginPoll _ => p = .idle
  | .claim worker _ _ | .endPoll worker => p = .polling worker
  | .findClaimed worker id => p = .claimed worker id
  | .activate worker _ _ => ∃ a, p = .found worker a
  | .dispatch _ id attempt redrives _ _ => p = .holding ⟨id, redrives, attempt⟩
  | .randomUUID | .write _ | .admitDelivery _ _ _ _ _ | .remove _ _ => False
  | _ => True

def attemptAfter (p : AttemptPhase) : (i : WebhookInstr) → Answer i → AttemptPhase
  | .beginPoll worker, true => .polling worker
  | .beginPoll _, false => .spent
  | .claim worker id _, true => .claimed worker id
  | .endPoll _, _ => .spent
  | .findClaimed worker _, some (d, _) => .found worker d.current
  | .findClaimed worker _, none => .polling worker
  | .activate _ _ _, _ =>
    match p.held with
    | some attempt => .holding attempt
    | none => p
  | .dispatch _ _ _ _ _ _, _ => .spent
  | _, _ => p

def attemptProtocol : Protocol AttemptPhase WebhookInstr Answer where
  allows := attemptAllows
  after := attemptAfter

/-- An instruction that has nothing to do with attempts. -/
def Unrelated (i : WebhookInstr) : Prop :=
  ∀ p, attemptAllows p i ∧ ∀ r, attemptAfter p i r = p

section Follows

variable {α : Type} {p : AttemptPhase}

/-- The call keeps to the protocol. -/
def Tries (p : AttemptPhase) (call : WebhookCall α) : Prop :=
  Follows attemptProtocol (fun _ _ => True) p call

theorem tries_of_performs {call : WebhookCall α} (h : Performs Unrelated call) : Tries p call :=
  Prog.follows_of_issues (fun _ hi => hi p) (fun _ => trivial) h

/-- The phase after `claimNext`. -/
def afterClaim (worker : String) (p : AttemptPhase)
    (outcome : Except WebhookError (Option ClaimedDelivery)) : Prop :=
  (outcome = .ok none ∧ p = .polling worker) ∨
    ∃ claimed, outcome = .ok (some claimed) ∧ p = .found worker claimed.1.current

theorem claimFirst_follows (worker : String) (now : Nat) : ∀ candidates,
    Follows attemptProtocol (afterClaim worker) (.polling worker)
      (claimFirst worker now candidates)
  | [] => follows_pure (.inl ⟨rfl, rfl⟩)
  | candidate :: rest => by
    unfold claimFirst
    refine follows_ask trivial fun busy => ?_
    split
    · exact claimFirst_follows worker now rest
    · refine follows_ask rfl fun claimed => ?_
      cases claimed with
      | false => exact claimFirst_follows worker now rest
      | true =>
        refine follows_ask_end rfl fun found => ?_
        cases found with
        | none => exact .inl ⟨rfl, rfl⟩
        | some claimed => exact .inr ⟨claimed, rfl, rfl⟩

theorem fail_unrelated (worker : String) (delivery : WebhookDelivery) (error : WebhookError)
    (forceDlq : Bool) : Performs Unrelated (fail worker delivery error forceDlq) := by
  unfold fail
  split
  · refine performs_bind (performs_ask fun _ => ⟨trivial, fun _ => rfl⟩) fun updated => ?_
    split
    · refine performs_bind (performs_attempt (performs_ask? fun _ => ⟨trivial, fun _ => rfl⟩))
        fun _ => performs_pure _
    · exact performs_pure _
  · exact performs_ask fun _ => ⟨trivial, fun _ => rfl⟩

theorem deliverOnce_tries (worker : String) (delivery : WebhookDelivery) (route : WebhookRoute) :
    Tries (.holding delivery.current) (deliverOnce worker delivery route) := by
  unfold deliverOnce
  refine follows_ask? trivial (fun _ payload _ => ?_) fun _ _ _ => trivial
  refine follows_ask? rfl (fun _ result _ => ?_) fun _ _ _ => trivial
  refine tries_of_performs ?_
  split
  · exact performs_throw _
  · refine performs_bind (performs_ask fun _ => ⟨trivial, fun _ => rfl⟩) fun completed => ?_
    split
    · exact performs_ask fun _ => ⟨trivial, fun _ => rfl⟩
    · exact performs_pure _

theorem execute_tries (worker : String) (claimed : ClaimedDelivery) :
    Tries (.holding claimed.1.current) (execute worker claimed) := by
  unfold execute
  split
  · exact tries_of_performs (fail_unrelated worker claimed.1 _ true)
  · refine follows_attempt (deliverOnce_tries worker claimed.1 claimed.2) fun _ outcome _ => ?_
    cases outcome with
    | ok _ => exact follows_pure trivial
    | error error => exact tries_of_performs (fail_unrelated worker claimed.1 error false)

theorem poll_tries (worker : String) (now : Nat) : Tries .idle (poll worker now) := by
  unfold poll
  refine follows_ask rfl fun free => ?_
  cases free with
  | false => exact follows_pure trivial
  | true =>
    have hclaim : Follows attemptProtocol (afterClaim worker) (.polling worker)
        (claimNext worker now) :=
      follows_ask trivial fun candidates => claimFirst_follows worker now candidates
    refine follows_bind hclaim ?_ fun _ _ _ => trivial
    intro q next hnext
    cases next with
    | none =>
      obtain ⟨-, rfl⟩ | ⟨_, h, -⟩ := hnext
      · exact follows_ask_end rfl fun _ => trivial
      · exact nomatch h
    | some claimed =>
      obtain ⟨h, -⟩ | ⟨_, h, rfl⟩ := hnext
      · exact nomatch h
      · cases h
        refine follows_ask ⟨_, rfl⟩ fun _ => ?_
        refine follows_attempt (execute_tries worker claimed) fun q' _ _ => ?_
        exact tries_of_performs (performs_ask fun _ => ⟨trivial, fun _ => rfl⟩)

theorem redrive_unrelated (deliveryId : Nat) : Performs Unrelated (redrive deliveryId) := by
  unfold redrive
  refine performs_bind (performs_ask fun _ => ⟨trivial, fun _ => rfl⟩) fun found => ?_
  split
  · exact performs_throw _
  · split
    · exact performs_throw _
    · split
      · exact performs_throw _
      · refine performs_bind (performs_ask? fun _ => ⟨trivial, fun _ => rfl⟩) fun _ => ?_
        refine performs_bind (performs_ask fun _ => ⟨trivial, fun _ => rfl⟩) fun updated => ?_
        split
        · exact performs_pure _
        · exact performs_throw _

theorem discardAll_unrelated : ∀ ids, Performs Unrelated (discardAll ids)
  | [] => performs_pure _
  | _ :: rest =>
    performs_bind (performs_ask fun _ => ⟨trivial, fun _ => rfl⟩) fun _ =>
      performs_bind (performs_ask fun _ => ⟨trivial, fun _ => rfl⟩) fun _ =>
        discardAll_unrelated rest

theorem cleanupDlq_unrelated (now : Nat) : Performs Unrelated (cleanupDlq now) := by
  unfold cleanupDlq
  refine performs_bind (performs_ask fun _ => ⟨trivial, fun _ => rfl⟩) fun expired => ?_
  refine performs_bind (discardAll_unrelated expired) fun _ => ?_
  split
  · exact performs_pure _
  · exact performs_ask fun _ => ⟨trivial, fun _ => rfl⟩

end Follows

/-- The phase a call begins in. -/
def WebhookRequest.trying : WebhookRequest → IngressPhase ⊕ AttemptPhase
  | .accept request => .inl ⟨request, .begun⟩
  | .poll _ _ | .redrive _ | .cleanupDlq _ => .inr .idle

theorem program_tries (C : WebhookConfig) (R : IngressRuntime) (request : WebhookRequest) :
    (request.program C R).Follows ((ingressProtocol C R).sum attemptProtocol)
      (Sum.elim (fun _ _ => True) fun _ _ => True) request.trying := by
  cases request with
  | accept request => exact (silent_follows accept_follows).inl
  | poll worker now => exact (silent_follows (poll_tries worker now)).inr
  | redrive deliveryId =>
    have htries : Tries .idle (redrive deliveryId) := tries_of_performs (redrive_unrelated deliveryId)
    exact (silent_follows htries).inr
  | cleanupDlq now =>
    have htries : Tries .idle (cleanupDlq now) := tries_of_performs (cleanupDlq_unrelated now)
    exact (silent_follows htries).inr

/-! ## The store and the phases -/

abbrev AttemptPhases := List (IngressPhase ⊕ AttemptPhase)

/-- A call holds the attempt, or it was dispatched. -/
def Taken (x : WebhookStore) (phases : AttemptPhases) (a : Attempt) : Prop :=
  (∃ (k : Nat) (p : AttemptPhase), phases[k]? = some (.inr p) ∧ p.held = some a) ∨
    ∃ e ∈ x.dispatches, e.made = a

/-- The dispatches among themselves. -/
structure Ledger (x : WebhookStore) : Prop where
  distinct : (x.dispatches.map Dispatch.made).Nodup
  remote : ∀ e ∈ x.dispatches, e.remote = true →
    (∀ e' ∈ x.dispatches, e'.remote = true → e'.delivery = e.delivery →
      e'.redrives = e.redrives) ∧ ∀ d ∈ x.deliveries, d.id = e.delivery → d.redrives = e.redrives
  receipts : ∀ r ∈ x.receipts, ∃ e ∈ x.dispatches, e.remote = true ∧
    r.idempotencyKey = idempotencyKey e.delivery e.attempt
  accepted : ∀ e ∈ x.dispatches, e.refused = false

/-- **The invariant.** -/
structure Counted (x : WebhookStore) (phases : AttemptPhases) : Prop where
  named : Named AttemptPhase.known x phases
  budget : ∀ d ∈ x.deliveries, d.attempt ≤ d.maxAttempts ∧ (d.state = .delivering → 1 ≤ d.attempt)
  polling : ∀ (k : Nat) (p : AttemptPhase) (worker : String), phases[k]? = some (.inr p) →
    p.worker = some worker → (x.memory worker).polling = true
  alone : ∀ (k k' : Nat) (p p' : AttemptPhase) (worker : String), phases[k]? = some (.inr p) →
    phases[k']? = some (.inr p') → p.worker = some worker → p'.worker = some worker → k = k'
  claimed : ∀ (k : Nat) (worker : String) (id : Nat),
    phases[k]? = some (.inr (.claimed worker id)) → ∀ d ∈ x.deliveries,
      d.leasedBy worker id = true → ¬Taken x phases d.current
  taken : ∀ a, Taken x phases a → a.delivery < x.minted ∧ 1 ≤ a.number ∧
    (∀ (m : Nat) (y : IngressPhase), phases[m]? = some (.inl y) →
      y.stage.unused ≠ some a.delivery) ∧ ∀ d ∈ x.deliveries, d.id = a.delivery → a.countedBy d
  apart : ∀ (k k' : Nat) (p p' : AttemptPhase) (a : Attempt), phases[k]? = some (.inr p) →
    phases[k']? = some (.inr p') → p.held = some a → p'.held = some a → k = k'
  undispatched : ∀ (k : Nat) (p : AttemptPhase) (a : Attempt), phases[k]? = some (.inr p) →
    p.held = some a → ∀ e ∈ x.dispatches, e.made ≠ a
  ledger : Ledger x

/-- What becomes of a row that a call changes. -/
structure Changed (x : WebhookStore) (d d' : WebhookDelivery) : Prop where
  id : d.id = d'.id
  later : d.redrives < d'.redrives ∨ (d.redrives = d'.redrives ∧ d.attempt ≤ d'.attempt)
  budget : d'.attempt ≤ d'.maxAttempts
  /-- A new lease is a new attempt. -/
  lease : d'.state = .delivering → d.redrives = d'.redrives ∧ d.attempt < d'.attempt
  /-- It was not sent to a target before it is redriven. -/
  remote : d.redrives = d'.redrives ∨ ∀ e ∈ x.dispatches, e.delivery = d.id → e.remote = false

section Invariant

variable {C : WebhookConfig} {R : IngressRuntime} {x x' : WebhookStore} {phases : AttemptPhases}
  {k : Nat} {y : IngressPhase} {stage : IngressStage} {p p' : AttemptPhase} {a : Attempt}
  {d d' : WebhookDelivery}

theorem Attempt.countedBy_later (h : a.countedBy d)
    (hlat : d.redrives < d'.redrives ∨ (d.redrives = d'.redrives ∧ d.attempt ≤ d'.attempt)) :
    a.countedBy d' := by
  unfold Attempt.countedBy at h ⊢
  omega

/-- What is taken stays what it was when a call keeps what it holds. -/
theorem taken_set (hk : phases[k]? = some (.inr p)) (hheld : p'.held = p.held)
    (hdis : x'.dispatches = x.dispatches) :
    Taken x' (phases.set k (.inr p')) a ↔ Taken x phases a := by
  have hlt : k < phases.length := (List.getElem?_eq_some_iff.mp hk).1
  unfold Taken
  rw [hdis]
  refine or_congr_left ?_
  constructor
  · rintro ⟨m, q, hm, hq⟩
    rcases getElem?_set_cases hm with ⟨rfl, heq⟩ | ⟨-, hold⟩
    · cases heq
      exact ⟨m, p, hk, hheld ▸ hq⟩
    · exact ⟨m, q, hold, hq⟩
  · rintro ⟨m, q, hm, hq⟩
    by_cases hmk : m = k
    · subst hmk
      rw [hk] at hm
      cases hm
      exact ⟨m, p', List.getElem?_set_self hlt, hheld.trans hq⟩
    · exact ⟨m, q, by rw [List.getElem?_set_ne (Ne.symm hmk)]; exact hm, hq⟩

/-- A new attempt is not taken. -/
theorem Counted.untaken (h : Counted x phases) (hd : d ∈ x.deliveries) (hid : d.id = d'.id)
    (hredr : d.redrives = d'.redrives) (hatt : d.attempt < d'.attempt) :
    ¬Taken x phases d'.current := by
  intro htk
  have hcnt := (h.taken _ htk).2.2.2 d hd hid
  simp only [Attempt.countedBy, WebhookDelivery.current] at hcnt
  omega

theorem Ledger.rows (h : Ledger x) (hdis : x'.dispatches = x.dispatches)
    (hrcs : x'.receipts = x.receipts)
    (hrows : ∀ d' ∈ x'.deliveries, d' ∈ x.deliveries ∨ ∃ d ∈ x.deliveries, Changed x d d') :
    Ledger x' := by
  refine ⟨hdis ▸ h.distinct, fun e he hrem => ?_, ?_, hdis ▸ h.accepted⟩
  · rw [hdis] at he ⊢
    obtain ⟨hsame, hrow⟩ := h.remote e he hrem
    refine ⟨hsame, fun d' hd' hid => ?_⟩
    rcases hrows d' hd' with hold | ⟨d, hd, hch⟩
    · exact hrow d' hold hid
    · rcases hch.remote with heq | hnone
      · rw [← heq]
        exact hrow d hd (hch.id.trans hid)
      · exact absurd (hnone e he (hid.symm.trans hch.id.symm)) (by rw [hrem]; simp)
  · rw [hrcs, hdis]
    exact h.receipts

/-- **A call goes on** without an attempt of its own. -/
theorem Counted.work (h : Counted x phases) (hk : phases[k]? = some (.inr p))
    (hnm : Named AttemptPhase.known x' (phases.set k (.inr p')))
    (hmint : x'.minted = x.minted) (hdis : x'.dispatches = x.dispatches)
    (hrcs : x'.receipts = x.receipts) (hheld : p'.held = p.held)
    (hwk : ∀ worker, p'.worker = some worker → (x'.memory worker).polling = true ∧
      (p.worker = some worker ∨ (x.memory worker).polling = false))
    (hmemo : ∀ worker, p.worker ≠ some worker → (x.memory worker).polling = true →
      (x'.memory worker).polling = true)
    (hrows : ∀ d' ∈ x'.deliveries, d' ∈ x.deliveries ∨ ∃ d ∈ x.deliveries, Changed x d d')
    (hcl : ∀ worker id, p' = .claimed worker id → p = .claimed worker id ∨
      ∀ d' ∈ x'.deliveries, d'.id = id → ∃ d ∈ x.deliveries, Changed x d d') :
    Counted x' (phases.set k (.inr p')) := by
  have htk : ∀ a, Taken x' (phases.set k (.inr p')) a ↔ Taken x phases a :=
    fun a => taken_set hk hheld hdis
  have hfresh : ∀ d ∈ x.deliveries, ∀ d', Changed x d d' → d'.state = .delivering →
      ¬Taken x' (phases.set k (.inr p')) d'.current := by
    intro d hd d' hch hst
    rw [htk]
    obtain ⟨hredr, hatt⟩ := hch.lease hst
    exact h.untaken hd hch.id hredr hatt
  have hapart : ∀ (m : Nat) (q : AttemptPhase) (worker : String), m ≠ k →
      phases[m]? = some (.inr q) → q.worker = some worker → p'.worker ≠ some worker := by
    intro m q worker hmk hm hq hp'
    rcases (hwk worker hp').2 with hp | hidle
    · exact hmk (h.alone m k q p worker hm hk hq hp)
    · rw [h.polling m q worker hm hq] at hidle
      exact nomatch hidle
  refine ⟨hnm, fun d' hd' => ?_, fun m q worker hm hq => ?_,
    fun m m' q q' worker hm hm' hq hq' => ?_, fun m worker id hm d' hd' hlea => ?_,
    fun a ha => ?_, fun m m' q q' a hm hm' hq hq' => ?_, fun m q a hm hq => ?_,
    h.ledger.rows hdis hrcs hrows⟩
  · rcases hrows d' hd' with hold | ⟨d, hd, hch⟩
    · exact h.budget d' hold
    · refine ⟨hch.budget, fun hst => ?_⟩
      exact Nat.succ_le_of_lt (Nat.lt_of_le_of_lt (Nat.zero_le _) (hch.lease hst).2)
  · rcases getElem?_set_cases hm with ⟨-, heq⟩ | ⟨hmk, hold⟩
    · cases heq
      exact (hwk worker hq).1
    · refine hmemo worker (fun hp => ?_) (h.polling m q worker hold hq)
      exact hmk (h.alone m k q p worker hold hk hq hp)
  · rcases getElem?_set_cases hm with ⟨rfl, heq⟩ | ⟨hmk, hold⟩
    · cases heq
      rcases getElem?_set_cases hm' with ⟨rfl, -⟩ | ⟨hmk', hold'⟩
      · rfl
      · exact absurd hq (hapart m' q' worker hmk' hold' hq')
    · rcases getElem?_set_cases hm' with ⟨rfl, heq⟩ | ⟨-, hold'⟩
      · cases heq
        exact absurd hq' (hapart m q worker hmk hold hq)
      · exact h.alone m m' q q' worker hold hold' hq hq'
  · have hst := leased_delivering hlea
    have hold : (∃ n : Nat, phases[n]? = some (.inr (.claimed worker id))) ∨
        ∃ d ∈ x.deliveries, Changed x d d' := by
      rcases getElem?_set_cases hm with ⟨rfl, heq⟩ | ⟨-, hold⟩
      · rcases hcl worker id (Sum.inr.inj heq).symm with hp | hall
        · exact .inl ⟨m, by rw [← hp]; exact hk⟩
        · exact .inr (hall d' hd' hst.1)
      · exact .inl ⟨m, hold⟩
    rcases hrows d' hd' with hd | ⟨d, hd, hch⟩
    · rcases hold with ⟨n, hn⟩ | ⟨d, hd, hch⟩
      · rw [htk]
        exact h.claimed n worker id hn d' hd hlea
      · exact hfresh d hd d' hch hst.2
    · exact hfresh d hd d' hch hst.2
  · obtain ⟨hlt, hpos, hunb, hcnt⟩ := h.taken a ((htk a).mp ha)
    refine ⟨hmint ▸ hlt, hpos, fun m z hm => hunb m z (getElem?_set_inr hm),
      fun d' hd' hid => ?_⟩
    rcases hrows d' hd' with hold | ⟨d, hd, hch⟩
    · exact hcnt d' hold hid
    · exact Attempt.countedBy_later (hcnt d hd (hch.id.trans hid)) hch.later
  · have hback : ∀ (n : Nat) (v : AttemptPhase), (phases.set k (.inr p'))[n]? = some (.inr v) →
        v.held = some a → ∃ v', phases[n]? = some (.inr v') ∧ v'.held = some a := by
      intro n v hn hv
      rcases getElem?_set_cases hn with ⟨rfl, heq⟩ | ⟨-, hold⟩
      · cases heq
        exact ⟨p, hk, hheld ▸ hv⟩
      · exact ⟨v, hold, hv⟩
    obtain ⟨v, hv, hva⟩ := hback m q hm hq
    obtain ⟨v', hv', hva'⟩ := hback m' q' hm' hq'
    exact h.apart m m' v v' a hv hv' hva hva'
  · rw [hdis]
    rcases getElem?_set_cases hm with ⟨rfl, heq⟩ | ⟨-, hold⟩
    · cases heq
      exact h.undispatched m p a hk (hheld ▸ hq)
    · exact h.undispatched m q a hold hq

/-- **A call reads the row it has claimed**, still under its lease. -/
theorem Counted.reads (h : Counted x phases) {worker : String} {id : Nat}
    (hk : phases[k]? = some (.inr (.claimed worker id))) (hd : d ∈ x.deliveries)
    (hlea : d.leasedBy worker id = true) :
    Counted x (phases.set k (.inr (.found worker d.current))) := by
  have hlt : k < phases.length := (List.getElem?_eq_some_iff.mp hk).1
  have hfree : ¬Taken x phases d.current := h.claimed k worker id hk d hd hlea
  obtain ⟨hid, hst⟩ := leased_delivering hlea
  have hback : ∀ (m : Nat) (q : AttemptPhase) (other : String),
      (phases.set k (.inr (.found worker d.current)))[m]? = some (.inr q) →
      q.worker = some other → ∃ q', phases[m]? = some (.inr q') ∧ q'.worker = some other := by
    intro m q other hm hq
    rcases getElem?_set_cases hm with ⟨rfl, heq⟩ | ⟨-, hold⟩
    · cases heq
      exact ⟨_, hk, hq⟩
    · exact ⟨q, hold, hq⟩
  have htk : ∀ a, Taken x (phases.set k (.inr (.found worker d.current))) a →
      Taken x phases a ∨ a = d.current := by
    rintro a (⟨m, q, hm, hq⟩ | hdispatched)
    · rcases getElem?_set_cases hm with ⟨rfl, heq⟩ | ⟨-, hold⟩
      · cases heq
        exact .inr (Option.some.inj hq).symm
      · exact .inl (.inl ⟨m, q, hold, hq⟩)
    · exact .inl (.inr hdispatched)
  refine ⟨?_, h.budget, fun m q other hm hq => ?_, fun m m' q q' other hm hm' hq hq' => ?_,
    fun m other n hm e he hlea' => ?_, fun a ha => ?_,
    fun m m' q q' a hm hm' hq hq' => ?_, fun m q a hm hq => ?_, h.ledger⟩
  · refine h.named.work hk rfl (fun d hd => ⟨d, hd, rfl⟩) fun n hn => .inl ?_
    rw [List.mem_singleton.mp hn]
    exact List.mem_singleton.mpr hid
  · obtain ⟨q', hm', hq'⟩ := hback m q other hm hq
    exact h.polling m q' other hm' hq'
  · obtain ⟨v, hv, hvw⟩ := hback m q other hm hq
    obtain ⟨v', hv', hvw'⟩ := hback m' q' other hm' hq'
    exact h.alone m m' v v' other hv hv' hvw hvw'
  · rcases getElem?_set_cases hm with ⟨-, heq⟩ | ⟨hmk, hold⟩
    · exact absurd heq (by simp)
    · intro htk'
      rcases htk _ htk' with hold' | hsame
      · exact h.claimed m other n hold e he hlea' hold'
      · have hed : e = d := eq_of_id he hd (congrArg Attempt.delivery hsame)
        subst hed
        have hwk : other = worker := by
          simp only [WebhookDelivery.leasedBy, Bool.and_eq_true, beq_iff_eq] at hlea hlea'
          exact Option.some.inj (hlea'.2.symm.trans hlea.2)
        exact hmk (h.alone m k _ _ worker hold hk (congrArg some hwk) rfl)
  · rcases htk a ha with hold | rfl
    · obtain ⟨hmint, hpos, hunb, hcnt⟩ := h.taken a hold
      exact ⟨hmint, hpos, fun m z hm => hunb m z (getElem?_set_inr hm), hcnt⟩
    · refine ⟨h.named.rows d hd, (h.budget d hd).2 hst, fun m z hm => ?_, fun e he heq => ?_⟩
      · exact h.named.unborn_row (getElem?_set_inr hm) d hd
      · rw [eq_of_id he hd heq]
        exact .inr ⟨rfl, Nat.le_refl _⟩
  · have hmine : ∀ (n : Nat) (v : AttemptPhase), n ≠ k → phases[n]? = some (.inr v) →
        v.held ≠ some d.current := fun n v _ hn hv => hfree (.inl ⟨n, v, hn, hv⟩)
    rcases getElem?_set_cases hm with ⟨rfl, heq⟩ | ⟨hmk, hold⟩
    · cases heq
      cases hq
      rcases getElem?_set_cases hm' with ⟨rfl, -⟩ | ⟨hmk', hold'⟩
      · rfl
      · exact absurd hq' (hmine m' q' hmk' hold')
    · rcases getElem?_set_cases hm' with ⟨rfl, heq⟩ | ⟨-, hold'⟩
      · cases heq
        cases hq'
        exact absurd hq (hmine m q hmk hold)
      · exact h.apart m m' q q' a hold hold' hq hq'
  · rcases getElem?_set_cases hm with ⟨rfl, heq⟩ | ⟨-, hold⟩
    · cases heq
      cases hq
      exact fun e he hmade => hfree (.inr ⟨e, he, hmade⟩)
    · exact h.undispatched m q a hold hq

/-- **A call dispatches the attempt it holds**, before its delivery is redriven. -/
theorem Counted.dispatches (h : Counted x phases) (hk : phases[k]? = some (.inr (.holding a)))
    {e : Dispatch} (hmade : e.made = a) (hacc : e.refused = false)
    (hrow : ∃ d ∈ x.deliveries, d.id = a.delivery ∧ d.redrives = a.redrives)
    (hdis : x'.dispatches = x.dispatches ++ [e])
    (hrcs : ∀ r ∈ x'.receipts, r ∈ x.receipts ∨
      (e.remote = true ∧ r.idempotencyKey = idempotencyKey e.delivery e.attempt))
    (hdels : x'.deliveries = x.deliveries) (hmint : x'.minted = x.minted)
    (hmemo : x'.memory = x.memory) : Counted x' (phases.set k (.inr .spent)) := by
  have hmem : ∀ e' ∈ x'.dispatches, e' ∈ x.dispatches ∨ e' = e := by
    intro e' he'
    rw [hdis] at he'
    rcases List.mem_snoc.mp he' with hold | hnew
    · exact .inl hold
    · exact .inr hnew
  have hleft : ∀ (m : Nat) (q : AttemptPhase), (phases.set k (.inr .spent))[m]? = some (.inr q) →
      q = .spent ∨ (m ≠ k ∧ phases[m]? = some (.inr q)) := by
    intro m q hm
    rcases getElem?_set_cases hm with ⟨-, heq⟩ | hold
    · exact .inl (Sum.inr.inj heq)
    · exact .inr hold
  have htk : ∀ b, Taken x' (phases.set k (.inr .spent)) b → Taken x phases b := by
    rintro b (⟨m, q, hm, hq⟩ | ⟨e', he', hb⟩)
    · rcases hleft m q hm with rfl | ⟨-, hold⟩
      · exact nomatch hq
      · exact .inl ⟨m, q, hold, hq⟩
    · rcases hmem e' he' with hold | rfl
      · exact .inr ⟨e', hold, hb⟩
      · exact .inl ⟨k, _, hk, congrArg some (hmade.symm.trans hb)⟩
  have hnew := h.undispatched k _ a hk rfl
  refine ⟨?_, fun d hd => h.budget d (hdels ▸ hd), fun m q other hm hq => ?_,
    fun m m' q q' other hm hm' hq hq' => ?_, fun m other n hm d hd hlea => ?_,
    fun b hb => ?_, fun m m' q q' b hm hm' hq hq' => ?_, fun m q b hm hq e' he' => ?_, ?_⟩
  · exact h.named.work hk hmint (fun d hd => ⟨d, hdels ▸ hd, rfl⟩)
      fun n hn => absurd hn (by simp [AttemptPhase.known])
  · rcases hleft m q hm with rfl | ⟨-, hold⟩
    · exact nomatch hq
    · rw [hmemo]
      exact h.polling m q other hold hq
  · rcases hleft m q hm with rfl | ⟨-, hold⟩
    · exact nomatch hq
    · rcases hleft m' q' hm' with rfl | ⟨-, hold'⟩
      · exact nomatch hq'
      · exact h.alone m m' q q' other hold hold' hq hq'
  · rcases hleft m _ hm with heq | ⟨-, hold⟩
    · exact nomatch heq
    · exact fun ht => h.claimed m other n hold d (hdels ▸ hd) hlea (htk _ ht)
  · obtain ⟨hlt, hpos, hunb, hcnt⟩ := h.taken b (htk b hb)
    refine ⟨hmint ▸ hlt, hpos, fun m z hm => hunb m z (getElem?_set_inr hm), ?_⟩
    rw [hdels]
    exact hcnt
  · rcases hleft m q hm with rfl | ⟨-, hold⟩
    · exact nomatch hq
    · rcases hleft m' q' hm' with rfl | ⟨-, hold'⟩
      · exact nomatch hq'
      · exact h.apart m m' q q' b hold hold' hq hq'
  · rcases hleft m q hm with rfl | ⟨hmk, hold⟩
    · exact nomatch hq
    · rcases hmem e' he' with hold' | rfl
      · exact h.undispatched m q b hold hq e' hold'
      · intro hb
        exact hmk (h.apart m k q _ a hold hk (by rw [hq, ← hb, hmade]) rfl)
  · -- among the dispatches: this one is new, and of the redrives of the others to a target
    obtain ⟨d, hd, hid, hredr⟩ := hrow
    have hrnd : ∀ e' ∈ x.dispatches, e'.remote = true → e'.delivery = e.delivery →
        e'.redrives = e.redrives := by
      intro e' he' hrem hsame
      have heq : d.id = e'.delivery := by rw [hsame, hid, ← hmade]; rfl
      rw [← (h.ledger.remote e' he' hrem).2 d hd heq, hredr, ← hmade]
      rfl
    refine ⟨?_, fun e' he' hrem => ⟨fun f hf hfr hfe => ?_, fun d' hd' hid' => ?_⟩,
      fun r hr => ?_, fun e' he' => ?_⟩
    · rw [hdis, List.map_append]
      refine List.nodup_append.mpr ⟨h.ledger.distinct, List.nodup_singleton _, ?_⟩
      rintro b hb c hc rfl
      obtain ⟨e', he', hb⟩ := List.mem_map.mp hb
      rw [List.map_singleton, List.mem_singleton] at hc
      exact hnew e' he' (hb.trans (hc.trans hmade))
    · rcases hmem e' he' with hold | rfl
      · rcases hmem f hf with hf | rfl
        · exact (h.ledger.remote e' hold hrem).1 f hf hfr hfe
        · exact (hrnd e' hold hrem hfe.symm).symm
      · rcases hmem f hf with hf | rfl
        · exact hrnd f hf hfr hfe
        · rfl
    · rw [hdels] at hd'
      rcases hmem e' he' with hold | rfl
      · exact (h.ledger.remote e' hold hrem).2 d' hd' hid'
      · have hde : d' = d := eq_of_id hd' hd (hid'.trans (by rw [hid, ← hmade]; rfl))
        rw [hde, hredr, ← hmade]
        rfl
    · rcases hrcs r hr with hold | ⟨hrem, hkey⟩
      · obtain ⟨e', he', hrest⟩ := h.ledger.receipts r hold
        exact ⟨e', by rw [hdis]; exact List.mem_append_left _ he', hrest⟩
      · exact ⟨e, by rw [hdis]; exact List.mem_append_right _ (by simp), hrem, hkey⟩
    · rcases hmem e' he' with hold | rfl
      · exact h.ledger.accepted e' hold
      · exact hacc

/-- A call of the ingress goes on: its row is of a delivery of which no attempt is taken. -/
theorem Counted.ingress (h : Counted x phases) (hk : phases[k]? = some (.inl y))
    (hstep : IngressStep y stage x x') :
    Counted x' (phases.set k (.inl { y with stage := stage })) := by
  have hleft : ∀ (m : Nat) (q : AttemptPhase),
      (phases.set k (.inl { y with stage := stage }))[m]? = some (.inr q) →
      phases[m]? = some (.inr q) := by
    intro m q hm
    rcases getElem?_set_cases hm with ⟨-, heq⟩ | ⟨-, hold⟩
    · exact nomatch heq
    · exact hold
  have htk : ∀ a, Taken x' (phases.set k (.inl { y with stage := stage })) a →
      Taken x phases a := by
    rintro a (⟨m, q, hm, hq⟩ | ⟨e, he, hmade⟩)
    · exact .inl ⟨m, q, hleft m q hm, hq⟩
    · exact .inr ⟨e, hstep.dispatches ▸ he, hmade⟩
  refine ⟨h.named.ingress hk hstep, fun d hd => ?_, fun m q worker hm hq => ?_,
    fun m m' q q' worker hm hm' => h.alone m m' q q' worker (hleft m q hm) (hleft m' q' hm'),
    fun m worker id hm d hd hlea ht => ?_, fun a ha => ?_,
    fun m m' q q' a hm hm' => h.apart m m' q q' a (hleft m q hm) (hleft m' q' hm'),
    fun m q a hm hq => ?_, ?_⟩
  · rcases hstep.new d hd with hold | ⟨-, hacc, hzero⟩
    · exact h.budget d hold
    · refine ⟨by rw [hzero]; exact Nat.zero_le _, fun hst => ?_⟩
      rw [hacc] at hst
      exact nomatch hst
  · rw [hstep.memory]
    exact h.polling m q worker (hleft m q hm) hq
  · rcases hstep.new d hd with hold | ⟨-, hacc, -⟩
    · exact h.claimed m worker id (hleft m _ hm) d hold hlea (htk _ ht)
    · have hst := (leased_delivering hlea).2
      rw [hacc] at hst
      exact nomatch hst
  · obtain ⟨hlt, hpos, hunb, hcnt⟩ := h.taken a (htk a ha)
    refine ⟨Nat.lt_of_lt_of_le hlt hstep.minted, hpos, fun m z hm hz => ?_,
      fun d hd hid => ?_⟩
    · rcases getElem?_set_cases hm with ⟨rfl, heq⟩ | ⟨-, hold⟩
      · cases heq
        rcases (hstep.stage _ hz).1 with hmine | ⟨heq, -⟩
        · exact hunb m y hk hmine
        · exact absurd hlt (by rw [heq]; exact Nat.lt_irrefl _)
      · exact hunb m z hold hz
    · rcases hstep.new d hd with hold | ⟨hmine, -⟩
      · exact hcnt d hold hid
      · exact absurd (hid ▸ hmine) (hunb k y hk)
  · rw [hstep.dispatches]
    exact h.undispatched m q a (hleft m q hm) hq
  · refine ⟨hstep.dispatches ▸ h.ledger.distinct, fun e he hrem => ?_, fun r hr => ?_,
      hstep.dispatches ▸ h.ledger.accepted⟩
    · rw [hstep.dispatches] at he ⊢
      obtain ⟨hsame, hrow⟩ := h.ledger.remote e he hrem
      refine ⟨hsame, fun d hd hid => ?_⟩
      rcases hstep.new d hd with hold | ⟨hmine, -⟩
      · exact hrow d hold hid
      · have hunb := (h.taken e.made (.inr ⟨e, he, rfl⟩)).2.2.1 k y hk
        exact absurd (hmine.trans (congrArg some hid)) hunb
    · rw [hstep.receipts] at hr
      rw [hstep.dispatches]
      exact h.ledger.receipts r hr

/-! ### Instructions of the worker -/

/-- Attempts do not depend on anything that changes. -/
theorem Counted.unchanged (h : Counted x phases) (hk : phases[k]? = some (.inr p))
    (hdels : ∀ d' ∈ x'.deliveries, d' ∈ x.deliveries) (hmint : x'.minted = x.minted)
    (hmemo : ∀ worker, (x'.memory worker).polling = (x.memory worker).polling)
    (hdis : x'.dispatches = x.dispatches) (hrcs : x'.receipts = x.receipts) :
    Counted x' (phases.set k (.inr p)) := by
  refine h.work hk ?_ hmint hdis hrcs rfl (fun worker hwk => ?_)
    (fun worker _ hpoll => (hmemo worker).trans hpoll)
    (fun d' hd' => .inl (hdels d' hd')) fun _ _ heq => .inl heq
  · exact h.named.work hk hmint (fun d hd => ⟨d, hdels d hd, rfl⟩) fun _ hn => .inl hn
  · exact ⟨(hmemo worker).trans (h.polling k p worker hk hwk), .inl hwk⟩

/-- An update that gives no lease and takes no attempt back, unless it redrives. -/
theorem Counted.updated (h : Counted x phases) (hk : phases[k]? = some (.inr p))
    {q : WebhookDelivery → Bool} (f : WebhookDelivery → WebhookDelivery)
    (hf : ∀ d, (f d).id = d.id ∧ (f d).routeId = d.routeId ∧
      (f d).providerDeliveryId = d.providerDeliveryId)
    (hdels : x'.deliveries = x.deliveries.update q f hf) (hmint : x'.minted = x.minted)
    (hmemo : x'.memory = x.memory) (hdis : x'.dispatches = x.dispatches)
    (hrcs : x'.receipts = x.receipts)
    (hrow : ∀ d ∈ x.deliveries, q d = true → Changed x d (f d))
    (hwk : p'.worker = p.worker) (hheld : p'.held = p.held)
    (hkn : ∀ id ∈ p'.known, id ∈ p.known ∨ ∃ d ∈ x.deliveries, d.id = id)
    (hcl : ∀ worker id, p' = .claimed worker id → p = .claimed worker id ∨
      ∀ d ∈ x.deliveries, d.id = id → q d = true) :
    Counted x' (phases.set k (.inr p')) := by
  have hmem : ∀ d' ∈ x'.deliveries, ∃ d ∈ x.deliveries, d.id = d'.id ∧
      ((q d = true ∧ d' = f d) ∨ (q d = false ∧ d' = d)) := by
    intro d' hd'
    rw [hdels] at hd'
    obtain ⟨d, hd, rfl⟩ := mem_update.mp hd'
    refine ⟨d, hd, ?_⟩
    cases hq : q d with
    | true => exact ⟨(hf d).1.symm, .inl ⟨rfl, rfl⟩⟩
    | false => exact ⟨rfl, .inr ⟨rfl, rfl⟩⟩
  refine h.work hk ?_ hmint hdis hrcs hheld (fun worker hw => ?_)
    (fun worker _ hpoll => hmemo ▸ hpoll) (fun d' hd' => ?_) fun worker id hp' => ?_
  · refine h.named.work hk hmint (fun d' hd' => ?_) hkn
    obtain ⟨d, hd, hid, -⟩ := hmem d' hd'
    exact ⟨d, hd, hid⟩
  · rw [hwk] at hw
    rw [hmemo]
    exact ⟨h.polling k p worker hk hw, .inl hw⟩
  · obtain ⟨d, hd, -, ⟨hq, rfl⟩ | ⟨-, rfl⟩⟩ := hmem d' hd'
    · exact .inr ⟨d, hd, hrow d hd hq⟩
    · exact .inl hd
  · refine (hcl worker id hp').imp_right fun hall d' hd' hid' => ?_
    obtain ⟨d, hd, hid, ⟨hq, rfl⟩ | ⟨hq, rfl⟩⟩ := hmem d' hd'
    · exact ⟨d, hd, hrow d hd hq⟩
    · rw [hall d' hd hid'] at hq
      exact nomatch hq

/-- A row that is not under a lease afterwards and was not redriven. -/
theorem Counted.settled (h : Counted x phases) (hd : d ∈ x.deliveries) (hid : d.id = d'.id)
    (hredr : d.redrives = d'.redrives) (hatt : d.attempt = d'.attempt)
    (hmax : d.maxAttempts = d'.maxAttempts) (hst : d'.state ≠ .delivering) : Changed x d d' where
  id := hid
  later := .inr ⟨hredr, Nat.le_of_eq hatt⟩
  budget := by
    rw [← hatt, ← hmax]
    exact (h.budget d hd).1
  lease := fun h => absurd h hst
  remote := .inl hredr

/-- A target with no receipt for the key lets the request in. -/
theorem claimReceipt_new (receiptTtlMs now : Nat) {receipts : List FederationReceipt}
    {request : ServiceRequest} (hnone : ∀ r ∈ receipts, r.selects request = false) :
    ∃ receipts', claimReceipt receiptTtlMs receipts request now = (.ok (), receipts') ∧
      ∀ r ∈ receipts', r ∈ receipts ∨ r.idempotencyKey = request.idempotencyKey := by
  unfold claimReceipt
  dsimp only
  split
  · rename_i existing hexisting
    have hmem := List.mem_of_mem_filter (List.mem_of_find?_eq_some hexisting)
    exact absurd (List.find?_some hexisting) (by rw [hnone existing hmem]; simp)
  · refine ⟨_, rfl, fun r hr => ?_⟩
    rcases List.mem_snoc.mp hr with hold | rfl
    · exact .inl (List.mem_of_mem_filter hold)
    · exact .inr rfl

/-- A target has no receipt for an attempt that was not dispatched. -/
theorem Counted.unselected (h : Counted x phases) (hk : phases[k]? = some (.inr (.holding a)))
    (hrow : ∃ d ∈ x.deliveries, d.id = a.delivery ∧ d.redrives = a.redrives) (target : String) :
    ∀ r ∈ x.receipts, r.selects (serviceRequest target a.delivery a.number) = false := by
  intro r hr
  by_contra hselects
  rw [Bool.not_eq_false] at hselects
  obtain ⟨e, he, hrem, hkey⟩ := h.ledger.receipts r hr
  have hsame : r.idempotencyKey = idempotencyKey a.delivery a.number := by
    simp only [FederationReceipt.selects, Bool.and_eq_true, beq_iff_eq] at hselects
    exact hselects.2
  obtain ⟨hdel, hatt⟩ := idempotencyKey_inj (hkey.symm.trans hsame)
  obtain ⟨d, hd, hid, hredr⟩ := hrow
  have hrnd := (h.ledger.remote e he hrem).2 d hd (hid.trans hdel.symm)
  refine h.undispatched k _ a hk rfl e he ?_
  rw [Dispatch.made, hdel, hatt, ← hrnd, hredr]

/-- **The instruction that dispatches.** -/
theorem Counted.step_dispatch (h : Counted x phases) (hk : phases[k]? = some (.inr (.holding a)))
    (hrow : ∃ d ∈ x.deliveries, d.id = a.delivery ∧ d.redrives = a.redrives) (receiptTtlMs : Nat)
    (target : Option String) :
    Counted (dispatch receiptTtlMs x a.delivery a.number a.redrives target).2
      (phases.set k (.inr .spent)) := by
  unfold dispatch
  split
  · exact h.dispatches hk rfl rfl hrow rfl (fun _ hr => .inl hr) rfl rfl rfl
  · exact h.dispatches hk rfl rfl hrow rfl (fun _ hr => .inl hr) rfl rfl rfl
  · exact h.dispatches hk rfl rfl hrow rfl (fun _ hr => .inl hr) rfl rfl rfl
  · rename_i target result _
    obtain ⟨receipts, hclaim, hrcs⟩ := claimReceipt_new receiptTtlMs x.clock
      (h.unselected hk hrow target)
    rw [hclaim]
    refine h.dispatches hk rfl rfl hrow rfl (fun r hr => ?_) rfl rfl rfl
    exact (hrcs r hr).imp_right fun hkey => ⟨rfl, hkey⟩

theorem remember_polling (worker other : String) (f : WorkerMemory → WorkerMemory) :
    ((remember x worker f).memory other).polling =
      if other = worker then (f (x.memory other)).polling else (x.memory other).polling := by
  unfold remember
  dsimp only
  split
  · rfl
  · rfl

/-- A call begins or ends to poll, or does so no more. -/
theorem Counted.remembers (h : Counted x phases) (hk : phases[k]? = some (.inr p))
    {worker : String} (f : WorkerMemory → WorkerMemory) (hheld : p'.held = p.held)
    (hkn : p'.known = p.known) (hcl : ∀ other id, p' ≠ .claimed other id)
    (hpolls : (p'.worker = some worker ∧ (x.memory worker).polling = false ∧
        (f (x.memory worker)).polling = true) ∨
      (p.worker = some worker ∧ p'.worker = none)) :
    Counted (remember x worker f) (phases.set k (.inr p')) := by
  refine h.work hk ?_ rfl rfl rfl hheld (fun other hw => ?_) (fun other hw hpoll => ?_)
    (fun d' hd' => .inl hd') fun other id hp' => absurd hp' (hcl other id)
  · exact h.named.work hk rfl (fun d hd => ⟨d, hd, rfl⟩) fun id hid => .inl (hkn ▸ hid)
  · rcases hpolls with ⟨hself, hidle, hset⟩ | ⟨-, hnone⟩
    · rw [hself] at hw
      cases hw
      rw [remember_polling, if_pos rfl]
      exact ⟨hset, .inr hidle⟩
    · rw [hnone] at hw
      exact nomatch hw
  · rw [remember_polling]
    split
    · rename_i heq
      subst heq
      rcases hpolls with ⟨-, hidle, -⟩ | ⟨hself, -⟩
      · rw [hidle] at hpoll
        exact nomatch hpoll
      · exact absurd hself hw
    · exact hpoll

/-- A row under no lease stays what it was for the attempts. -/
theorem Counted.released (h : Counted x phases) (hk : phases[k]? = some (.inr p))
    {q : WebhookDelivery → Bool} (f : WebhookDelivery → WebhookDelivery)
    (hf : ∀ d, (f d).id = d.id ∧ (f d).routeId = d.routeId ∧
      (f d).providerDeliveryId = d.providerDeliveryId)
    (hsame : ∀ d, (f d).redrives = d.redrives ∧ (f d).attempt = d.attempt ∧
      (f d).maxAttempts = d.maxAttempts ∧ (f d).state ≠ .delivering) :
    Counted (updateOne x q f hf).2 (phases.set k (.inr p)) := by
  refine h.updated hk f hf rfl rfl rfl rfl rfl (fun d hd _ => ?_) rfl rfl
    (fun _ hn => .inl hn) fun _ _ heq => .inl heq
  obtain ⟨hredr, hatt, hmax, hst⟩ := hsame d
  exact h.settled hd (hf d).1.symm hredr.symm hatt.symm hmax.symm hst

/-- **Every instruction of the worker keeps the invariant.** -/
theorem Counted.step_work (h : Counted x phases) (hk : phases[k]? = some (.inr p))
    {i : WebhookInstr} (halw : attemptAllows p i) (hg : Accountable x i) :
    Counted (answer C i x).2 (phases.set k (.inr (attemptAfter p i (answer C i x).1))) := by
  cases i with
  | randomUUID | write | admitDelivery | remove => exact halw.elim
  | resolvePublicToken | findProvided | countQueued | findDue | targetActive | readPayload
  | findById | findExpired | removeDelivered | discard =>
    exact h.unchanged hk (fun _ hd => hd) rfl (fun _ => rfl) rfl rfl
  | moveToDlq worker id | moveToQueue id =>
    simp only [answer, moved]
    split
    · exact h.unchanged hk (fun _ hd => hd) rfl (fun _ => rfl) rfl rfl
    · exact h.unchanged hk (fun _ hd => hd) rfl (fun _ => rfl) rfl rfl
  | deactivate worker id target =>
    refine h.unchanged hk (fun _ hd => hd) rfl (fun other => ?_) rfl rfl
    simp only [answer]
    rw [remember_polling]
    split
    · rfl
    · rfl
  | deleteExpired ids =>
    exact h.unchanged hk (fun d hd => List.mem_of_mem_filter hd) rfl (fun _ => rfl) rfl rfl
  | retryLater worker id delay code =>
    exact h.released hk _ _ fun d => ⟨rfl, rfl, rfl, by simp [postponed]⟩
  | complete worker id =>
    exact h.released hk _ _ fun d => ⟨rfl, rfl, rfl, by simp [completed]⟩
  | toDlq worker id code =>
    exact h.released hk _ _ fun d => ⟨rfl, rfl, rfl, by simp [deadLettered]⟩
  | redriveRow id =>
    refine h.updated hk (redriven x.clock) (fun _ => ⟨rfl, rfl, rfl⟩) rfl rfl rfl rfl rfl
      (fun d hd hq => ?_) rfl rfl (fun _ hn => .inl hn) fun _ _ heq => .inl heq
    rw [Bool.and_eq_true, beq_iff_eq, beq_iff_eq] at hq
    refine ⟨rfl, .inl (Nat.lt_succ_self _), Nat.zero_le _,
      fun hst => absurd hst (by simp [redriven]), .inr ?_⟩
    rw [hq.1]
    exact hg d hd hq.1 hq.2
  | beginPoll worker =>
    cases (halw : p = .idle)
    simp only [answer]
    split
    · exact h.work hk (h.named.work hk rfl (fun d hd => ⟨d, hd, rfl⟩) fun _ hn => .inl hn) rfl rfl
        rfl rfl (fun _ hw => by cases hw) (fun _ _ hpoll => hpoll) (fun _ hd => .inl hd)
        fun _ _ heq => by cases heq
    · rename_i hfree
      refine h.remembers hk (fun m => { m with polling := true }) rfl rfl
        (fun _ _ heq => by cases heq) (.inl ⟨rfl, ?_, rfl⟩)
      rw [Bool.or_eq_true, not_or, Bool.not_eq_true] at hfree
      exact hfree.1
  | endPoll worker =>
    cases (halw : p = .polling worker)
    have hnext : Counted (remember x worker fun m => { m with polling := false })
        (phases.set k (.inr .spent)) :=
      h.remembers hk _ rfl rfl (fun _ _ heq => by cases heq) (.inr ⟨rfl, rfl⟩)
    exact hnext
  | activate worker id target =>
    obtain ⟨a, rfl⟩ := halw
    have hnext : Counted (remember x worker fun m => { m with
          polling := false
          active := m.active ++ [id]
          activeTargets := m.activeTargets ++ [target] })
        (phases.set k (.inr (.holding a))) :=
      h.remembers hk _ rfl rfl (fun _ _ heq => by cases heq) (.inr ⟨rfl, rfl⟩)
    exact hnext
  | claim worker id now =>
    cases (halw : p = .polling worker)
    refine h.updated hk (Webhooks.claimed worker now) (fun _ => ⟨rfl, rfl, rfl⟩) rfl rfl rfl rfl rfl
      (fun d hd hq => ?_) ?_ ?_ ?_ ?_
    · rw [Bool.and_eq_true, beq_iff_eq] at hq
      exact ⟨rfl, .inr ⟨rfl, Nat.le_succ _⟩, hg d hd hq.1 hq.2,
        fun _ => ⟨rfl, Nat.lt_succ_self _⟩, .inl rfl⟩
    · cases (answer C (.claim worker id now) x).1 <;> rfl
    · cases (answer C (.claim worker id now) x).1 <;> rfl
    · cases hans : (answer C (.claim worker id now) x).1 with
      | false => exact fun _ hn => .inl hn
      | true =>
        intro n hn
        obtain ⟨d, hd, hq⟩ := updateOne_true hans
        rw [Bool.and_eq_true, beq_iff_eq] at hq
        exact .inr ⟨d, hd, hq.1.trans (List.mem_singleton.mp hn).symm⟩
    · cases hans : (answer C (.claim worker id now) x).1 with
      | false => exact fun _ _ heq => by cases heq
      | true =>
        intro other n heq
        cases heq
        obtain ⟨d, hd, hq⟩ := updateOne_true hans
        refine .inr fun e he hid => ?_
        rw [Bool.and_eq_true, beq_iff_eq] at hq
        rw [eq_of_id he hd (hid.trans hq.1.symm), Bool.and_eq_true, beq_iff_eq]
        exact hq
  | findClaimed worker id =>
    cases (halw : p = .claimed worker id)
    simp only [answer]
    cases hfnd : x.deliveries.byId id with
    | none =>
      exact h.work hk (h.named.work hk rfl (fun d hd => ⟨d, hd, rfl⟩) fun _ hn => by cases hn) rfl rfl
        rfl rfl (fun other hw => ⟨h.polling k _ other hk hw, .inl hw⟩)
        (fun _ _ hpoll => hpoll) (fun _ hd => .inl hd) fun _ _ heq => by cases heq
    | some d =>
      obtain ⟨hd, hid⟩ := mem_byId hfnd
      exact h.reads hk hd (hg d hd hid)
  | dispatch worker id attempt redrives target payload =>
    cases (halw : p = .holding ⟨id, redrives, attempt⟩)
    exact h.step_dispatch hk hg C.receiptTtlMs target

/-- Time, routes, the disk, the network and the process may change at any time. -/
theorem Counted.outside (h : Counted x phases) (change : WebhookChange) :
    Counted (change.apply x) phases := by
  obtain ⟨⟨hrows, hunb, hown, hfnd⟩, hbud, hpoll, halone, hcl, htk, hapart,
    hundispatched, ⟨hdist, hrem, hrcs, hacc⟩⟩ := h
  cases change <;>
    exact ⟨⟨hrows, hunb, hown, hfnd⟩, hbud, hpoll, halone, hcl, htk, hapart,
      hundispatched, ⟨hdist, hrem, hrcs, hacc⟩⟩

/-- A call begins. -/
theorem Counted.call (h : Counted x phases) (request : WebhookRequest) :
    Counted x (phases ++ [request.trying]) := by
  have hbeg : (∃ r, request.trying = .inl ⟨r, .begun⟩) ∨ request.trying = .inr .idle := by
    cases request with
    | accept r => exact .inl ⟨r, rfl⟩
    | poll | redrive | cleanupDlq => exact .inr rfl
  have hleft : ∀ (m : Nat) (q : AttemptPhase), (phases ++ [request.trying])[m]? = some (.inr q) →
      q = .idle ∨ phases[m]? = some (.inr q) := by
    intro m q hm
    rcases getElem?_append_cases hm with ⟨-, heq⟩ | ⟨-, hold⟩
    · rcases hbeg with ⟨r, hr⟩ | hidle
      · rw [hr] at heq
        cases heq
      · rw [hidle] at heq
        exact .inl (Sum.inr.inj heq)
    · exact .inr hold
  have htk : ∀ a, Taken x (phases ++ [request.trying]) a → Taken x phases a := by
    rintro a (⟨m, q, hm, hq⟩ | hdispatched)
    · rcases hleft m q hm with rfl | hold
      · cases hq
      · exact .inl ⟨m, q, hold, hq⟩
    · exact .inr hdispatched
  refine ⟨h.named.call ?_, h.budget, fun m q worker hm hq => ?_,
    fun m m' q q' worker hm hm' hq hq' => ?_, fun m worker id hm d hd hlea ht => ?_,
    fun a ha => ?_, fun m m' q q' a hm hm' hq hq' => ?_, fun m q a hm hq => ?_, h.ledger⟩
  · rcases hbeg with hbeg | hidle
    · exact .inl hbeg
    · exact .inr ⟨.idle, hidle, rfl⟩
  · rcases hleft m q hm with rfl | hold
    · cases hq
    · exact h.polling m q worker hold hq
  · rcases hleft m q hm with rfl | hold
    · cases hq
    · rcases hleft m' q' hm' with rfl | hold'
      · cases hq'
      · exact h.alone m m' q q' worker hold hold' hq hq'
  · rcases hleft m _ hm with heq | hold
    · cases heq
    · exact h.claimed m worker id hold d hd hlea (htk _ ht)
  · obtain ⟨hlt, hpos, hunb, hcnt⟩ := h.taken a (htk a ha)
    refine ⟨hlt, hpos, fun m z hm hz => ?_, hcnt⟩
    rcases getElem?_append_cases hm with ⟨-, heq⟩ | ⟨-, hold⟩
    · rcases hbeg with ⟨r, hr⟩ | hidle
      · rw [hr] at heq
        cases heq
        cases hz
      · rw [hidle] at heq
        cases heq
    · exact hunb m z hold hz
  · rcases hleft m q hm with rfl | hold
    · cases hq
    · rcases hleft m' q' hm' with rfl | hold'
      · cases hq'
      · exact h.apart m m' q q' a hold hold' hq hq'
  · rcases hleft m q hm with rfl | hold
    · cases hq
    · exact h.undispatched m q a hold hq

/-- A row has counted every attempt of it that was dispatched since it was redriven. -/
theorem Counted.budget_le (h : Counted x phases) (hd : d ∈ x.deliveries) :
    x.dispatches.countP (fun e => e.delivery == d.id && e.redrives == d.redrives) ≤
      d.maxAttempts := by
  have hmem : ∀ e ∈ x.dispatches.filter (fun e => e.delivery == d.id && e.redrives == d.redrives),
      e ∈ x.dispatches ∧ e.delivery = d.id ∧ e.redrives = d.redrives := by
    intro e he
    obtain ⟨he, hsame⟩ := List.mem_filter.mp he
    rw [Bool.and_eq_true, beq_iff_eq, beq_iff_eq] at hsame
    exact ⟨he, hsame⟩
  have hnd : ((x.dispatches.filter fun e => e.delivery == d.id &&
      e.redrives == d.redrives).map Dispatch.attempt).Nodup := by
    refine List.Nodup.map_on (fun e he e' he' heq => ?_) (h.ledger.distinct.of_map.filter _)
    obtain ⟨hin, hid, hredr⟩ := hmem e he
    obtain ⟨hin', hid', hredr'⟩ := hmem e' he'
    refine List.inj_on_of_nodup_map h.ledger.distinct hin hin' ?_
    rw [Dispatch.made, Dispatch.made, hid, hid', hredr, hredr', heq]
  have hsub : (x.dispatches.filter fun e => e.delivery == d.id &&
      e.redrives == d.redrives).map Dispatch.attempt ⊆ List.range' 1 d.attempt := by
    intro n hn
    obtain ⟨e, he, rfl⟩ := List.mem_map.mp hn
    obtain ⟨hin, hid, hredr⟩ := hmem e he
    obtain ⟨-, hpos, -, hcnt⟩ := h.taken e.made (.inr ⟨e, hin, rfl⟩)
    have hpos : 1 ≤ e.attempt := hpos
    have hle : e.redrives < d.redrives ∨ (e.redrives = d.redrives ∧ e.attempt ≤ d.attempt) :=
      hcnt d hd hid.symm
    rw [List.mem_range'_1]
    omega
  calc x.dispatches.countP (fun e => e.delivery == d.id && e.redrives == d.redrives)
      = ((x.dispatches.filter fun e => e.delivery == d.id &&
          e.redrives == d.redrives).map Dispatch.attempt).length := by
        rw [List.length_map, List.countP_eq_length_filter]
    _ ≤ (List.range' 1 d.attempt).length := (List.subperm_of_subset hnd hsub).length_le
    _ = d.attempt := List.length_range'
    _ ≤ d.maxAttempts := (h.budget d hd).1

/-- Requests of one delivery are of one series of attempts, which have numbers of their own. -/
theorem Ledger.keys_nodup (h : Ledger x) : ((x.dispatches.filter fun e => e.remote).map fun e =>
    idempotencyKey e.delivery e.attempt).Nodup := by
  refine List.Nodup.map_on (fun e he e' he' heq => ?_) (h.distinct.of_map.filter _)
  obtain ⟨hin, hrem⟩ := List.mem_filter.mp he
  obtain ⟨hin', hrem'⟩ := List.mem_filter.mp he'
  obtain ⟨hdel, hatt⟩ := idempotencyKey_inj heq
  have hredr := (h.remote e hin hrem).1 e' hin' hrem' hdel.symm
  refine List.inj_on_of_nodup_map h.distinct hin hin' ?_
  rw [Dispatch.made, Dispatch.made, hdel, hatt, hredr]

end Invariant

/-! ## Every run -/

/-- A store whose deliveries were not dispatched yet. -/
structure Undispatched (x : WebhookStore) : Prop where
  minted : ∀ d ∈ x.deliveries, d.id < x.minted
  budget : ∀ d ∈ x.deliveries, d.attempt ≤ d.maxAttempts ∧ (d.state = .delivering → 1 ≤ d.attempt)
  dispatches : x.dispatches = []
  receipts : x.receipts = []

theorem counted_nil {x : WebhookStore} (h : Undispatched x) : Counted x [] := by
  have hnone : ∀ e, e ∉ x.dispatches := by
    rw [h.dispatches]
    exact fun e he => absurd he (by simp)
  refine ⟨.empty h.minted, h.budget, fun _ _ _ hk => absurd hk (by simp),
    fun _ _ _ _ _ hk => absurd hk (by simp), fun _ _ _ hk => absurd hk (by simp), ?_,
    fun _ _ _ _ _ hk => absurd hk (by simp), fun _ _ _ hk => absurd hk (by simp),
    ⟨by rw [h.dispatches]; exact List.nodup_nil, fun e he => absurd he (hnone e), ?_,
      fun e he => absurd he (hnone e)⟩⟩
  · rintro a (⟨_, _, hk, -⟩ | ⟨e, he, -⟩)
    · exact absurd hk (by simp)
    · exact absurd he (hnone e)
  · rw [h.receipts]
    exact fun r hr => absurd hr (by simp)

/-- **Attempts.** -/
theorem webhook_attempts {C : WebhookConfig} {R : IngressRuntime} {x₀ : WebhookStore}
    {s : WebhookPool} (h₀ : Undispatched x₀)
    (hs : Reach (Pool.step (webhookService C R)) (Pool.Within Accountable) ⟨x₀, []⟩ s) :
    AttemptsCounted s.store := by
  obtain ⟨phases, h, -⟩ := Reach.follows (S := webhookService C R) (I := Counted)
    WebhookRequest.trying (program_tries C R) (counted_nil h₀)
    (fun change x phases h => h.outside change) (fun request x phases h => h.call request)
    (fun x phases k y i _ h hk halw hg => by
      cases y with
      | inl y => exact h.ingress hk (ingress_step h.named hk halw)
      | inr p => exact h.step_work hk halw hg) hs
  exact ⟨fun d hd => h.budget_le hd, h.ledger.keys_nodup, h.ledger.accepted⟩

/-! ### A route to a remote target that fails -/

/-- The target gets every request and fails. -/
def remoteStore : WebhookStore :=
  { emptyStore "w" with
    routes := fun _ => { onlyRoute with remoteServerId := some "server" }
    transport := .arrives (.error "REMOTE_FAILED") }

/-- A delivery is accepted, and so many attempts fail. -/
def failingAttempts (n : Nat) : List (Event WebhookChange WebhookRequest) :=
  nextCall 0 (.accept (pushOf 1)) 6 ++
    (List.range n).flatMap fun k => nextCall (k + 1) (.poll "w" 10000000) 10

/-- The processes that are gone after their dispatch, each behind the lease of the last. -/
def crashingWorkers (n : Nat) : List (Event WebhookChange WebhookRequest) :=
  nextCall 0 (.accept (pushOf 1)) 6 ++
    (List.range n).flatMap fun k => nextCall (k + 1) (.poll (toString k) (k * 40000)) 8

/-- Two attempts with keys of their own. -/
theorem webhook_attempts_two : ∃ s : WebhookPool,
    s.store.dispatches.map (fun e => (e.attempt, e.remote)) = [(1, true), (2, true)] ∧
      AttemptsCounted s.store := by
  have hrun : ∃ s : WebhookPool, Reach (Pool.step (webhookService (oneRoute 9) oneDelivery))
      (Pool.Within Accountable) ⟨remoteStore, []⟩ s ∧
        s.store.dispatches.map (fun e => (e.attempt, e.remote)) = [(1, true), (2, true)] :=
    Reach.of_run_any (l := failingAttempts 2) (by decide)
  obtain ⟨s, hs, hdis⟩ := hrun
  have hundispatched : Undispatched remoteStore :=
    ⟨fun d hd => absurd hd (Table.not_mem_empty d), fun d hd => absurd hd (Table.not_mem_empty d),
      rfl, rfl⟩
  exact ⟨s, hdis, webhook_attempts hundispatched hs⟩

/-- **A delivery is dispatched more than `maxAttempts` times** when its workers are gone, and **a
redriven delivery is refused as a replay**. -/
theorem attempts_exceeded :
    (∃ s : WebhookPool, Reach (Pool.step (webhookService (oneRoute 9) oneDelivery)) anyStep
      ⟨remoteStore, []⟩ s ∧ ∃ d ∈ s.store.deliveries, d.state = .delivering ∧ d.redrives = 0 ∧
        d.maxAttempts < s.store.dispatches.countP (fun e => e.delivery == d.id)) ∧
    ∃ s : WebhookPool, Reach (Pool.step (webhookService (oneRoute 9) oneDelivery)) anyStep
      ⟨remoteStore, []⟩ s ∧ (∃ e ∈ s.store.dispatches, e.remote = true ∧ e.refused = true) ∧
        ¬((s.store.dispatches.filter fun e => e.remote).map fun e =>
          idempotencyKey e.delivery e.attempt).Nodup := by
  constructor
  · exact Reach.of_run_any (l := crashingWorkers 7) (by decide +kernel)
  · exact Reach.of_run_any (l := failingAttempts 5 ++ nextCall 6 (.poll "w" 10000000) 11 ++
      nextCall 7 (.redrive 0) 3 ++ nextCall 8 (.poll "w" 10000000) 8) (by decide +kernel)

end Meowbox.Webhooks
