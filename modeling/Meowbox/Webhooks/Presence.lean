import Meowbox.Webhooks.Phases

/-!
# The payload of a delivery

A row that waits for its delivery has its payload in the queue; one in the DLQ has it in one of the
two directories until a clean-up discards it. A clean-up removes the payload first and the row
after, a redrive brings the payload back first and the row after, and a failure the other way
round. `Undisturbed` says of an instruction that it does not meet a delivery that another call has
redriven or discarded meanwhile.

* `webhook_payload_present`: where the payloads are in every state of a run that is undisturbed.
* `payload_absent`: a payload that is discarded before its row, and one that is moved away from a
  row that was redriven.
-/

namespace Meowbox.Webhooks

open Relational Interleaved Fallible Stepping

structure PayloadsPresent (x : WebhookStore) : Prop where
  queued : ∀ d ∈ x.deliveries, d.state.queued = true → x.spool.has .queue d.id = true
  dead : ∀ d ∈ x.deliveries, d.state = .dlq →
    x.spool.has .queue d.id = true ∨ x.spool.has .dlq d.id = true ∨ d.id ∈ x.discarded

/-- A payload is moved or removed only where its row is not to be delivered, and a row is redriven
only with its payload in the queue. -/
def Undisturbed (x : WebhookStore) : WebhookInstr → Prop
  | .moveToDlq _ id | .discard id .queue => ∀ d ∈ x.deliveries, d.id = id → d.state.queued = false
  | .redriveRow id => ∀ d ∈ x.deliveries, d.id = id → d.state = .dlq →
      x.spool.has .queue id = true
  | _ => True

instance (x : WebhookStore) (i : WebhookInstr) : Decidable (Undisturbed x i) := by
  apply WebhookInstr.casesOn (motive := fun i => Decidable (Undisturbed x i)) i
  case discard =>
    intro id location
    cases location <;> dsimp only [Undisturbed] <;> infer_instance
  all_goals
    intros
    dsimp only [Undisturbed]
    infer_instance

/-! ## Phases of the worker -/

/-- What a call of the worker has learnt. -/
structure WorkPhase where
  /-- Deliveries it has found. -/
  found : List Nat
  /-- Deliveries it has completed. -/
  delivered : List Nat
deriving DecidableEq

def workAllows (w : WorkPhase) : WebhookInstr → Prop
  | .moveToDlq _ id | .moveToQueue id | .discard id _ => id ∈ w.found
  | .removeDelivered _ id => id ∈ w.delivered
  | .randomUUID | .write _ | .admitDelivery _ _ _ _ _ | .remove _ _ => False
  | _ => True

def workAfter (w : WorkPhase) : (i : WebhookInstr) → Answer i → WorkPhase
  | .toDlq _ id _, true => { w with found := id :: w.found }
  | .findById id, some _ => { w with found := id :: w.found }
  | .findExpired _, ids => { w with found := ids ++ w.found }
  | .complete _ id, true => { w with delivered := id :: w.delivered }
  | _, _ => w

def workProtocol : Protocol WorkPhase WebhookInstr Answer where
  allows := workAllows
  after := workAfter

/-- An instruction that teaches nothing. -/
def Neutral (i : WebhookInstr) : Prop := ∀ w, workAllows w i ∧ ∀ r, workAfter w i r = w

section Follows

variable {α : Type} {w : WorkPhase}

/-- The call keeps to the protocol. -/
def Works (w : WorkPhase) (call : WebhookCall α) : Prop :=
  Follows workProtocol (fun _ _ => True) w call

theorem claimFirst_performs (worker : String) (now : Nat) :
    ∀ candidates, Performs Neutral (claimFirst worker now candidates)
  | [] => performs_pure _
  | candidate :: rest => by
    unfold claimFirst
    refine performs_bind (performs_ask fun _ => ⟨trivial, fun _ => rfl⟩) fun busy => ?_
    split
    · exact claimFirst_performs worker now rest
    · refine performs_bind (performs_ask fun _ => ⟨trivial, fun _ => rfl⟩) fun claimed => ?_
      split
      · exact performs_ask fun _ => ⟨trivial, fun _ => rfl⟩
      · exact claimFirst_performs worker now rest

theorem claimNext_performs (worker : String) (now : Nat) :
    Performs Neutral (claimNext worker now) :=
  performs_bind (performs_ask fun _ => ⟨trivial, fun _ => rfl⟩) (claimFirst_performs worker now)

theorem fail_works (worker : String) (delivery : WebhookDelivery) (error : WebhookError)
    (forceDlq : Bool) : Works w (fail worker delivery error forceDlq) := by
  unfold fail
  split
  · refine follows_ask trivial fun updated => ?_
    cases updated with
    | false => exact follows_pure trivial
    | true =>
      have hmove : Works { w with found := delivery.id :: w.found }
          (ask? (.moveToDlq worker delivery.id) id) :=
        follows_ask?_end List.mem_cons_self fun _ => trivial
      refine follows_attempt hmove fun _ _ _ => ?_
      exact follows_pure trivial
  · exact follows_ask_end trivial fun _ => trivial

theorem deliverOnce_works (worker : String) (delivery : WebhookDelivery) (route : WebhookRoute) :
    Works w (deliverOnce worker delivery route) := by
  unfold deliverOnce
  refine follows_ask? trivial (fun _ payload _ => ?_) fun _ _ _ => trivial
  refine follows_ask? trivial (fun _ result _ => ?_) fun _ _ _ => trivial
  split
  · exact follows_throw trivial
  · refine follows_ask trivial fun completed => ?_
    cases completed with
    | false => exact follows_pure trivial
    | true => exact follows_ask_end List.mem_cons_self fun _ => trivial

theorem execute_works (worker : String) (claimed : ClaimedDelivery) :
    Works w (execute worker claimed) := by
  unfold execute
  split
  · exact fail_works worker claimed.1 _ true
  · refine follows_attempt (deliverOnce_works worker claimed.1 claimed.2) fun y outcome _ => ?_
    cases outcome with
    | ok _ => exact follows_pure trivial
    | error error => exact fail_works worker claimed.1 error false

theorem poll_works (worker : String) (now : Nat) : Works w (poll worker now) := by
  unfold poll
  refine follows_ask trivial fun free => ?_
  split
  · have hcl : Works w (claimNext worker now) :=
      Prog.follows_of_issues (fun i hi => hi w) (fun _ => trivial) (claimNext_performs worker now)
    refine follows_bind hcl (fun y next _ => ?_) fun _ _ _ => trivial
    cases next with
    | none => exact follows_ask_end trivial fun _ => trivial
    | some claimed =>
      refine follows_ask trivial fun _ => ?_
      refine follows_attempt (execute_works worker claimed) fun _ _ _ => ?_
      exact follows_ask_end trivial fun _ => trivial
  · exact follows_pure trivial

theorem redrive_works (deliveryId : Nat) : Works w (redrive deliveryId) := by
  unfold redrive
  refine follows_ask trivial fun found => ?_
  cases found with
  | none => exact follows_throw trivial
  | some pair =>
    obtain ⟨delivery, route⟩ := pair
    dsimp only
    split
    · exact follows_throw trivial
    · split
      · exact follows_throw trivial
      · refine follows_ask? List.mem_cons_self (fun _ _ _ => ?_) fun _ _ _ => trivial
        refine follows_ask trivial fun updated => ?_
        split
        · exact follows_pure trivial
        · exact follows_throw trivial

theorem discardAll_works : ∀ {ids : List Nat} {w : WorkPhase}, (∀ id ∈ ids, id ∈ w.found) →
    Works w (discardAll ids)
  | [], _, _ => follows_pure trivial
  | id :: rest, w, hids => by
    unfold discardAll
    refine follows_ask (hids id List.mem_cons_self) fun _ => ?_
    refine follows_ask (hids id List.mem_cons_self) fun _ => ?_
    exact discardAll_works fun n hn => hids n (List.mem_cons_of_mem id hn)

theorem cleanupDlq_works (now : Nat) : Works w (cleanupDlq now) := by
  unfold cleanupDlq
  refine follows_ask trivial fun expired => ?_
  refine follows_bind (discardAll_works fun id hid => List.mem_append_left _ hid)
    (fun _ _ _ => ?_) fun _ _ _ => trivial
  split
  · exact follows_pure trivial
  · exact follows_ask_end trivial fun _ => trivial

end Follows

/-! ### All calls -/

abbrev WebhookPhase := IngressPhase ⊕ WorkPhase

def webhookProtocol (C : WebhookConfig) (R : IngressRuntime) :
    Protocol WebhookPhase WebhookInstr Answer :=
  (ingressProtocol C R).sum workProtocol

def WebhookRequest.begun : WebhookRequest → WebhookPhase
  | .accept request => .inl ⟨request, .begun⟩
  | .poll _ _ | .redrive _ | .cleanupDlq _ => .inr ⟨[], []⟩

theorem program_follows (C : WebhookConfig) (R : IngressRuntime) (request : WebhookRequest) :
    (request.program C R).Follows (webhookProtocol C R)
      (Sum.elim (fun _ _ => True) fun _ _ => True) request.begun := by
  cases request with
  | accept request => exact (silent_follows accept_follows).inl
  | poll worker now => exact (silent_follows (poll_works worker now)).inr
  | redrive deliveryId => exact (silent_follows (redrive_works deliveryId)).inr
  | cleanupDlq now => exact (silent_follows (cleanupDlq_works now)).inr

/-! ## The store and the phases -/

/-- **The invariant.** -/
structure Attended (x : WebhookStore) (phases : List WebhookPhase) : Prop where
  named : Named WorkPhase.found x phases
  present : PayloadsPresent x
  held : ∀ (k : Nat) (y : IngressPhase) (id : Nat), phases[k]? = some (.inl y) →
    y.stage.held = some id → x.spool.has .queue id = true
  delivered : ∀ (k : Nat) (w : WorkPhase), phases[k]? = some (.inr w) → ∀ id ∈ w.delivered,
    ∃ d ∈ x.deliveries, d.id = id ∧ d.state = .delivered

section Invariant

variable {C : WebhookConfig} {R : IngressRuntime} {x x' : WebhookStore}
  {phases : List WebhookPhase} {k : Nat} {y : IngressPhase} {stage : IngressStage}
  {w w' : WorkPhase}

/-- **A call of the ingress goes on.** -/
theorem Attended.ingress (h : Attended x phases) (hk : phases[k]? = some (.inl y))
    (hstep : IngressStep y stage x x') :
    Attended x' (phases.set k (.inl { y with stage := stage })) := by
  have hother := h.named.unborn_row hk
  obtain ⟨hrow, hheld⟩ := hstep.files fun id hid => h.held k y id hk hid
  refine ⟨h.named.ingress hk hstep, ⟨fun d hd hqu => ?_, fun d hd hdlq => ?_⟩,
    fun m z id hm hid => ?_, fun m v hm id hid => ?_⟩
  · rcases hrow d hd with hold | hhas
    · rw [hstep.spool _ _ (hother d hold)]
      exact h.present.queued d hold hqu
    · exact hhas
  · rcases hstep.new d hd with hold | ⟨-, hacc, -⟩
    · rw [hstep.spool _ _ (hother d hold), hstep.spool _ _ (hother d hold), hstep.discarded]
      exact h.present.dead d hold hdlq
    · rw [hacc] at hdlq
      exact nomatch hdlq
  · rcases getElem?_set_cases hm with ⟨-, hz⟩ | ⟨hmk, hold⟩
    · cases hz
      exact hheld id hid
    · rw [hstep.spool _ _ (h.named.apart hk hstep hmk hold (held_unused hid)).1]
      exact h.held m z id hold hid
  · rcases getElem?_set_cases hm with ⟨-, hv⟩ | ⟨-, hold⟩
    · exact nomatch hv
    · obtain ⟨d, hd, hrest⟩ := h.delivered m v hold id hid
      exact ⟨d, hstep.kept d hd, hrest⟩

/-- **A call of the worker goes on.** It leaves the payloads alone for which there is no row. -/
theorem Attended.work (h : Attended x phases) (hk : phases[k]? = some (.inr w))
    (hnm : Named WorkPhase.found x' (phases.set k (.inr w')))
    (hspo : ∀ id, (∀ d ∈ x.deliveries, d.id ≠ id) → id ∉ w.found →
      x'.spool.has .queue id = x.spool.has .queue id)
    (hkept : ∀ d ∈ x.deliveries, d.state = .delivered → d ∈ x'.deliveries)
    (hpresent : PayloadsPresent x')
    (hdlv : ∀ id ∈ w'.delivered, id ∈ w.delivered ∨
      ∃ d ∈ x'.deliveries, d.id = id ∧ d.state = .delivered) :
    Attended x' (phases.set k (.inr w')) := by
  refine ⟨hnm, hpresent, fun m z id hm hid => ?_, fun m v hm id hid => ?_⟩
  · have hold := getElem?_set_inr hm
    have hun := held_unused hid
    rw [hspo id (h.named.unborn m z id hold hun).2
      fun hmem => (h.named.found k w hk id hmem).2 m z hold hun]
    exact h.held m z id hold hid
  · rcases getElem?_set_cases hm with ⟨rfl, hv⟩ | ⟨-, hold⟩
    · cases hv
      rcases hdlv id hid with hold | hrow
      · obtain ⟨d, hd, heq, hst⟩ := h.delivered m w hk id hold
        exact ⟨d, hkept d hd hst, heq, hst⟩
      · exact hrow
    · obtain ⟨d, hd, heq, hst⟩ := h.delivered m v hold id hid
      exact ⟨d, hkept d hd hst, heq, hst⟩

/-! ### Instructions of the worker -/

/-- What presence depends on. -/
structure SameFiles (x x' : WebhookStore) : Prop where
  deliveries : x'.deliveries = x.deliveries
  spool : x'.spool = x.spool
  minted : x'.minted = x.minted
  discarded : x'.discarded = x.discarded

theorem Attended.unchanged (h : Attended x phases) (hk : phases[k]? = some (.inr w))
    (hsame : SameFiles x x')
    (hfnd : ∀ id ∈ w'.found, id ∈ w.found ∨ ∃ d ∈ x.deliveries, d.id = id)
    (hdlv : w'.delivered = w.delivered) :
    Attended x' (phases.set k (.inr w')) := by
  obtain ⟨hdels, hspo, hmint, hdisc⟩ := hsame
  have hnm : Named WorkPhase.found x' (phases.set k (.inr w')) :=
    h.named.work hk hmint (fun d hd => ⟨d, hdels ▸ hd, rfl⟩) hfnd
  refine h.work hk hnm (fun id _ _ => by rw [hspo]) (fun d hd _ => hdels ▸ hd)
    ⟨fun d hd hqu => ?_, fun d hd hdlq => ?_⟩ fun id hid => .inl (hdlv ▸ hid)
  · rw [hdels] at hd
    rw [hspo]
    exact h.present.queued d hd hqu
  · rw [hdels] at hd
    rw [hspo, hdisc]
    exact h.present.dead d hd hdlq

/-- An update of the rows that leaves the delivered ones alone, when the new ones have their
payload in the queue. -/
theorem Attended.updated (h : Attended x phases) (hk : phases[k]? = some (.inr w))
    {p : WebhookDelivery → Bool} (f : WebhookDelivery → WebhookDelivery)
    (hf : ∀ d, (f d).id = d.id ∧ (f d).routeId = d.routeId ∧
      (f d).providerDeliveryId = d.providerDeliveryId)
    (hdels : x'.deliveries = x.deliveries.update p f hf) (hspo : x'.spool = x.spool)
    (hmint : x'.minted = x.minted)
    (hdisc : ∀ d ∈ x.deliveries, p d = false → d.state = .dlq → d.id ∈ x.discarded →
      d.id ∈ x'.discarded)
    (hrow : ∀ d ∈ x.deliveries, p d = true →
      d.state ≠ .delivered ∧ x.spool.has .queue d.id = true)
    (hfnd : ∀ id ∈ w'.found, id ∈ w.found ∨ ∃ d ∈ x.deliveries, d.id = id)
    (hdlv : ∀ id ∈ w'.delivered, id ∈ w.delivered ∨
      ∃ d ∈ x.deliveries, p d = true ∧ d.id = id ∧ (f d).state = .delivered) :
    Attended x' (phases.set k (.inr w')) := by
  have hmem : ∀ d' ∈ x'.deliveries, ∃ d ∈ x.deliveries, d.id = d'.id ∧
      ((p d = true ∧ d' = f d) ∨ (p d = false ∧ d' = d)) := by
    intro d' hd'
    rw [hdels] at hd'
    obtain ⟨d, hd, rfl⟩ := mem_update.mp hd'
    refine ⟨d, hd, ?_⟩
    cases hp : p d with
    | true => exact ⟨(hf d).1.symm, .inl ⟨rfl, rfl⟩⟩
    | false => exact ⟨rfl, .inr ⟨rfl, rfl⟩⟩
  have hnm : Named WorkPhase.found x' (phases.set k (.inr w')) := by
    refine h.named.work hk hmint (fun d' hd' => ?_) hfnd
    obtain ⟨d, hd, heq, -⟩ := hmem d' hd'
    exact ⟨d, hd, heq⟩
  refine h.work hk hnm (fun id _ _ => by rw [hspo]) (fun d hd hst => ?_)
    ⟨fun d' hd' hqu => ?_, fun d' hd' hdlq => ?_⟩ fun id hid => ?_
  · rw [hdels]
    refine mem_update.mpr ⟨d, hd, ?_⟩
    rw [if_neg fun hp => (hrow d hd hp).1 hst]
  · obtain ⟨d, hd, heq, ⟨hp, rfl⟩ | ⟨-, rfl⟩⟩ := hmem d' hd'
    · rw [hspo, ← heq]
      exact (hrow d hd hp).2
    · rw [hspo]
      exact h.present.queued d' hd hqu
  · obtain ⟨d, hd, heq, ⟨hp, rfl⟩ | ⟨hp, rfl⟩⟩ := hmem d' hd'
    · rw [hspo, ← heq]
      exact .inl (hrow d hd hp).2
    · rw [hspo]
      rcases h.present.dead d' hd hdlq with hqueue | hhas | hgone
      · exact .inl hqueue
      · exact .inr (.inl hhas)
      · exact .inr (.inr (hdisc d' hd hp hdlq hgone))
  · rcases hdlv id hid with hold | ⟨d, hd, hp, heq, hst⟩
    · exact .inl hold
    · refine .inr ⟨f d, ?_, (hf d).1.trans heq, hst⟩
      rw [hdels]
      exact mem_update.mpr ⟨d, hd, (if_pos hp).symm⟩

/-- A payload is moved: what is known of its row stays true. -/
theorem Attended.moved (h : Attended x phases) (hk : phases[k]? = some (.inr w)) {id : Nat}
    {source target : Location} (hid : id ∈ w.found)
    (hqueue : target = .queue ∨ ∀ d ∈ x.deliveries, d.id = id → d.state.queued = false) :
    Attended (moved x id source target).2 (phases.set k (.inr w)) := by
  unfold Webhooks.moved
  cases hmove : x.spool.move id source target with
  | none => exact h.unchanged hk ⟨rfl, rfl, rfl, rfl⟩ (fun _ hn => .inl hn) rfl
  | some spool =>
    have htgt : spool.has target id = true := Spool.has_move hmove
    have hother : ∀ (location : Location) (n : Nat), n ≠ id →
        spool.has location n = x.spool.has location n :=
      fun _ _ hn => Spool.has_move_other hmove hn
    have hnm : Named WorkPhase.found { x with spool := spool } (phases.set k (.inr w)) :=
      h.named.work hk rfl (fun d hd => ⟨d, hd, rfl⟩) fun _ hn => .inl hn
    refine h.work hk hnm (fun n _ hn => hother _ n fun heq => hn (heq ▸ hid)) (fun d hd _ => hd)
      ⟨fun d hd hqu => ?_, fun d hd hdlq => ?_⟩
      fun _ hn => .inl hn
    · by_cases heq : d.id = id
      · rcases hqueue with rfl | hnone
        · exact heq ▸ htgt
        · exact absurd hqu (by rw [hnone d hd heq]; simp)
      · exact (hother _ _ heq).trans (h.present.queued d hd hqu)
    · by_cases heq : d.id = id
      · cases target with
        | queue => exact .inl (heq ▸ htgt)
        | dlq => exact .inr (.inl (heq ▸ htgt))
      · have hdead := h.present.dead d hd hdlq
        rw [← hother _ _ heq, ← hother _ _ heq] at hdead
        exact hdead

/-- A payload is removed that no row needs any more. -/
theorem Attended.removed (h : Attended x phases) (hk : phases[k]? = some (.inr w)) {id : Nat}
    {location : Location} {discarded : List Nat}
    (hapart : id ∈ w.found ∨ ∃ d ∈ x.deliveries, d.id = id)
    (hdisc : ∀ n ∈ x.discarded, n ∈ discarded)
    (hrow : ∀ d ∈ x.deliveries, d.id = id →
      (location = .queue → d.state.queued = false) ∧ (d.state = .dlq → id ∈ discarded)) :
    Attended { x with spool := x.spool.remove location id, discarded := discarded }
      (phases.set k (.inr w)) := by
  have hother : ∀ (l : Location) (n : Nat), n ≠ id →
      (x.spool.remove location id).has l n = x.spool.has l n :=
    fun _ _ hn => Spool.has_put_other hn
  have hnm : Named WorkPhase.found
      { x with spool := x.spool.remove location id, discarded := discarded }
      (phases.set k (.inr w)) :=
    h.named.work hk rfl (fun d hd => ⟨d, hd, rfl⟩) fun _ hn => .inl hn
  refine h.work hk hnm (fun n hnone hn => ?_) (fun d hd _ => hd)
    ⟨fun d hd hqu => ?_, fun d hd hdlq => ?_⟩ fun _ hn => .inl hn
  · refine hother _ n ?_
    rintro rfl
    rcases hapart with hmem | ⟨d, hd, heq⟩
    · exact hn hmem
    · exact hnone d hd heq
  · by_cases heq : d.id = id
    · cases location with
      | queue => exact absurd hqu (by rw [(hrow d hd heq).1 rfl]; simp)
      | dlq =>
        refine Eq.trans ?_ (h.present.queued d hd hqu)
        exact Spool.has_put.trans (if_neg fun hn => nomatch hn.1)
    · exact (hother _ _ heq).trans (h.present.queued d hd hqu)
  · by_cases heq : d.id = id
    · exact .inr (.inr (heq ▸ (hrow d hd heq).2 hdlq))
    · rcases h.present.dead d hd hdlq with hqueue | hhas | hgone
      · exact .inl ((hother _ _ heq).trans hqueue)
      · exact .inr (.inl ((hother _ _ heq).trans hhas))
      · exact .inr (.inr (hdisc _ hgone))

theorem sameFiles_dispatch (receiptTtlMs id attempt redrives : Nat) (target : Option String) :
    SameFiles x (dispatch receiptTtlMs x id attempt redrives target).2 := by
  unfold dispatch
  split
  · exact ⟨rfl, rfl, rfl, rfl⟩
  · exact ⟨rfl, rfl, rfl, rfl⟩
  · exact ⟨rfl, rfl, rfl, rfl⟩
  · split
    · exact ⟨rfl, rfl, rfl, rfl⟩
    · exact ⟨rfl, rfl, rfl, rfl⟩

/-- **Every instruction of the worker keeps the invariant.** -/
theorem Attended.step_work (h : Attended x phases) (hk : phases[k]? = some (.inr w))
    {i : WebhookInstr} (halw : workAllows w i) (hg : Undisturbed x i) :
    Attended (answer C i x).2
      (phases.set k (.inr (workAfter w i (answer C i x).1))) := by
  have hsame : ∀ {x' : WebhookStore}, SameFiles x x' → Attended x' (phases.set k (.inr w)) :=
    fun hsame => h.unchanged hk hsame (fun _ hn => .inl hn) rfl
  have hqu : ∀ d ∈ x.deliveries, d.state.queued = true →
      d.state ≠ .delivered ∧ x.spool.has .queue d.id = true := by
    intro d hd hd'
    refine ⟨fun hst => ?_, h.present.queued d hd hd'⟩
    rw [hst] at hd'
    cases hd'
  have hlea : ∀ worker id, ∀ d ∈ x.deliveries, d.leasedBy worker id = true →
      d.state ≠ .delivered ∧ x.spool.has .queue d.id = true := by
    intro worker id d hd hp
    refine hqu d hd ?_
    rw [(leased_delivering hp).2]
    rfl
  cases i with
  | randomUUID | write | admitDelivery | remove => exact halw.elim
  | resolvePublicToken | findProvided | countQueued | endPoll | findDue | targetActive
  | findClaimed | activate | deactivate | readPayload => exact hsame ⟨rfl, rfl, rfl, rfl⟩
  | beginPoll worker =>
    simp only [answer]
    split
    · exact hsame ⟨rfl, rfl, rfl, rfl⟩
    · exact hsame ⟨rfl, rfl, rfl, rfl⟩
  | dispatch worker id attempt redrives target payload =>
    exact hsame (sameFiles_dispatch C.receiptTtlMs id attempt redrives target)
  | claim worker id now =>
    refine h.updated hk (claimed worker now) (fun _ => ⟨rfl, rfl, rfl⟩) rfl rfl rfl (fun _ _ _ _ hd => hd) (fun d hd hp => ?_)
      (fun _ hn => .inl hn) fun _ hn => .inl hn
    exact hqu d hd (due_queued (Bool.and_eq_true_iff.mp hp).2)
  | retryLater worker id delay code =>
    exact h.updated hk (postponed code (x.clock + delay)) (fun _ => ⟨rfl, rfl, rfl⟩) rfl rfl rfl (fun _ _ _ _ hd => hd) (hlea worker id)
      (fun _ hn => .inl hn) fun _ hn => .inl hn
  | complete worker id =>
    refine h.updated hk completed (fun _ => ⟨rfl, rfl, rfl⟩) rfl rfl rfl (fun _ _ _ _ hd => hd) (hlea worker id)
      (fun n hn => .inl ?_) fun n hn => ?_
    · revert hn
      cases (answer C (.complete worker id) x).1 with
      | true => exact fun hn => hn
      | false => exact fun hn => hn
    · revert hn
      cases hans : (answer C (.complete worker id) x).1 with
      | false => exact fun hn => .inl hn
      | true =>
        intro hn
        rcases List.mem_cons.mp hn with rfl | hn
        · obtain ⟨d, hd, hp⟩ := updateOne_true hans
          exact .inr ⟨d, hd, hp, (leased_delivering hp).1, rfl⟩
        · exact .inl hn
  | toDlq worker id code =>
    refine h.updated hk (deadLettered code x.clock) (fun _ => ⟨rfl, rfl, rfl⟩) rfl rfl rfl (fun _ _ _ _ hd => hd) (hlea worker id)
      (fun n hn => ?_) fun n hn => .inl ?_
    · revert hn
      cases hans : (answer C (.toDlq worker id code) x).1 with
      | false => exact fun hn => .inl hn
      | true =>
        intro hn
        rcases List.mem_cons.mp hn with rfl | hn
        · obtain ⟨d, hd, hp⟩ := updateOne_true hans
          exact .inr ⟨d, hd, (leased_delivering hp).1⟩
        · exact .inl hn
    · revert hn
      cases (answer C (.toDlq worker id code) x).1 with
      | true => exact fun hn => hn
      | false => exact fun hn => hn
  | redriveRow id =>
    refine h.updated hk (redriven x.clock) (fun _ => ⟨rfl, rfl, rfl⟩) rfl rfl rfl (fun d hd hp hdlq hgone => ?_) (fun d hd hp => ?_)
      (fun _ hn => .inl hn) fun _ hn => .inl hn
    · refine List.mem_filter.mpr ⟨hgone, ?_⟩
      rw [bne_iff_ne]
      rintro heq
      rw [heq, hdlq] at hp
      exact absurd hp (by simp)
    · rw [Bool.and_eq_true, beq_iff_eq, beq_iff_eq] at hp
      refine ⟨by rw [hp.2]; simp, ?_⟩
      rw [hp.1]
      exact hg d hd hp.1 hp.2
  | findById id =>
    simp only [answer]
    cases hfnd : x.deliveries.byId id with
    | none => exact hsame ⟨rfl, rfl, rfl, rfl⟩
    | some d =>
      obtain ⟨hd, hid⟩ := mem_byId hfnd
      refine h.unchanged hk ⟨rfl, rfl, rfl, rfl⟩ (fun n hn => ?_) rfl
      rcases List.mem_cons.mp hn with rfl | hn
      · exact .inr ⟨d, hd, hid⟩
      · exact .inl hn
  | findExpired now =>
    refine h.unchanged hk ⟨rfl, rfl, rfl, rfl⟩ (fun n hn => ?_) rfl
    rcases List.mem_append.mp hn with hn | hn
    · obtain ⟨d, hd, rfl⟩ := List.mem_map.mp hn
      have hsor := (List.perm_insertionSort _ _).mem_iff.mp (List.mem_of_mem_take hd)
      exact .inr ⟨d, (Table.mem_findMany.mp hsor).1, rfl⟩
    · exact .inl hn
  | moveToDlq worker id => exact h.moved hk halw (.inr hg)
  | moveToQueue id => exact h.moved hk halw (.inl rfl)
  | removeDelivered worker id =>
    obtain ⟨d, hd, heq, hst⟩ := h.delivered k w hk id halw
    refine h.removed hk (.inr ⟨d, hd, heq⟩) (fun _ hn => hn) fun e he heq' => ?_
    rw [eq_of_id he hd (heq'.trans heq.symm), hst]
    exact ⟨fun _ => rfl, fun hdlq => by cases hdlq⟩
  | discard id location =>
    refine h.removed hk (.inl halw) (fun n hn => List.mem_append_left _ hn)
      fun d hd heq => ⟨fun hlocation => ?_, fun _ => List.mem_append_right _ (by simp)⟩
    subst hlocation
    exact hg d hd heq
  | deleteExpired ids =>
    have hsub : ∀ d ∈ (answer C (.deleteExpired ids) x).2.deliveries, d ∈ x.deliveries :=
      fun d hd => List.mem_of_mem_filter hd
    refine h.work hk (h.named.work hk rfl (fun d hd => ⟨d, hsub d hd, rfl⟩) fun _ hn => .inl hn)
      (fun _ _ _ => rfl) (fun d hd hst => List.mem_filter.mpr ⟨hd, ?_⟩)
      ⟨fun d hd => h.present.queued d (hsub d hd), fun d hd => h.present.dead d (hsub d hd)⟩
      fun _ hn => .inl hn
    simp [hst]

/-- Time, routes, the disk, the network and the process may change at any time. -/
theorem Attended.outside (h : Attended x phases) (change : WebhookChange) :
    Attended (change.apply x) phases := by
  obtain ⟨⟨hrows, hunb, hown, hfnd⟩, ⟨hqu, hdead⟩, hheld, hdlv⟩ := h
  cases change <;> exact ⟨⟨hrows, hunb, hown, hfnd⟩, ⟨hqu, hdead⟩, hheld, hdlv⟩

/-- A call begins. -/
theorem Attended.call (h : Attended x phases) (request : WebhookRequest) :
    Attended x (phases ++ [request.begun]) := by
  have hbeg : (∃ r, request.begun = .inl ⟨r, .begun⟩) ∨
      ∃ w : WorkPhase, request.begun = .inr w ∧ w.found = [] ∧ w.delivered = [] := by
    cases request with
    | accept r => exact .inl ⟨r, rfl⟩
    | poll | redrive | cleanupDlq => exact .inr ⟨⟨[], []⟩, rfl, rfl, rfl⟩
  refine ⟨h.named.call ?_, h.present, fun m z id hm hid => ?_, fun m v hm id hid => ?_⟩
  · rcases hbeg with hbeg | ⟨w, hw, hfnd, -⟩
    · exact .inl hbeg
    · exact .inr ⟨w, hw, hfnd⟩
  · rcases getElem?_append_cases hm with ⟨-, hz⟩ | ⟨-, hm⟩
    · rcases hbeg with ⟨r, hr⟩ | ⟨w, hw, -⟩
      · rw [hr] at hz
        cases hz
        cases hid
      · rw [hw] at hz
        cases hz
    · exact h.held m z id hm hid
  · rcases getElem?_append_cases hm with ⟨-, hv⟩ | ⟨-, hm⟩
    · rcases hbeg with ⟨r, hr⟩ | ⟨w, hw, -, hnone⟩
      · rw [hr] at hv
        cases hv
      · rw [hw] at hv
        cases hv
        rw [hnone] at hid
        exact absurd hid (by simp)
    · exact h.delivered m v hm id hid

end Invariant

/-! ## Every run -/

/-- A delivery is accepted, five attempts fail, and the row of the sixth is in the DLQ. -/
def sixAttempts : List (Event WebhookChange WebhookRequest) :=
  nextCall 0 (.accept (pushOf 1)) 6 ++
    ((List.range 5).flatMap fun k => nextCall (k + 1) (.poll "w" 10000000) 10) ++
      nextCall 6 (.poll "w" 10000000) 9

end Meowbox.Webhooks
