import Meowbox.Webhooks.Dedup
import Meowbox.Webhooks.Worker

/-!
# Calls of the ingress beside other calls

In a run of all calls a phase is that of a call of the ingress or that of another call, which knows
the deliveries it has found. `Named` says that the UUIDs of ingress calls without a row are their
own: no row and no other call has them.

* `ingress_step`: what an instruction of the ingress does to the store.
* `Named.ingress`, `Named.work`: a call of either kind goes on.
-/

namespace Meowbox.Webhooks

open Relational Interleaved Fallible

abbrev WebhookPool := Pool WebhookStore WebhookInstr Answer Unit

/-- One more call, and some of its instructions. -/
def nextCall (k : Nat) (request : WebhookRequest) (instructions : Nat) :
    List (Event WebhookChange WebhookRequest) :=
  .call request :: List.replicate instructions (.advance k)

theorem silent_follows {φ α : Type} {T : Protocol φ WebhookInstr Answer}
    {Q : φ → Except WebhookError α → Prop} {y : φ} {call : WebhookCall α}
    (h : Follows T Q y call) : (silent call).Follows T (fun _ _ => True) y := by
  refine Prog.follows_bind (fun z r _ => ?_) h
  trivial

theorem due_queued {d : WebhookDelivery} {now : Nat} (h : d.due now = true) :
    d.state.queued = true := by
  unfold WebhookDelivery.due at h
  cases hst : d.state with
  | accepted | retryWait | delivering => rfl
  | delivered | dlq =>
    rw [hst] at h
    exact nomatch h

theorem leased_delivering {d : WebhookDelivery} {worker : String} {id : Nat}
    (h : d.leasedBy worker id = true) : d.id = id ∧ d.state = .delivering := by
  simp only [WebhookDelivery.leasedBy, Bool.and_eq_true, beq_iff_eq] at h
  exact h.1

/-- A row an update has changed. -/
theorem updateOne_true {x : WebhookStore} {p : WebhookDelivery → Bool} {f : WebhookDelivery → WebhookDelivery}
    {hf : ∀ d, (f d).id = d.id ∧ (f d).routeId = d.routeId ∧
      (f d).providerDeliveryId = d.providerDeliveryId} (h : (updateOne x p f hf).1 = true) :
    ∃ d ∈ x.deliveries, p d = true :=
  Table.count_pos.mp (of_decide_eq_true h)

variable {ω : Type}

structure Named (known : ω → List Nat) (x : WebhookStore) (phases : List (IngressPhase ⊕ ω)) :
    Prop where
  rows : ∀ d ∈ x.deliveries, d.id < x.minted
  unborn : ∀ (k : Nat) (y : IngressPhase) (id : Nat), phases[k]? = some (.inl y) →
    y.stage.unused = some id → id < x.minted ∧ ∀ d ∈ x.deliveries, d.id ≠ id
  owner : ∀ (k k' : Nat) (y y' : IngressPhase) (id : Nat), phases[k]? = some (.inl y) →
    phases[k']? = some (.inl y') → y.stage.unused = some id → y'.stage.unused = some id → k = k'
  found : ∀ (k : Nat) (w : ω), phases[k]? = some (.inr w) → ∀ id ∈ known w,
    id < x.minted ∧ ∀ (m : Nat) (y : IngressPhase), phases[m]? = some (.inl y) →
      y.stage.unused ≠ some id

/-- What a call of the ingress may change is what belongs to it. -/
structure IngressStep (y : IngressPhase) (next : IngressStage) (x x' : WebhookStore) : Prop where
  minted : x.minted ≤ x'.minted
  kept : ∀ d ∈ x.deliveries, d ∈ x'.deliveries
  new : ∀ d ∈ x'.deliveries, d ∈ x.deliveries ∨
    (y.stage.unused = some d.id ∧ d.state = .accepted ∧ d.attempt = 0)
  spool : ∀ location id, y.stage.unused ≠ some id →
    x'.spool.has location id = x.spool.has location id
  stage : ∀ id, next.unused = some id →
    (y.stage.unused = some id ∨ (id = x.minted ∧ id < x'.minted)) ∧
      ∀ d ∈ x'.deliveries, d.id ≠ id
  /-- With the payload it holds in the queue, its row has it there. -/
  files : (∀ id, y.stage.held = some id → x.spool.has .queue id = true) →
    (∀ d ∈ x'.deliveries, d ∈ x.deliveries ∨ x'.spool.has .queue d.id = true) ∧
      ∀ id, next.held = some id → x'.spool.has .queue id = true
  discarded : x'.discarded = x.discarded
  dispatches : x'.dispatches = x.dispatches
  receipts : x'.receipts = x.receipts
  memory : x'.memory = x.memory

section Steps

variable {known : ω → List Nat} {C : WebhookConfig} {R : IngressRuntime} {x x' : WebhookStore}
  {phases : List (IngressPhase ⊕ ω)} {k : Nat} {y : IngressPhase} {stage : IngressStage} {w w' : ω}

theorem Named.empty (hrows : ∀ d ∈ x.deliveries, d.id < x.minted) : Named known x [] :=
  ⟨hrows, fun _ _ _ hk => absurd hk (by simp), fun _ _ _ _ _ hk => absurd hk (by simp),
    fun _ _ hk => absurd hk (by simp)⟩

theorem Named.unborn_row (h : Named known x phases) (hk : phases[k]? = some (.inl y)) :
    ∀ d ∈ x.deliveries, y.stage.unused ≠ some d.id := fun d hd hmine =>
  (h.unborn k y d.id hk hmine).2 d hd rfl

/-- The UUID of one call of the ingress is not that of another, before and after it goes on. -/
theorem Named.apart (h : Named known x phases) (hk : phases[k]? = some (.inl y))
    (hstep : IngressStep y stage x x') {m : Nat} {z : IngressPhase} {id : Nat} (hm : m ≠ k)
    (hz : phases[m]? = some (.inl z)) (hid : z.stage.unused = some id) :
    y.stage.unused ≠ some id ∧ stage.unused ≠ some id := by
  have hy : y.stage.unused ≠ some id := fun hmine => hm (h.owner m k z y id hz hk hid hmine)
  refine ⟨hy, fun hmine => ?_⟩
  rcases (hstep.stage id hmine).1 with hold | ⟨rfl, -⟩
  · exact hy hold
  · exact absurd (h.unborn m z _ hz hid).1 (Nat.lt_irrefl _)

/-- **A call of the ingress goes on.** -/
theorem Named.ingress (h : Named known x phases) (hk : phases[k]? = some (.inl y))
    (hstep : IngressStep y stage x x') :
    Named known x' (phases.set k (.inl { y with stage := stage })) := by
  refine ⟨fun d hd => ?_, fun m z id hm hid => ?_, fun m m' z z' id hm hm' hid hid' => ?_,
    fun m v hm id hid => ?_⟩
  · rcases hstep.new d hd with hold | ⟨hmine, -⟩
    · exact Nat.lt_of_lt_of_le (h.rows d hold) hstep.minted
    · exact Nat.lt_of_lt_of_le (h.unborn k y d.id hk hmine).1 hstep.minted
  · rcases getElem?_set_cases hm with ⟨rfl, hz⟩ | ⟨hmk, hold⟩
    · cases hz
      obtain ⟨hlt, hnone⟩ := hstep.stage id hid
      refine ⟨?_, hnone⟩
      rcases hlt with hmine | ⟨-, hlt⟩
      · exact Nat.lt_of_lt_of_le (h.unborn m y id hk hmine).1 hstep.minted
      · exact hlt
    · obtain ⟨hlt, hnone⟩ := h.unborn m z id hold hid
      have hmine := (h.apart hk hstep hmk hold hid).1
      refine ⟨Nat.lt_of_lt_of_le hlt hstep.minted, fun d hd heq => ?_⟩
      rcases hstep.new d hd with hd | ⟨hd, -⟩
      · exact hnone d hd heq
      · exact hmine (heq ▸ hd)
  · rcases getElem?_set_cases hm with ⟨rfl, hz⟩ | ⟨hmk, hold⟩
    · cases hz
      rcases getElem?_set_cases hm' with ⟨rfl, -⟩ | ⟨hmk', hold'⟩
      · rfl
      · exact absurd hid (h.apart hk hstep hmk' hold' hid').2
    · rcases getElem?_set_cases hm' with ⟨rfl, hz'⟩ | ⟨hmk', hold'⟩
      · cases hz'
        exact absurd hid' (h.apart hk hstep hmk hold hid).2
      · exact h.owner m m' z z' id hold hold' hid hid'
  · rcases getElem?_set_cases hm with ⟨-, hv⟩ | ⟨-, hold⟩
    · exact nomatch hv
    · obtain ⟨hlt, hunb⟩ := h.found m v hold id hid
      refine ⟨Nat.lt_of_lt_of_le hlt hstep.minted, fun n z hn hz => ?_⟩
      rcases getElem?_set_cases hn with ⟨rfl, hzy⟩ | ⟨-, hn⟩
      · cases hzy
        rcases (hstep.stage id hz).1 with hmine | ⟨rfl, -⟩
        · exact hunb n y hk hmine
        · exact Nat.lt_irrefl _ hlt
      · exact hunb n z hn hz

theorem getElem?_set_inr {m : Nat} {z : IngressPhase}
    (hm : (phases.set k (.inr w'))[m]? = some (.inl z)) : phases[m]? = some (.inl z) := by
  rcases getElem?_set_cases hm with ⟨-, hz⟩ | ⟨-, hold⟩
  · exact nomatch hz
  · exact hold

/-- **Another call goes on.** -/
theorem Named.work (h : Named known x phases) (hk : phases[k]? = some (.inr w))
    (hmint : x'.minted = x.minted)
    (hids : ∀ d' ∈ x'.deliveries, ∃ d ∈ x.deliveries, d.id = d'.id)
    (hfnd : ∀ id ∈ known w', id ∈ known w ∨ ∃ d ∈ x.deliveries, d.id = id) :
    Named known x' (phases.set k (.inr w')) := by
  refine ⟨fun d' hd' => ?_, fun m z id hm hid => ?_, fun m m' z z' id hm hm' hid hid' => ?_,
    fun m v hm id hid => ?_⟩
  · obtain ⟨d, hd, heq⟩ := hids d' hd'
    rw [hmint, ← heq]
    exact h.rows d hd
  · have hold := getElem?_set_inr hm
    obtain ⟨hlt, hnone⟩ := h.unborn m z id hold hid
    refine ⟨hmint ▸ hlt, fun d' hd' heq => ?_⟩
    obtain ⟨d, hd, hsame⟩ := hids d' hd'
    exact hnone d hd (hsame.trans heq)
  · exact h.owner m m' z z' id (getElem?_set_inr hm) (getElem?_set_inr hm') hid hid'
  · rw [hmint]
    suffices hall : id < x.minted ∧ ∀ (n : Nat) (z : IngressPhase), phases[n]? = some (.inl z) →
        z.stage.unused ≠ some id from ⟨hall.1, fun n z hn => hall.2 n z (getElem?_set_inr hn)⟩
    rcases getElem?_set_cases hm with ⟨rfl, hv⟩ | ⟨-, hold⟩
    · cases hv
      rcases hfnd id hid with hold | ⟨d, hd, rfl⟩
      · exact h.found m w hk id hold
      · exact ⟨h.rows d hd, fun n z hn => h.unborn_row hn d hd⟩
    · exact h.found m v hold id hid

/-- A call begins. -/
theorem Named.call (h : Named known x phases) {p : IngressPhase ⊕ ω}
    (hp : (∃ request, p = .inl ⟨request, .begun⟩) ∨ ∃ w, p = .inr w ∧ known w = []) :
    Named known x (phases ++ [p]) := by
  have hold : ∀ (m : Nat) (z : IngressPhase) (id : Nat), z.stage.unused = some id →
      (phases ++ [p])[m]? = some (.inl z) → phases[m]? = some (.inl z) := by
    intro m z id hid hm
    rcases getElem?_append_cases hm with ⟨-, hz⟩ | ⟨-, hm⟩
    · rcases hp with ⟨request, rfl⟩ | ⟨w, rfl, -⟩
      · cases hz
        exact nomatch hid
      · exact nomatch hz
    · exact hm
  refine ⟨h.rows, fun m z id hm hid => h.unborn m z id (hold m z id hid hm) hid,
    fun m m' z z' id hm hm' hid hid' =>
      h.owner m m' z z' id (hold m z id hid hm) (hold m' z' id hid' hm') hid hid',
    fun m v hm id hid => ?_⟩
  rcases getElem?_append_cases hm with ⟨-, hv⟩ | ⟨-, hm⟩
  · rcases hp with ⟨request, rfl⟩ | ⟨w, rfl, hw⟩
    · exact nomatch hv
    · cases hv
      rw [hw] at hid
      exact absurd hid (by simp)
  · obtain ⟨hlt, hunb⟩ := h.found m v hm id hid
    exact ⟨hlt, fun n z hn hz => hunb n z (hold n z id hz hn) hz⟩

/-! ### Instructions of the ingress -/

/-- It learns something. -/
theorem Named.learnt (h : Named known x phases) (hk : phases[k]? = some (.inl y))
    (hstg : ∀ id, stage.unused = some id → y.stage.unused = some id ∧
      (stage.held = some id → y.stage.held = some id)) : IngressStep y stage x x := by
  refine ⟨Nat.le_refl _, fun _ hd => hd, fun _ hd => .inl hd, fun _ _ _ => rfl, fun id hid => ?_,
    fun hhas => ⟨fun _ hd => .inl hd, fun id hid => ?_⟩, rfl, rfl, rfl, rfl⟩
  · obtain ⟨hmine, -⟩ := hstg id hid
    exact ⟨.inl hmine, (h.unborn k y id hk hmine).2⟩
  · exact hhas id ((hstg id (held_unused hid)).2 hid)

/-- It removes its own payload, for which there is no row. -/
theorem Named.dropped (h : Named known x phases) (hk : phases[k]? = some (.inl y)) {id : Nat}
    (hmine : y.stage.unused = some id)
    (hstg : stage.held = none ∧ ∀ n, stage.unused = some n → n = id) :
    IngressStep y stage x { x with spool := x.spool.remove .queue id } := by
  refine ⟨Nat.le_refl _, fun _ hd => hd, fun _ hd => .inl hd,
    fun _ n hn => Spool.has_put_other fun heq => hn (heq ▸ hmine), fun n hn => ?_,
    fun _ => ⟨fun _ hd => .inl hd, fun n hn => ?_⟩, rfl, rfl, rfl, rfl⟩
  · cases hstg.2 n hn
    exact ⟨.inl hmine, (h.unborn k y id hk hmine).2⟩
  · rw [hstg.1] at hn
    exact nomatch hn

/-- **What an instruction of the ingress does.** -/
theorem ingress_step (h : Named known x phases) (hk : phases[k]? = some (.inl y))
    {i : WebhookInstr} (halw : stageAllows R y.request y.stage i) :
    IngressStep y (stageAfter C y.stage i (answer C i x).1) x (answer C i x).2 := by
  have hnone : ∀ {stage : IngressStage}, stage.unused = none → IngressStep y stage x x := by
    intro stage hun
    refine h.learnt hk fun id hid => ?_
    rw [hun] at hid
    cases hid
  cases hstg : y.stage with
  | begun =>
    rw [hstg] at halw
    cases (halw : i = _)
    simp only [answer]
    cases C.resolvePublicToken x.routes y.request.token with
    | ok route => exact hnone rfl
    | error e => exact hnone rfl
  | resolved route =>
    rw [hstg] at halw
    obtain ⟨provider, -, -, rfl⟩ := halw
    simp only [answer]
    cases x.deliveries.byProvider route.id provider.providerDeliveryId with
    | none => exact hnone rfl
    | some d => exact hnone rfl
  | missed key =>
    rw [hstg] at halw
    cases (halw : i = _)
    exact hnone rfl
  | counted key full =>
    rw [hstg] at halw
    obtain ⟨rfl, rfl⟩ := halw
    refine ⟨Nat.le_succ _, fun _ hd => hd, fun _ hd => .inl hd, fun _ _ _ => rfl, fun id hid => ?_,
      fun _ => ⟨fun _ hd => .inl hd, fun id hid => by cases hid⟩, rfl, rfl, rfl, rfl⟩
    cases hid
    refine ⟨.inr ⟨rfl, Nat.lt_succ_self _⟩, fun d hd heq => ?_⟩
    exact absurd (h.rows d hd) (by rw [heq]; exact Nat.lt_irrefl _)
  | minted key id =>
    rw [hstg] at halw
    obtain ⟨delivery, rfl, rfl⟩ := halw
    have hmine : y.stage.unused = some delivery.deliveryId := by rw [hstg]; rfl
    simp only [answer]
    split
    · refine ⟨Nat.le_refl _, fun _ hd => hd, fun _ hd => .inl hd,
        fun _ n hn => Spool.has_put_other fun heq => hn (heq ▸ hmine), fun n hn => ?_,
        fun _ => ⟨fun _ hd => .inl hd, fun n hn => ?_⟩, rfl, rfl, rfl, rfl⟩
      · cases hn
        exact ⟨.inl hmine, (h.unborn k y _ hk hmine).2⟩
      · cases hn
        exact Spool.has_put.trans (if_pos ⟨rfl, rfl⟩)
    · exact hnone rfl
  | written key id =>
    rw [hstg] at halw
    cases (halw : i = _)
    have hmine : y.stage.unused = some id := by rw [hstg]; rfl
    have hheld : y.stage.held = some id := by rw [hstg]; rfl
    have hsame : ∀ {stage : IngressStage}, stage.unused = some id → IngressStep y stage x x := by
      intro stage hun
      refine h.learnt hk fun n hn => ?_
      rw [hun] at hn
      cases hn
      exact ⟨hmine, fun _ => hheld⟩
    obtain ⟨hlt, hrows⟩ := h.unborn k y id hk hmine
    simp only [answer]
    rcases admit_spec C.queueLimit x.deliveries (acceptedRow id key.routeId
      key.providerDeliveryId (R.sha256 y.request.body) y.request.now x.clock) hrows with
      ⟨t', ht'⟩ | ⟨d, -, -, ht'⟩ | ⟨-, ht'⟩
    · obtain ⟨hnew, -⟩ := admit_created ht'
      rw [ht']
      have hmem : ∀ d, d ∈ t' ↔ d ∈ x.deliveries ∨ d = acceptedRow id key.routeId
          key.providerDeliveryId (R.sha256 y.request.body) y.request.now x.clock := by
        intro d
        rw [Table.mem_def, hnew, List.mem_append, List.mem_singleton]
        rfl
      refine ⟨Nat.le_refl _, fun d hd => (hmem d).mpr (.inl hd), fun d hd => ?_,
        fun _ _ _ => rfl, fun n hn => absurd hn (by simp [stageAfter, IngressStage.unused,
          IngressStage.held]), fun hhas => ⟨fun d hd => ?_, fun n hn => by cases hn⟩,
        rfl, rfl, rfl, rfl⟩
      · rcases (hmem d).mp hd with hold | rfl
        · exact .inl hold
        · exact .inr ⟨hmine, rfl, rfl⟩
      · rcases (hmem d).mp hd with hold | rfl
        · exact .inl hold
        · exact .inr (hhas id hheld)
    · rw [ht']
      exact hsame rfl
    · rw [ht']
      exact hsame rfl
  | late key id delivery =>
    rw [hstg] at halw
    cases (halw : i = _)
    exact h.dropped hk (by rw [hstg]; rfl) ⟨rfl, fun n hn => (Option.some.inj hn).symm⟩
  | refused key id error =>
    rw [hstg] at halw
    cases (halw : i = _)
    exact h.dropped hk (by rw [hstg]; rfl) ⟨rfl, fun n hn => by cases hn⟩
  | removed key id delivery =>
    rw [hstg] at halw
    cases (halw : i = _)
    exact h.dropped hk (by rw [hstg]; rfl) ⟨rfl, fun n hn => by cases hn⟩
  | dropped key error =>
    rw [hstg] at halw
    obtain ⟨-, rfl⟩ := halw
    exact hnone rfl
  | created | known | collided | failed | ended =>
    rw [hstg] at halw
    exact halw.elim

end Steps

end Meowbox.Webhooks
