import Meowbox.Lib.Window
import Meowbox.Webhooks.Dedup
import Meowbox.Webhooks.Worker

/-!
# What a poll of the worker leaves

`pollOnce` of `WebhookDeliveryWorkerService`, with its loop: as long as fewer deliveries are active
than the worker may deliver at once, it claims one and sets out to execute it. Each look at the
table takes the first 32 due deliveries and skips those of busy targets. The deliveries that are
executed go on by themselves; when one of them ends between two turns, what is left of the loop is a
poll of its own, of the table and the targets as they are then.

* `runs_claimNext`: what one look finds and claims, when nothing else runs.
* `runs_pollTurns`: the loop serves the due deliveries through a window of 32.
* **`poll_conserves`**: with a free place left, no due delivery of a free target is left, exactly
  when few enough due deliveries stand in front that cannot be claimed (`WithinWindow`).
-/

namespace Meowbox.Webhooks

open Relational Interleaved Fallible Windowed

/-! ## The loop -/

/-- One turn of the loop; whether it goes on. The claimed delivery is executed beside it. -/
def pollTurn (worker : String) (now : Nat) : WebhookCall Bool := do
  let free ← perform (.beginPoll worker)
  if free then do
    let next ← claimNext worker now
    match next with
    | none => do
      perform (.endPoll worker)
      pure false
    | some claimed => do
      perform (.activate worker claimed.1.id claimed.2.targetInstallationId)
      pure true
  else pure false

/-- The loop, up to a number of turns. -/
def pollTurns (worker : String) (now : Nat) : Nat → WebhookCall Unit
  | 0 => pure ()
  | n + 1 => do
    let more ← pollTurn worker now
    if more then pollTurns worker now n else pure ()

/-! ## A look at the table -/

/-- The due deliveries, in their order. -/
def dueRows (t : DeliveryTable) (now : Nat) : List WebhookDelivery :=
  (t.findMany fun d => d.due now).insertionSort WebhookDelivery.earlier

/-- Where a delivery goes. -/
def target (routes : String → WebhookRoute) (d : WebhookDelivery) : String :=
  (routes d.routeId).targetInstallationId

/-- The condition of a claim. -/
def claimable (id now : Nat) (e : WebhookDelivery) : Bool := e.id == id && e.due now

/-- The store with a delivery claimed. -/
def claimRow (x : WebhookStore) (worker : String) (id now : Nat) : WebhookStore :=
  { x with deliveries :=
      x.deliveries.update (claimable id now) (claimed worker now) (claimed_keys worker now) }

section Look

variable {C : WebhookConfig} {x : WebhookStore} {worker : String} {now : Nat} {d : WebhookDelivery}

theorem mem_dueRows {t : DeliveryTable} : d ∈ dueRows t now ↔ d ∈ t ∧ d.due now = true := by
  unfold dueRows
  rw [List.mem_insertionSort, Table.mem_findMany]

theorem nodup_dueRows (t : DeliveryTable) (now : Nat) :
    ((dueRows t now).map WebhookDelivery.id).Nodup := by
  have hrows : (t.rows.map WebhookDelivery.id).Nodup := by
    have hkeys := t.unique WebhookDelivery.primary List.mem_cons_self
    refine List.Nodup.of_map Sum.inl (β := DeliveryKey) ?_
    rw [List.map_map]
    exact hkeys
  refine (((List.perm_insertionSort _ _).map _).nodup_iff).mpr ?_
  exact (List.filter_sublist.map _).nodup hrows

theorem earlier_total (a b : WebhookDelivery) : a.earlier b ∨ b.earlier a := by
  unfold WebhookDelivery.earlier
  omega

theorem earlier_trans (a b c : WebhookDelivery) (hab : a.earlier b) (hbc : b.earlier c) :
    a.earlier c := by
  unfold WebhookDelivery.earlier at *
  omega

theorem not_due_leased {lease : Nat} (hst : d.state = .delivering)
    (hls : d.leaseExpiresAt = some (now + lease)) (h : 0 < lease) : d.due now = false := by
  rw [WebhookDelivery.due, hst, hls]
  exact decide_eq_false (by omega)

/-- A row that has been claimed is not due. -/
theorem not_due_claimed : (claimed worker now d).due now = false :=
  not_due_leased rfl rfl (by decide : 0 < WEBHOOK_LEASE_MS)

/-- A claim takes one delivery off the due ones. -/
theorem dueRows_claimRow (id : Nat) :
    dueRows (claimRow x worker id now).deliveries now =
      (dueRows x.deliveries now).filter fun e => decide (e.id ≠ id) := by
  unfold dueRows
  rw [filter_insertionSort earlier_total earlier_trans]
  congr 1
  show (x.deliveries.rows.map (Table.patch (claimable id now) (claimed worker now))).filter _ =
    (x.deliveries.rows.filter _).filter _
  rw [List.filter_map, List.filter_filter]
  have hkept : ∀ e : WebhookDelivery,
      (Table.patch (claimable id now) (claimed worker now) e).due now =
        (decide (e.id ≠ id) && e.due now) := by
    intro e
    by_cases hcl : claimable id now e = true
    · rw [Table.patch_pos hcl, not_due_claimed]
      rw [claimable, Bool.and_eq_true, beq_iff_eq] at hcl
      simp [hcl.1]
    · rw [Table.patch_neg hcl]
      by_cases hid : e.id = id
      · simpa [claimable, hid] using hcl
      · simp [hid]
  have hfilter : x.deliveries.rows.filter ((fun e => e.due now) ∘
        Table.patch (claimable id now) (claimed worker now)) =
      x.deliveries.rows.filter fun e => decide (e.id ≠ id) && e.due now :=
    List.filter_congr fun e _ => hkept e
  rw [hfilter]
  refine (List.map_congr_left fun e he => ?_).trans (List.map_id _)
  obtain ⟨-, hother⟩ := List.mem_filter.mp he
  rw [Bool.and_eq_true, decide_eq_true_eq] at hother
  exact Table.patch_neg (by simp [claimable, hother.1])

/-- The row that a claim finds again. -/
theorem byId_claimRow (hd : d ∈ x.deliveries) (hdue : d.due now = true) :
    (claimRow x worker d.id now).deliveries.byId d.id = some (claimed worker now d) := by
  have hmem : claimed worker now d ∈ (claimRow x worker d.id now).deliveries := by
    show claimed worker now d ∈ x.deliveries.update (claimable d.id now) (claimed worker now)
      fun _ => ⟨rfl, rfl, rfl⟩
    refine mem_update.mpr ⟨d, hd, ?_⟩
    rw [if_pos]
    simpa [claimable] using hdue
  refine Table.find?_eq_some (k := WebhookDelivery.primary) (by simp) hmem ?_ ?_
  · simp [claimed]
  · intro e he
    rw [beq_iff_eq] at he
    rw [WebhookDelivery.primary, WebhookDelivery.primary, he]
    rfl

/-- A delivery of a target that is not busy. -/
def free (x : WebhookStore) (worker : String) (d : WebhookDelivery) : Bool :=
  !(x.memory worker).activeTargets.contains (target x.routes d)

/-- An instruction, with its answer. -/
theorem runs_perform {β : Type} {i : WebhookInstr} {f : Answer i → WebhookCall β} {a : Answer i}
    {x₁ x₂ : WebhookStore} {r : Except WebhookError β} (hans : answer C i x = (a, x₁))
    (hf : Runs (answer C) (f a) x₁ r x₂) : Runs (answer C) (perform i >>= f) x r x₂ := by
  have hask : Runs (answer C) (perform i) x (.ok (answer C i x).1) (answer C i x).2 := runs_ask i
  rw [hans] at hask
  exact runs_bind hask hf

/-- **What one look claims**: the first delivery of a free target among those it has found. -/
theorem runs_claimFirst {l : List WebhookDelivery}
    (hl : ∀ d ∈ l, d ∈ x.deliveries ∧ d.due now = true) :
    Runs (answer C) (claimFirst worker now (l.map (withRoute x))) x
      (.ok ((l.find? (free x worker)).map fun d => (claimed worker now d, x.routes d.routeId)))
      (match l.find? (free x worker) with
        | some d => claimRow x worker d.id now
        | none => x) := by
  induction l with
  | nil => exact runs_pure none
  | cons d l ih =>
    obtain ⟨hd, hdue⟩ := hl d List.mem_cons_self
    rw [List.map_cons, claimFirst]
    by_cases hfree : free x worker d = true
    · have hidle : answer C (.targetActive worker (withRoute x d).2.targetInstallationId) x =
          (false, x) := by
        show ((x.memory worker).activeTargets.contains (target x.routes d), x) = (false, x)
        rw [free, Bool.not_eq_true'] at hfree
        rw [hfree]
      have hcls : answer C (.claim worker (withRoute x d).1.id now) x =
          (true, claimRow x worker d.id now) := by
        have hone : 0 < x.deliveries.count (claimable d.id now) :=
          Table.count_pos.mpr ⟨d, hd, by simpa [claimable] using hdue⟩
        show (decide (0 < x.deliveries.count (claimable d.id now)), claimRow x worker d.id now) = _
        rw [decide_eq_true hone]
      have hfnd : answer C (.findClaimed worker (withRoute x d).1.id)
          (claimRow x worker d.id now) =
          (some (claimed worker now d, x.routes d.routeId), claimRow x worker d.id now) := by
        show (((claimRow x worker d.id now).deliveries.byId d.id).map
          (withRoute (claimRow x worker d.id now)), claimRow x worker d.id now) = _
        rw [byId_claimRow hd hdue]
        rfl
      rw [List.find?_cons_of_pos hfree]
      refine runs_perform hidle ?_
      rw [if_neg Bool.false_ne_true]
      refine runs_perform hcls ?_
      rw [if_pos rfl]
      have hask : Runs (answer C) (perform (.findClaimed worker (withRoute x d).1.id))
          (claimRow x worker d.id now)
          (.ok (answer C (.findClaimed worker (withRoute x d).1.id) (claimRow x worker d.id now)).1)
          (answer C (.findClaimed worker (withRoute x d).1.id) (claimRow x worker d.id now)).2 :=
        runs_ask _
      rwa [hfnd] at hask
    · have hbusy : answer C (.targetActive worker (withRoute x d).2.targetInstallationId) x =
          (true, x) := by
        show ((x.memory worker).activeTargets.contains (target x.routes d), x) = (true, x)
        rw [free, Bool.not_eq_true', Bool.not_eq_false] at hfree
        rw [hfree]
      rw [List.find?_cons_of_neg hfree]
      refine runs_perform hbusy ?_
      rw [if_pos rfl]
      exact ih fun e he => hl e (List.mem_cons_of_mem _ he)

theorem runs_claimNext :
    Runs (answer C) (claimNext worker now) x
      (.ok ((pick (target x.routes) 32 (x.memory worker).activeTargets
        (dueRows x.deliveries now)).map fun d => (claimed worker now d, x.routes d.routeId)))
      (match pick (target x.routes) 32 (x.memory worker).activeTargets (dueRows x.deliveries now) with
        | some d => claimRow x worker d.id now
        | none => x) := by
  have hfnd : answer C (.findDue worker now) x =
      (((dueRows x.deliveries now).take 32).map (withRoute x), x) := rfl
  refine runs_perform hfnd (runs_claimFirst fun d hd => ?_)
  exact mem_dueRows.mp (List.mem_of_mem_take hd)

end Look

/-! ## The loop, turn after turn -/

/-- The loop stands in front of a turn: its free places, the busy targets and the due deliveries. -/
structure Turning (C : WebhookConfig) (worker : String) (now : Nat) (routes : String → WebhookRoute)
    (x : WebhookStore) (z : Served WebhookDelivery String) : Prop where
  idle : (x.memory worker).polling = false
  routes : x.routes = routes
  slots : C.concurrency - (x.memory worker).active.length = z.slots
  busy : (x.memory worker).activeTargets = z.busy
  left : dueRows x.deliveries now = z.left

section Loop

variable {C : WebhookConfig} {x : WebhookStore} {worker : String} {now : Nat}
  {routes : String → WebhookRoute}

/-- **The loop serves the due deliveries** through a window of 32, and comes to its own end. -/
theorem runs_pollTurns (n : Nat) (busy : List String) (l : List WebhookDelivery)
    (hx : Turning C worker now routes x ⟨n, busy, l⟩) :
    ∃ x', (∀ turns, n < turns → Runs (answer C) (pollTurns worker now turns) x (.ok ()) x') ∧
      Turning C worker now routes x' (serve (target routes) WebhookDelivery.id 32 n busy l) := by
  induction n generalizing x busy l with
  | zero =>
    refine ⟨x, fun turns hturns => ?_, hx⟩
    obtain ⟨turns, rfl⟩ := Nat.exists_eq_succ_of_ne_zero (Nat.ne_of_gt hturns)
    have hfull : answer C (.beginPoll worker) x = (false, x) := by
      have hnone : C.concurrency ≤ (x.memory worker).active.length := by
        have hslo : C.concurrency - (x.memory worker).active.length = 0 := hx.slots
        omega
      simp only [answer]
      rw [if_pos (by simp [hnone])]
    have hturn : Runs (answer C) (pollTurn worker now) x (.ok false) x :=
      runs_perform hfull (runs_pure false)
    exact runs_bind hturn (runs_pure ())
  | succ n ih =>
    obtain ⟨x₁, hx₁⟩ : ∃ x₁, x₁ = remember x worker fun m => { m with polling := true } := ⟨_, rfl⟩
    have hroom : answer C (.beginPoll worker) x = (true, x₁) := by
      have hsome : ¬ C.concurrency ≤ (x.memory worker).active.length := by
        have hslo : C.concurrency - (x.memory worker).active.length = n + 1 := hx.slots
        omega
      simp only [answer]
      rw [if_neg (by simp [hsome, hx.idle]), hx₁]
    have hmemo : x₁.memory worker = { x.memory worker with polling := true } := by
      rw [hx₁]
      exact if_pos rfl
    have hrows : x₁.deliveries = x.deliveries := by rw [hx₁]; rfl
    have hroutes : x₁.routes = routes := by rw [hx₁]; exact hx.routes
    have hlook : Runs (answer C) (claimNext worker now) x₁ _ _ := runs_claimNext
    have hbusy : (x₁.memory worker).activeTargets = busy := by rw [hmemo]; exact hx.busy
    have hleft : dueRows x₁.deliveries now = l := by rw [hrows]; exact hx.left
    rw [hroutes, hbusy, hleft] at hlook
    cases hpick : pick (target routes) 32 busy l with
    | none =>
      rw [hpick] at hlook
      obtain ⟨x₂, hx₂⟩ : ∃ x₂, x₂ = remember x₁ worker fun m => { m with polling := false } :=
        ⟨_, rfl⟩
      have hend : answer C (.endPoll worker) x₁ = ((), x₂) := by
        rw [hx₂]
        rfl
      have hturn : Runs (answer C) (pollTurn worker now) x (.ok false) x₂ := by
        refine runs_perform hroom ?_
        rw [if_pos rfl]
        exact runs_bind hlook (runs_perform hend (runs_pure false))
      refine ⟨x₂, fun turns hturns => ?_, ?_⟩
      · obtain ⟨turns, rfl⟩ := Nat.exists_eq_succ_of_ne_zero (Nat.ne_of_gt
          (Nat.lt_of_le_of_lt (Nat.zero_le _) hturns))
        exact runs_bind hturn (runs_pure ())
      · have hmemo₂ : x₂.memory worker = { x.memory worker with polling := false } := by
          rw [hx₂]
          refine (if_pos rfl).trans ?_
          rw [hmemo]
        simp only [serve, hpick]
        refine ⟨by rw [hmemo₂], ?_, ?_, ?_, ?_⟩
        · rw [hx₂]
          exact hroutes
        · rw [hmemo₂]
          exact hx.slots
        · rw [hmemo₂]
          exact hx.busy
        · rw [hx₂]
          exact hleft
    | some d =>
      rw [hpick] at hlook
      obtain ⟨x₃, hx₃⟩ : ∃ x₃, x₃ = (answer C (.activate worker d.id (target routes d))
          (claimRow x₁ worker d.id now)).2 := ⟨_, rfl⟩
      have hmemo₃ : x₃.memory worker =
          ⟨false, (x.memory worker).active ++ [d.id], busy ++ [target routes d]⟩ := by
        rw [hx₃]
        refine (if_pos rfl).trans ?_
        show (⟨false, (x₁.memory worker).active ++ [d.id],
          (x₁.memory worker).activeTargets ++ [target routes d]⟩ : WorkerMemory) = _
        rw [hbusy, hmemo]
      have hactivated : answer C (.activate worker d.id (target routes d))
          (claimRow x₁ worker d.id now) = ((), x₃) := by
        rw [hx₃]
      have hturn : Runs (answer C) (pollTurn worker now) x (.ok true) x₃ := by
        refine runs_perform hroom ?_
        rw [if_pos rfl]
        exact runs_bind hlook (runs_perform hactivated (runs_pure true))
      have hx₃' : Turning C worker now routes x₃
          ⟨n, busy ++ [target routes d], l.filter fun e => decide (e.id ≠ d.id)⟩ := by
        refine ⟨by rw [hmemo₃], ?_, ?_, by rw [hmemo₃], ?_⟩
        · rw [hx₃]
          exact hroutes
        · have hslo : C.concurrency - (x.memory worker).active.length = n + 1 := hx.slots
          rw [hmemo₃, List.length_append, List.length_singleton]
          show C.concurrency - ((x.memory worker).active.length + 1) = n
          omega
        · rw [hx₃]
          show dueRows (claimRow x₁ worker d.id now).deliveries now = _
          rw [dueRows_claimRow, hleft]
      obtain ⟨x', hruns, hx'⟩ := ih (busy ++ [target routes d]) _ hx₃'
      refine ⟨x', fun turns hturns => ?_, ?_⟩
      · obtain ⟨turns, rfl⟩ := Nat.exists_eq_succ_of_ne_zero (Nat.ne_of_gt
          (Nat.lt_of_le_of_lt (Nat.zero_le _) hturns))
        exact runs_bind hturn (hruns turns (Nat.lt_of_succ_lt_succ hturns))
      · simp only [serve, hpick]
        exact hx'

end Loop

/-! ## Work-conserving -/

/-- `pollOnce`: the loop ends before it has made one turn for each place and one more. -/
def pollOnce (C : WebhookConfig) (worker : String) (now : Nat) : WebhookCall Unit :=
  pollTurns worker now (C.concurrency + 1)

/-- With fewer deliveries active than may be, every due delivery is one of a target that is being
delivered to. -/
def Conserving (C : WebhookConfig) (worker : String) (now : Nat) (x : WebhookStore) : Prop :=
  (x.memory worker).active.length < C.concurrency →
    ∀ d ∈ x.deliveries, d.due now = true → target x.routes d ∈ (x.memory worker).activeTargets

/-- For each due delivery that is the first one of a free target, in their order: how many due
deliveries in front of it are of a busy target, or of one that has come before. -/
def blocked (x : WebhookStore) (worker : String) (now : Nat) : List Nat :=
  waits (target x.routes) (x.memory worker).activeTargets 0 (dueRows x.deliveries now)

/-- **The window is wide enough**: the free places are filled by targets whose first due delivery
has fewer than 32 in front that cannot be claimed, or there is no other free target. -/
def WithinWindow (C : WebhookConfig) (worker : String) (now : Nat) (x : WebhookStore) : Prop :=
  C.concurrency - (x.memory worker).active.length ≤ (within 32 (blocked x worker now)).length ∨
    (within 32 (blocked x worker now)).length = (blocked x worker now).length

/-- Where the loop ends, the server has stopped. -/
theorem conserving_iff {C : WebhookConfig} {worker : String} {now : Nat} {x x' : WebhookStore}
    (hx' : Turning C worker now x.routes x' (serve (target x.routes) WebhookDelivery.id 32
      (C.concurrency - (x.memory worker).active.length) (x.memory worker).activeTargets
      (dueRows x.deliveries now))) :
    Conserving C worker now x' ↔ WithinWindow C worker now x := by
  refine Iff.trans ?_ (serve_conserves (nodup_dueRows x.deliveries now))
  rw [← hx'.slots, ← hx'.busy, ← hx'.left]
  unfold Conserving
  rw [hx'.routes, Nat.sub_pos_iff_lt]
  refine imp_congr_right fun _ => ?_
  constructor
  · intro h d hd
    obtain ⟨hmem, hdue⟩ := mem_dueRows.mp hd
    exact h d hmem hdue
  · intro h d hmem hdue
    exact h d (mem_dueRows.mpr ⟨hmem, hdue⟩)

/-- **A poll conserves work** exactly when the window was wide enough, for every table, every set of
busy targets and every number of free places. -/
theorem poll_conserves (C : WebhookConfig) (worker : String) (now : Nat) (x : WebhookStore)
    (hidle : (x.memory worker).polling = false) :
    ∃ x', (∀ turns, C.concurrency < turns →
        Runs (answer C) (pollTurns worker now turns) x (.ok ()) x') ∧
      Runs (answer C) (pollOnce C worker now) x (.ok ()) x' ∧
      (Conserving C worker now x' ↔ WithinWindow C worker now x) := by
  obtain ⟨x', hruns, hx'⟩ := runs_pollTurns (C.concurrency - (x.memory worker).active.length)
    (x.memory worker).activeTargets (dueRows x.deliveries now)
    (⟨hidle, rfl, rfl, rfl, rfl⟩ : Turning C worker now x.routes x _)
  have hmore : ∀ turns, C.concurrency < turns →
      Runs (answer C) (pollTurns worker now turns) x (.ok ()) x' := fun turns hturns =>
    hruns turns (Nat.lt_of_le_of_lt (Nat.sub_le _ _) hturns)
  exact ⟨x', hmore, hmore _ (Nat.lt_succ_self _), conserving_iff hx'⟩

/-! ## One slow target -/

/-- A delivery of the route. -/
def waiting (routeId : String) (id : Nat) : WebhookDelivery where
  id := id
  routeId := routeId
  providerDeliveryId := String.ofList (List.replicate id 'x')
  event := "push"
  bodySha256 := ""
  state := .accepted
  attempt := 0
  maxAttempts := WEBHOOK_MAX_ATTEMPTS
  availableAt := 0
  leaseOwner := none
  leaseExpiresAt := none
  lastErrorCode := none
  dlqAt := none
  createdAt := id
  redrives := 0

/-- Each route has a target of its own. -/
def storeOf (t : DeliveryTable) : WebhookStore :=
  { emptyStore "w" with
    deliveries := t
    routes := fun routeId => { onlyRoute with targetInstallationId := routeId } }

/-- Two targets are both served. -/
theorem poll_conserves_two : ∃ x', Runs (answer (oneRoute 10)) (pollOnce (oneRoute 10) "w" 0)
      (storeOf ⟨[waiting "a" 0, waiting "b" 1], by decide⟩) (.ok ()) x' ∧
    Conserving (oneRoute 10) "w" 0 x' := by
  obtain ⟨x', -, hruns, hconserving⟩ := poll_conserves (oneRoute 10) "w" 0
    (storeOf ⟨[waiting "a" 0, waiting "b" 1], by decide⟩) rfl
  exact ⟨x', hruns, hconserving.mpr (.inr (by decide))⟩

/-- 33 deliveries of one target, then one of another. -/
def slowTable : DeliveryTable :=
  ⟨(List.range 33).map (waiting "a") ++ [waiting "b" 33], by decide +kernel⟩

/-- **A slow target starves another**: behind 33 deliveries of one target the worker does not see
the delivery of the other, with a place left for it. -/
theorem slow_target_starves : ∃ x', Runs (answer (oneRoute 10)) (pollOnce (oneRoute 10) "w" 0)
      (storeOf slowTable) (.ok ()) x' ∧ ¬ Conserving (oneRoute 10) "w" 0 x' := by
  obtain ⟨x', hruns, hx'⟩ := runs_pollTurns
    ((oneRoute 10).concurrency - ((storeOf slowTable).memory "w").active.length)
    ((storeOf slowTable).memory "w").activeTargets (dueRows slowTable 0)
    (⟨rfl, rfl, rfl, rfl, rfl⟩ : Turning (oneRoute 10) "w" 0 (storeOf slowTable).routes
      (storeOf slowTable) _)
  refine ⟨x', hruns _ (by decide), fun hconserving => ?_⟩
  have hwi : WithinWindow (oneRoute 10) "w" 0 (storeOf slowTable) :=
    (conserving_iff hx').mp hconserving
  unfold WithinWindow at hwi
  revert hwi
  decide

end Meowbox.Webhooks
