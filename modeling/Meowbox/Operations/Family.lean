import Meowbox.Operations.Terminal

/-!
# Parents and children finish together

`succeed` waits for the children of its operation, and `fail` takes the active children with it.
The other ways to finish do not look: the finalising writes of a worker, a cancellation and the
expiry of a queued operation leave active children behind, and `fail` leaves the children of the
children it fails. The two writes that can revive a finished operation (`Terminal.lean`) can revive
a child without its parent.

`SparesFamily` says of each write that it does none of this. Under it a finished operation has only
finished children, and so only finished descendants.

Results:
* `family_commit`: one write, which keeps the children of finished operations finished.
* `family_consistent`: in every such run no descendant of a finished operation holds a lock.
-/

namespace Meowbox.Operations

open Relational JsData Interleaved Stepping

/-- `d` was begun under `o`, or under a descendant of it. -/
inductive Descendant (operation : OperationTable) : Operation → Operation → Prop
  | child {o d : Operation} (hd : d ∈ operation) (hp : d.parentOperationId = some o.id) :
      Descendant operation o d
  | deeper {o c d : Operation} (hc : Descendant operation o c) (hd : d ∈ operation)
      (hp : d.parentOperationId = some c.id) : Descendant operation o d

/-- No child of the operation is active. -/
def Childless (db : Db) (operationId : String) : Prop :=
  ∀ c ∈ db.operation, c.parentOperationId = some operationId → c.status.terminal = true

instance (db : Db) (operationId : String) : Decidable (Childless db operationId) :=
  inferInstanceAs (Decidable (∀ c ∈ db.operation, _ → _))

/-- The parent of the operation, if any, is not finished. -/
def ParentActive (db : Db) (o : Operation) (revived : List String) : Prop :=
  ∀ p ∈ db.operation, o.parentOperationId = some p.id →
    p.status.terminal = false ∨ p.id ∈ revived

instance (db : Db) (o : Operation) (revived : List String) :
    Decidable (ParentActive db o revived) :=
  inferInstanceAs (Decidable (∀ p ∈ db.operation, _ → _ ∨ _))

/-- An operation the write finishes has no active child, except those `fail` finishes with it, and
a finished operation it revives has no finished parent. -/
def SparesFamily (s : State) : Write → Prop
  | .succeedClaimed operationId leaseOwner result _ _ =>
    assertNoSecretFields "result" result = .ok () →
      ∀ o ∈ s.db.operation, heldBy operationId leaseOwner [.running, .cancelRequested] o = true →
        Childless s.db o.id
  | .failClaimed operationId leaseOwner _ _ =>
    ∀ o ∈ s.db.operation, heldBy operationId leaseOwner HELD_STATUSES o = true →
      Childless s.db o.id
  | .cancelClaimed operationId leaseOwner _ =>
    ∀ o ∈ s.db.operation, heldBy operationId leaseOwner HELD_STATUSES o = true →
      Childless s.db o.id
  | .expire operationId status now =>
    ∀ o ∈ s.db.operation, o.id = operationId → o.status = status → upTo o.deadlineAt now = true →
      Childless s.db o.id
  | .requestCancellation operationId status _ =>
    [OperationStatus.pending, .queued, .recovering].contains status = true →
      ∀ o ∈ s.db.operation, o.id = operationId → o.status = status → o.cancelRequestedAt = none →
        Childless s.db o.id
  | .fail operationId _ _ =>
    ∀ c ∈ s.db.operation, activeChildOf operationId c = true → Childless s.db c.id
  | .requireAttention operationId leaseOwner _ _ =>
    ∀ o ∈ s.db.operation, o.id = operationId → o.leaseOwner = some leaseOwner →
      o.status.terminal = true → ParentActive s.db o []
  | .recoverInterrupted found _ =>
    ∀ o ∈ s.db.operation, o.id ∈ found.map Interrupted.id → o.status.terminal = true →
      ParentActive s.db o (found.map Interrupted.id)
  | _ => True

instance (s : State) (w : Write) : Decidable (SparesFamily s w) := by
  apply Write.casesOn (motive := fun w => Decidable (SparesFamily s w)) w <;> intros <;>
    dsimp only [SparesFamily] <;> infer_instance

/-- The children of a finished operation are finished. -/
def FamilyOk (operation : OperationTable) : Prop :=
  ∀ p ∈ operation, p.status.terminal = true →
    ∀ c ∈ operation, c.parentOperationId = some p.id → c.status.terminal = true

/-- What holds of the children holds of all descendants. -/
theorem FamilyOk.descendant {operation : OperationTable} (h : FamilyOk operation)
    {o d : Operation} (ho : o ∈ operation) (hterm : o.status.terminal = true)
    (hd : Descendant operation o d) : d ∈ operation ∧ d.status.terminal = true := by
  induction hd with
  | child hd hp => exact ⟨hd, h o ho hterm _ hd hp⟩
  | deeper _ hd hp ih => exact ⟨hd, h _ ih.1 ih.2 _ hd hp⟩

/-! ## One write -/

section Step

variable {sha256 : String → String} {s : State} {w : Write} {done : Committed}
  {o o' : Operation}

theorem succeedClaimed_result {db : Db} {operationId leaseOwner : String} {result : JsValue}
    {cancelTooLate : Bool} {now : Time}
    (h : succeedClaimed db operationId leaseOwner result cancelTooLate now = .ok done) :
    assertNoSecretFields "result" result = .ok () := by
  unfold succeedClaimed at h
  split at h
  · exact absurd h (by simp)
  · assumption

/-- An operation a write finishes has no active child left, unless `fail` was called for it. -/
theorem finished_childless (hsp : SparesFamily s w) (hd : s.db.commit w = .ok done)
    (ho : o ∈ s.db.operation) (hc : RowChange s.db w o o') (hbef : o.status.terminal = false)
    (haft : o'.status.terminal = true) :
    Childless s.db o.id ∨ ∃ message now, w = .fail o.id message now := by
  cases hc with
  | succeed result now hs hch => exact .inl hch
  | fail message now hid hs =>
    rcases hid with hid | hid
    · exact .inr ⟨message, now, by rw [hid]⟩
    · obtain ⟨c, hm, hcid, hpar, hlive⟩ := mem_activeChildIds.mp hid
      have hchildless := hsp c hm (activeChildOf_iff.mpr ⟨hpar, hlive⟩)
      rw [hcid] at hchildless
      exact .inl hchildless
  | succeedClaimed result cancelTooLate now hl hs =>
    have hres := succeedClaimed_result hd
    exact .inl (hsp hres o ho (heldBy_iff.mpr ⟨rfl, hl, by simpa using hs⟩))
  | failClaimed message now hl hs => exact .inl (hsp o ho (heldBy_iff.mpr ⟨rfl, hl, hs⟩))
  | cancelClaimed now hl hs => exact .inl (hsp o ho (heldBy_iff.mpr ⟨rfl, hl, hs⟩))
  | expire now ht => exact .inl (hsp o ho rfl rfl ht)
  | cancel now hs hreq => exact .inl (hsp (by simpa using hs) o ho rfl rfl hreq)
  | same => exact absurd (hbef.symm.trans haft) (by simp)
  | attachScope scope hs => exact absurd (hbef.symm.trans haft) (by simp)
  | step step progress hs => exact absurd (hbef.symm.trans haft) (by simp)
  | heartbeatClaim step progress now hl hs ht hd =>
    exact absurd (hbef.symm.trans haft) (by simp)
  | _ => exact absurd haft (by simp [OperationStatus.terminal])

/-- `fail` finishes the active children of its operation. -/
theorem fail_child {db : Db} {operationId message : String} {now : Time} {c c' : Operation}
    (hc : c ∈ db.operation) (hchild : activeChildOf operationId c = true)
    (hc' : c' ∈ (fail db operationId message now).db.operation) (hid : c'.id = c.id) :
    c'.status = .failed := by
  have hrows : (fail db operationId message now).db.operation.rows = db.operation.rows.map
      (Table.patch (failsItself operationId) (failedRow message now) ∘
        Table.patch (failsAsChild db operationId) (failedRow message now)) := List.map_map
  obtain ⟨hpar, hlive⟩ := activeChildOf_iff.mp hchild
  have hfails : failsAsChild db operationId c = true := by
    have hids : c.id ∈ activeChildIds db operationId :=
      mem_activeChildIds.mpr ⟨c, hc, rfl, hpar, hlive⟩
    simp [failsAsChild, hids, (holding_iff_not_terminal c.status).mpr hlive]
  have hrow : Table.patch (failsItself operationId) (failedRow message now)
      (failedRow message now c) ∈ (fail db operationId message now).db.operation := by
    rw [Table.mem_def, hrows]
    refine List.mem_map.mpr ⟨c, hc, ?_⟩
    rw [Function.comp, Table.patch_pos hfails]
  unfold Table.patch at hrow
  split at hrow
  · rw [eq_of_id hc' hrow hid]
    rfl
  · rw [eq_of_id hc' hrow hid]
    rfl

/-- A write that finishes an operation revives none. -/
theorem finishing_revives_nothing {c c' : Operation} (hf : w.Formed sha256 s.db)
    (hc : RowChange s.db w o o') (hbef : o.status.terminal = false)
    (haft : o'.status.terminal = true) (hcc : RowChange s.db w c c')
    (hterm : c.status.terminal = true) : c'.status.terminal = true := by
  by_contra hlive
  have hne : c'.status ≠ c.status := fun he => hlive (he ▸ hterm)
  rcases hcc.terminal_origin hf hterm hne with
    ⟨leaseOwner, message, now, rfl, -⟩ | ⟨found, completedAt, rfl, -⟩
  · rcases hc.finished hbef haft with ⟨_, _, he, -⟩ | ⟨_, _, _, he, -⟩ | ⟨_, he, -⟩ |
      ⟨_, he, -⟩ | ⟨_, he, -⟩ <;> exact absurd he (by simp [Write.finalises])
  · rcases hc.finished hbef haft with ⟨_, _, he, -⟩ | ⟨_, _, _, he, -⟩ | ⟨_, he, -⟩ |
      ⟨_, he, -⟩ | ⟨_, he, -⟩ <;> exact absurd he (by simp [Write.finalises])

/-- A child of an operation that stays finished is not revived. -/
theorem child_stays_finished {p p' c c' : Operation} (hsp : SparesFamily s w)
    (hf : w.Formed sha256 s.db) (hd : s.db.commit w = .ok done) (hp : p ∈ s.db.operation)
    (hc : c ∈ s.db.operation) (hcc : RowChange s.db w c c') (hpar : c.parentOperationId = some p.id)
    (hpterm : p.status.terminal = true) (hcterm : c.status.terminal = true)
    (hp' : p' ∈ done.db.operation) (hpid : p'.id = p.id) (hpterm' : p'.status.terminal = true) :
    c'.status.terminal = true := by
  by_contra hlive
  have hne : c'.status ≠ c.status := fun he => hlive (he ▸ hcterm)
  rcases hcc.terminal_origin hf hcterm hne with
    ⟨leaseOwner, message, now, rfl, hl⟩ | ⟨found, completedAt, rfl, hfnd⟩
  · rcases hsp c hc rfl hl hcterm p hp hpar with hpl | hpr
    · rw [hpterm] at hpl
      exact absurd hpl (by simp)
    · exact absurd hpr List.not_mem_nil
  · rcases hsp c hc hfnd hcterm p hp hpar with hpl | hpr
    · rw [hpterm] at hpl
      exact absurd hpl (by simp)
    · -- the parent is revived with it
      cases hd
      obtain ⟨p₁, hp₁, hid₁, hst⟩ := recoverInterrupted_row completedAt hp hpr
      have he : p' = p₁ := eq_of_id hp' hp₁ (hpid.trans hid₁.symm)
      rw [he] at hpterm'
      rcases hst with hst | hst <;> rw [hst] at hpterm' <;>
        exact absurd hpterm' (by simp [OperationStatus.terminal])

/-- The parent of a created operation is executing. -/
theorem created_parent {db : Db} {p : PreparedBegin} {now : Time}
    (h : beginTransaction db p now = .ok done) {r : Operation} (hr : r ∈ db.operation)
    (hpar : (p.row now).parentOperationId = some r.id) : r.status.terminal = false := by
  have hchk := (create_spec h).2.1
  have hparent : truthy p.input.parentOperationId = some r.id := hpar
  have hfind : (db.operation.find? fun o => o.id == r.id) = some r :=
    Table.find?_eq_some id_mem_keys hr (by simp) fun b hb => by simpa using hb
  simp only [checkParent, hparent, hfind] at hchk
  split at hchk
  · exact absurd hchk (by simp)
  · rename_i hok
    simp only [Bool.or_eq_true, Bool.not_eq_true', not_or, Bool.not_eq_false,
      List.contains_iff_mem] at hok
    exact executing_holding hok.1.1

/-- **Step**: the children of finished operations stay finished. -/
theorem family_commit (hsp : SparesFamily s w) (hf : w.Formed sha256 s.db)
    (hd : s.db.commit w = .ok done) (h : FamilyOk s.db.operation) : FamilyOk done.db.operation := by
  intro p' hp' hpterm' c' hc' hpar'
  rcases mem_commit hd hp' with ⟨b, now, rfl, rfl⟩ | ⟨p, hp, hpc⟩
  · -- a created operation is not finished
    simp only [PreparedBegin.row] at hpterm'
    split at hpterm' <;> exact absurd hpterm' (by simp [OperationStatus.terminal])
  have hpid := hpc.identity.id
  rw [hpid] at hpar'
  rcases mem_commit hd hc' with ⟨b, now, rfl, rfl⟩ | ⟨c, hc, hcc⟩
  · have hplive := created_parent hd hp hpar'
    cases hpc
    rw [hplive] at hpterm'
    exact absurd hpterm' (by simp)
  have hpar : c.parentOperationId = some p.id := hcc.identity.parentOperationId ▸ hpar'
  cases hbef : p.status.terminal with
  | true =>
    have hcterm := h p hp hbef c hc hpar
    exact child_stays_finished hsp hf hd hp hc hcc hpar hbef hcterm hp' hpid hpterm'
  | false =>
    cases hcterm : c.status.terminal with
    | true => exact finishing_revives_nothing hf hpc hbef hpterm' hcc hcterm
    | false =>
      rcases finished_childless hsp hd hp hpc hbef hpterm' with hno | ⟨message, now, rfl⟩
      · rw [hno c hc hpar] at hcterm
        exact absurd hcterm (by simp)
      · cases hd
        rw [fail_child hc (activeChildOf_iff.mpr ⟨hpar, hcterm⟩) hc' hcc.identity.id]
        rfl

end Step

/-! ## Runs -/

variable {sha256 : String → String} {s : State}

theorem family_ok (hs : Reachable sha256 SparesFamily s) : FamilyOk s.db.operation := by
  refine reach_tables (fun operation _ => FamilyOk operation) hs ?_ ?_
  · exact fun p hp => absurd hp (Table.not_mem_empty p)
  · intro s w done hw ih
    exact family_commit hw.guard hw.formed hw.commit ih

/-- **Families finish consistently** in a run whose writes spare them: no descendant of a finished
operation is in a status that holds locks. -/
theorem family_consistent (hs : Reachable sha256 SparesFamily s) {o d : Operation}
    (ho : o ∈ s.db.operation) (hterm : o.status.terminal = true)
    (hd : Descendant s.db.operation o d) : d.status ∉ LOCK_HOLDING_STATUSES := by
  have hdone := ((family_ok hs).descendant ho hterm hd).2
  rw [holding_iff_not_terminal, hdone]
  simp

/-- An operation and its child on one site. -/
def parentAndChild : List Action :=
  Sample.perform 0 4
      (.begin (Sample.inline "key-0001" (some "site-1") none none) "uuid-0001" "op-1" false) ++
    Sample.perform 1 4 (.begin (Sample.inline "key-0002" (some "site-1") (some "domain-1")
      (some "op-1")) "uuid-0002" "op-2" false)

/-- `fail` takes the child with it. -/
theorem family_consistent_fail :
    ∃ s, Reachable Sample.digest SparesFamily s ∧ ∃ o ∈ s.db.operation, ∃ d ∈ s.db.operation,
      o.status = .failed ∧ Descendant s.db.operation o d ∧
        d.status ∉ LOCK_HOLDING_STATUSES := by
  have hrun : (run (State.step Sample.digest) (Writes SparesFamily) .init
      (parentAndChild ++ Sample.perform 2 2 (.fail "op-1" "exit code 1"))).any
      (fun s : State => decide (∃ o ∈ s.db.operation, ∃ d ∈ s.db.operation,
        o.status = .failed ∧ d.parentOperationId = some o.id)) = true := by decide
  obtain ⟨s, hs, o, ho, d, hd, hst, hpar⟩ := Reach.of_run_any hrun
  have hdesc : Descendant s.db.operation o d := .child hd hpar
  exact ⟨s, hs, o, ho, d, hd, hst, hdesc, family_consistent hs ho (by rw [hst]; rfl) hdesc⟩

/-- **The failing state**: the operation was cancelled, and its child still holds the lock of its
domain. -/
theorem cancelled_operation_has_active_child :
    ∃ s, Reachable Sample.digest anyWrite s ∧ ∃ o ∈ s.db.operation, ∃ d,
      o.status = .cancelled ∧ Descendant s.db.operation o d ∧
        d.status ∈ LOCK_HOLDING_STATUSES := by
  have hrun : (run (State.step Sample.digest) (Writes anyWrite) .init
      (parentAndChild ++ Sample.perform 2 3 (.requestCancellation "op-1" "user-1" "MANAGER"))).any
      (fun s : State => decide (∃ o ∈ s.db.operation, ∃ d ∈ s.db.operation,
        o.status = .cancelled ∧ d.parentOperationId = some o.id ∧
          d.status ∈ LOCK_HOLDING_STATUSES)) = true := by decide
  obtain ⟨s, hs, o, ho, d, hd, hst, hpar, hlive⟩ := Reach.of_run_any hrun
  exact ⟨s, hs, o, ho, d, hst, .child hd hpar, hlive⟩

end Meowbox.Operations
