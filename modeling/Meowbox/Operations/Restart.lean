import Meowbox.Operations.Rows

/-!
# Restart recovery

`onModuleInit` run at boot, before anything else writes, on any table a run can leave. It selects
the interrupted rows by a disjunction over execution mode and status, and that disjunction misses
one combination: an inline operation in `CANCEL_REQUESTED`, which `requestCancellation` makes of a
running inline operation. Such a row is left as it is.

Results:
* `onModuleInit_alone`: what `onModuleInit` alone makes of the tables.
-/

namespace Meowbox.Operations

open Relational JsData Interleaved Stepping

/-- How the database and the clock answer a call that runs alone. -/
def respond : (i : Instr) → View → Option (i.Answer × View)
  | .read, v => some (v.db, v)
  | .clock, v => some (v.clock, v)
  | .write w, v =>
    match v.db.commit w with
    | .error fault => some (.error fault, v)
    | .ok done => some (.ok ⟨done.count, w.returning v.db⟩, ⟨done.db, v.clock⟩)
  | .loseLease, v => some ((), v)
  | .flip, _ => none
  | .handler, _ => none

theorem alone_read (f : Db → Program Outcome) (v : View) :
    Prog.alone respond (Method.read >>= f) v = Prog.alone respond (f v.db) v := rfl

theorem alone_clock (f : Time → Program Outcome) (v : View) :
    Prog.alone respond (Method.clock >>= f) v = Prog.alone respond (f v.clock) v := rfl

section Alone

variable {sha256 : String → String}

theorem getElem?_markLost {c : Call} {calls : List Call} {instr : Instr} {i : Nat} {c₀ : Call}
    (h : calls[i]? = some c₀) :
    ∃ c', (markLost c calls instr)[i]? = some c' ∧ c'.program = c₀.program := by
  unfold markLost
  split
  · split
    · rename_i j hj
      split
      · rename_i execution hex
        by_cases hij : j = i
        · subst hij
          have hlt : j < calls.length := (List.getElem?_eq_some_iff.mp h).1
          rw [h, Option.some.injEq] at hex
          subst hex
          exact ⟨_, List.getElem?_set_self hlt, rfl⟩
        · exact ⟨c₀, by rw [List.getElem?_set_ne hij]; exact h, rfl⟩
      · exact ⟨c₀, h, rfl⟩
    · exact ⟨c₀, h, rfl⟩
  · exact ⟨c₀, h, rfl⟩

end Alone

/-! ## `onModuleInit` at boot -/

theorem restartRow_id (found : List Interrupted) (completedAt : Time) (o : Operation) :
    (restartRow found completedAt o).id = o.id := by
  by_cases hr : o.id ∈ recoveringIds found
  · rw [restartRow_recovering completedAt hr]
    rfl
  by_cases ha : o.id ∈ (attention found).map Interrupted.id
  · rw [restartRow_attention completedAt ha]
    rfl
  · rw [restartRow_other completedAt hr ha]

theorem restartRow_nil (completedAt : Time) (o : Operation) : restartRow [] completedAt o = o :=
  restartRow_other completedAt List.not_mem_nil List.not_mem_nil

/-- **`onModuleInit` alone** returns, with every row updated as it selected them. -/
theorem onModuleInit_alone (v : View) :
    ∃ v', Method.onModuleInit.alone respond v = some (.returned, v') ∧
      v'.db.operation.rows =
        v.db.operation.rows.map (restartRow (interrupted v.db) v.clock) := by
  cases hfnd : interrupted v.db with
  | nil =>
    refine ⟨v, ?_, ?_⟩
    · unfold Method.onModuleInit
      rw [alone_read, hfnd]
      rfl
    · have hid : restartRow [] v.clock = id := funext (restartRow_nil v.clock)
      rw [hid, List.map_id]
  | cons i found =>
    refine ⟨⟨(recoverInterrupted v.db (i :: found) v.clock).db, v.clock⟩, ?_,
      recoverInterrupted_rows v.db (i :: found) v.clock⟩
    unfold Method.onModuleInit
    rw [alone_read, hfnd]
    rfl

/-- An operation a restart interrupts: it was executing, or waiting to. -/
def wasExecuting (o : Operation) : Prop :=
  o.status = .pending ∨ o.status = .claimed ∨ o.status = .running ∨ o.status = .recovering ∨
    o.status = .cancelRequested

/-- The row of an interrupted operation that will run again. -/
def Recovering (o o' : Operation) : Prop :=
  o'.status = .recovering ∧ o'.leaseOwner = none ∧ o'.leaseExpiresAt = none ∧
    o.executionMode = .queued ∧ recoverablePolicy o.recoveryPolicy o.retryable = true

/-- **Complete recovery**: no operation is left in a status only a running process can finish, and
every interrupted one is recovering or waits for an operator. -/
def RestartComplete (db db' : Db) : Prop :=
  (∀ o' ∈ db'.operation, o'.status ≠ .pending ∧ o'.status ≠ .claimed ∧ o'.status ≠ .running ∧
    o'.status ≠ .cancelRequested) ∧
  ∀ o ∈ db.operation, wasExecuting o → ∃ o' ∈ db'.operation, o'.id = o.id ∧
    (Recovering o o' ∨ o'.status = .needsAttention)

instance (o : Operation) : Decidable (wasExecuting o) :=
  inferInstanceAs (Decidable (_ ∨ _ ∨ _ ∨ _ ∨ _))

instance (o o' : Operation) : Decidable (Recovering o o') :=
  inferInstanceAs (Decidable (_ ∧ _ ∧ _ ∧ _ ∧ _))

instance (db db' : Db) : Decidable (RestartComplete db db') :=
  inferInstanceAs (Decidable ((∀ o' ∈ db'.operation, _) ∧ ∀ o ∈ db.operation, _))

/-- The combination the selection misses. -/
def NoInlineCancellation (db : Db) : Prop :=
  ∀ o ∈ db.operation, ¬ (o.executionMode = .inline ∧ o.status = .cancelRequested)

instance (db : Db) : Decidable (NoInlineCancellation db) :=
  inferInstanceAs (Decidable (∀ o ∈ db.operation, _))

section Complete

variable {db : Db}

/-- What a found row was read from. -/
theorem mem_interrupted {i : Interrupted} (h : i ∈ interrupted db) :
    ∃ r ∈ db.operation, wasInterrupted r = true ∧
      i = ⟨r.id, r.siteId, r.siteDomainId, r.executionMode, r.recoveryPolicy, r.retryable⟩ := by
  obtain ⟨r, hr, rfl⟩ := List.mem_map.mp h
  obtain ⟨hm, hp⟩ := Table.mem_findMany.mp hr
  exact ⟨r, hm, hp, rfl⟩

/-- A row `onModuleInit` did not select is untouched. -/
theorem restart_keeps {o : Operation} (completedAt : Time) (ho : o ∈ db.operation)
    (h : wasInterrupted o = false) :
    restartRow (interrupted db) completedAt o = o := by
  have hnot : ∀ i ∈ interrupted db, i.id ≠ o.id := by
    intro i hi hid
    obtain ⟨r, hr, hp, rfl⟩ := mem_interrupted hi
    have he : r = o := eq_of_id hr ho hid
    subst he
    rw [h] at hp
    exact absurd hp (by simp)
  refine restartRow_other completedAt (fun hc => ?_) (fun hc => ?_)
  · obtain ⟨i, hi, hid⟩ := List.mem_map.mp hc
    exact hnot i (List.mem_filter.mp hi).1 hid
  · obtain ⟨i, hi, hid⟩ := List.mem_map.mp hc
    exact hnot i (List.mem_filter.mp hi).1 hid

/-- A row it selected is recovering, or waits for an operator. -/
theorem restart_changes {o : Operation} (completedAt : Time) (ho : o ∈ db.operation)
    (h : wasInterrupted o = true) :
    Recovering o (restartRow (interrupted db) completedAt o) ∨
      (restartRow (interrupted db) completedAt o).status = .needsAttention := by
  by_cases hr : o.id ∈ recoveringIds (interrupted db)
  · obtain ⟨i, hi, hid⟩ := List.mem_map.mp hr
    obtain ⟨hfnd, hrec⟩ := List.mem_filter.mp hi
    obtain ⟨r, hm, -, rfl⟩ := mem_interrupted hfnd
    have he : r = o := eq_of_id hm ho hid
    subst he
    simp only [Interrupted.recoverable, Bool.and_eq_true, beq_iff_eq] at hrec
    rw [restartRow_recovering completedAt hr]
    exact .inl ⟨rfl, rfl, rfl, hrec.1, hrec.2⟩
  · have hmem : (⟨o.id, o.siteId, o.siteDomainId, o.executionMode, o.recoveryPolicy,
        o.retryable⟩ : Interrupted) ∈ interrupted db :=
      List.mem_map.mpr ⟨o, Table.mem_findMany.mpr ⟨ho, h⟩, rfl⟩
    have ha : o.id ∈ (attention (interrupted db)).map Interrupted.id := by
      refine List.mem_map.mpr ⟨_, List.mem_filter.mpr ⟨hmem, ?_⟩, rfl⟩
      simpa using hr
    rw [restartRow_attention completedAt ha]
    exact .inr rfl

/-- Of the rows a run leaves, the selection misses only inline ones in `CANCEL_REQUESTED`. -/
theorem wasInterrupted_of_executing {o : Operation} (hok : RowOk o) (h : wasExecuting o)
    (hno : ¬ (o.executionMode = .inline ∧ o.status = .cancelRequested)) :
    wasInterrupted o = true := by
  have hqu := hok.queued
  have hpend := hok.pending
  unfold wasInterrupted
  rcases h with h | h | h | h | h
  · simp [h, hpend h]
  · simp [h, hqu (.inr (.inr h))]
  · cases hm : o.executionMode <;> simp [h]
  · simp [h, hqu (.inr (.inl h))]
  · cases hm : o.executionMode with
    | inline => exact absurd ⟨hm, h⟩ hno
    | queued => simp [h]

/-- **Restart recovery is complete exactly when no inline operation is in `CANCEL_REQUESTED`.** -/
theorem restart_complete_iff {sha256 : String → String} {s : State}
    (hs : Reachable sha256 anyWrite s) :
    ∃ v', Method.onModuleInit.alone respond s.view = some (.returned, v') ∧
      (RestartComplete s.db v'.db ↔ NoInlineCancellation s.db) := by
  obtain ⟨v', halone, hrows⟩ := onModuleInit_alone s.view
  change v'.db.operation.rows = s.db.operation.rows.map (restartRow (interrupted s.db) s.clock)
    at hrows
  have hmem : ∀ o', o' ∈ v'.db.operation ↔
      ∃ o ∈ s.db.operation, restartRow (interrupted s.db) s.clock o = o' := by
    intro o'
    rw [Table.mem_def, hrows]
    exact List.mem_map
  refine ⟨v', halone, fun hcomp o ho hbad => ?_, fun hno => ⟨fun o' ho' => ?_, fun o ho h => ?_⟩⟩
  · -- the row is not selected, so it is still there
    have hskip : wasInterrupted o = false := by simp [wasInterrupted, hbad.1, hbad.2]
    have hsty := (hmem o).mpr ⟨o, ho, restart_keeps s.clock ho hskip⟩
    exact (hcomp.1 o hsty).2.2.2 hbad.2
  · obtain ⟨o, ho, rfl⟩ := (hmem o').mp ho'
    by_cases h : wasInterrupted o = true
    · rcases restart_changes s.clock ho h with ⟨hst, -⟩ | hst <;> simp [hst]
    · rw [Bool.not_eq_true] at h
      rw [restart_keeps s.clock ho h]
      have hexec : ¬ wasExecuting o := by
        intro hx
        rw [wasInterrupted_of_executing (row_ok hs o ho) hx (hno o ho)] at h
        exact absurd h (by simp)
      unfold wasExecuting at hexec
      push Not at hexec
      exact ⟨hexec.1, hexec.2.1, hexec.2.2.1, hexec.2.2.2.2⟩
  · have hi := wasInterrupted_of_executing (row_ok hs o ho) h (hno o ho)
    exact ⟨_, (hmem _).mpr ⟨o, ho, rfl⟩, restartRow_id _ _ o, restart_changes s.clock ho hi⟩

end Complete

/-- A restart right after a claim recovers the claimed operation. -/
theorem restart_recovers_claimed :
    ∃ s, Reachable Sample.digest anyWrite s ∧ (∃ o ∈ s.db.operation, o.status = .claimed) ∧
      ∃ v', Method.onModuleInit.alone respond s.view = some (.returned, v') ∧
        RestartComplete s.db v'.db := by
  have hrun : (run (State.step Sample.digest) (Writes anyWrite) .init
      (Sample.perform 0 4 (.begin (Sample.queued "key-0001" none none 1000) "uuid-0001" "op-1" false)
        ++ Sample.claim 1 "worker:1")).any
      (fun s : State => decide ((∃ o ∈ s.db.operation, o.status = .claimed) ∧
        NoInlineCancellation s.db)) = true := by decide +kernel
  obtain ⟨s, hs, hcl, hno⟩ := Reach.of_run_any hrun
  obtain ⟨v', halone, hiff⟩ := restart_complete_iff hs
  exact ⟨s, hs, hcl, v', halone, hiff.mpr hno⟩

/-- An inline operation is begun, started and asked to stop; then the process restarts. -/
def inlineCancellation : List Action :=
  Sample.perform 0 4 (.begin (Sample.inline "key-0001" none none none) "uuid-0001" "op-1" false) ++
    Sample.perform 1 2 (.start "op-1" "apply") ++
    Sample.perform 2 3 (.requestCancellation "op-1" "user-1" "MANAGER")

/-- **The failing restart**: the inline operation is still in `CANCEL_REQUESTED` after
`onModuleInit`. -/
theorem restart_misses_inline_cancellation :
    ∃ s, Reachable Sample.digest anyWrite s ∧
      ∃ done ∈ Method.onModuleInit.alone respond s.view, ¬ RestartComplete s.db done.2.db := by
  have hrun : (run (State.step Sample.digest) (Writes anyWrite) .init inlineCancellation).any
      (fun s : State => decide (∃ done ∈ Method.onModuleInit.alone respond s.view,
        ¬ RestartComplete s.db done.2.db)) = true := by decide
  exact Reach.of_run_any hrun

end Meowbox.Operations
