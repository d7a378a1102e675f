import Meowbox.Operations.Restart

/-!
# Queued work is never stranded

A waiting operation can run only if the claim statement selects it, which needs `leaseOwner` and
`cancelRequestedAt` to be `NULL`. Three writes make a row wait again: the retry of a worker, the
recovery of a lost lease and the recovery at restart. Lease recovery leaves an operation whose
cancellation was requested to an operator. The other two do not look: a retry that runs after the
request, and a restart, put such an operation back with `cancelRequestedAt` set, where no claim
selects it and `requestCancellation` answers that the state changed.

Results:
* `cancelRequested_status`: as long as those two writes find no requested cancellation, only
  operations that are done with or being cancelled carry one.
* `waiting_not_stranded`: in such a run every waiting operation can be claimed, and cancelled by
  its creator.
-/

namespace Meowbox.Operations

open Relational Interleaved Stepping

/-- The write puts no operation back into the queue whose cancellation was requested. -/
def SparesCancellation (s : State) : Write → Prop
  | .retryOrRequireAttention operation leaseOwner _ now =>
    operation.canRetry now = true → ∀ o ∈ s.db.operation,
      heldBy operation.id leaseOwner HELD_STATUSES o = true → o.cancelRequestedAt = none
  | .recoverInterrupted found _ =>
    ∀ o ∈ s.db.operation, o.id ∈ recoveringIds found → o.cancelRequestedAt = none
  | _ => True

instance (s : State) (w : Write) : Decidable (SparesCancellation s w) := by
  apply Write.casesOn (motive := fun w => Decidable (SparesCancellation s w)) w <;> intros <;>
    dsimp only [SparesCancellation] <;> infer_instance

/-- An operation that waits for a claim: it may run again, and in time. -/
def Waiting (clock : Time) (o : Operation) : Prop :=
  (o.status = .queued ∧ o.attempt < o.maxAttempts) ∨
    (o.status = .recovering ∧ after o.deadlineAt clock = true)

instance (clock : Time) (o : Operation) : Decidable (Waiting clock o) :=
  inferInstanceAs (Decidable (_ ∨ _))

/-- `requestCancellation` by the creator cancels the operation. -/
def Cancellable (v : View) (o : Operation) : Prop :=
  ∀ role, ∃ v', (Method.requestCancellation o.id o.createdByUserId role).alone respond v =
      some (.returned, v') ∧
    ∃ o' ∈ v'.db.operation, o'.id = o.id ∧ o'.status = .cancelled

/-- A waiting operation is not stranded: the claim statement selects it until its deadline, and it
can be cancelled. -/
def NotStranded (v : View) (o : Operation) : Prop :=
  o.leaseOwner = none ∧ o.cancelRequestedAt = none ∧
    (after o.deadlineAt v.clock = true → claimable v.clock o = true) ∧ Cancellable v o

/-! ## Requested cancellations -/

/-- An operation whose cancellation was requested no longer waits or runs. -/
def CancelRequestedOk (o : Operation) : Prop :=
  o.cancelRequestedAt ≠ none →
    o.status.terminal = true ∨ o.status = .cancelRequested ∨ o.status = .needsAttention

section Requested

variable {sha256 : String → String} {s : State} {w : Write} {o o' : Operation}

/-- A status in which no cancellation was requested. -/
theorem CancelRequestedOk.none (h : CancelRequestedOk o) (ht : o.status.terminal = false)
    (hc : o.status ≠ .cancelRequested) (hn : o.status ≠ .needsAttention) :
    o.cancelRequestedAt = .none := by
  by_contra hreq
  rcases h hreq with hst | hst | hst
  · rw [ht] at hst
    exact absurd hst (by simp)
  · exact hc hst
  · exact hn hst

theorem cancelRequestedOk_change (hsp : SparesCancellation s w)
    (hf : w.Formed sha256 s.db) (ho : o ∈ s.db.operation) (hc : RowChange s.db w o o')
    (h : CancelRequestedOk o) : CancelRequestedOk o' := by
  cases hc with
  | same => exact h
  | attachScope scope hs => exact h
  | step step progress hs => exact h
  | heartbeatClaim step progress now hl hs ht hd => exact h
  | start step now hs =>
    have hnone := h.none (by rw [hs]; rfl) (by simp [hs]) (by simp [hs])
    exact fun hreq => absurd hnone hreq
  | startClaimed step now hl hs ht =>
    have hnone := h.none (by rw [hs]; rfl) (by simp [hs]) (by simp [hs])
    exact fun hreq => absurd hnone hreq
  | claim leaseOwner now hn =>
    have hnone := (claimable_iff.mp (nextClaim_mem hn).2.1).2.2.2.1
    exact fun hreq => absurd hnone hreq
  | retry message now hid hl hs hr =>
    have hnone := hsp hr o ho (heldBy_iff.mpr ⟨hid, hl, hs⟩)
    exact fun hreq => absurd hnone hreq
  | recover now hid hs ht hr =>
    -- a lost lease is recovered only from `CLAIMED` or `RUNNING`
    have hnot : o.status ≠ .cancelRequested := by
      intro hcr
      rw [LostLease.recoverable, ← hs, hcr] at hr
      exact absurd hr (by simp)
    have hheld := mem_held.mp (hs ▸ hf : o.status ∈ HELD_STATUSES)
    have hnone : o.cancelRequestedAt = none := by
      rcases hheld with hst | hst | hst
      · exact h.none (by rw [hst]; rfl) (by simp [hst]) (by simp [hst])
      · exact h.none (by rw [hst]; rfl) (by simp [hst]) (by simp [hst])
      · exact absurd hst hnot
    exact fun hreq => absurd hnone hreq
  | restart completedAt hid =>
    have hnone := hsp o ho hid
    exact fun hreq => absurd hnone hreq
  | succeed result now hs hch => exact fun _ => .inl rfl
  | fail message now hid hs => exact fun _ => .inl rfl
  | succeedClaimed result cancelTooLate now hl hs => exact fun _ => .inl rfl
  | failClaimed message now hl hs => exact fun _ => .inl rfl
  | cancelClaimed now hl hs => exact fun _ => .inl rfl
  | expire now ht => exact fun _ => .inl rfl
  | cancel now hs hc => exact fun _ => .inl rfl
  | askToCancel status now hn hs hc => exact fun _ => .inr (.inl rfl)
  | giveUp message now hid hl hs hr => exact fun _ => .inr (.inr rfl)
  | requireAttention message now hl => exact fun _ => .inr (.inr rfl)
  | abandon now hid hs ht hr => exact fun _ => .inr (.inr rfl)
  | exhaust now hs => exact fun _ => .inr (.inr rfl)
  | interrupt completedAt hid => exact fun _ => .inr (.inr rfl)

theorem cancelRequested_status (hs : Reachable sha256 SparesCancellation s) :
    ∀ o ∈ s.db.operation, CancelRequestedOk o :=
  reach_rows CancelRequestedOk hs (fun _ _ _ hreq => absurd rfl hreq)
    fun _ _ _ _ _ hw hc ho h => cancelRequestedOk_change hw.guard hw.formed ho hc h

end Requested

/-! ## Cancelling a waiting operation -/

section Cancel

variable {v : View} {o : Operation}

theorem find_by_id (ho : o ∈ v.db.operation) :
    (v.db.operation.find? fun r => r.id == o.id) = some o :=
  Table.find?_eq_some id_mem_keys ho (by simp) fun b hb => by simpa using hb

/-- The creator passes the access check, and a waiting operation the status checks. -/
theorem readForCancellation_waiting (ho : o ∈ v.db.operation)
    (hs : o.status = .queued ∨ o.status = .recovering) (role : String) :
    readForCancellation v.db o.id o.createdByUserId role = .ok (some o.status) := by
  unfold readForCancellation
  rw [find_by_id ho]
  rcases hs with hs | hs <;> simp [hs, OperationStatus.terminal]

/-- The transaction commits: the row is as it was read, and no cancellation was requested. -/
theorem requestCancellation_waiting (ho : o ∈ v.db.operation)
    (hs : o.status = .queued ∨ o.status = .recovering) (hc : o.cancelRequestedAt = none)
    (now : Time) :
    ∃ done, requestCancellation v.db o.id o.status now = .ok done ∧
      ∃ o' ∈ done.db.operation, o'.id = o.id ∧ o'.status = .cancelled := by
  have hbr : [OperationStatus.pending, .queued, .recovering].contains o.status = true := by
    rcases hs with hs | hs <;> simp [hs]
  have hp : (o.id == o.id && o.status == o.status && o.cancelRequestedAt.isNone) = true := by
    simp [hc]
  have hone : v.db.operation.count (fun r => r.id == o.id && r.status == o.status &&
      r.cancelRequestedAt.isNone) = 1 := by
    refine Table.count_eq_one id_mem_keys ho hp fun b _ hb => ?_
    simp only [Bool.and_eq_true, beq_iff_eq] at hb
    exact hb.1.1
  unfold requestCancellation
  rw [if_pos hbr, requireOne_eq_ok.mpr ⟨hone, rfl⟩]
  exact ⟨_, rfl, _, mem_update rfl ho hp, rfl, rfl⟩

theorem cancellable_waiting (ho : o ∈ v.db.operation)
    (hs : o.status = .queued ∨ o.status = .recovering) (hc : o.cancelRequestedAt = none) :
    Cancellable v o := by
  intro role
  obtain ⟨done, hd, o', ho', hid, hst⟩ := requestCancellation_waiting ho hs hc v.clock
  refine ⟨⟨done.db, v.clock⟩, ?_, o', ho', hid, hst⟩
  have hcommit : v.db.commit (.requestCancellation o.id o.status v.clock) = .ok done := hd
  have hread := readForCancellation_waiting ho hs role
  unfold Method.requestCancellation
  rw [alone_read, hread]
  change Prog.alone respond (.ask (.write (.requestCancellation o.id o.status v.clock)) _) v = _
  simp only [Prog.alone, respond, hcommit]
  rfl

end Cancel

/-! ## Runs -/

/-- **Queued work is not stranded** in a run that puts no operation back into the queue whose
cancellation was requested. -/
theorem waiting_not_stranded {sha256 : String → String} {s : State}
    (hs : Reachable sha256 SparesCancellation s) :
    ∀ o ∈ s.db.operation, Waiting s.clock o → NotStranded s.view o := by
  intro o ho hwait
  have hok := row_ok hs o ho
  have hstatus : o.status = .queued ∨ o.status = .recovering :=
    hwait.imp And.left And.left
  have hls := (hok.idle (.inr hstatus)).1
  have hmode := hok.queued (hstatus.elim .inl fun h => .inr (.inl h))
  have hnone : o.cancelRequestedAt = none := by
    have hreq := cancelRequested_status hs o ho
    rcases hstatus with hst | hst
    · exact hreq.none (by rw [hst]; rfl) (by simp [hst]) (by simp [hst])
    · exact hreq.none (by rw [hst]; rfl) (by simp [hst]) (by simp [hst])
  refine ⟨hls, hnone, fun hdl => ?_, cancellable_waiting ho hstatus hnone⟩
  have hatt : o.status = .recovering ∨ o.attempt < o.maxAttempts :=
    hwait.elim (fun h => .inr h.2) fun h => .inl h.1
  exact claimable_iff.mpr ⟨hmode, hstatus, hls, hnone, hdl, hatt⟩

/-- A queued operation right after `begin` is not stranded. -/
theorem waiting_not_stranded_begun :
    ∃ s, Reachable Sample.digest SparesCancellation s ∧
      ∃ o ∈ s.db.operation, o.status = .queued ∧ NotStranded s.view o := by
  have hrun : (run (State.step Sample.digest) (Writes SparesCancellation) .init
      (Sample.perform 0 4
        (.begin (Sample.queued "key-0001" none none 1000) "uuid-0001" "op-1" false))).any
      (fun s : State => decide (∃ o ∈ s.db.operation, o.status = .queued ∧ Waiting s.clock o)) =
        true := by decide +kernel
  obtain ⟨s, hs, o, ho, hst, hwait⟩ := Reach.of_run_any hrun
  exact ⟨s, hs, o, ho, hst, waiting_not_stranded hs o ho hwait⟩

/-- The handler fails and the worker decides to retry; before it writes that, the cancellation of
the running operation is requested. -/
def cancelBeforeRetry : List Action :=
  Sample.perform 0 4 (.begin (Sample.queued "key-0001" none none 1000) "uuid-0001" "op-1" false) ++
    Sample.claim 1 "worker:1" ++ Sample.advance 1 1 ++ [.advance 1 (.flip true)] ++
    Sample.advance 1 2 ++ [.advance 1 (.handler (.threw (.other "exit code 1")))] ++
    Sample.advance 1 1 ++ Sample.perform 2 3 (.requestCancellation "op-1" "user-1" "MANAGER") ++
    Sample.advance 1 2

/-- **The failing state**: a queued operation with attempts left that no claim will select. -/
theorem retry_strands_cancelled :
    ∃ s, Reachable Sample.digest anyWrite s ∧
      ∃ o ∈ s.db.operation, Waiting s.clock o ∧ ¬ NotStranded s.view o := by
  have hrun : (run (State.step Sample.digest) (Writes anyWrite) .init cancelBeforeRetry).any
      (fun s : State => decide (∃ o ∈ s.db.operation,
        Waiting s.clock o ∧ o.cancelRequestedAt ≠ none)) = true := by decide +kernel
  obtain ⟨s, hs, o, ho, hwait, hreq⟩ := Reach.of_run_any hrun
  exact ⟨s, hs, o, ho, hwait, fun h => hreq h.2.1⟩

end Meowbox.Operations
