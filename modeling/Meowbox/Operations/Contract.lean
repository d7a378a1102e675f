import Meowbox.Operations.Rows

/-!
# The service against the published state machine

`shared/src/operation-contract.ts` publishes a table of status transitions, `TRANSITIONS`, and
`assertOperationTransition`, which checks one. `OperationsService` does not call it: the table
describes a federated operation, which is always queued, and the service also runs inline
operations, answers a cancellation late and retries a running operation.

`SERVICE_TRANSITIONS` are the transitions the service makes beyond the table. Three writes leave
even these: a retry that puts back an operation whose cancellation was requested, `requireAttention`
on a finished operation, and the write of `onModuleInit` on a row that changed after it was read.
`Deliberate` says that a write is none of them.

Results:
* `follows_contract`: every status change by a deliberate write is in the table or among
  `SERVICE_TRANSITIONS`.
* `service_transitions_occur`: each of these does occur.
-/

namespace Meowbox.Operations

open Interleaved Stepping

/-! ## The contract -/

/-- The names in `OPERATION_STATES`. -/
def OperationStatus.text : OperationStatus → String
  | .pending => "PENDING"
  | .queued => "QUEUED"
  | .claimed => "CLAIMED"
  | .running => "RUNNING"
  | .recovering => "RECOVERING"
  | .cancelRequested => "CANCEL_REQUESTED"
  | .cancelled => "CANCELLED"
  | .succeeded => "SUCCEEDED"
  | .failed => "FAILED"
  | .unknownRecoveryRequired => "UNKNOWN_RECOVERY_REQUIRED"
  | .needsAttention => "NEEDS_ATTENTION"

/-- `TRANSITIONS`. -/
def TRANSITIONS : OperationStatus → List OperationStatus
  | .pending => [.queued, .cancelled, .failed]
  | .queued => [.claimed, .cancelled, .failed]
  | .claimed => [.running, .recovering, .queued, .failed, .needsAttention]
  | .running =>
    [.cancelRequested, .succeeded, .failed, .recovering, .unknownRecoveryRequired, .needsAttention]
  | .recovering =>
    [.queued, .running, .succeeded, .failed, .unknownRecoveryRequired, .needsAttention]
  | .cancelRequested => [.cancelled, .running, .failed, .needsAttention]
  | .cancelled => []
  | .succeeded => []
  | .failed => []
  | .unknownRecoveryRequired => [.needsAttention, .succeeded, .failed]
  | .needsAttention => [.succeeded, .failed, .cancelled]

/-- `assertOperationTransition`; the error is the message thrown. -/
def assertOperationTransition (source target : OperationStatus) : Except String Unit :=
  if (TRANSITIONS source).contains target then .ok ()
  else .error ("Operation transition " ++ source.text ++ " -> " ++ target.text ++ " is not allowed")

/-- The transitions of the service beyond the table. -/
def SERVICE_TRANSITIONS : List (OperationStatus × OperationStatus) := [
  (.pending, .running), (.pending, .needsAttention), (.queued, .needsAttention),
  (.claimed, .cancelRequested), (.claimed, .cancelled), (.running, .queued),
  (.running, .cancelled), (.recovering, .claimed), (.recovering, .cancelled),
  (.cancelRequested, .succeeded)]

/-- No change, one the contract allows, or one of the service's own. -/
def Follows (source target : OperationStatus) : Prop :=
  target = source ∨ assertOperationTransition source target = .ok () ∨
    (source, target) ∈ SERVICE_TRANSITIONS

instance (source target : OperationStatus) : Decidable (Follows source target) :=
  inferInstanceAs (Decidable (_ ∨ _ ∨ _))

/-- The write does not move a row it was not meant for. -/
def Deliberate (s : State) : Write → Prop
  | .retryOrRequireAttention operation leaseOwner _ now =>
    operation.canRetry now = true → ∀ o ∈ s.db.operation,
      heldBy operation.id leaseOwner HELD_STATUSES o = true → o.status ≠ .cancelRequested
  | .requireAttention operationId leaseOwner _ _ =>
    ∀ o ∈ s.db.operation, o.id = operationId → o.leaseOwner = some leaseOwner →
      o.status.terminal = false
  | .recoverInterrupted found _ =>
    ∀ o ∈ s.db.operation, o.id ∈ found.map Interrupted.id →
      wasInterrupted o = true ∧ (o.id ∈ recoveringIds found → o.status ≠ .cancelRequested)
  | _ => True

instance (s : State) (w : Write) : Decidable (Deliberate s w) := by
  apply Write.casesOn (motive := fun w => Decidable (Deliberate s w)) w <;> intros <;>
    dsimp only [Deliberate] <;> infer_instance

/-! ## One write -/

section Step

variable {sha256 : String → String} {s : State} {w : Write} {o o' : Operation}

theorem follows_failed {source : OperationStatus} (h : source.terminal = false) :
    Follows source .failed := by
  revert h
  cases source <;> decide

theorem mem_found {found : List Interrupted} {id : String}
    (h : id ∈ recoveringIds found ∨ id ∈ (attention found).map Interrupted.id) :
    id ∈ found.map Interrupted.id := by
  rcases h with h | h
  · obtain ⟨i, hi, he⟩ := List.mem_map.mp h
    exact List.mem_map.mpr ⟨i, (List.mem_filter.mp hi).1, he⟩
  · obtain ⟨i, hi, he⟩ := List.mem_map.mp h
    exact List.mem_map.mpr ⟨i, (List.mem_filter.mp hi).1, he⟩

/-- **Step**: what a deliberate write does to a status. -/
theorem change_follows (hguard : Deliberate s w) (hf : w.Formed sha256 s.db)
    (ho : o ∈ s.db.operation) (hrow : RowOk o) (hc : RowChange s.db w o o') :
    Follows o.status o'.status := by
  cases hc with
  | same => exact .inl rfl
  | attachScope scope hs => exact .inl rfl
  | step step progress hs => exact .inl rfl
  | heartbeatClaim step progress now hl hs ht hd => exact .inl rfl
  | start step now hs =>
    change Follows o.status .running
    rw [hs]
    decide
  | succeed result now hs hch =>
    change Follows o.status .succeeded
    rw [hs]
    decide
  | fail message now hid hs => exact follows_failed hs
  | claim leaseOwner now hn =>
    change Follows o.status .claimed
    obtain ⟨-, hst, -⟩ := claimable_iff.mp (nextClaim_mem hn).2.1
    rcases hst with hst | hst <;> rw [hst] <;> decide
  | startClaimed step now hl hs ht =>
    change Follows o.status .running
    rw [hs]
    decide
  | succeedClaimed result cancelTooLate now hl hs =>
    change Follows o.status .succeeded
    rcases hs with hs | hs <;> rw [hs] <;> decide
  | failClaimed message now hl hs =>
    change Follows o.status .failed
    rcases mem_held.mp hs with hs | hs | hs <;> rw [hs] <;> decide
  | retry message now hid hl hs hr =>
    change Follows o.status .queued
    have hnot := hguard hr o ho (heldBy_iff.mpr ⟨hid, hl, hs⟩)
    rcases mem_held.mp hs with hs | hs | hs
    · rw [hs]
      decide
    · rw [hs]
      decide
    · exact absurd hs hnot
  | giveUp message now hid hl hs hr =>
    change Follows o.status .needsAttention
    rcases mem_held.mp hs with hs | hs | hs <;> rw [hs] <;> decide
  | cancelClaimed now hl hs =>
    change Follows o.status .cancelled
    rcases mem_held.mp hs with hs | hs | hs <;> rw [hs] <;> decide
  | requireAttention message now hl =>
    change Follows o.status .needsAttention
    -- a leased row does not wait, and this one is not finished
    have hlive := hguard o ho rfl hl
    have hbusy : ¬ (o.status = .pending ∨ o.status = .queued ∨ o.status = .recovering) := by
      intro hidle
      rw [(hrow.idle hidle).1] at hl
      exact absurd hl (by simp)
    have hkn := hrow.known
    generalize o.status = source at hlive hbusy hkn
    revert hlive hbusy hkn
    cases source <;> decide
  | recover now hid hs ht hr =>
    change Follows o.status .recovering
    rw [hs]
    have hheld := mem_held.mp hf
    rcases hheld with hl | hl | hl
    · rw [hl]
      decide
    · rw [hl]
      decide
    · rw [LostLease.recoverable, hl] at hr
      exact absurd hr (by simp)
  | abandon now hid hs ht hr =>
    change Follows o.status .needsAttention
    rw [hs]
    have hheld := mem_held.mp hf
    rcases hheld with hl | hl | hl <;> rw [hl] <;> decide
  | expire now ht =>
    change Follows o.status .failed
    rcases hf with hs | hs <;> rw [hs] <;> decide
  | exhaust now hs =>
    change Follows o.status .needsAttention
    rw [hs]
    decide
  | cancel now hs hreq =>
    change Follows o.status .cancelled
    rcases hs with hs | hs | hs <;> rw [hs] <;> decide
  | askToCancel status now hn hs hreq =>
    change Follows o.status .cancelRequested
    rcases hs with hs | hs <;> rw [hs] <;> decide
  | restart completedAt hid =>
    change Follows o.status .recovering
    obtain ⟨hint, hnot⟩ := hguard o ho (mem_found (.inl hid))
    have hmode := recovering_mode hf ho hid
    simp only [wasInterrupted, hmode, Bool.or_eq_true, Bool.and_eq_true, List.contains_iff_mem,
      List.mem_cons, List.not_mem_nil, or_false] at hint
    rcases hint with ⟨hinline, -⟩ | ⟨-, hs | hs | hs | hs⟩
    · exact absurd hinline (by simp)
    · rw [hs]
      decide
    · rw [hs]
      decide
    · rw [hs]
      decide
    · exact absurd hs (hnot hid)
  | interrupt completedAt hid =>
    change Follows o.status .needsAttention
    obtain ⟨hint, -⟩ := hguard o ho (mem_found (.inr hid))
    simp only [wasInterrupted, Bool.or_eq_true, Bool.and_eq_true, List.contains_iff_mem,
      List.mem_cons, List.not_mem_nil, or_false] at hint
    rcases hint with ⟨-, hs | hs⟩ | ⟨-, hs | hs | hs | hs⟩ <;> rw [hs] <;> decide

end Step

/-! ## Runs -/

variable {sha256 : String → String} {s s' : State}

/-- **The service follows the contract and its own transitions**, along every run and as long as a
write is deliberate. -/
theorem follows_contract (hs : Reachable sha256 anyWrite s) {a : Action}
    (h : s.step sha256 a = some s') (hguard : Writes Deliberate s a) {o o' : Operation}
    (ho : o ∈ s.db.operation) (ho' : o' ∈ s'.db.operation) (hid : o'.id = o.id)
    (hchange : o'.status ≠ o.status) :
    assertOperationTransition o.status o'.status = .ok () ∨
      (o.status, o'.status) ∈ SERVICE_TRANSITIONS := by
  have hfol : Follows o.status o'.status := by
    rcases step_db h with ⟨hrows, -⟩ | ⟨w, done, hw, hd, hdb⟩
    · rw [hrows] at ho'
      rw [eq_of_id ho' ho hid]
      exact .inl rfl
    · rw [hdb] at ho'
      rcases mem_commit hd ho' with ⟨p, now, rfl, rfl⟩ | ⟨r, hr, hc⟩
      · have hfr := (createOperation_spec (create_spec hd).2.2.2).2.2.1 o ho
        exact absurd hid.symm hfr.1
      · have he : r = o := eq_of_id hr ho (hc.identity.id.symm.trans hid)
        rw [he] at hc
        exact change_follows (hguard w hw) (issued_formed hs hw).2 ho (row_ok hs o ho) hc
  exact hfol.resolve_left hchange

/-- A claim moves `QUEUED` to `CLAIMED`. -/
theorem follows_contract_claim :
    ∃ s s' o o', Reachable Sample.digest anyWrite s ∧
      s.step Sample.digest (.advance 1 .go) = some s' ∧ o ∈ s.db.operation ∧
      o' ∈ s'.db.operation ∧ o'.id = o.id ∧ o'.status ≠ o.status ∧
      (assertOperationTransition o.status o'.status = .ok () ∨
        (o.status, o'.status) ∈ SERVICE_TRANSITIONS) := by
  have hrun : (run (State.step Sample.digest) (Writes anyWrite) .init
      (Sample.perform 0 4 (.begin (Sample.queued "key-0001" none none 1000) "uuid-0001" "op-1" false)
        ++ [.call (.poll "worker:1"), .advance 1 .go, .advance 1 (.flip false)])).any
      (fun s : State => decide (Writes Deliberate s (.advance 1 .go) ∧
        ∃ s' ∈ s.step Sample.digest (.advance 1 .go), ∃ o ∈ s.db.operation,
          ∃ o' ∈ s'.db.operation, o'.id = o.id ∧ o'.status ≠ o.status)) = true := by decide +kernel
  obtain ⟨s, hs, hguard, s', h, o, ho, o', ho', hid, hchange⟩ := Reach.of_run_any hrun
  exact ⟨s, s', o, o', hs, h, ho, ho', hid, hchange,
    follows_contract hs h hguard ho ho' hid hchange⟩

/-- **The failing step**: `start` moves an inline operation from `PENDING` to `RUNNING`. -/
theorem start_outside_contract :
    ∃ s a s', Reachable Sample.digest anyWrite s ∧ s.step Sample.digest a = some s' ∧
      ∃ o ∈ s.db.operation, ∃ o' ∈ s'.db.operation, o'.id = o.id ∧ o'.status ≠ o.status ∧
        assertOperationTransition o.status o'.status ≠ .ok () := by
  have hrun : (run (State.step Sample.digest) (Writes anyWrite) .init
      (Sample.perform 0 4 (.begin (Sample.inline "key-0001" none none none) "uuid-0001" "op-1" false)
        ++ Sample.perform 1 1 (.start "op-1" "apply"))).any
      (fun s : State => decide (∃ s' ∈ s.step Sample.digest (.advance 1 .go),
        ∃ o ∈ s.db.operation, ∃ o' ∈ s'.db.operation, o'.id = o.id ∧ o'.status ≠ o.status ∧
          assertOperationTransition o.status o'.status ≠ .ok ())) = true := by decide
  obtain ⟨s, hs, s', h, hchange⟩ := Reach.of_run_any hrun
  exact ⟨s, _, s', hs, h, hchange⟩

/-! ### The transitions of the service do occur -/

/-- Some deliberate step of some run takes an operation from the first status to the second. -/
def Occurs (change : OperationStatus × OperationStatus) : Prop :=
  ∃ s a s', Reachable Sample.digest anyWrite s ∧ Writes Deliberate s a ∧
    s.step Sample.digest a = some s' ∧ ∃ o ∈ s.db.operation, ∃ o' ∈ s'.db.operation,
      o'.id = o.id ∧ (o.status, o'.status) = change

theorem occurs_of_run (as : List Action) (a : Action) {change : OperationStatus × OperationStatus}
    (h : (run (State.step Sample.digest) (Writes anyWrite) .init as).any (fun s : State =>
      decide (Writes Deliberate s a ∧ ∃ s' ∈ s.step Sample.digest a, ∃ o ∈ s.db.operation,
        ∃ o' ∈ s'.db.operation, o'.id = o.id ∧ (o.status, o'.status) = change)) = true) :
    Occurs change := by
  obtain ⟨s, hs, hguard, s', hstep, hchange⟩ := Reach.of_run_any h
  exact ⟨s, a, s', hs, hguard, hstep, hchange⟩

def inlineBegun : List Action :=
  Sample.perform 0 4 (.begin (Sample.inline "key-0001" none none none) "uuid-0001" "op-1" false)

/-- A queued operation that may be attempted twice. -/
def queuedBegun : List Action :=
  let input := Sample.queued "key-0001" none none 100000
  Sample.perform 0 4 (.begin { input with
    queued := input.queued.map fun queued => { queued with maxAttempts := some 2 } }
    "uuid-0001" "op-1" false)

/-- Call `i`, behind its claim statement, starts the operation, up to the handler. -/
def startExecution (i : Nat) : List Action :=
  Sample.advance i 1 ++ [.advance i (.flip true)] ++ Sample.advance i 2

/-- The handler of call `i` throws, and `execute` gets to its next write. -/
def failHandler (i : Nat) : List Action :=
  .advance i (.handler (.threw (.other "exit code 1"))) :: Sample.advance i 2

/-- Call `i` polls with maintenance first, and performs `n` instructions of it. -/
def maintain (i n : Nat) : List Action :=
  [.call (.poll "worker:1"), .advance i .go, .advance i (.flip true)] ++ Sample.advance i n

/-- A running operation. -/
def running : List Action := queuedBegun ++ Sample.claim 1 "worker:1" ++ startExecution 1

/-- Its lease runs out, and the worker claims it again. -/
def reclaimed : List Action := running ++ .tick 31000 :: maintain 2 5

/-- The second execution fails and a third claim is made; then the first fails as well. -/
def overtaken : List Action :=
  reclaimed ++ startExecution 2 ++ failHandler 2 ++ Sample.advance 2 1 ++
    Sample.claim 3 "worker:1" ++ failHandler 1 ++ Sample.advance 1 1

theorem service_transitions_occur : ∀ change ∈ SERVICE_TRANSITIONS, Occurs change := by
  simp only [SERVICE_TRANSITIONS, List.forall_mem_cons, List.not_mem_nil, false_implies,
    implies_true, and_true]
  refine ⟨?_, ?_, ?_, ?_, ?_, ?_, ?_, ?_, ?_, ?_⟩
  · exact occurs_of_run (inlineBegun ++ Sample.perform 1 1 (.start "op-1" "apply"))
      (.advance 1 .go) (by decide)
  · exact occurs_of_run (inlineBegun ++ Sample.perform 1 2 .onModuleInit) (.advance 1 .go)
      (by decide)
  · exact occurs_of_run (overtaken ++ maintain 4 3) (.advance 4 .go) (by decide)
  · exact occurs_of_run (queuedBegun ++ Sample.claim 1 "worker:1" ++
      Sample.perform 2 2 (.requestCancellation "op-1" "user-1" "MANAGER")) (.advance 2 .go)
      (by decide)
  · exact occurs_of_run (reclaimed ++ .advance 1 (.handler (.threw .cancelled)) ::
      Sample.advance 1 1) (.advance 1 .go) (by decide)
  · exact occurs_of_run (running ++ failHandler 1) (.advance 1 .go) (by decide)
  · exact occurs_of_run (running ++ .advance 1 (.handler (.threw .cancelled)) ::
      Sample.advance 1 1) (.advance 1 .go) (by decide)
  · exact occurs_of_run (running ++ .tick 31000 :: maintain 2 4) (.advance 2 .go)
      (by decide)
  · exact occurs_of_run (running ++ .tick 31000 :: maintain 2 2 ++
      Sample.perform 3 2 (.requestCancellation "op-1" "user-1" "MANAGER")) (.advance 3 .go)
      (by decide)
  · exact occurs_of_run (running ++
      Sample.perform 2 3 (.requestCancellation "op-1" "user-1" "MANAGER") ++
      .advance 1 (.handler (.returned .null)) :: Sample.advance 1 2) (.advance 1 .go)
      (by decide)

end Meowbox.Operations
