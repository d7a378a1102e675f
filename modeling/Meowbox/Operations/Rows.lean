import Meowbox.Operations.Calls

/-!
# What every row satisfies

`RowOk` collects the facts about a single row that hold in every state of every run, whatever the
interleaving: which statuses an execution mode can have, and when a lease is set. The run theorems
about locks, queues and recovery build on it.

Results:
* `row_ok`: every row of every reachable state is `RowOk`.
* `RowChange.terminal_origin`: the only writes that take a row out of a terminal status.
* `RowChange.finished`: the writes that finish an operation.
* `RowChange.leaseOwner`, `RowChange.siteId`: the only writes that set these columns.
-/

namespace Meowbox.Operations

/-- The facts about one row that every write keeps. -/
structure RowOk (o : Operation) : Prop where
  /-- An operation that waits for a worker has no lease. -/
  idle : o.status = .pending ∨ o.status = .queued ∨ o.status = .recovering →
    o.leaseOwner = none ∧ o.leaseExpiresAt = none
  /-- Only queued operations are leased. -/
  leased : o.leaseOwner ≠ none ∨ o.leaseExpiresAt ≠ none → o.executionMode = .queued
  /-- An inline operation is never in a status of the queue. -/
  queued : o.status = .queued ∨ o.status = .recovering ∨ o.status = .claimed →
    o.executionMode = .queued
  /-- A queued operation is never pending. -/
  pending : o.status = .pending → o.executionMode = .inline
  /-- No write sets this status. -/
  known : o.status ≠ .unknownRecoveryRequired
  /-- An attempt is counted only while some are left. -/
  attempts : o.attempt ≤ o.maxAttempts

theorem row_ok_create (p : PreparedBegin) (now : Time) : RowOk (p.row now) where
  idle _ := ⟨rfl, rfl⟩
  leased h := by simp [PreparedBegin.row] at h
  queued h := by
    simp only [PreparedBegin.row] at h ⊢
    split at h <;> simp_all
  pending h := by
    simp only [PreparedBegin.row] at h ⊢
    split at h <;> simp_all
  known h := by
    simp only [PreparedBegin.row] at h
    split at h <;> simp at h
  attempts := Nat.zero_le _

theorem mem_held {s : OperationStatus} :
    s ∈ HELD_STATUSES ↔ s = .claimed ∨ s = .running ∨ s = .cancelRequested := by
  simp [HELD_STATUSES]

theorem upTo_isSome {date : Option Time} {now : Time} (h : upTo date now = true) :
    date ≠ none := by
  rintro rfl
  exact absurd h (by simp [upTo])

variable {o : Operation}

theorem claimable_iff {now : Time} :
    claimable now o = true ↔
      o.executionMode = .queued ∧ (o.status = .queued ∨ o.status = .recovering) ∧
        o.leaseOwner = none ∧ o.cancelRequestedAt = none ∧ after o.deadlineAt now = true ∧
        (o.status = .recovering ∨ o.attempt < o.maxAttempts) := by
  simp [claimable, and_assoc]

variable {sha256 : String → String} {db : Db}

/-- The mode of a row `onModuleInit` recovers is the mode it read. -/
theorem recovering_mode {found : List Interrupted} {completedAt : Time}
    (hf : (Write.recoverInterrupted found completedAt).Formed sha256 db) (ho : o ∈ db.operation)
    (hid : o.id ∈ recoveringIds found) :
    o.executionMode = .queued := by
  obtain ⟨i, hi, he⟩ := List.mem_map.mp hid
  obtain ⟨hfnd, hrec⟩ := List.mem_filter.mp hi
  rw [hf i hfnd o ho he.symm]
  simp only [Interrupted.recoverable, Bool.and_eq_true, beq_iff_eq] at hrec
  exact hrec.1

variable {o' : Operation}

theorem row_ok_change {w : Write} (hf : w.Formed sha256 db) (ho : o ∈ db.operation)
    (hc : RowChange db w o o') (h : RowOk o) :
    RowOk o' := by
  obtain ⟨idle, leased, queued, pending, known, attempts⟩ := h
  cases hc with
  | same => exact ⟨idle, leased, queued, pending, known, attempts⟩
  | attachScope scope hs => exact ⟨idle, leased, queued, pending, known, attempts⟩
  | step step progress hs => exact ⟨idle, leased, queued, pending, known, attempts⟩
  | heartbeatClaim step progress now hl hs ht hd =>
    refine ⟨fun h => ?_, fun _ => leased (.inl (by simp [hl])), queued, pending, known, attempts⟩
    rw [mem_held] at hs
    simp only at h
    rcases hs with hs | hs | hs <;> simp [hs] at h
  | claim leaseOwner now hn =>
    obtain ⟨-, hcl, -⟩ := nextClaim_mem hn
    obtain ⟨hmode, hst, -, -, -, hatt⟩ := claimable_iff.mp hcl
    refine ⟨by simp, fun _ => hmode, fun _ => hmode, by simp, by simp, ?_⟩
    dsimp only
    split
    · rename_i hq
      have := hatt.resolve_left (by simp [hq])
      omega
    · exact attempts
  | retry message now hid hl hs hr =>
    have hmode := leased (.inl (by simp [hl]))
    exact ⟨fun _ => ⟨rfl, rfl⟩, by simp, fun _ => hmode, by simp, by simp, attempts⟩
  | recover now hid hs ht hr =>
    have hmode := leased (.inr (upTo_isSome ht))
    exact ⟨fun _ => ⟨rfl, rfl⟩, by simp, fun _ => hmode, by simp, by simp, attempts⟩
  | restart completedAt hid =>
    have hmode := recovering_mode hf ho hid
    exact ⟨fun _ => ⟨rfl, rfl⟩, by simp, fun _ => hmode, by simp, by simp, attempts⟩
  | succeed result now hs _ => exact ⟨by simp, leased, by simp, by simp, by simp, attempts⟩
  | start step now hs => exact ⟨by simp, leased, by simp, by simp, by simp, attempts⟩
  | startClaimed step now hl hs ht =>
    exact ⟨by simp, leased, by simp, by simp, by simp, attempts⟩
  | fail message now hid hs =>
    exact ⟨by simp [failedRow], leased, by simp [failedRow], by simp [failedRow],
      by simp [failedRow], attempts⟩
  | expire now ht => exact ⟨by simp, leased, by simp, by simp, by simp, attempts⟩
  | exhaust now hs => exact ⟨by simp, leased, by simp, by simp, by simp, attempts⟩
  | cancel now hs hc => exact ⟨by simp, leased, by simp, by simp, by simp, attempts⟩
  | askToCancel status now hn hs hc => exact ⟨by simp, leased, by simp, by simp, by simp, attempts⟩
  | succeedClaimed result cancelTooLate now hl hs =>
    exact ⟨by simp, by simp, by simp, by simp, by simp, attempts⟩
  | failClaimed message now hl hs => exact ⟨by simp, by simp, by simp, by simp, by simp, attempts⟩
  | giveUp message now hid hl hs hr =>
    exact ⟨by simp, by simp, by simp, by simp, by simp, attempts⟩
  | cancelClaimed now hl hs => exact ⟨by simp, by simp, by simp, by simp, by simp, attempts⟩
  | requireAttention message now hl =>
    exact ⟨by simp, by simp, by simp, by simp, by simp, attempts⟩
  | abandon now hid hs ht hr => exact ⟨by simp, by simp, by simp, by simp, by simp, attempts⟩
  | interrupt completedAt hid => exact ⟨by simp, by simp, by simp, by simp, by simp, attempts⟩

/-- **Every row of every run is `RowOk`.** -/
theorem row_ok {G : State → Write → Prop} {s : State} (hs : Reachable sha256 G s) :
    ∀ o ∈ s.db.operation, RowOk o :=
  reach_rows RowOk hs (fun p now _ => row_ok_create p now)
    fun _ _ _ _ _ hw hc ho h => row_ok_change hw.formed ho hc h

/-- **What revives a finished operation**: `requireAttention` on one that still has a lease, and
the write of `onModuleInit`, which goes by id alone. -/
theorem RowChange.terminal_origin {w : Write} (hc : RowChange db w o o') (hf : w.Formed sha256 db)
    (hbef : o.status.terminal = true) (haft : o'.status ≠ o.status) :
    (∃ leaseOwner message now, w = .requireAttention o.id leaseOwner message now ∧
      o.leaseOwner = some leaseOwner) ∨
      ∃ found completedAt, w = .recoverInterrupted found completedAt ∧
        o.id ∈ found.map Interrupted.id := by
  have held : ∀ {s : OperationStatus}, s ∈ HELD_STATUSES → s.terminal = false := by
    intro s hs
    rcases mem_held.mp hs with rfl | rfl | rfl <;> rfl
  cases hc with
  | requireAttention message now hl => exact .inl ⟨_, message, now, rfl, hl⟩
  | restart completedAt hid =>
    obtain ⟨i, hi, he⟩ := List.mem_map.mp hid
    exact .inr ⟨_, completedAt, rfl, List.mem_map.mpr ⟨i, (List.mem_filter.mp hi).1, he⟩⟩
  | interrupt completedAt hid =>
    obtain ⟨i, hi, he⟩ := List.mem_map.mp hid
    exact .inr ⟨_, completedAt, rfl, List.mem_map.mpr ⟨i, (List.mem_filter.mp hi).1, he⟩⟩
  | same => exact absurd rfl haft
  | attachScope scope hs => exact absurd rfl haft
  | step step progress hs => exact absurd rfl haft
  | heartbeatClaim step progress now hl hs ht hd => exact absurd rfl haft
  | start step now hs => simp [hs, OperationStatus.terminal] at hbef
  | startClaimed step now hl hs ht => simp [hs, OperationStatus.terminal] at hbef
  | succeed result now hs _ => simp [hs, OperationStatus.terminal] at hbef
  | exhaust now hs => simp [hs, OperationStatus.terminal] at hbef
  | fail message now hid hs => simp [hs] at hbef
  | claim leaseOwner now hn =>
    obtain ⟨-, hst, -⟩ := claimable_iff.mp (nextClaim_mem hn).2.1
    rcases hst with hst | hst <;> simp [hst, OperationStatus.terminal] at hbef
  | succeedClaimed result cancelTooLate now hl hs =>
    rcases hs with hs | hs <;> simp [hs, OperationStatus.terminal] at hbef
  | failClaimed message now hl hs => simp [held hs] at hbef
  | retry message now hid hl hs hr => simp [held hs] at hbef
  | giveUp message now hid hl hs hr => simp [held hs] at hbef
  | cancelClaimed now hl hs => simp [held hs] at hbef
  | recover now hid hs ht hr => simp [hs, held hf] at hbef
  | abandon now hid hs ht hr => simp [hs, held hf] at hbef
  | expire now ht =>
    rcases hf with hf | hf <;> simp [hf, OperationStatus.terminal] at hbef
  | cancel now hs hc =>
    rcases hs with hs | hs | hs <;> simp [hs, OperationStatus.terminal] at hbef
  | askToCancel status now hn hs hc =>
    rcases hs with hs | hs <;> simp [hs, OperationStatus.terminal] at hbef

/-- The writes with which an execution finishes its operation: its id and lease owner. -/
def Write.finalises : Write → Option (String × String)
  | .succeedClaimed operationId leaseOwner _ _ _ => some (operationId, leaseOwner)
  | .failClaimed operationId leaseOwner _ _ => some (operationId, leaseOwner)
  | .cancelClaimed operationId leaseOwner _ => some (operationId, leaseOwner)
  | _ => none

/-- **What finishes an operation.** -/
theorem RowChange.finished {w : Write} (hc : RowChange db w o o')
    (hbef : o.status.terminal = false) (haft : o'.status.terminal = true) :
    (∃ result now, w = .succeed o.id result now ∧
      ∀ c ∈ db.operation, c.parentOperationId = some o.id → c.status.terminal = true) ∨
    (∃ operationId message now, w = .fail operationId message now ∧
      (o.id = operationId ∨ o.id ∈ activeChildIds db operationId)) ∨
    (∃ leaseOwner, w.finalises = some (o.id, leaseOwner) ∧ o.leaseOwner = some leaseOwner ∧
      o.status ∈ HELD_STATUSES) ∨
    (∃ now, w = .expire o.id o.status now ∧ upTo o.deadlineAt now = true) ∨
    (∃ now, w = .requestCancellation o.id o.status now ∧ o.cancelRequestedAt = none ∧
      (o.status = .pending ∨ o.status = .queued ∨ o.status = .recovering)) := by
  cases hc with
  | succeed result now hs hch => exact .inl ⟨result, now, rfl, hch⟩
  | fail message now hid hs => exact .inr (.inl ⟨_, message, now, rfl, hid⟩)
  | succeedClaimed result cancelTooLate now hl hs =>
    exact .inr (.inr (.inl ⟨_, rfl, hl, mem_held.mpr (.inr hs)⟩))
  | failClaimed message now hl hs => exact .inr (.inr (.inl ⟨_, rfl, hl, hs⟩))
  | cancelClaimed now hl hs => exact .inr (.inr (.inl ⟨_, rfl, hl, hs⟩))
  | expire now ht => exact .inr (.inr (.inr (.inl ⟨now, rfl, ht⟩)))
  | cancel now hs hc => exact .inr (.inr (.inr (.inr ⟨now, rfl, hc, hs⟩)))
  | same => exact absurd (hbef.symm.trans haft) (by simp)
  | attachScope scope hs => exact absurd (hbef.symm.trans haft) (by simp)
  | step step progress hs => exact absurd (hbef.symm.trans haft) (by simp)
  | heartbeatClaim step progress now hl hs ht hd =>
    exact absurd (hbef.symm.trans haft) (by simp)
  | _ => exact absurd haft (by simp [OperationStatus.terminal])

/-- A lease owner is set by a claim and by nothing else. -/
theorem RowChange.leaseOwner {w : Write} (hc : RowChange db w o o') {leaseOwner : String}
    (h : o'.leaseOwner = some leaseOwner) :
    o.leaseOwner = some leaseOwner ∨
      ∃ now, w = .claim leaseOwner now ∧ nextClaim db now = some o := by
  cases hc with
  | claim owner now hn =>
    cases h
    exact .inr ⟨now, rfl, hn⟩
  | heartbeatClaim step progress now hl hs ht hd => exact .inl h
  | same => exact .inl h
  | attachScope scope hs => exact .inl h
  | start step now hs => exact .inl h
  | step step progress hs => exact .inl h
  | succeed result now hs hch => exact .inl h
  | fail message now hid hs => exact .inl h
  | startClaimed step now hl hs ht => exact .inl h
  | expire now ht => exact .inl h
  | exhaust now hs => exact .inl h
  | cancel now hs hc => exact .inl h
  | askToCancel status now hn hs hc => exact .inl h
  | _ => exact absurd h (by simp)

/-- The site of an operation is set by `attachScope` and by nothing else. -/
theorem RowChange.siteId {w : Write} (hc : RowChange db w o o') :
    o'.siteId = o.siteId ∨ ∃ scope, w = .attachScope o.id scope := by
  cases hc with
  | attachScope scope hs => exact .inr ⟨scope, rfl⟩
  | _ => exact .inl rfl

end Meowbox.Operations
