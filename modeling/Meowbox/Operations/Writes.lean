import Meowbox.Operations.Begin

/-!
# What one committed write does

`Write` lists the statements and transactions of `OperationsService` with their arguments, and
`Db.commit` runs one. Everything proved about runs goes through a few facts about a commit:

* `mem_commit`: a row of the result was created, or is a row of the table after a `RowChange`.
  `RowChange` has one constructor per write with the guard of its `where` clause and the row its
  `data` leaves.
* `commit_rows`: the same with the order of the rows, which counting needs.
* `create_spec`, `createOperation_spec`: what the transaction of `begin` checked before it created
  its row.

What a commit does to the locks is in `Locks.lean`.
-/

namespace Meowbox.Operations

open Relational JsData

/-- One statement or transaction with its arguments. -/
inductive Write
  | create (p : PreparedBegin) (now : Time)
  | attachScope (operationId : String) (scope : AttachedScope)
  | start (operationId step : String) (now : Time)
  | step (operationId step : String) (progress : Int)
  | succeed (operationId : String) (result : JsValue) (now : Time)
  | fail (operationId message : String) (now : Time)
  | claim (leaseOwner : String) (now : Time)
  | startClaimed (operationId leaseOwner step : String) (now : Time)
  | heartbeatClaim (operationId leaseOwner : String) (step : Option String)
      (progress : Option Int) (now : Time)
  | succeedClaimed (operationId leaseOwner : String) (result : JsValue) (cancelTooLate : Bool)
      (now : Time)
  | failClaimed (operationId leaseOwner message : String) (now : Time)
  | retryOrRequireAttention (operation : ClaimedOperation) (leaseOwner message : String)
      (now : Time)
  | cancelClaimed (operationId leaseOwner : String) (now : Time)
  | requireAttention (operationId leaseOwner message : String) (now : Time)
  | recoverLease (l : LostLease) (now : Time)
  | expire (operationId : String) (status : OperationStatus) (now : Time)
  | releaseExpired (operationId : String)
  | exhaust (operationId : String) (attempt : Nat) (now : Time)
  | requestCancellation (operationId : String) (status : OperationStatus) (now : Time)
  | recoverInterrupted (found : List Interrupted) (completedAt : Time)

/-- Run a write. -/
def Db.commit (db : Db) : Write → Except Fault Committed
  | .create p now => beginTransaction db p now
  | .attachScope operationId scope => attachScopeWithClient db operationId scope
  | .start operationId step now => Operations.start db operationId step now
  | .step operationId step progress => Operations.step db operationId step progress
  | .succeed operationId result now => Operations.succeed db operationId result now
  | .fail operationId message now => .ok (Operations.fail db operationId message now)
  | .claim leaseOwner now => .ok (Operations.claim db leaseOwner now)
  | .startClaimed operationId leaseOwner step now =>
      Operations.startClaimed db operationId leaseOwner step now
  | .heartbeatClaim operationId leaseOwner step progress now =>
      .ok (Operations.heartbeatClaim db operationId leaseOwner step progress now)
  | .succeedClaimed operationId leaseOwner result cancelTooLate now =>
      Operations.succeedClaimed db operationId leaseOwner result cancelTooLate now
  | .failClaimed operationId leaseOwner message now =>
      Operations.failClaimed db operationId leaseOwner message now
  | .retryOrRequireAttention operation leaseOwner message now =>
      Operations.retryOrRequireAttention db operation leaseOwner message now
  | .cancelClaimed operationId leaseOwner now =>
      Operations.cancelClaimed db operationId leaseOwner now
  | .requireAttention operationId leaseOwner message now =>
      Operations.requireAttention db operationId leaseOwner message now
  | .recoverLease l now => .ok (Operations.recoverLease db l now)
  | .expire operationId status now => .ok (Operations.expire db operationId status now)
  | .releaseExpired operationId => .ok (Operations.releaseExpired db operationId)
  | .exhaust operationId attempt now => .ok (Operations.exhaust db operationId attempt now)
  | .requestCancellation operationId status now =>
      Operations.requestCancellation db operationId status now
  | .recoverInterrupted found completedAt =>
      .ok (Operations.recoverInterrupted db found completedAt)

/-! ## Rows -/

/-- The ids of the active children `fail` takes with it. -/
def activeChildIds (db : Db) (operationId : String) : List String :=
  (db.operation.findMany (activeChildOf operationId)).map Operation.id

/-- How one write may change one row. -/
inductive RowChange (db : Db) : Write → Operation → Operation → Prop
  | same (w : Write) (o : Operation) : RowChange db w o o
  | attachScope {o : Operation} (scope : AttachedScope) (hs : o.status ∈ EXECUTING_STATUSES) :
      RowChange db (.attachScope o.id scope) o
        { o with siteId := some scope.siteId, siteDomainId := truthy scope.siteDomainId }
  | start {o : Operation} (step : String) (now : Time) (hs : o.status = .pending) :
      RowChange db (.start o.id step now) o
        { o with status := .running, currentStep := some step, startedAt := some now, progress := 0 }
  | step {o : Operation} (step : String) (progress : Int) (hs : o.status = .running) :
      RowChange db (.step o.id step progress) o
        { o with currentStep := some step, progress := clampProgress progress }
  | succeed {o : Operation} (result : JsValue) (now : Time) (hs : o.status = .running)
      (hc : ∀ c ∈ db.operation, c.parentOperationId = some o.id → c.status.terminal = true) :
      RowChange db (.succeed o.id result now) o
        { o with
          status := .succeeded, currentStep := none, progress := 100,
          result := resultText result, errorMessage := none, completedAt := some now }
  | fail {operationId : String} {o : Operation} (message : String) (now : Time)
      (hid : o.id = operationId ∨ o.id ∈ activeChildIds db operationId)
      (hs : o.status.terminal = false) :
      RowChange db (.fail operationId message now) o (failedRow message now o)
  | claim {o : Operation} (leaseOwner : String) (now : Time)
      (hn : nextClaim db now = some o) :
      RowChange db (.claim leaseOwner now) o
        { o with
          status := .claimed,
          currentStep := some (if o.status = .recovering then "reconcile" else "start"),
          attempt := if o.status = .queued then o.attempt + 1 else o.attempt,
          leaseOwner := some leaseOwner, leaseExpiresAt := some (now + LEASE_MS),
          heartbeatAt := some now, claimedAt := some now, completedAt := none }
  | startClaimed {o : Operation} {leaseOwner : String} (step : String) (now : Time)
      (hl : o.leaseOwner = some leaseOwner) (hs : o.status = .claimed)
      (ht : after o.leaseExpiresAt now = true) :
      RowChange db (.startClaimed o.id leaseOwner step now) o
        { o with
          status := .running, currentStep := some step, startedAt := some now,
          heartbeatAt := some now }
  | heartbeatClaim {o : Operation} {leaseOwner : String} (step : Option String)
      (progress : Option Int) (now : Time) (hl : o.leaseOwner = some leaseOwner)
      (hs : o.status ∈ HELD_STATUSES) (ht : after o.leaseExpiresAt now = true)
      (hd : after o.deadlineAt now = true) :
      RowChange db (.heartbeatClaim o.id leaseOwner step progress now) o
        { o with
          heartbeatAt := some now, leaseExpiresAt := some (now + LEASE_MS),
          currentStep := step.orElse fun _ => o.currentStep,
          progress := (progress.map clampProgress).getD o.progress }
  | succeedClaimed {o : Operation} {leaseOwner : String} (result : JsValue)
      (cancelTooLate : Bool) (now : Time) (hl : o.leaseOwner = some leaseOwner)
      (hs : o.status = .running ∨ o.status = .cancelRequested) :
      RowChange db (.succeedClaimed o.id leaseOwner result cancelTooLate now) o
        { o with
          status := .succeeded, currentStep := none, progress := 100,
          result := resultText result, errorMessage := none,
          leaseOwner := none, leaseExpiresAt := none, heartbeatAt := none,
          completedAt := some now,
          cancelOutcome := some (if cancelTooLate || o.status == .cancelRequested ||
            o.cancelRequestedAt.isSome then .tooLate else .notRequested) }
  | failClaimed {o : Operation} {leaseOwner : String} (message : String) (now : Time)
      (hl : o.leaseOwner = some leaseOwner) (hs : o.status ∈ HELD_STATUSES) :
      RowChange db (.failClaimed o.id leaseOwner message now) o
        { o with
          status := .failed, currentStep := none, errorMessage := some message,
          leaseOwner := none, leaseExpiresAt := none, heartbeatAt := none,
          completedAt := some now, cancelOutcome := some .notRequested }
  | retry {operation : ClaimedOperation} {o : Operation} {leaseOwner : String}
      (message : String) (now : Time) (hid : o.id = operation.id)
      (hl : o.leaseOwner = some leaseOwner) (hs : o.status ∈ HELD_STATUSES)
      (hr : operation.canRetry now = true) :
      RowChange db (.retryOrRequireAttention operation leaseOwner message now) o
        { o with
          status := .queued, currentStep := none, errorMessage := some message,
          leaseOwner := none, leaseExpiresAt := none, heartbeatAt := none, claimedAt := none }
  | giveUp {operation : ClaimedOperation} {o : Operation} {leaseOwner : String}
      (message : String) (now : Time) (hid : o.id = operation.id)
      (hl : o.leaseOwner = some leaseOwner) (hs : o.status ∈ HELD_STATUSES)
      (hr : operation.canRetry now = false) :
      RowChange db (.retryOrRequireAttention operation leaseOwner message now) o
        { o with
          status := .needsAttention, currentStep := none, errorMessage := some message,
          leaseOwner := none, leaseExpiresAt := none, heartbeatAt := none,
          completedAt := some now }
  | cancelClaimed {o : Operation} {leaseOwner : String} (now : Time)
      (hl : o.leaseOwner = some leaseOwner) (hs : o.status ∈ HELD_STATUSES) :
      RowChange db (.cancelClaimed o.id leaseOwner now) o
        { o with
          status := .cancelled, currentStep := none,
          leaseOwner := none, leaseExpiresAt := none, heartbeatAt := none,
          cancelOutcome := some .cancelled, completedAt := some now }
  | requireAttention {o : Operation} {leaseOwner : String} (message : String) (now : Time)
      (hl : o.leaseOwner = some leaseOwner) :
      RowChange db (.requireAttention o.id leaseOwner message now) o
        { o with
          status := .needsAttention, currentStep := none, errorMessage := some message,
          leaseOwner := none, leaseExpiresAt := none, heartbeatAt := none,
          completedAt := some now }
  | recover {l : LostLease} {o : Operation} (now : Time) (hid : o.id = l.id)
      (hs : o.status = l.status) (ht : upTo o.leaseExpiresAt now = true)
      (hr : l.recoverable = true) :
      RowChange db (.recoverLease l now) o
        { o with
          status := .recovering, currentStep := some "reconcile",
          leaseOwner := none, leaseExpiresAt := none, heartbeatAt := none }
  | abandon {l : LostLease} {o : Operation} (now : Time) (hid : o.id = l.id)
      (hs : o.status = l.status) (ht : upTo o.leaseExpiresAt now = true)
      (hr : l.recoverable = false) :
      RowChange db (.recoverLease l now) o
        { o with
          status := .needsAttention, currentStep := none,
          errorMessage := some "Operation lease expired; reconciliation is required",
          leaseOwner := none, leaseExpiresAt := none, heartbeatAt := none,
          completedAt := some now }
  | expire {o : Operation} (now : Time) (ht : upTo o.deadlineAt now = true) :
      RowChange db (.expire o.id o.status now) o
        { o with
          status := .failed,
          errorMessage := some "Operation deadline expired before execution",
          completedAt := some now, currentStep := none }
  | exhaust {o : Operation} (now : Time) (hs : o.status = .queued) :
      RowChange db (.exhaust o.id o.attempt now) o
        { o with
          status := .needsAttention,
          errorMessage := some "Operation attempt budget exhausted", completedAt := some now }
  | cancel {o : Operation} (now : Time)
      (hs : o.status = .pending ∨ o.status = .queued ∨ o.status = .recovering)
      (hc : o.cancelRequestedAt = none) :
      RowChange db (.requestCancellation o.id o.status now) o
        { o with
          status := .cancelled, cancelRequestedAt := some now,
          cancelOutcome := some .cancelled, completedAt := some now, currentStep := none }
  | askToCancel {o : Operation} (status : OperationStatus) (now : Time)
      (hn : status ≠ .pending ∧ status ≠ .queued ∧ status ≠ .recovering)
      (hs : o.status = .claimed ∨ o.status = .running) (hc : o.cancelRequestedAt = none) :
      RowChange db (.requestCancellation o.id status now) o
        { o with
          status := .cancelRequested, cancelRequestedAt := some now,
          cancelOutcome := some .pending }
  | restart {found : List Interrupted} {o : Operation} (completedAt : Time)
      (hid : o.id ∈ recoveringIds found) :
      RowChange db (.recoverInterrupted found completedAt) o
        { o with
          status := .recovering, currentStep := some "reconcile",
          leaseOwner := none, leaseExpiresAt := none, heartbeatAt := none, completedAt := none }
  | interrupt {found : List Interrupted} {o : Operation} (completedAt : Time)
      (hid : o.id ∈ (attention found).map Interrupted.id) :
      RowChange db (.recoverInterrupted found completedAt) o
        { o with
          status := .needsAttention, currentStep := none,
          leaseOwner := none, leaseExpiresAt := none,
          errorMessage := some RESTART_ATTENTION, completedAt := some completedAt }

/-! ### Reading a successful write -/

@[simp] theorem requireOne_eq_ok {c c' : Committed} {fault : Fault} :
    c.requireOne fault = .ok c' ↔ c.count = 1 ∧ c' = c := by
  unfold Committed.requireOne
  split
  · rename_i h
    simp [h, eq_comm]
  · rename_i h
    simp [h]

variable {operationId leaseOwner : String} {o : Operation}

theorem heldBy_iff {statuses : List OperationStatus} :
    heldBy operationId leaseOwner statuses o = true ↔
      o.id = operationId ∧ o.leaseOwner = some leaseOwner ∧ o.status ∈ statuses := by
  simp [heldBy, and_assoc]

theorem activeChildOf_iff :
    activeChildOf operationId o = true ↔
      o.parentOperationId = some operationId ∧ o.status.terminal = false := by
  simp [activeChildOf, holding_iff_not_terminal]

variable {db : Db}

theorem mem_activeChildIds {id : String} :
    id ∈ activeChildIds db operationId ↔
      ∃ c ∈ db.operation, c.id = id ∧ c.parentOperationId = some operationId ∧
        c.status.terminal = false := by
  simp only [activeChildIds, List.mem_map, Table.mem_findMany, activeChildOf_iff]
  constructor
  · rintro ⟨c, ⟨hc, hp, ht⟩, hid⟩
    exact ⟨c, hc, hid, hp, ht⟩
  · rintro ⟨c, hc, hid, hp, ht⟩
    exact ⟨c, ⟨hc, hp, ht⟩, hid⟩

variable {w : Write}

/-- The rows an update leaves, when each row it matches changes as the write says. -/
theorem patch_rowChange {p : Operation → Bool} {f : Operation → Operation}
    (h : ∀ o ∈ db.operation, p o = true → RowChange db w o (f o)) :
    ∀ o ∈ db.operation, RowChange db w o (Table.patch p f o) := by
  intro o ho
  by_cases hp : p o = true
  · rw [Table.patch_pos hp]
    exact h o ho hp
  · rw [Table.patch_neg hp]
    exact .same w o

theorem oldest_mem : ∀ {os : List Operation} {c : Operation}, oldest os = some c → c ∈ os
  | [], c, h => by simp [oldest] at h
  | o :: os, c, h => by
    unfold oldest at h
    split at h
    · simp only [Option.some.injEq] at h
      exact h ▸ List.mem_cons_self
    · rename_i p hp
      split at h
      · simp only [Option.some.injEq] at h
        exact h ▸ List.mem_cons_self
      · exact List.mem_cons_of_mem o (oldest_mem (h ▸ hp))

variable {now : Time}

/-- The claim statement takes a candidate, and only below the capacity. -/
theorem nextClaim_mem {c : Operation} (h : nextClaim db now = some c) :
    c ∈ db.operation ∧ claimable now c = true ∧ db.operation.count (leased now) < 2 := by
  unfold nextClaim at h
  split at h
  · rename_i hcap
    obtain ⟨hc, hp⟩ := Table.mem_findMany.mp (oldest_mem h)
    exact ⟨hc, hp, hcap⟩
  · exact absurd h (by simp)

theorem eq_of_id {a b : Operation} (ha : a ∈ db.operation) (hb : b ∈ db.operation)
    (h : a.id = b.id) : a = b := Table.eq_of_key id_mem_keys ha hb h

/-- A row an update matches is in the table as the update leaves it. -/
theorem mem_update {c : Committed} {p : Operation → Bool} {f : Operation → Operation}
    (hrows : c.db.operation.rows = db.operation.rows.map (Table.patch p f))
    (ho : o ∈ db.operation) (hp : p o = true) : f o ∈ c.db.operation := by
  rw [Table.mem_def, hrows]
  exact List.mem_map.mpr ⟨o, ho, Table.patch_pos hp⟩

/-! ### One lemma per write -/

/-- The rows of `c` are those of `db`, each after a change by `w`. -/
def Changes (db : Db) (w : Write) (c : Committed) : Prop :=
  ∃ g, c.db.operation.rows = db.operation.rows.map g ∧ ∀ o ∈ db.operation, RowChange db w o (g o)

theorem changes_update {p : Operation → Bool} {f : Operation → Operation}
    {hf : ∀ o, (f o).id = o.id ∧ (f o).idempotencyKey = o.idempotencyKey}
    (h : ∀ o ∈ db.operation, p o = true → RowChange db w o (f o)) :
    Changes db w (db.updateOperations p f hf) := ⟨_, rfl, patch_rowChange h⟩

/-- An update whose transaction then deletes locks. -/
theorem changes_release {c c' : Committed} (h : Changes db w c)
    (hc : c' = c.releaseLocks operationId) : Changes db w c' := by
  subst hc
  exact h

variable {c : Committed}

theorem start_changes {step : String} (h : start db operationId step now = .ok c) :
    Changes db (.start operationId step now) c := by
  unfold start at h
  obtain ⟨-, rfl⟩ := requireOne_eq_ok.mp h
  refine changes_update fun o _ hp => ?_
  simp only [Bool.and_eq_true, beq_iff_eq] at hp
  obtain ⟨rfl, hs⟩ := hp
  exact .start step now hs

theorem step_changes {step : String} {progress : Int}
    (h : Operations.step db operationId step progress = .ok c) :
    Changes db (.step operationId step progress) c := by
  unfold Operations.step at h
  obtain ⟨-, rfl⟩ := requireOne_eq_ok.mp h
  refine changes_update fun o _ hp => ?_
  simp only [Bool.and_eq_true, beq_iff_eq] at hp
  obtain ⟨rfl, hs⟩ := hp
  exact .step step progress hs

theorem succeed_changes {result : JsValue} (h : succeed db operationId result now = .ok c) :
    Changes db (.succeed operationId result now) c := by
  unfold succeed at h
  split at h
  · exact absurd h (by simp)
  split at h
  · exact absurd h (by simp)
  rename_i hchild
  split at h
  · exact absurd h (by simp)
  rename_i updated hu
  simp only [Except.ok.injEq] at h
  obtain ⟨-, rfl⟩ := requireOne_eq_ok.mp hu
  refine changes_release (changes_update fun o _ hp => ?_) h.symm
  simp only [Bool.and_eq_true, beq_iff_eq] at hp
  obtain ⟨rfl, hs⟩ := hp
  refine .succeed result now hs fun child hm hpar => ?_
  have hno := Table.find?_eq_none.mp hchild child hm
  rw [activeChildOf_iff] at hno
  by_contra hlive
  exact hno ⟨hpar, by simpa using hlive⟩

/-- The rows the first statement of `fail` matches. -/
def failsAsChild (db : Db) (operationId : String) (o : Operation) : Bool :=
  (activeChildIds db operationId).contains o.id && LOCK_HOLDING_STATUSES.contains o.status

/-- The rows its second statement matches. -/
def failsItself (operationId : String) (o : Operation) : Bool :=
  o.id == operationId && LOCK_HOLDING_STATUSES.contains o.status

/-- `fail` updates in two statements; together they change each matched row once. -/
theorem fail_changes (db : Db) (operationId message : String) (now : Time) :
    Changes db (.fail operationId message now) (fail db operationId message now) := by
  have hrows : (fail db operationId message now).db.operation.rows = db.operation.rows.map
      (Table.patch (failsItself operationId) (failedRow message now) ∘
        Table.patch (failsAsChild db operationId) (failedRow message now)) := List.map_map
  refine ⟨_, hrows, fun o ho => ?_⟩
  simp only [Function.comp]
  by_cases hchild : failsAsChild db operationId o = true
  · have hdone : ¬ failsItself operationId (failedRow message now o) = true := by
      have : LOCK_HOLDING_STATUSES.contains OperationStatus.failed = false := by decide
      unfold failsItself failedRow
      rw [this, Bool.and_false]
      exact Bool.false_ne_true
    rw [Table.patch_pos hchild, Table.patch_neg hdone]
    simp only [failsAsChild, Bool.and_eq_true, List.contains_iff_mem,
      holding_iff_not_terminal] at hchild
    exact .fail message now (.inr hchild.1) hchild.2
  · rw [Table.patch_neg hchild]
    refine patch_rowChange (fun o _ hp => ?_) o ho
    simp only [failsItself, Bool.and_eq_true, beq_iff_eq, List.contains_iff_mem,
      holding_iff_not_terminal] at hp
    exact .fail message now (.inl hp.1) hp.2

theorem claim_changes (db : Db) (leaseOwner : String) (now : Time) :
    Changes db (.claim leaseOwner now) (claim db leaseOwner now) := by
  refine changes_update fun o ho hp => ?_
  cases hn : nextClaim db now with
  | none => simp [hn] at hp
  | some n =>
    rw [hn, Option.any_some, beq_iff_eq] at hp
    have he : n = o := eq_of_id (nextClaim_mem hn).1 ho hp
    exact .claim leaseOwner now (he ▸ hn)

theorem startClaimed_changes {step : String}
    (h : startClaimed db operationId leaseOwner step now = .ok c) :
    Changes db (.startClaimed operationId leaseOwner step now) c := by
  unfold startClaimed at h
  obtain ⟨-, rfl⟩ := requireOne_eq_ok.mp h
  refine changes_update fun o _ hp => ?_
  rw [Bool.and_eq_true, heldBy_iff] at hp
  obtain ⟨⟨rfl, hl, hs⟩, ht⟩ := hp
  exact .startClaimed step now hl (List.mem_singleton.mp hs) ht

theorem heartbeatClaim_changes (db : Db) (operationId leaseOwner : String) (step : Option String)
    (progress : Option Int) (now : Time) :
    Changes db (.heartbeatClaim operationId leaseOwner step progress now)
      (heartbeatClaim db operationId leaseOwner step progress now) := by
  refine changes_update fun o _ hp => ?_
  rw [Bool.and_eq_true, Bool.and_eq_true, heldBy_iff] at hp
  obtain ⟨⟨⟨rfl, hl, hs⟩, ht⟩, hd⟩ := hp
  exact .heartbeatClaim step progress now hl hs ht hd

/-- The row `succeedClaimed` reads first is the row it updates. -/
theorem succeedClaimed_changes {result : JsValue} {cancelTooLate : Bool}
    (h : succeedClaimed db operationId leaseOwner result cancelTooLate now = .ok c) :
    Changes db (.succeedClaimed operationId leaseOwner result cancelTooLate now) c := by
  unfold succeedClaimed at h
  split at h
  · exact absurd h (by simp)
  split at h
  · exact absurd h (by simp)
  rename_i current hcur
  split at h
  · exact absurd h (by simp)
  rename_i updated hu
  simp only [Except.ok.injEq] at h
  obtain ⟨-, rfl⟩ := requireOne_eq_ok.mp hu
  refine changes_release (changes_update fun o ho hp => ?_) h.symm
  obtain ⟨hm, hheld⟩ := Table.mem_of_find? hcur
  rw [heldBy_iff] at hheld hp
  have he : current = o := eq_of_id hm ho (hheld.1.trans hp.1.symm)
  subst he
  obtain ⟨rfl, hl, -⟩ := hp
  refine .succeedClaimed result cancelTooLate now hl ?_
  simpa using hheld.2.2

theorem failClaimed_changes {message : String}
    (h : failClaimed db operationId leaseOwner message now = .ok c) :
    Changes db (.failClaimed operationId leaseOwner message now) c := by
  unfold failClaimed at h
  split at h
  · exact absurd h (by simp)
  rename_i updated hu
  simp only [Except.ok.injEq] at h
  obtain ⟨-, rfl⟩ := requireOne_eq_ok.mp hu
  refine changes_release (changes_update fun o _ hp => ?_) h.symm
  obtain ⟨rfl, hl, hs⟩ := heldBy_iff.mp hp
  exact .failClaimed message now hl hs

theorem retryOrRequireAttention_changes {operation : ClaimedOperation} {message : String}
    (h : retryOrRequireAttention db operation leaseOwner message now = .ok c) :
    Changes db (.retryOrRequireAttention operation leaseOwner message now) c := by
  unfold retryOrRequireAttention at h
  obtain ⟨-, rfl⟩ := requireOne_eq_ok.mp h
  refine changes_update fun o _ hp => ?_
  obtain ⟨hid, hl, hs⟩ := heldBy_iff.mp hp
  split
  · rename_i hr
    exact .retry message now hid hl hs hr
  · rename_i hr
    exact .giveUp message now hid hl hs (by simpa using hr)

theorem cancelClaimed_changes (h : cancelClaimed db operationId leaseOwner now = .ok c) :
    Changes db (.cancelClaimed operationId leaseOwner now) c := by
  unfold cancelClaimed at h
  split at h
  · exact absurd h (by simp)
  rename_i updated hu
  simp only [Except.ok.injEq] at h
  obtain ⟨-, rfl⟩ := requireOne_eq_ok.mp hu
  refine changes_release (changes_update fun o _ hp => ?_) h.symm
  obtain ⟨rfl, hl, hs⟩ := heldBy_iff.mp hp
  exact .cancelClaimed now hl hs

theorem requireAttention_changes {message : String}
    (h : requireAttention db operationId leaseOwner message now = .ok c) :
    Changes db (.requireAttention operationId leaseOwner message now) c := by
  unfold requireAttention at h
  obtain ⟨-, rfl⟩ := requireOne_eq_ok.mp h
  refine changes_update fun o _ hp => ?_
  simp only [Bool.and_eq_true, beq_iff_eq] at hp
  obtain ⟨rfl, hl⟩ := hp
  exact .requireAttention message now hl

theorem recoverLease_changes (db : Db) (l : LostLease) (now : Time) :
    Changes db (.recoverLease l now) (recoverLease db l now) := by
  refine changes_update fun o _ hp => ?_
  simp only [Bool.and_eq_true, beq_iff_eq] at hp
  obtain ⟨⟨hid, hs⟩, ht⟩ := hp
  split
  · rename_i hr
    exact .recover now hid hs ht hr
  · rename_i hr
    exact .abandon now hid hs ht (by simpa using hr)

theorem expire_changes (db : Db) (operationId : String) (status : OperationStatus) (now : Time) :
    Changes db (.expire operationId status now) (expire db operationId status now) := by
  refine changes_update fun o _ hp => ?_
  simp only [Bool.and_eq_true, beq_iff_eq] at hp
  obtain ⟨⟨rfl, rfl⟩, ht⟩ := hp
  exact .expire now ht

theorem exhaust_changes (db : Db) (operationId : String) (attempt : Nat) (now : Time) :
    Changes db (.exhaust operationId attempt now) (exhaust db operationId attempt now) := by
  refine changes_update fun o _ hp => ?_
  simp only [Bool.and_eq_true, beq_iff_eq] at hp
  obtain ⟨⟨rfl, hs⟩, rfl⟩ := hp
  exact .exhaust now hs

/-- The two branches of the transaction go by the status read before it. -/
theorem requestCancellation_changes {status : OperationStatus}
    (h : requestCancellation db operationId status now = .ok c) :
    Changes db (.requestCancellation operationId status now) c := by
  unfold requestCancellation at h
  split at h
  · rename_i hbr
    split at h
    · exact absurd h (by simp)
    rename_i updated hu
    simp only [Except.ok.injEq] at h
    obtain ⟨-, rfl⟩ := requireOne_eq_ok.mp hu
    refine changes_release (changes_update fun o _ hp => ?_) h.symm
    simp only [Bool.and_eq_true, beq_iff_eq, Option.isNone_iff_eq_none] at hp
    obtain ⟨⟨rfl, rfl⟩, hc⟩ := hp
    exact .cancel now (by simpa using hbr) hc
  · rename_i hbr
    obtain ⟨-, rfl⟩ := requireOne_eq_ok.mp h
    refine changes_update fun o _ hp => ?_
    simp only [Bool.and_eq_true, Bool.or_eq_true, beq_iff_eq, Option.isNone_iff_eq_none] at hp
    obtain ⟨⟨rfl, hs⟩, hc⟩ := hp
    exact .askToCancel status now (by simpa using hbr) hs hc

theorem attachScope_changes {scope : AttachedScope}
    (h : attachScopeWithClient db operationId scope = .ok c) :
    Changes db (.attachScope operationId scope) c := by
  unfold attachScopeWithClient at h
  split at h
  · exact absurd h (by simp)
  simp only [bind, Except.bind] at h
  split at h
  · exact absurd h (by simp)
  split at h
  · exact absurd h (by simp)
  split at h
  · exact absurd h (by simp)
  obtain ⟨-, rfl⟩ := requireOne_eq_ok.mp h
  refine ⟨_, rfl, patch_rowChange fun o _ hp => ?_⟩
  simp only [Bool.and_eq_true, beq_iff_eq, List.contains_iff_mem] at hp
  obtain ⟨rfl, hs⟩ := hp
  exact .attachScope scope hs

variable {found : List Interrupted}

/-- No operation is both recovered and left for an operator. -/
theorem attention_not_recovering {id : String} (h : id ∈ (attention found).map Interrupted.id) :
    id ∉ recoveringIds found := by
  obtain ⟨i, hi, rfl⟩ := List.mem_map.mp h
  have hno := (List.mem_filter.mp hi).2
  simpa using hno

/-- The row `onModuleInit` leaves of one it recovers. -/
def restartedRow (o : Operation) : Operation :=
  { o with
    status := .recovering, currentStep := some "reconcile",
    leaseOwner := none, leaseExpiresAt := none, heartbeatAt := none, completedAt := none }

/-- The row it leaves of one an operator must look at. -/
def interruptedRow (completedAt : Time) (o : Operation) : Operation :=
  { o with
    status := .needsAttention, currentStep := none,
    leaseOwner := none, leaseExpiresAt := none,
    errorMessage := some RESTART_ATTENTION, completedAt := some completedAt }

def isRecovering (found : List Interrupted) (o : Operation) : Bool :=
  (recoveringIds found).contains o.id

def needsOperator (found : List Interrupted) (o : Operation) : Bool :=
  ((attention found).map Interrupted.id).contains o.id

/-- What both updates of `onModuleInit` make of a row. -/
def restartRow (found : List Interrupted) (completedAt : Time) : Operation → Operation :=
  Table.patch (needsOperator found) (interruptedRow completedAt) ∘
    Table.patch (isRecovering found) restartedRow

theorem recoverInterrupted_rows (db : Db) (found : List Interrupted) (completedAt : Time) :
    (recoverInterrupted db found completedAt).db.operation.rows =
      db.operation.rows.map (restartRow found completedAt) := List.map_map

variable (completedAt : Time)

theorem restartRow_recovering (h : o.id ∈ recoveringIds found) :
    restartRow found completedAt o = restartedRow o := by
  have hfirst : isRecovering found o = true := List.contains_iff_mem.mpr h
  have hsnd : ¬ needsOperator found (restartedRow o) = true :=
    fun hc => attention_not_recovering (List.contains_iff_mem.mp hc) h
  unfold restartRow
  rw [Function.comp, Table.patch_pos hfirst, Table.patch_neg hsnd]

theorem restartRow_attention (h : o.id ∈ (attention found).map Interrupted.id) :
    restartRow found completedAt o = interruptedRow completedAt o := by
  have hfirst : ¬ isRecovering found o = true :=
    fun hc => attention_not_recovering h (List.contains_iff_mem.mp hc)
  have hsnd : needsOperator found o = true := List.contains_iff_mem.mpr h
  unfold restartRow
  rw [Function.comp, Table.patch_neg hfirst, Table.patch_pos hsnd]

theorem restartRow_other (hr : o.id ∉ recoveringIds found)
    (ha : o.id ∉ (attention found).map Interrupted.id) :
    restartRow found completedAt o = o := by
  have hfirst : ¬ isRecovering found o = true := mt List.contains_iff_mem.mp hr
  have hsnd : ¬ needsOperator found o = true := mt List.contains_iff_mem.mp ha
  unfold restartRow
  rw [Function.comp, Table.patch_neg hfirst, Table.patch_neg hsnd]

theorem recoverInterrupted_changes (db : Db) (found : List Interrupted) (completedAt : Time) :
    Changes db (.recoverInterrupted found completedAt)
      (recoverInterrupted db found completedAt) := by
  refine ⟨_, recoverInterrupted_rows db found completedAt, fun o _ => ?_⟩
  by_cases hr : o.id ∈ recoveringIds found
  · rw [restartRow_recovering completedAt hr]
    exact .restart completedAt hr
  by_cases ha : o.id ∈ (attention found).map Interrupted.id
  · rw [restartRow_attention completedAt ha]
    exact .interrupt completedAt ha
  · rw [restartRow_other completedAt hr ha]
    exact .same _ o

/-! ### Creation -/

/-- The call asks for its site's lock and may not rely on a parent's. -/
theorem createOperation_spec {p : PreparedBegin} (h : createOperation db p now = .ok c) :
    c.db.operation.rows = db.operation.rows ++ [p.row now] ∧
      c.db.operationLock.rows = db.operationLock.rows ++ lockRows p.operationId p.lockSpecs ∧
      (∀ o ∈ db.operation, o.id ≠ p.operationId ∧ o.idempotencyKey ≠ p.idempotencyKey) ∧
      ∀ l ∈ db.operationLock, ∀ s ∈ p.lockSpecs, l.resourceKey ≠ s.resourceKey := by
  unfold createOperation at h
  split at h
  · exact absurd h (by simp)
  rename_i operation hop
  split at h
  · exact absurd h (by simp)
  rename_i operationLock hlock
  simp only [Except.ok.injEq] at h
  subst h
  obtain ⟨hrows, hfr⟩ := Table.create?_eq_some hop
  refine ⟨hrows, Table.createMany?_rows hlock, fun o ho => ⟨fun he => ?_, fun he => ?_⟩,
    fun l hl s hs he => ?_⟩
  · exact hfr _ id_mem_keys (List.mem_map.mpr ⟨o, ho, he⟩)
  · exact hfr _ idempotencyKey_mem_keys (List.mem_map.mpr ⟨o, ho, he⟩)
  · exact Table.createMany?_fresh hlock _ List.mem_cons_self _ (List.mem_map.mpr ⟨s, hs, rfl⟩)
      (List.mem_map.mpr ⟨l, hl, he⟩)

/-- What the transaction of `begin` checked, and what it created. -/
theorem create_spec {p : PreparedBegin} (h : beginTransaction db p now = .ok c) :
    checkAdmission db p.input = .ok () ∧ checkParent db p.input = .ok () ∧
      assertScopeHierarchyAvailable db
        ⟨p.input.siteId, p.input.lockSite, p.input.parentOperationId⟩ none = .ok () ∧
      createOperation db p now = .ok c := by
  unfold beginTransaction at h
  simp only [bind, Except.bind] at h
  split at h
  · exact absurd h (by simp)
  rename_i hadm
  split at h
  · exact absurd h (by simp)
  rename_i hpar
  split at h
  · exact absurd h (by simp)
  split at h
  · exact absurd h (by simp)
  rename_i hsc
  exact ⟨hadm, hpar, hsc, h⟩

/-! ## Every write -/

/-- **The rows after a commit**: a created row is appended, else each row is changed in place. -/
theorem commit_rows (h : db.commit w = .ok c) :
    (∃ p now, w = .create p now ∧ c.db.operation.rows = db.operation.rows ++ [p.row now]) ∨
      Changes db w c := by
  cases w with
  | create p now =>
    exact .inl ⟨p, now, rfl, (createOperation_spec (create_spec h).2.2.2).1⟩
  | attachScope operationId scope => exact .inr (attachScope_changes h)
  | start operationId step now => exact .inr (start_changes h)
  | step operationId step progress => exact .inr (step_changes h)
  | succeed operationId result now => exact .inr (succeed_changes h)
  | startClaimed operationId leaseOwner step now => exact .inr (startClaimed_changes h)
  | succeedClaimed operationId leaseOwner result cancelTooLate now =>
    exact .inr (succeedClaimed_changes h)
  | failClaimed operationId leaseOwner message now => exact .inr (failClaimed_changes h)
  | retryOrRequireAttention operation leaseOwner message now =>
    exact .inr (retryOrRequireAttention_changes h)
  | cancelClaimed operationId leaseOwner now => exact .inr (cancelClaimed_changes h)
  | requireAttention operationId leaseOwner message now =>
    exact .inr (requireAttention_changes h)
  | requestCancellation operationId status now => exact .inr (requestCancellation_changes h)
  | fail operationId message now =>
    cases h
    exact .inr (fail_changes db operationId message now)
  | claim leaseOwner now =>
    cases h
    exact .inr (claim_changes db leaseOwner now)
  | heartbeatClaim operationId leaseOwner step progress now =>
    cases h
    exact .inr (heartbeatClaim_changes db operationId leaseOwner step progress now)
  | recoverLease l now =>
    cases h
    exact .inr (recoverLease_changes db l now)
  | expire operationId status now =>
    cases h
    exact .inr (expire_changes db operationId status now)
  | exhaust operationId attempt now =>
    cases h
    exact .inr (exhaust_changes db operationId attempt now)
  | releaseExpired operationId =>
    cases h
    exact .inr ⟨id, (List.map_id _).symm, fun o _ => .same _ o⟩
  | recoverInterrupted found completedAt =>
    cases h
    exact .inr (recoverInterrupted_changes db found completedAt)

/-- **A row after a commit** was created by it or is a changed row of the table. -/
theorem mem_commit (h : db.commit w = .ok c) {o' : Operation} (ho' : o' ∈ c.db.operation) :
    (∃ p now, w = .create p now ∧ o' = p.row now) ∨ ∃ o ∈ db.operation, RowChange db w o o' := by
  rcases commit_rows h with ⟨p, now, hw, hrows⟩ | ⟨g, hrows, hg⟩
  · rw [Table.mem_def, hrows, List.mem_append, List.mem_singleton] at ho'
    rcases ho' with ho | rfl
    · exact .inr ⟨o', ho, .same w o'⟩
    · exact .inl ⟨p, now, hw, rfl⟩
  · rw [Table.mem_def, hrows] at ho'
    obtain ⟨o, ho, rfl⟩ := List.mem_map.mp ho'
    exact .inr ⟨o, ho, hg o ho⟩

/-- No write removes a row. -/
theorem commit_keeps (h : db.commit w = .ok c) (ho : o ∈ db.operation) :
    ∃ o' ∈ c.db.operation, RowChange db w o o' := by
  rcases commit_rows h with ⟨p, now, hw, hrows⟩ | ⟨g, hrows, hg⟩
  · exact ⟨o, by rw [Table.mem_def, hrows]; exact List.mem_append_left _ ho, .same w o⟩
  · exact ⟨g o, by rw [Table.mem_def, hrows]; exact List.mem_map_of_mem ho, hg o ho⟩

/-- The columns no write changes. -/
structure SameIdentity (o o' : Operation) : Prop where
  id : o'.id = o.id
  idempotencyKey : o'.idempotencyKey = o.idempotencyKey
  requestHash : o'.requestHash = o.requestHash
  type : o'.type = o.type
  createdByUserId : o'.createdByUserId = o.createdByUserId
  parentOperationId : o'.parentOperationId = o.parentOperationId
  databaseId : o'.databaseId = o.databaseId
  globalLockKey : o'.globalLockKey = o.globalLockKey
  executionMode : o'.executionMode = o.executionMode
  maxAttempts : o'.maxAttempts = o.maxAttempts
  retryable : o'.retryable = o.retryable
  recoveryPolicy : o'.recoveryPolicy = o.recoveryPolicy
  deadlineAt : o'.deadlineAt = o.deadlineAt

theorem RowChange.identity {o' : Operation} (h : RowChange db w o o') : SameIdentity o o' := by
  cases h <;> exact ⟨rfl, rfl, rfl, rfl, rfl, rfl, rfl, rfl, rfl, rfl, rfl, rfl, rfl⟩

/-! ## The tables of others -/

section Others

/-- The tables the service does not own. -/
def Db.others (db : Db) : List Backup × List SiteDomain × List Site × List DeployLog :=
  (db.backup, db.siteDomain, db.site, db.deployLog)

theorem requireOne_others {c c' : Committed} {fault : Fault} (h : c.requireOne fault = .ok c') :
    c'.db.others = c.db.others := by
  obtain ⟨-, rfl⟩ := requireOne_eq_ok.mp h
  rfl

/-- An update that must match one row, and the release behind it. -/
theorem released_others {updated : Committed} {fault : Fault}
    (hkps : updated.db.others = db.others)
    (h : (match updated.requireOne fault with | .error fault => .error fault | .ok updated => .ok (updated.releaseLocks operationId)) = Except.ok c) :
    c.db.others = db.others := by
  split at h
  · exact absurd h (by simp)
  · rename_i done hdone
    cases h
    exact (requireOne_others hdone).trans hkps

/-- Only a restart writes tables the service does not own. -/
theorem commit_others (h : db.commit w = .ok c) :
    c.db.others = db.others ∨ ∃ found completedAt, w = .recoverInterrupted found completedAt ∧
      c = recoverInterrupted db found completedAt := by
  cases w with
  | recoverInterrupted found completedAt =>
    cases h
    exact .inr ⟨found, completedAt, rfl, rfl⟩
  | create p now =>
    have hcr := (create_spec h).2.2.2
    unfold createOperation at hcr
    split at hcr
    · exact absurd hcr (by simp)
    · split at hcr
      · exact absurd hcr (by simp)
      · cases hcr
        exact .inl rfl
  | attachScope operationId scope =>
    simp only [Db.commit, attachScopeWithClient] at h
    split at h
    · exact absurd h (by simp)
    · simp only [bind, Except.bind] at h
      split at h
      · exact absurd h (by simp)
      · split at h
        · exact absurd h (by simp)
        · split at h
          · exact absurd h (by simp)
          · exact .inl (requireOne_others h)
  | start operationId step now => exact .inl (requireOne_others h)
  | step operationId step progress => exact .inl (requireOne_others h)
  | succeed operationId result now =>
    simp only [Db.commit, Operations.succeed] at h
    split at h
    · exact absurd h (by simp)
    · split at h
      · exact absurd h (by simp)
      · exact .inl (released_others rfl h)
  | startClaimed operationId leaseOwner step now => exact .inl (requireOne_others h)
  | succeedClaimed operationId leaseOwner result cancelTooLate now =>
    simp only [Db.commit, Operations.succeedClaimed] at h
    split at h
    · exact absurd h (by simp)
    · split at h
      · exact absurd h (by simp)
      · exact .inl (released_others rfl h)
  | failClaimed operationId leaseOwner message now => exact .inl (released_others rfl h)
  | retryOrRequireAttention operation leaseOwner message now => exact .inl (requireOne_others h)
  | cancelClaimed operationId leaseOwner now => exact .inl (released_others rfl h)
  | requireAttention operationId leaseOwner message now => exact .inl (requireOne_others h)
  | requestCancellation operationId status now =>
    simp only [Db.commit, Operations.requestCancellation] at h
    split at h
    · exact .inl (released_others rfl h)
    · exact .inl (requireOne_others h)
  | _ =>
    cases h
    exact .inl rfl

/-- No write adds or removes a domain. -/
theorem commit_siteDomain_length (h : db.commit w = .ok c) :
    c.db.siteDomain.length = db.siteDomain.length := by
  rcases commit_others h with heq | ⟨found, completedAt, -, rfl⟩
  · rw [show c.db.siteDomain = db.siteDomain from congrArg (fun t => t.2.1) heq]
  · exact List.length_map _

end Others

end Meowbox.Operations
