import Meowbox.Operations.Writes

/-!
# What one committed write does to the locks

`Write.releases` and `Write.acquires` are the locks a write deletes and creates.

* `commit_locks`, `mem_commit_locks`: the locks after a commit.
* `attachScope_spec`: what the transaction of `attachScope` checked before it took its locks.
-/

namespace Meowbox.Operations

open Relational

variable {db : Db} {c : Committed}

/-- The locks of an attached scope its operation does not hold yet. -/
def missingLocks (db : Db) (operationId : String) (scope : AttachedScope) :
    List OperationLockSpec :=
  scope.lockSpecs.filter fun s =>
    !(db.operationLock.findMany fun l => l.operationId == operationId).any fun l =>
      l.resourceKey == s.resourceKey

/-- The locks a write deletes. -/
def Write.releases (db : Db) : Write → OperationLock → Bool
  | .succeed operationId _ _, l => l.operationId == operationId
  | .succeedClaimed operationId _ _ _ _, l => l.operationId == operationId
  | .failClaimed operationId _ _ _, l => l.operationId == operationId
  | .cancelClaimed operationId _ _, l => l.operationId == operationId
  | .fail operationId _ _, l =>
    (activeChildIds db operationId).contains l.operationId || l.operationId == operationId
  | .requestCancellation operationId status _, l =>
    [OperationStatus.pending, .queued, .recovering].contains status && l.operationId == operationId
  | .releaseExpired operationId, l =>
    l.operationId == operationId &&
      (db.operation.find? fun o => o.id == l.operationId).any fun o => o.status == .failed
  | _, _ => false

/-- The locks a write creates. -/
def Write.acquires (db : Db) : Write → List OperationLock
  | .create p _ => lockRows p.operationId p.lockSpecs
  | .attachScope operationId scope => lockRows operationId (missingLocks db operationId scope)
  | _ => []

variable {operationId : String}

/-- What the transaction of `attachScope` checked, and the locks it left. -/
theorem attachScope_spec {scope : AttachedScope}
    (h : attachScopeWithClient db operationId scope = .ok c) :
    (∃ o ∈ db.operation, o.id = operationId ∧ o.status ∈ EXECUTING_STATUSES) ∧
      assertScopeHierarchyAvailable db ⟨some scope.siteId, some true, none⟩ (some operationId) =
        .ok () ∧
      db.operationLock.createMany? (lockRows operationId (missingLocks db operationId scope)) =
        some c.db.operationLock := by
  unfold attachScopeWithClient at h
  split at h
  · exact absurd h (by simp)
  rename_i o hfnd
  obtain ⟨ho, hp⟩ := Table.mem_of_find? hfnd
  simp only [Bool.and_eq_true, beq_iff_eq, List.contains_iff_mem] at hp
  simp only [bind, Except.bind] at h
  split at h
  · exact absurd h (by simp)
  split at h
  · exact absurd h (by simp)
  rename_i hsc
  split at h
  · exact absurd h (by simp)
  rename_i operationLock hlock
  obtain ⟨-, rfl⟩ := requireOne_eq_ok.mp h
  exact ⟨⟨o, ho, hp⟩, hsc, hlock⟩

/-- The row of an attached operation carries the site of the scope. -/
theorem attachScope_row {scope : AttachedScope}
    (h : attachScopeWithClient db operationId scope = .ok c) {o' : Operation}
    (ho' : o' ∈ c.db.operation) (hid : o'.id = operationId) : o'.siteId = some scope.siteId := by
  obtain ⟨⟨o, ho, hoid, hexec⟩, -, -⟩ := attachScope_spec h
  unfold attachScopeWithClient at h
  split at h
  · exact absurd h (by simp)
  simp only [bind, Except.bind] at h
  split at h
  · exact absurd h (by simp)
  split at h
  · exact absurd h (by simp)
  split at h
  · exact absurd h (by simp)
  obtain ⟨-, rfl⟩ := requireOne_eq_ok.mp h
  obtain ⟨a, ha, rfl⟩ := List.mem_map.mp ho'
  unfold Table.patch at hid ⊢
  split
  · rfl
  · rename_i hp
    rw [if_neg hp] at hid
    have he : a = o := eq_of_id ha ho (hid.trans hoid.symm)
    exact absurd (by simp [he, hoid, hexec]) hp

theorem locks_of_release {c c' : Committed} {locks : LockTable}
    (hc : c' = c.releaseLocks operationId) (hl : c.db.operationLock = locks) :
    c'.db.operationLock.rows = locks.rows.filter fun l => !(l.operationId == operationId) := by
  subst hc
  subst hl
  rfl

/-- A transaction of the form update, check the count, delete the locks. -/
theorem locks_of_finalise {p : Operation → Bool} {f : Operation → Operation}
    {hf : ∀ o, (f o).id = o.id ∧ (f o).idempotencyKey = o.idempotencyKey} {fault : Fault}
    (h : (match (db.updateOperations p f hf).requireOne fault with | .error fault => Except.error fault | .ok updated => .ok (updated.releaseLocks operationId)) = .ok c) :
    c.db.operationLock.rows =
      db.operationLock.rows.filter fun l => !(l.operationId == operationId) := by
  split at h
  · exact absurd h (by simp)
  rename_i updated hu
  simp only [Except.ok.injEq] at h
  obtain ⟨-, rfl⟩ := requireOne_eq_ok.mp hu
  exact locks_of_release h.symm rfl

/-- An update that checks its count leaves the locks alone. -/
theorem locks_of_update {p : Operation → Bool} {f : Operation → Operation}
    {hf : ∀ o, (f o).id = o.id ∧ (f o).idempotencyKey = o.idempotencyKey} {fault : Fault}
    (h : (db.updateOperations p f hf).requireOne fault = .ok c) :
    c.db.operationLock = db.operationLock := by
  obtain ⟨-, rfl⟩ := requireOne_eq_ok.mp h
  rfl

theorem filter_keeps_all (locks : List OperationLock) :
    (locks.filter fun _ => !false) ++ [] = locks := by simp

/-- **The locks after a commit**: those it does not release, then those it acquires. -/
theorem commit_locks {w : Write} (h : db.commit w = .ok c) :
    c.db.operationLock.rows =
      (db.operationLock.rows.filter fun l => !w.releases db l) ++ w.acquires db := by
  cases w with
  | create p now =>
    rw [(createOperation_spec (create_spec h).2.2.2).2.1]
    simp [Write.releases, Write.acquires]
  | attachScope operationId scope =>
    rw [Table.createMany?_rows (attachScope_spec h).2.2]
    simp [Write.releases, Write.acquires]
  | succeed operationId result now =>
    simp only [Db.commit, succeed] at h
    split at h
    · exact absurd h (by simp)
    split at h
    · exact absurd h (by simp)
    rw [locks_of_finalise h]
    simp [Write.releases, Write.acquires]
  | succeedClaimed operationId leaseOwner result cancelTooLate now =>
    simp only [Db.commit, succeedClaimed] at h
    split at h
    · exact absurd h (by simp)
    split at h
    · exact absurd h (by simp)
    rw [locks_of_finalise h]
    simp [Write.releases, Write.acquires]
  | failClaimed operationId leaseOwner message now =>
    rw [locks_of_finalise h]
    simp [Write.releases, Write.acquires]
  | cancelClaimed operationId leaseOwner now =>
    rw [locks_of_finalise h]
    simp [Write.releases, Write.acquires]
  | requestCancellation operationId status now =>
    simp only [Db.commit, requestCancellation] at h
    split at h
    · rename_i hbr
      rw [locks_of_finalise h]
      simp only [Write.releases, Write.acquires, hbr, Bool.true_and, List.append_nil]
    · rename_i hbr
      rw [Bool.not_eq_true] at hbr
      rw [locks_of_update h]
      simp only [Write.releases, Write.acquires, hbr, Bool.false_and]
      exact (filter_keeps_all _).symm
  | fail operationId message now =>
    cases h
    simp only [fail, Committed.releaseLocks, Db.deleteLocks, Table.deleteMany,
      updateOperations_operationLock, List.filter_filter, Write.releases, Write.acquires,
      List.append_nil, activeChildIds, Bool.not_or]
    refine List.filter_congr fun l _ => ?_
    rw [Bool.and_comm]
  | releaseExpired operationId =>
    cases h
    simp [Write.releases, Write.acquires, releaseExpired, Db.deleteLocks, Table.deleteMany]
  | start operationId step now =>
    rw [locks_of_update h]
    exact (filter_keeps_all _).symm
  | step operationId step progress =>
    rw [locks_of_update h]
    exact (filter_keeps_all _).symm
  | startClaimed operationId leaseOwner step now =>
    rw [locks_of_update h]
    exact (filter_keeps_all _).symm
  | retryOrRequireAttention operation leaseOwner message now =>
    rw [locks_of_update h]
    exact (filter_keeps_all _).symm
  | requireAttention operationId leaseOwner message now =>
    rw [locks_of_update h]
    exact (filter_keeps_all _).symm
  | claim leaseOwner now =>
    cases h
    exact (filter_keeps_all _).symm
  | heartbeatClaim operationId leaseOwner step progress now =>
    cases h
    exact (filter_keeps_all _).symm
  | recoverLease l now =>
    cases h
    exact (filter_keeps_all _).symm
  | expire operationId status now =>
    cases h
    exact (filter_keeps_all _).symm
  | exhaust operationId attempt now =>
    cases h
    exact (filter_keeps_all _).symm
  | recoverInterrupted found completedAt =>
    cases h
    exact (filter_keeps_all _).symm

/-- A lock after a commit. -/
theorem mem_commit_locks {w : Write} (h : db.commit w = .ok c) {l : OperationLock} :
    l ∈ c.db.operationLock ↔
      (l ∈ db.operationLock ∧ w.releases db l = false) ∨ l ∈ w.acquires db := by
  rw [Table.mem_def, commit_locks h, List.mem_append, List.mem_filter, Bool.not_eq_true']
  exact Iff.rfl

end Meowbox.Operations
