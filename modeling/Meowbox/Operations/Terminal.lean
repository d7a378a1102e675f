import Meowbox.Operations.Rows

/-!
# Finished operations

An operation in `SUCCEEDED`, `FAILED` or `CANCELLED` should own no lock and stay as it is. Three
writes do not see to it:

* the expiry write of `maintainQueue` fails an operation in one statement and deletes its locks in
  the next, so between the two, and for good after a crash there, a failed operation owns locks;
* `requireAttention` has no guard on the status, so it revives a finished operation that still has
  a lease, which `succeed` and `fail` leave on an operation a worker holds;
* the write of `onModuleInit` goes by the ids it read, so it revives an operation that finished
  between its read and its write.

`SparesTerminal` says that a write does none of this. It is a condition on the state before the
write, and `terminal_final_iff` shows it exact: a run keeps finished operations final and free of
locks as long as its writes meet it, and the first write that does not breaks one of the two.
-/

namespace Meowbox.Operations

open Relational Interleaved Stepping

/-- No finished operation owns a lock. -/
def LockFree (operation : OperationTable) (operationLock : LockTable) : Prop :=
  ∀ o ∈ operation, o.status.terminal = true → ∀ l ∈ operationLock, l.operationId ≠ o.id

/-- Every finished operation keeps its status. -/
def Final (db db' : Db) : Prop :=
  ∀ o ∈ db.operation, o.status.terminal = true →
    ∃ o' ∈ db'.operation, o'.id = o.id ∧ o'.status = o.status

instance (operation : OperationTable) (operationLock : LockTable) :
    Decidable (LockFree operation operationLock) :=
  inferInstanceAs (Decidable (∀ o ∈ operation, _ → ∀ l ∈ operationLock, _))

/-- The write leaves finished operations final and free of locks: an expiry finds an operation
without locks, and the two writes that do not look at the status find no finished one. -/
def SparesTerminal (s : State) : Write → Prop
  | .expire operationId status now =>
    ∀ o ∈ s.db.operation, o.id = operationId → o.status = status → upTo o.deadlineAt now = true →
      ∀ l ∈ s.db.operationLock, l.operationId ≠ operationId
  | .requireAttention operationId leaseOwner _ _ =>
    ∀ o ∈ s.db.operation, o.id = operationId → o.leaseOwner = some leaseOwner →
      o.status.terminal = false
  | .recoverInterrupted found _ =>
    ∀ o ∈ s.db.operation, o.id ∈ found.map Interrupted.id → o.status.terminal = false
  | _ => True

instance (s : State) (w : Write) : Decidable (SparesTerminal s w) := by
  apply Write.casesOn (motive := fun w => Decidable (SparesTerminal s w)) w <;> intros <;>
    dsimp only [SparesTerminal] <;> infer_instance

/-! ## Which writes finish an operation, and which take locks -/

section Step

variable {sha256 : String → String} {db : Db} {w : Write} {o o' : Operation} {done : Committed}

/-- A write that finishes an operation deletes its locks, except the expiry write. -/
theorem RowChange.finish (hc : RowChange db w o o') (hbef : o.status.terminal = false)
    (haft : o'.status.terminal = true) :
    (∃ now, w = .expire o.id o.status now ∧ upTo o.deadlineAt now = true) ∨
      ∀ l : OperationLock, l.operationId = o.id → w.releases db l = true := by
  rcases hc.finished hbef haft with ⟨result, now, rfl, -⟩ | ⟨operationId, message, now, rfl, hid⟩ |
    ⟨leaseOwner, hw, -⟩ | ⟨now, rfl, ht⟩ | ⟨now, rfl, -, hs⟩
  · exact .inr fun l hl => by simp [Write.releases, hl]
  · refine .inr fun l hl => ?_
    simp only [Write.releases, hl, Bool.or_eq_true, List.contains_iff_mem, beq_iff_eq]
    exact hid.symm
  · refine .inr fun l hl => ?_
    cases w with
    | succeedClaimed operationId owner result cancelTooLate now =>
      cases hw
      simp [Write.releases, hl]
    | failClaimed operationId owner message now =>
      cases hw
      simp [Write.releases, hl]
    | cancelClaimed operationId owner now =>
      cases hw
      simp [Write.releases, hl]
    | _ => exact absurd hw (by simp [Write.finalises])
  · exact .inl ⟨now, rfl, ht⟩
  · refine .inr fun l hl => ?_
    rcases hs with hs | hs | hs <;> simp [Write.releases, hl, hs]

/-- A lock is acquired for an operation that is created with it or is executing. -/
theorem acquires_owner (h : db.commit w = .ok done) {l : OperationLock}
    (hl : l ∈ w.acquires db) :
    (∃ p now, w = .create p now ∧ l.operationId = p.operationId) ∨
      ∃ scope, w = .attachScope l.operationId scope ∧
        ∃ o ∈ db.operation, o.id = l.operationId ∧ o.status ∈ EXECUTING_STATUSES := by
  cases w with
  | create p now =>
    obtain ⟨spec, -, rfl⟩ := List.mem_map.mp hl
    exact .inl ⟨p, now, rfl, rfl⟩
  | attachScope operationId scope =>
    obtain ⟨spec, -, rfl⟩ := List.mem_map.mp hl
    exact .inr ⟨scope, rfl, (attachScope_spec h).1⟩
  | _ => exact absurd hl List.not_mem_nil

/-- No lock is acquired for a finished operation. -/
theorem acquires_not_terminal (h : db.commit w = .ok done) (ho : o ∈ db.operation)
    (hterm : o.status.terminal = true) {l : OperationLock} (hl : l ∈ w.acquires db) :
    l.operationId ≠ o.id := by
  intro hid
  rcases acquires_owner h hl with ⟨p, now, rfl, hp⟩ | ⟨scope, rfl, r, hr, hrid, hexec⟩
  · have hfr := (createOperation_spec (create_spec h).2.2.2).2.2.1 o ho
    exact hfr.1 (hid.symm.trans hp)
  · have he : r = o := eq_of_id hr ho (hrid.trans hid)
    rw [he] at hexec
    rw [executing_holding hexec] at hterm
    exact absurd hterm (by simp)

/-- A write that acquires locks finishes nothing. -/
theorem finish_acquires (hc : RowChange db w o o') (hbef : o.status.terminal = false)
    (haft : o'.status.terminal = true) (hdone : db.commit w = .ok done) :
    w.acquires db = [] := by
  cases w with
  | attachScope operationId scope =>
    cases hc with
    | same => rw [hbef] at haft; exact absurd haft (by simp)
    | attachScope scope hs => rw [hbef] at haft; exact absurd haft (by simp)
  | create p now =>
    cases hc
    rw [hbef] at haft
    exact absurd haft (by simp)
  | _ => rfl

/-- A write that spares finished operations changes none of them. -/
theorem spares_status {s : State} (hsp : SparesTerminal s w) (hf : w.Formed sha256 s.db)
    (hc : RowChange s.db w o o') (ho : o ∈ s.db.operation) (hterm : o.status.terminal = true) :
    o'.status = o.status := by
  by_contra hne
  rcases hc.terminal_origin hf hterm hne with
    ⟨leaseOwner, message, now, rfl, hl⟩ | ⟨found, completedAt, rfl, hfnd⟩
  · rw [hsp o ho rfl hl] at hterm
    exact absurd hterm (by simp)
  · rw [hsp o ho hfnd] at hterm
    exact absurd hterm (by simp)

/-- **Step**: a sparing write keeps finished operations free of locks. -/
theorem lockFree_commit {s : State} (hsp : SparesTerminal s w) (hf : w.Formed sha256 s.db)
    (hdone : s.db.commit w = .ok done) (h : LockFree s.db.operation s.db.operationLock) :
    LockFree done.db.operation done.db.operationLock := by
  intro o' ho' hterm l hl hid
  rcases mem_commit hdone ho' with ⟨p, now, rfl, rfl⟩ | ⟨o, ho, hc⟩
  · -- a created operation is not finished
    simp only [PreparedBegin.row] at hterm
    split at hterm <;> exact absurd hterm (by simp [OperationStatus.terminal])
  have hoid : o'.id = o.id := hc.identity.id
  have hid' : l.operationId = o.id := hid.trans hoid
  cases hbef : o.status.terminal with
  | true =>
    rcases (mem_commit_locks hdone).mp hl with ⟨hkept, -⟩ | hnew
    · exact h o ho hbef l hkept hid'
    · exact acquires_not_terminal hdone ho hbef hnew hid'
  | false =>
    rcases (mem_commit_locks hdone).mp hl with ⟨hkept, hrel⟩ | hnew
    · rcases hc.finish hbef hterm with ⟨now, rfl, ht⟩ | hreleased
      · exact hsp o ho rfl rfl ht l hkept hid'
      · rw [hreleased l hid'] at hrel
        exact absurd hrel (by simp)
    · rw [finish_acquires hc hbef hterm hdone] at hnew
      exact absurd hnew List.not_mem_nil

/-- **Step**: a sparing write keeps finished operations final. -/
theorem final_commit {s : State} (hsp : SparesTerminal s w) (hf : w.Formed sha256 s.db)
    (hdone : s.db.commit w = .ok done) : Final s.db done.db := by
  intro o ho hterm
  obtain ⟨o', ho', hc⟩ := commit_keeps hdone ho
  exact ⟨o', ho', hc.identity.id, spares_status hsp hf hc ho hterm⟩

end Step

/-! ## The condition is exact -/

section Exact

variable {db : Db} {done : Committed} {o : Operation} {operationId : String}

theorem expire_row {status : OperationStatus} {now : Time} (ho : o ∈ db.operation)
    (hid : o.id = operationId) (hs : o.status = status) (ht : upTo o.deadlineAt now = true) :
    ∃ o' ∈ (expire db operationId status now).db.operation, o'.id = o.id ∧ o'.status = .failed := by
  refine ⟨_, mem_update rfl ho ?_, rfl, rfl⟩
  simp [hid, hs, ht]

/-- An expiry write that finds an operation with locks leaves a failed operation with locks. -/
theorem expire_breaks {status : OperationStatus} {now : Time} {l : OperationLock}
    (ho : o ∈ db.operation) (hid : o.id = operationId) (hs : o.status = status)
    (ht : upTo o.deadlineAt now = true) (hl : l ∈ db.operationLock)
    (hown : l.operationId = operationId) :
    ¬ LockFree (expire db operationId status now).db.operation
      (expire db operationId status now).db.operationLock := by
  intro h
  obtain ⟨o', ho', hid', hs'⟩ := expire_row ho hid hs ht
  exact h o' ho' (by rw [hs']; rfl) l hl (hown.trans (hid.symm.trans hid'.symm))

/-- The row `requireAttention` finds waits for an operator afterwards. -/
theorem requireAttention_row {leaseOwner : String} (message : String) (now : Time)
    (ho : o ∈ db.operation) (hid : o.id = operationId) (hl : o.leaseOwner = some leaseOwner) :
    ∃ done, requireAttention db operationId leaseOwner message now = .ok done ∧
      ∃ o' ∈ done.db.operation, o'.id = o.id ∧ o'.status = .needsAttention := by
  have hp : (o.id == operationId && o.leaseOwner == some leaseOwner) = true := by simp [hid, hl]
  have hone : db.operation.count
      (fun o => o.id == operationId && o.leaseOwner == some leaseOwner) = 1 := by
    refine Table.count_eq_one id_mem_keys ho hp fun b _ hb => ?_
    simp only [Bool.and_eq_true, beq_iff_eq] at hb
    exact hb.1.trans hid.symm
  refine ⟨_, requireOne_eq_ok.mpr ⟨hone, rfl⟩, _, mem_update rfl ho hp, rfl, rfl⟩

/-- A row whose id `onModuleInit` read is recovering or waits for an operator afterwards. -/
theorem recoverInterrupted_row {found : List Interrupted} (completedAt : Time)
    (ho : o ∈ db.operation) (hid : o.id ∈ found.map Interrupted.id) :
    ∃ o' ∈ (recoverInterrupted db found completedAt).db.operation, o'.id = o.id ∧
      (o'.status = .recovering ∨ o'.status = .needsAttention) := by
  have hmem : restartRow found completedAt o ∈
      (recoverInterrupted db found completedAt).db.operation := by
    rw [Table.mem_def, recoverInterrupted_rows]
    exact List.mem_map_of_mem ho
  by_cases hr : o.id ∈ recoveringIds found
  · rw [restartRow_recovering completedAt hr] at hmem
    exact ⟨_, hmem, rfl, .inl rfl⟩
  · obtain ⟨i, hi, he⟩ := List.mem_map.mp hid
    have ha : o.id ∈ (attention found).map Interrupted.id := by
      refine List.mem_map.mpr ⟨i, List.mem_filter.mpr ⟨hi, ?_⟩, he⟩
      simpa [he] using hr
    rw [restartRow_attention completedAt ha] at hmem
    exact ⟨_, hmem, rfl, .inr rfl⟩

end Exact

/-! ## Runs -/

variable {sha256 : String → String} {s s' : State}

theorem Final.refl (db : Db) : Final db db := fun o ho _ => ⟨o, ho, rfl, rfl⟩

theorem Final.trans {a b c : Db} (h : Final a b) (h' : Final b c) : Final a c := by
  intro o ho hterm
  obtain ⟨o₁, ho₁, hid₁, hs₁⟩ := h o ho hterm
  obtain ⟨o₂, ho₂, hid₂, hs₂⟩ := h' o₁ ho₁ (hs₁ ▸ hterm)
  exact ⟨o₂, ho₂, hid₂.trans hid₁, hs₂.trans hs₁⟩

/-- Final says what became of the row itself. -/
theorem Final.status {db db' : Db} (h : Final db db') {o o' : Operation} (ho : o ∈ db.operation)
    (hterm : o.status.terminal = true) (ho' : o' ∈ db'.operation) (hid : o'.id = o.id) :
    o'.status = o.status := by
  obtain ⟨o₁, ho₁, hid₁, hs₁⟩ := h o ho hterm
  have he : o' = o₁ := eq_of_id ho' ho₁ (hid.trans hid₁.symm)
  rw [he, hs₁]

theorem lockFree_reach (hs : Reachable sha256 SparesTerminal s) :
    LockFree s.db.operation s.db.operationLock :=
  reach_tables LockFree hs (fun o ho => absurd ho (Table.not_mem_empty o))
    fun _ _ _ hw h => lockFree_commit hw.guard hw.formed hw.commit h

theorem final_step (hs : Reachable sha256 anyWrite s) {a : Action}
    (hsp : Writes SparesTerminal s a) (h : s.step sha256 a = some s') : Final s.db s'.db := by
  rcases step_db h with ⟨hrows, -⟩ | ⟨w, done, hw, hd, hdb⟩
  · intro o ho _
    exact ⟨o, by rw [hrows]; exact ho, rfl, rfl⟩
  · rw [hdb]
    exact final_commit (hsp w hw) (issued_formed hs hw).2 hd

/-- A step that keeps finished operations final and free of locks spared them. -/
theorem spares_of_kept {a : Action} (h : s.step sha256 a = some s') (hfin : Final s.db s'.db)
    (hfree : LockFree s'.db.operation s'.db.operationLock) : Writes SparesTerminal s a := by
  intro w hw
  have hcommit := step_issued h hw
  cases w with
  | expire operationId status now =>
    intro o ho hid hs ht l hl hown
    rcases hcommit with ⟨done, hd, hdb⟩ | ⟨fault, hf, -⟩
    · cases hd
      rw [hdb] at hfree
      exact expire_breaks ho hid hs ht hl hown hfree
    · exact absurd hf (by simp [Db.commit])
  | requireAttention operationId leaseOwner message now =>
    intro o ho hid hl
    by_contra hterm
    rw [Bool.not_eq_false] at hterm
    obtain ⟨done, hdone, o', ho', hid', hs'⟩ := requireAttention_row message now ho hid hl
    rcases hcommit with ⟨done', hd', hdb⟩ | ⟨fault, hf, -⟩
    · have he : done' = done := Except.ok.inj (hd'.symm.trans hdone)
      rw [hdb, he] at hfin
      have hsame := hfin.status ho hterm ho' hid'
      rw [← hsame, hs'] at hterm
      exact absurd hterm (by simp [OperationStatus.terminal])
    · exact absurd (hf.symm.trans hdone) (by simp)
  | recoverInterrupted found completedAt =>
    intro o ho hid
    by_contra hterm
    rw [Bool.not_eq_false] at hterm
    obtain ⟨o', ho', hid', hs'⟩ := recoverInterrupted_row completedAt ho hid
    rcases hcommit with ⟨done, hd, hdb⟩ | ⟨fault, hf, -⟩
    · cases hd
      rw [hdb] at hfin
      have hsame := hfin.status ho hterm ho' hid'
      rw [← hsame] at hterm
      rcases hs' with hs' | hs' <;> exact absurd hterm (by simp [hs', OperationStatus.terminal])
    · exact absurd hf (by simp [Db.commit])
  | _ => trivial

/-- **Finished operations are final and free of locks, exactly as long as the writes spare them.**
In a run of sparing writes no finished operation ever owns a lock, every later state of the run
keeps its status, and any next step keeps both if and only if its write spares it. -/
theorem terminal_final_iff (hs : Reachable sha256 SparesTerminal s) :
    LockFree s.db.operation s.db.operationLock ∧
      (∀ t, Reach (State.step sha256) (Writes SparesTerminal) s t → Final s.db t.db) ∧
      ∀ a s', s.step sha256 a = some s' →
        ((Final s.db s'.db ∧ LockFree s'.db.operation s'.db.operationLock) ↔
          Writes SparesTerminal s a) := by
  have hany : ∀ {t}, Reachable sha256 SparesTerminal t → Reachable sha256 anyWrite t :=
    fun ht => ht.mono fun _ _ _ _ _ => trivial
  refine ⟨lockFree_reach hs, fun t ht => ?_, fun a s' h => ⟨fun hkept => ?_, fun hsp => ?_⟩⟩
  · induction ht with
    | init => exact Final.refl _
    | step ht hok hstep ih => exact ih.trans (final_step (hany (hs.trans ht)) hok hstep)
  · exact spares_of_kept h hkept.1 hkept.2
  · exact ⟨final_step (hany hs) hsp h, lockFree_reach (hs.step hsp h)⟩

/-- An inline operation that succeeds keeps its status and has no lock left. -/
theorem terminal_final_succeeded :
    ∃ s, Reachable Sample.digest SparesTerminal s ∧
      (∃ o ∈ s.db.operation, o.status = .succeeded) ∧
      LockFree s.db.operation s.db.operationLock := by
  have hrun : (run (State.step Sample.digest) (Writes SparesTerminal) .init
      (Sample.perform 0 4
        (.begin (Sample.inline "key-0001" (some "site-1") none none) "uuid-0001" "op-1" false) ++
        Sample.perform 1 2 (.start "op-1" "apply") ++
        Sample.perform 2 2 (.succeed "op-1" .null))).any
      (fun s : State => decide (∃ o ∈ s.db.operation, o.status = .succeeded)) = true :=
        by decide
  obtain ⟨s, hs, hdone⟩ := Reach.of_run_any hrun
  exact ⟨s, hs, hdone, (terminal_final_iff hs).1⟩

/-- A queued operation on a site is not claimed before its deadline; maintenance fails it, the
process crashes there and restarts. -/
def expiryWithLocks : List Action :=
  Sample.perform 0 4
      (.begin (Sample.queued "key-0001" (some "site-1") none 1000) "uuid-0001" "op-1" false) ++
    [Action.tick 2000, .call (.poll "worker:1"), .advance 1 .go, .advance 1 (.flip true)] ++
    Sample.advance 1 3 ++ [Action.crash 1] ++ Sample.perform 2 1 .onModuleInit

/-- **The failing state**: the operation is `FAILED` and still owns the lock of its site. -/
theorem expired_operation_owns_lock :
    ∃ s, Reachable Sample.digest anyWrite s ∧
      ∃ o ∈ s.db.operation, o.status = .failed ∧
        ∃ l ∈ s.db.operationLock, l.operationId = o.id := by
  have hrun : (run (State.step Sample.digest) (Writes anyWrite) .init expiryWithLocks).any
      (fun s : State => decide (∃ o ∈ s.db.operation, o.status = .failed ∧
        ∃ l ∈ s.db.operationLock, l.operationId = o.id)) = true := by decide +kernel
  exact Reach.of_run_any hrun

end Meowbox.Operations
