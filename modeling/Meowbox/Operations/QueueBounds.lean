import Meowbox.Operations.Rows

/-!
# The bounds of the queue

A claim counts the live leases and takes a row in one statement, and admission counts the active
operations in the transaction that creates one, so neither can be raced. The date of a claim may be
older than the statement; then it counts more leases, not fewer. Two writes get around the counts:

* a heartbeat compares the lease with a date read before its statement runs, so it renews a lease
  that has run out meanwhile, although its capacity may be taken by then;
* the write of `onModuleInit` puts operations back by id, so it revives one that left the queue
  after the read.

`KeepsBounds` says that such a heartbeat finds the capacity free and such a restart finds room.

Results:
* `RowChange.leased_origin`, `RowChange.active_origin`: which writes lease a row or make it active.
* `leased_commit`, `active_commit`: one write keeps the bounds.
* `queue_bounded`: the bounds hold in every state of such a run.
-/

namespace Meowbox.Operations

open Relational Interleaved Stepping

/-- The operations that are active in the queue and whose creator is of the kind `who`. -/
def activeWho (who : String → Bool) (o : Operation) : Bool :=
  activeQueued o && who o.createdByUserId

/-- The rows the write puts back into the queue although they are not active any more. -/
def Write.revives : Write → Operation → Bool
  | .recoverInterrupted found _, o => (recoveringIds found).contains o.id && !activeQueued o
  | _, _ => false

def Write.revivesWho (w : Write) (who : String → Bool) (o : Operation) : Bool :=
  w.revives o && who o.createdByUserId

/-- A heartbeat that renews a lease does so before the lease runs out, or below the capacity. -/
def RenewsInTime (s : State) : Write → Prop
  | .heartbeatClaim operationId leaseOwner _ _ now =>
    ∀ o ∈ s.db.operation, heldBy operationId leaseOwner HELD_STATUSES o = true →
      after o.leaseExpiresAt now = true → after o.deadlineAt now = true →
        s.clock < now + LEASE_MS →
          after o.leaseExpiresAt s.clock = true ∨ s.db.operation.count (leased s.clock) < 2
  | _ => True

/-- The rows a restart revives fit into the queue. -/
def RevivesInBounds (s : State) (w : Write) : Prop :=
  ∀ o ∈ s.db.operation, w.revives o = true →
    s.db.operation.count activeQueued + s.db.operation.count w.revives ≤ MAX_QUEUED_PER_TARGET ∧
      s.db.operation.count (activeQueuedOf o.createdByUserId) +
        s.db.operation.count (w.revivesWho (· == o.createdByUserId)) ≤ MAX_QUEUED_PER_ACTOR

/-- The condition on the writes of a run. -/
def KeepsBounds (s : State) (w : Write) : Prop := RenewsInTime s w ∧ RevivesInBounds s w

instance (s : State) (w : Write) : Decidable (RenewsInTime s w) := by
  apply Write.casesOn (motive := fun w => Decidable (RenewsInTime s w)) w <;> intros <;>
    dsimp only [RenewsInTime] <;> infer_instance

instance (s : State) (w : Write) : Decidable (KeepsBounds s w) :=
  inferInstanceAs (Decidable (_ ∧ ∀ o ∈ s.db.operation, _ → _))

/-- The bounds of the queue. -/
structure QueueBounds (s : State) : Prop where
  /-- At most two queued operations hold a live lease. -/
  capacity : s.db.operation.count (leased s.clock) ≤ 2
  /-- At most 128 queued operations are active. -/
  target : s.db.operation.count activeQueued ≤ MAX_QUEUED_PER_TARGET
  /-- At most 32 of them belong to one actor. -/
  actor : ∀ userId, s.db.operation.count (activeQueuedOf userId) ≤ MAX_QUEUED_PER_ACTOR
  /-- No operation is attempted more often than it may be. -/
  attempts : ∀ o ∈ s.db.operation, o.attempt ≤ o.maxAttempts

/-! ## Where leases and active rows come from -/

section Origin

variable {sha256 : String → String} {db : Db} {w : Write} {o o' : Operation} {clock now : Time}

theorem leased_iff :
    leased now o = true ↔
      o.executionMode = .queued ∧ o.status ∈ HELD_STATUSES ∧ after o.leaseExpiresAt now = true := by
  simp [leased, and_assoc]

theorem activeQueued_iff :
    activeQueued o = true ↔ o.executionMode = .queued ∧ o.status ∈ ACTIVE_STATUSES := by
  simp [activeQueued]

theorem held_active {s : OperationStatus} (h : s ∈ HELD_STATUSES) : s ∈ ACTIVE_STATUSES := by
  rcases mem_held.mp h with rfl | rfl | rfl <;> decide

/-- A live lease stays a lease when looked at earlier. -/
theorem leased_earlier (h : leased clock o = true) (hle : now ≤ clock) : leased now o = true := by
  obtain ⟨hmode, hs, ht⟩ := leased_iff.mp h
  refine leased_iff.mpr ⟨hmode, hs, ?_⟩
  unfold after at ht ⊢
  split
  · rename_i t heq
    rw [heq] at ht
    simp only [decide_eq_true_eq] at ht ⊢
    exact Nat.lt_of_le_of_lt hle ht
  · rename_i heq
    rw [heq] at ht
    exact absurd ht (by simp)

theorem count_leased_le (operation : OperationTable) (hle : now ≤ clock) :
    operation.count (leased clock) ≤ operation.count (leased now) :=
  List.countP_mono_left fun _ _ h => leased_earlier h hle

/-- **A live lease** was there before, or is that of a claim or a heartbeat. -/
theorem RowChange.leased_origin (hc : RowChange db w o o') (h : RowOk o)
    (hl : leased clock o' = true) :
    leased clock o = true ∨
      (∃ leaseOwner now, w = .claim leaseOwner now ∧ nextClaim db now = some o) ∨
      ∃ leaseOwner step progress now, w = .heartbeatClaim o.id leaseOwner step progress now ∧
        heldBy o.id leaseOwner HELD_STATUSES o = true ∧ after o.leaseExpiresAt now = true ∧
          after o.deadlineAt now = true ∧ clock < now + LEASE_MS := by
  obtain ⟨hmode, hs', ht'⟩ := leased_iff.mp hl
  cases hc with
  | claim leaseOwner now hn => exact .inr (.inl ⟨leaseOwner, now, rfl, hn⟩)
  | heartbeatClaim step progress now hlo hs ht hd =>
    refine .inr (.inr ⟨_, step, progress, now, rfl, heldBy_iff.mpr ⟨rfl, hlo, hs⟩, ht, hd, ?_⟩)
    simpa [after] using ht'
  | same => exact .inl hl
  | attachScope scope hs => exact .inl hl
  | step step progress hs => exact .inl hl
  | start step now hs =>
    -- an inline operation has no lease
    have hinline := h.pending hs
    exact absurd (hmode.symm.trans hinline) (by simp)
  | startClaimed step now hlo hs ht =>
    exact .inl (leased_iff.mpr ⟨hmode, by simp [hs, HELD_STATUSES], ht'⟩)
  | askToCancel status now hn hs hreq =>
    refine .inl (leased_iff.mpr ⟨hmode, ?_, ht'⟩)
    rcases hs with hs | hs <;> simp [hs, HELD_STATUSES]
  | _ => exact absurd hs' (by simp [HELD_STATUSES, failedRow])

/-- **An active row** was active before, or is put back by a restart. -/
theorem RowChange.active_origin (hc : RowChange db w o o') (hf : w.Formed sha256 db) (h : RowOk o)
    (ha : activeQueued o' = true) : activeQueued o = true ∨ w.revives o = true := by
  obtain ⟨hmode, hs'⟩ := activeQueued_iff.mp ha
  cases hc with
  | same => exact .inl ha
  | attachScope scope hs => exact .inl ha
  | step step progress hs => exact .inl ha
  | heartbeatClaim step progress now hlo hs ht hd => exact .inl ha
  | restart completedAt hid =>
    by_cases hact : activeQueued o = true
    · exact .inl hact
    · exact .inr (by simp [Write.revives, hid, hact])
  | start step now hs =>
    have hinline := h.pending hs
    exact absurd (hmode.symm.trans hinline) (by simp)
  | claim leaseOwner now hn =>
    obtain ⟨-, hst, -⟩ := claimable_iff.mp (nextClaim_mem hn).2.1
    refine .inl (activeQueued_iff.mpr ⟨hmode, ?_⟩)
    rcases hst with hst | hst <;> simp [hst, ACTIVE_STATUSES]
  | startClaimed step now hlo hs ht =>
    exact .inl (activeQueued_iff.mpr ⟨hmode, by simp [hs, ACTIVE_STATUSES]⟩)
  | retry message now hid hlo hs hr => exact .inl (activeQueued_iff.mpr ⟨hmode, held_active hs⟩)
  | recover now hid hs ht hr =>
    have hheld : o.status ∈ HELD_STATUSES := by
      rw [hs]
      exact hf
    exact .inl (activeQueued_iff.mpr ⟨hmode, held_active hheld⟩)
  | askToCancel status now hn hs hreq =>
    refine .inl (activeQueued_iff.mpr ⟨hmode, ?_⟩)
    rcases hs with hs | hs <;> simp [hs, ACTIVE_STATUSES]
  | _ => exact absurd hs' (by simp [ACTIVE_STATUSES, failedRow])

end Origin

/-! ## One write -/

section Step

variable {sha256 : String → String} {s : State} {w : Write} {done : Committed}

theorem count_id_le_one (db : Db) (id : String) :
    db.operation.count (fun o => o.id == id) ≤ 1 :=
  Table.count_key_le_one id_mem_keys fun o _ hp => by simpa using hp

theorem row_not_leased (p : PreparedBegin) (now clock : Time) :
    leased clock (p.row now) = false := by
  simp only [leased, PreparedBegin.row, after, Bool.and_false]

/-- **Step**: a write leaves at most two live leases. -/
theorem leased_commit (hw : Commits sha256 KeepsBounds s w done)
    (h : s.db.operation.count (leased s.clock) ≤ 2) :
    done.db.operation.count (leased s.clock) ≤ 2 := by
  rcases commit_rows hw.commit with ⟨p, now, rfl, hrows⟩ | ⟨g, hrows, hg⟩
  · unfold Table.count at h ⊢
    rw [hrows, List.countP_append, List.countP_singleton, row_not_leased]
    simpa using h
  have hor : ∀ o ∈ s.db.operation, leased s.clock (g o) = true → _ := fun o ho hl =>
    (hg o ho).leased_origin (row_ok hw.reach o ho) hl
  unfold Table.count
  rw [hrows]
  by_cases hnew : ∃ o ∈ s.db.operation, leased s.clock (g o) = true ∧ leased s.clock o = false
  · -- one row gains a lease, and the capacity was not used up
    obtain ⟨o, ho, hl, hno⟩ := hnew
    have hroom : s.db.operation.count (leased s.clock) < 2 := by
      rcases hor o ho hl with hold | ⟨leaseOwner, now, rfl, hn⟩ |
        ⟨leaseOwner, step, progress, now, rfl, hheld, ht, hd, hlive⟩
      · rw [hno] at hold
        exact absurd hold (by simp)
      · have hcap := (nextClaim_mem hn).2.2
        exact Nat.lt_of_le_of_lt (count_leased_le s.db.operation hw.stamp) hcap
      · rcases hw.guard.1 o ho hheld ht hd hlive with hold | hcap
        · obtain ⟨hid, hlo, hs⟩ := heldBy_iff.mp hheld
          have hmode := (row_ok hw.reach o ho).leased (.inl (by simp [hlo]))
          rw [leased_iff.mpr ⟨hmode, hs, hold⟩] at hno
          exact absurd hno (by simp)
        · exact hcap
    have honly : ∀ r ∈ s.db.operation.rows, leased s.clock (g r) = true →
        leased s.clock r = true ∨ (r.id == o.id) = true := by
      intro r hr hrl
      rcases hor r hr hrl with hold | ⟨leaseOwner, now, rfl, hn⟩ |
        ⟨leaseOwner, step, progress, now, rfl, -⟩
      · exact .inl hold
      · rcases hor o ho hl with hold | ⟨_, _, he, hn'⟩ | ⟨_, _, _, _, he, -⟩
        · rw [hno] at hold
          exact absurd hold (by simp)
        · cases he
          rw [hn] at hn'
          cases hn'
          exact .inr (by simp)
        · exact absurd he (by simp)
      · rcases hor o ho hl with hold | ⟨_, _, he, -⟩ | ⟨_, _, _, _, he, -⟩
        · rw [hno] at hold
          exact absurd hold (by simp)
        · exact absurd he (by simp)
        · injection he with hid
          exact .inr (by simp [hid])
    have hcnt := countP_map_le_add honly
    have hone : s.db.operation.rows.countP (fun r => r.id == o.id) ≤ 1 := count_id_le_one s.db o.id
    unfold Table.count at hroom
    omega
  · have hkeep : ∀ o ∈ s.db.operation.rows, leased s.clock (g o) = true →
        leased s.clock o = true := by
      intro o ho hl
      by_contra hno
      exact hnew ⟨o, ho, hl, by simpa using hno⟩
    have hcnt := countP_map_le hkeep
    unfold Table.count at h
    omega

/-- **Step**: a write keeps a bound on the active operations of some actors that admission and
restarts keep. -/
theorem active_commit (hf : w.Formed sha256 s.db) (hrow : ∀ o ∈ s.db.operation, RowOk o)
    (hd : s.db.commit w = .ok done) {who : String → Bool} {limit : Nat}
    (hadmission : ∀ p now, w = .create p now → p.input.queued.isSome = true →
      who p.input.userId = true → s.db.operation.count (activeWho who) < limit)
    (hrevive : ∀ o ∈ s.db.operation, w.revivesWho who o = true →
      s.db.operation.count (activeWho who) + s.db.operation.count (w.revivesWho who) ≤ limit)
    (h : s.db.operation.count (activeWho who) ≤ limit) :
    done.db.operation.count (activeWho who) ≤ limit := by
  rcases commit_rows hd with ⟨p, now, hw, hrows⟩ | ⟨g, hrows, hg⟩
  · unfold Table.count at h ⊢
    rw [hrows, List.countP_append, List.countP_singleton]
    split
    · rename_i hact
      simp only [activeWho, Bool.and_eq_true, activeQueued_iff] at hact
      have hqu : p.input.queued.isSome = true := by
        by_contra hnone
        simp [PreparedBegin.row, hnone] at hact
      have hroom := hadmission p now hw hqu hact.2
      unfold Table.count at hroom
      omega
    · omega
  have hor : ∀ o ∈ s.db.operation.rows, activeWho who (g o) = true →
      activeWho who o = true ∨ w.revivesWho who o = true := by
    intro o ho ha
    simp only [activeWho, Write.revivesWho, Bool.and_eq_true] at ha ⊢
    rw [(hg o ho).identity.createdByUserId] at ha
    rcases (hg o ho).active_origin hf (hrow o ho) ha.1 with hact | hrevives
    · exact .inl ⟨hact, ha.2⟩
    · exact .inr ⟨hrevives, ha.2⟩
  unfold Table.count
  rw [hrows]
  by_cases hrev : ∃ o ∈ s.db.operation, w.revivesWho who o = true
  · obtain ⟨o, ho, hr⟩ := hrev
    exact (countP_map_le_add hor).trans (hrevive o ho hr)
  · have hkeep : ∀ o ∈ s.db.operation.rows, activeWho who (g o) = true →
        activeWho who o = true := fun o ho ha =>
      (hor o ho ha).resolve_right fun hr => hrev ⟨o, ho, hr⟩
    exact (countP_map_le hkeep).trans h

theorem activeWho_any : activeWho (fun _ => true) = activeQueued := by
  funext o
  simp [activeWho]

theorem revivesWho_any (w : Write) : w.revivesWho (fun _ => true) = w.revives := by
  funext o
  simp [Write.revivesWho]

/-- What admission checked before it let a queued operation in. -/
theorem admitted {db : Db} {input : BeginOperationInput} (h : checkAdmission db input = .ok ())
    (hqu : input.queued.isSome = true) :
    db.operation.count activeQueued < MAX_QUEUED_PER_TARGET ∧
      db.operation.count (activeQueuedOf input.userId) < MAX_QUEUED_PER_ACTOR := by
  unfold checkAdmission at h
  split at h
  · exact absurd h (by simp)
  · rename_i hno
    simpa [hqu] using hno

end Step

/-! ## Runs -/

variable {sha256 : String → String} {s : State}

theorem capacity_reach (hs : Reachable sha256 KeepsBounds s) :
    s.db.operation.count (leased s.clock) ≤ 2 := by
  refine Reach.invariant_of hs (Nat.zero_le 2) ?_
  intro s a s' hrc ih hok h
  have hclk : s.clock ≤ s'.clock := step_clock h
  refine (count_leased_le s'.db.operation hclk).trans ?_
  rcases step_db h with ⟨hrows, -⟩ | ⟨w, done, hw, hd, hdb⟩
  · rw [hrows]
    exact ih
  · rw [hdb]
    obtain ⟨hstamp, hformed⟩ := issued_formed hrc hw
    exact leased_commit ⟨hrc, hstamp, hformed, hok w hw, hd⟩ ih

theorem target_reach (hs : Reachable sha256 KeepsBounds s) :
    s.db.operation.count activeQueued ≤ MAX_QUEUED_PER_TARGET := by
  rw [← activeWho_any]
  refine reach_tables (fun operation _ => operation.count (activeWho fun _ => true) ≤
    MAX_QUEUED_PER_TARGET) hs (Nat.zero_le _) ?_
  intro s w done hw ih
  refine active_commit hw.formed (row_ok hw.reach) hw.commit ?_ ?_ ih
  · rintro p now rfl hqu -
    rw [activeWho_any]
    exact (admitted (create_spec hw.commit).1 hqu).1
  · intro o ho hrev
    rw [revivesWho_any] at hrev
    rw [activeWho_any, revivesWho_any]
    exact (hw.guard.2 o ho hrev).1

theorem actor_reach (hs : Reachable sha256 KeepsBounds s) (userId : String) :
    s.db.operation.count (activeQueuedOf userId) ≤ MAX_QUEUED_PER_ACTOR := by
  refine reach_tables (fun operation _ => operation.count (activeWho (· == userId)) ≤
    MAX_QUEUED_PER_ACTOR) hs (Nat.zero_le _) ?_
  intro s w done hw ih
  refine active_commit hw.formed (row_ok hw.reach) hw.commit ?_ ?_ ih
  · rintro p now rfl hqu huser
    have hroom := (admitted (create_spec hw.commit).1 hqu).2
    rw [beq_iff_eq.mp huser] at hroom
    exact hroom
  · intro o ho hrev
    simp only [Write.revivesWho, Bool.and_eq_true, beq_iff_eq] at hrev
    obtain ⟨hrev, rfl⟩ := hrev
    exact (hw.guard.2 o ho hrev).2

/-- **The queue stays within its bounds** in a run whose heartbeats and restarts keep them. -/
theorem queue_bounded (hs : Reachable sha256 KeepsBounds s) : QueueBounds s where
  capacity := capacity_reach hs
  target := target_reach hs
  actor := actor_reach hs
  attempts o ho := (row_ok hs o ho).attempts

/-- Three queued operations, the first of which a worker claims. -/
def threeQueued : List Action :=
  Sample.perform 0 4 (.begin (Sample.queued "key-0001" none none 100000) "uuid-0001" "op-1" false) ++
    Sample.perform 1 4
      (.begin (Sample.queued "key-0002" none none 100000) "uuid-0002" "op-2" false) ++
    Sample.perform 2 4
      (.begin (Sample.queued "key-0003" none none 100000) "uuid-0003" "op-3" false) ++
    Sample.claim 3 "worker:1"

/-- A second worker claims one operation and finds no capacity for the third. -/
theorem queue_bounded_full :
    ∃ s, Reachable Sample.digest KeepsBounds s ∧
      (∃ o ∈ s.db.operation, o.status = .queued) ∧
      s.db.operation.count (leased s.clock) = 2 ∧ QueueBounds s := by
  have hrun : (run (State.step Sample.digest) (Writes KeepsBounds) .init
      (threeQueued ++ Sample.claim 4 "worker:2" ++ Sample.claim 5 "worker:2")).any
      (fun s : State => decide ((∃ o ∈ s.db.operation, o.status = .queued) ∧
        s.db.operation.count (leased s.clock) = 2)) = true := by decide +kernel
  obtain ⟨s, hs, hqu, hfull⟩ := Reach.of_run_any hrun
  exact ⟨s, hs, hqu, hfull, queue_bounded hs⟩

/-- The heartbeat of the first execution reads the clock just before its lease runs out, and its
statement runs after the other two operations were claimed. -/
def lateHeartbeat : List Action :=
  threeQueued ++ [Action.tick 29999, .heartbeat 3 none none] ++ Sample.advance 4 1 ++
    [Action.tick 2] ++ Sample.claim 5 "worker:2" ++ Sample.claim 6 "worker:2" ++ Sample.advance 4 1

/-- **The failing state**: three live leases. -/
theorem late_heartbeat_exceeds_capacity :
    ∃ s, Reachable Sample.digest anyWrite s ∧ ¬ QueueBounds s := by
  have hrun : (run (State.step Sample.digest) (Writes anyWrite) .init lateHeartbeat).any
      (fun s : State => decide (s.db.operation.count (leased s.clock) = 3)) = true :=
        by decide +kernel
  obtain ⟨s, hs, hthree⟩ := Reach.of_run_any hrun
  refine ⟨s, hs, fun h => ?_⟩
  have hcap := h.capacity
  omega

end Meowbox.Operations
