import Meowbox.Backups.Store
import Mathlib.Data.Rat.Floor

/-!
# What becomes of a backup row

Progress of the agent is buffered (`BackupProgressBuffer`) and written by a timer, so a row may be
`COMPLETED` by the time its progress arrives. Completions come from the agent's receipt or from its
reconciliation, a dispatch may fail after the agent has finished, and the watchdog fails every row
that is old enough. Each of them ends in one `updateMany` with its own guard, and any number of them
may come in any order.

* `step_cases`: what an event does to a row.
* `backup_row_states`: what any number of events does to a row.
-/

namespace Meowbox.Backups

open Relational JsData Operations

/-! ## `BackupProgressBuffer` -/

structure BackupProgressBuffer where
  pending : List (String × Int)
  /-- What the flush that runs has not persisted yet. -/
  batch : List (String × Int)
  draining : Bool

/-- `pending.set(id, progress)`. -/
def setPending (id : String) (progress : Int) : List (String × Int) → List (String × Int)
  | [] => [(id, progress)]
  | entry :: entries =>
    if entry.1 = id then (id, progress) :: entries else entry :: setPending id progress entries

/-- `push`; `none` is a progress that is not a finite number. -/
def BackupProgressBuffer.push (buffer : BackupProgressBuffer) (id : String) (progress : Option ℚ) :
    BackupProgressBuffer :=
  match progress with
  | none => buffer
  | some progress =>
    if 80 < units id.toList then buffer
    else if (buffer.pending.all fun entry => entry.1 != id) && 128 ≤ buffer.pending.length then buffer
    else { buffer with pending := setPending id (max 0 (min 100 ⌊progress⌋)) buffer.pending }

/-- `discard`. -/
def BackupProgressBuffer.discard (buffer : BackupProgressBuffer) (id : String) :
    BackupProgressBuffer :=
  { buffer with pending := buffer.pending.filter fun entry => entry.1 != id }

/-- `flush`, up to its first `await`. -/
def BackupProgressBuffer.flush (buffer : BackupProgressBuffer) : BackupProgressBuffer :=
  if buffer.draining then buffer else ⟨[], buffer.pending, true⟩

/-! ## The events -/

/-- The backups, the operations a reservation looks at, and the progress that waits. -/
structure Tracker where
  db : Db
  backup : BackupTable
  progress : BackupProgressBuffer

/-- What reaches the backups. `stored` is false when the update of the event fails. -/
inductive BackupEvent
  /-- `backup:progress` of the agent. -/
  | progress (backupId : String) (progress : Option ℚ)
  /-- The timer of the buffer. -/
  | flush
  /-- The next turn of a flush. -/
  | persist (stored : Bool) (now : Time)
  /-- `backup:complete` of the agent. -/
  | complete (backupId : String) (completion : Completion) (stored : Bool) (now : Time)
  /-- A backup the agent has found again. -/
  | reconciled (backupId : String) (completion : Completion) (stored : Bool) (now : Time)
  | dispatchFailed (backupId : String) (uncertain : Bool) (message : String) (stored : Bool)
      (now : Time)
  /-- `recoverStaleBackups`. -/
  | watchdog (cutoff completedAt : Time) (activeAgentIds : List String) (stored : Bool)
  | reserve (siteId : String) (preparedBackups : List PreparedBackup) (now : Time)
  /-- The operations change. -/
  | operations (db : Db)

/-- `Number.MAX_SAFE_INTEGER`. -/
def MAX_SAFE_INTEGER : Nat := 9007199254740991

/-- The completion handler takes the payload. -/
def validCompletion (backupId : String) (completion : Completion) : Bool :=
  units backupId.toList ≤ 80 && completion.sizeBytes.all fun size => size ≤ MAX_SAFE_INTEGER

/-- The statement of an event; `none` when it reaches no row. -/
def Tracker.statement (t : Tracker) : BackupEvent → Option Statement
  | .progress _ _ => none
  | .flush => none
  | .persist stored now =>
    match t.progress.batch with
    | [] => none
    | (id, progress) :: _ => if stored then some (.updateBackupProgress id progress now) else none
  | .complete backupId completion stored now =>
    if validCompletion backupId completion && stored then
      some (.completeBackup backupId completion now)
    else none
  | .reconciled backupId completion stored now =>
    if completion.success && stored then some (.completeBackup backupId completion now) else none
  | .dispatchFailed backupId uncertain message stored now =>
    if stored then some (.dispatchFailed backupId uncertain message now) else none
  | .watchdog cutoff completedAt activeAgentIds stored =>
    if stored then some (.failStaleBackupRuns cutoff completedAt activeAgentIds) else none
  | .reserve siteId preparedBackups now =>
    some (.reserveSiteBackupRows siteId preparedBackups now)
  | .operations _ => none

/-- What an event does to the buffer. -/
def Tracker.buffered (t : Tracker) : BackupEvent → BackupProgressBuffer
  | .progress backupId progress => t.progress.push backupId progress
  | .flush => t.progress.flush
  | .persist _ _ =>
    match t.progress.batch with
    | [] => { t.progress with draining := false }
    | _ :: batch => { t.progress with batch := batch }
  | .complete backupId completion _ _ =>
    if validCompletion backupId completion then t.progress.discard backupId else t.progress
  | _ => t.progress

/-- One event. -/
def Tracker.step (t : Tracker) (e : BackupEvent) : Tracker where
  db := match e with
    | .operations db => db
    | _ => t.db
  backup := match t.statement e with
    | some statement => statement.run t.db t.backup
    | none => t.backup
  progress := t.buffered e

/-- The events one after the other. -/
def Tracker.run (t : Tracker) (events : List BackupEvent) : Tracker := events.foldl Tracker.step t

/-! ## A row across a statement -/

/-- `COMPLETED` or `FAILED`. -/
def BackupRow.terminal (b : BackupRow) : Bool := b.status == .completed || b.status == .failed

/-- The row holds what the completion reports; an empty snapshot id and a size of 0 are stored as
none at all. -/
def BackupRow.records (b : BackupRow) (c : Completion) : Prop :=
  b.resticSnapshotId = truthy c.snapshotId ∧ b.sizeBytes = c.sizeBytes.filter fun size => size != 0

/-- What a statement may do to the row `b`: leave it, work on it while it is active, fail it, or
complete it for a completion that reports success. -/
inductive RowStep (statement : Statement) (b : BackupRow) : BackupRow → Prop
  | unchanged : RowStep statement b b
  | worked {b' : BackupRow} (hid : b'.id = b.id) (hact : b.active = true)
      (hst : b'.status ≠ .completed) : RowStep statement b b'
  | failed {b' : BackupRow} (hid : b'.id = b.id) (hopen : b.status ≠ .completed)
      (hst : b'.status = .failed) {c : Completion} {now : Time}
      (hstm : statement = .completeBackup b.id c now) : RowStep statement b b'
  | completed {b' : BackupRow} (hid : b'.id = b.id) (hopen : b.status ≠ .completed)
      (hst : b'.status = .completed) {c : Completion} {now : Time}
      (hstm : statement = .completeBackup b.id c now) (hsuc : c.success = true)
      (hrcs : b'.records c) : RowStep statement b b'

theorem not_completed_of_active {b : BackupRow} (h : b.active = true) : b.status ≠ .completed := by
  intro hst
  rw [BackupRow.active, hst] at h
  exact absurd h (by decide)

theorem not_terminal_of_active {b : BackupRow} (h : b.active = true) : b.terminal = false := by
  cases hst : b.status <;> simp_all [BackupRow.active, BackupRow.terminal]

theorem not_completed_of_completionWhere {id : String} {b : BackupRow}
    (h : backupCompletionWhere id b = true) : b.id = id ∧ b.status ≠ .completed := by
  simp only [backupCompletionWhere, Bool.and_eq_true, beq_iff_eq, Bool.or_eq_true] at h
  refine ⟨h.1, ?_⟩
  rcases h.2 with (hact | ⟨hfail, -⟩) | ⟨hfail, -⟩
  · exact not_completed_of_active hact
  · rw [hfail]
    decide
  · rw [hfail]
    decide

variable {db : Db} {backup : BackupTable} {b : BackupRow}

/-- A row of a table that an update selects or passes over. -/
theorem row_run {u : BackupUpdate} {P : BackupRow → Prop} (hb : b ∈ backup) (hsame : P b)
    (hupd : u.selects b = true → P (u.data b)) : ∃ b' ∈ u.run backup, P b' := by
  refine ⟨Table.patch u.selects u.data b, List.mem_map_of_mem hb, ?_⟩
  by_cases hsel : u.selects b = true
  · rw [Table.patch_pos hsel]
    exact hupd hsel
  · rw [Table.patch_neg hsel]
    exact hsame

/-- The reservation of a site works on its active rows only. -/
theorem rowStep_failLegacy (statement : Statement) (siteId : String) (now : Time)
    (hb : b ∈ backup) : ∃ b' ∈ failLegacy backup siteId now, RowStep statement b b' := by
  refine ⟨_, List.mem_map_of_mem hb, ?_⟩
  by_cases hsel : legacy siteId b = true
  · rw [Table.patch_pos hsel]
    simp only [legacy, Bool.and_eq_true] at hsel
    exact .worked rfl hsel.1.1.2 (by simp)
  · rw [Table.patch_neg hsel]
    exact .unchanged

/-- **What a statement does to a row.** -/
theorem rowStep_statement (statement : Statement) (hb : b ∈ backup) :
    ∃ b' ∈ statement.run db backup, RowStep statement b b' := by
  cases statement with
  | reserveSiteBackupRows siteId preparedBackups now =>
    simp only [Statement.run]
    split
    · rename_i reserved hrsv
      obtain ⟨-, -, hrows⟩ := reserve_spec hrsv
      obtain ⟨b', hb', hstep⟩ := rowStep_failLegacy
        (.reserveSiteBackupRows siteId preparedBackups now) siteId now hb
      refine ⟨b', ?_, hstep⟩
      rw [Table.mem_def, hrows]
      exact List.mem_append_left _ hb'
    · exact ⟨b, hb, .unchanged⟩
  | updateBackupProgress backupId progress now =>
    refine row_run hb .unchanged fun hsel => ?_
    exact .worked rfl (Bool.and_eq_true_iff.mp hsel).2 (by simp [updateBackupProgress])
  | completeBackup backupId completion now =>
    refine row_run hb .unchanged fun hsel => ?_
    obtain ⟨rfl, hopen⟩ := not_completed_of_completionWhere hsel
    by_cases hsuc : completion.success = true
    · exact .completed rfl hopen (if_pos hsuc) rfl hsuc ⟨rfl, rfl⟩
    · exact .failed rfl hopen (if_neg hsuc) rfl
  | dispatchFailed backupId uncertain message now =>
    refine row_run hb .unchanged fun hsel => ?_
    refine .worked rfl (Bool.and_eq_true_iff.mp hsel).2 ?_
    cases uncertain
    · exact fun h => BackupStatus.noConfusion h
    · exact fun h => BackupStatus.noConfusion h
  | failStaleBackupRuns cutoff completedAt activeAgentIds =>
    refine row_run hb .unchanged fun hsel => ?_
    simp only [failStaleBackupRuns, Bool.and_eq_true] at hsel
    exact .worked rfl hsel.1.1 (by simp [failStaleBackupRuns])

variable {statement : Statement}

theorem RowStep.id_eq {b' : BackupRow} (h : RowStep statement b b') : b'.id = b.id := by
  cases h with
  | unchanged => rfl
  | worked hid => exact hid
  | failed hid => exact hid
  | completed hid => exact hid

/-- A completed row is left alone. -/
theorem RowStep.of_completed {b' : BackupRow} (h : RowStep statement b b')
    (hcomp : b.status = .completed) : b' = b := by
  cases h with
  | unchanged => rfl
  | worked hid hact => exact absurd hcomp (not_completed_of_active hact)
  | failed hid hopen => exact absurd hcomp hopen
  | completed hid hopen => exact absurd hcomp hopen

/-- A failed row stays failed until a completion reports success. -/
theorem RowStep.of_failed {b' : BackupRow} (h : RowStep statement b b')
    (hfail : b.status = .failed) : b'.status = .failed ∨ b'.status = .completed := by
  cases h with
  | unchanged => exact .inl hfail
  | worked hid hact =>
    rw [BackupRow.active, hfail] at hact
    exact absurd hact (by decide)
  | failed hid hopen hst => exact .inl hst
  | completed hid hopen hst => exact .inr hst

/-! ## A row across events -/

variable {t : Tracker}

/-- **What an event does to a row**: nothing, or what its statement does. -/
theorem step_cases (e : BackupEvent) (hb : b ∈ t.backup) :
    b ∈ (t.step e).backup ∨ ∃ statement, t.statement e = some statement ∧
      ∃ b' ∈ (t.step e).backup, RowStep statement b b' := by
  simp only [Tracker.step]
  cases hs : t.statement e with
  | none => exact .inl hb
  | some statement => exact .inr ⟨statement, rfl, rowStep_statement statement hb⟩

/-- The event reports the success `c` of the backup. -/
def BackupEvent.completes (e : BackupEvent) (backupId : String) (c : Completion) : Prop :=
  c.success = true ∧ ∃ now, e = .complete backupId c true now ∨ e = .reconciled backupId c true now

/-- The event writes progress. -/
def BackupEvent.isProgress : BackupEvent → Bool
  | .progress _ _ => true
  | .flush => true
  | .persist _ _ => true
  | _ => false

/-- The timer of the buffer writes progress only. -/
theorem statement_of_progress {e : BackupEvent} (he : e.isProgress = true)
    (h : t.statement e = some statement) :
    ∃ id progress now, statement = .updateBackupProgress id progress now := by
  cases e with
  | progress id value => exact absurd h (by simp [Tracker.statement])
  | flush => exact absurd h (by simp [Tracker.statement])
  | persist stored now =>
    simp only [Tracker.statement] at h
    split at h
    · exact absurd h (by simp)
    · obtain ⟨-, h⟩ := Option.ite_none_right_eq_some.mp h
      exact ⟨_, _, _, (Option.some.inj h).symm⟩
  | _ => exact absurd he (by simp [BackupEvent.isProgress])

theorem completes_of_statement {e : BackupEvent} {backupId : String} {c : Completion} {now : Time}
    (h : t.statement e = some (.completeBackup backupId c now)) (hsuc : c.success = true) :
    e.completes backupId c := by
  cases e with
  | complete id completion stored at_ =>
    obtain ⟨hval, h⟩ := Option.ite_none_right_eq_some.mp h
    cases h
    rw [(Bool.and_eq_true_iff.mp hval).2]
    exact ⟨hsuc, _, .inl rfl⟩
  | reconciled id completion stored at_ =>
    obtain ⟨hval, h⟩ := Option.ite_none_right_eq_some.mp h
    cases h
    rw [(Bool.and_eq_true_iff.mp hval).2]
    exact ⟨hsuc, _, .inr rfl⟩
  | persist stored at_ =>
    obtain ⟨_, _, _, hprogress⟩ := statement_of_progress rfl h
    exact absurd hprogress (by simp)
  | _ => exact absurd h (by simp [Tracker.statement])

/-- Progress leaves a terminal row alone. -/
theorem step_progress {e : BackupEvent} (he : e.isProgress = true) (hb : b ∈ t.backup)
    (hterm : b.terminal = true) : b ∈ (t.step e).backup := by
  rcases step_cases e hb with hsame | ⟨statement, hstm, b', hb', hstep⟩
  · exact hsame
  · obtain ⟨id, progress, now, rfl⟩ := statement_of_progress he hstm
    cases hstep with
    | unchanged => exact hb'
    | worked hid hact =>
      rw [not_terminal_of_active hact] at hterm
      exact absurd hterm (by simp)
    | failed hid hopen hst hcomplete => exact absurd hcomplete (by simp)
    | completed hid hopen hst hcomplete => exact absurd hcomplete (by simp)

/-- The row `b'` was made `COMPLETED` in the run by a completion that reports success, and holds
what that completion reports. -/
def CompletedBy (t : Tracker) (events : List BackupEvent) (b' : BackupRow) : Prop :=
  ∃ earlier e later c, events = earlier ++ e :: later ∧ e.completes b'.id c ∧ b'.records c ∧
    (∃ b ∈ (t.run earlier).backup, b.id = b'.id ∧ b.status ≠ .completed) ∧
      b' ∈ ((t.run earlier).step e).backup

theorem CompletedBy.cons {events : List BackupEvent} {b' : BackupRow} {e : BackupEvent}
    (h : CompletedBy (t.step e) events b') : CompletedBy t (e :: events) b' := by
  obtain ⟨earlier, e', later, c, rfl, hcompletes, hrcs, hfnd, hmade⟩ := h
  exact ⟨e :: earlier, e', later, c, rfl, hcompletes, hrcs, hfnd, hmade⟩

/-- What a run does to the row `b`. -/
structure RowRun (t : Tracker) (events : List BackupEvent) (b b' : BackupRow) : Prop where
  id : b'.id = b.id
  completed : b.status = .completed → b' = b
  failed : b.status = .failed → b'.status = .failed ∨ b'.status = .completed
  completedBy : b.status ≠ .completed → b'.status = .completed → CompletedBy t events b'

theorem run_row (events : List BackupEvent) : ∀ {t : Tracker} {b : BackupRow}, b ∈ t.backup →
    ∃ b' ∈ (t.run events).backup, RowRun t events b b' := by
  induction events with
  | nil =>
    intro t b hb
    exact ⟨b, hb, rfl, fun _ => rfl, .inl, fun hopen hcomp => absurd hcomp hopen⟩
  | cons e events ih =>
    intro t b hb
    rcases step_cases e hb with hsame | ⟨statement, hstm, m, hm, hstep⟩
    · obtain ⟨b', hb', hrun⟩ := ih hsame
      exact ⟨b', hb', hrun.id, hrun.completed, hrun.failed,
        fun hopen hcomp => (hrun.completedBy hopen hcomp).cons⟩
    · obtain ⟨b', hb', hrun⟩ := ih hm
      refine ⟨b', hb', hrun.id.trans hstep.id_eq, fun hcomp => ?_, fun hfail => ?_,
        fun hopen hcomp => ?_⟩
      · have hkept := hstep.of_completed hcomp
        exact (hrun.completed (hkept ▸ hcomp)).trans hkept
      · rcases hstep.of_failed hfail with hm' | hm'
        · exact hrun.failed hm'
        · rw [hrun.completed hm']
          exact .inr hm'
      · by_cases hmade : m.status = .completed
        · -- the row was completed by this event, and has not changed since
          obtain rfl := hrun.completed hmade
          cases hstep with
          | unchanged => exact absurd hmade hopen
          | worked hid hact hst => exact absurd hmade hst
          | failed hid _ hst => exact absurd (hmade.symm.trans hst) (by decide)
          | completed hid _ hst hcomplete hsuc hrcs =>
            rw [hcomplete] at hstm
            exact ⟨[], e, events, _, rfl, hid ▸ completes_of_statement hstm hsuc,
              hrcs, ⟨b, hb, hid.symm, hopen⟩, hm⟩
        · exact (hrun.completedBy hmade hcomp).cons

def pendingBackup : BackupRow :=
  PreparedBackup.row ⟨"run", .restic, some "location"⟩ "site" 0

def reserved : Tracker := ⟨.empty, ⟨[pendingBackup], by decide⟩, ⟨[], [], false⟩⟩

/-- The agent admits the run too late for the dispatcher and works on; the watchdog gives it up, and
then its progress, its receipt and a second watchdog arrive. -/
def lateReceipt : List BackupEvent :=
  [.progress "run" (some 40), .flush, .dispatchFailed "run" false "socket closed" true 1,
    .persist true 2, .watchdog 10 11 [] true, .progress "run" (some 60), .flush,
    .complete "run" ⟨true, some "restic:5f2a", some 4096, "", some "5f2a"⟩ true 12,
    .persist true 13, .complete "run" ⟨true, none, some 1, "", some "other"⟩ true 14,
    .watchdog 20 21 [] true]

end Meowbox.Backups
