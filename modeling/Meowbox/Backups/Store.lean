import Meowbox.AgentJobs.System

/-!
# The backup rows and the statements on them

The rows of `backups` and every statement of `BackupsService`, `backup-completion.ts` and
`backup-run-recovery.ts` that writes the status of a row. The reservation is a transaction that also
reads the operations of the site and their locks: it works on the database of `OperationsService`.

* `reserve_spec`: what a reservation checked, and the rows it left; `reserve_of_free`: when it goes
  through.
* `mem_statement`: no statement but a reservation makes a row active.
-/

namespace Meowbox.Backups

open Relational JsData Operations

inductive BackupEngine
  | tar | restic
deriving DecidableEq

/-- A row of `backups`. -/
structure BackupRow where
  id : String
  siteId : String
  engine : BackupEngine
  storageLocationId : Option String
  status : BackupStatus
  progress : Int
  filePath : String
  resticSnapshotId : Option String
  sizeBytes : Option Nat
  errorMessage : Option String
  startedAt : Option Time
  completedAt : Option Time
  createdAt : Time

/-- `backups`: the primary key. -/
abbrev BackupTable := Table [BackupRow.id]

/-- The columns `OperationsService` reads. -/
def BackupRow.seen (b : BackupRow) : Backup := ⟨b.id, b.siteId, b.status⟩

/-- `{ in: [PENDING, IN_PROGRESS] }`. -/
def BackupRow.active (b : BackupRow) : Bool := b.status == .pending || b.status == .inProgress

/-- The `data` of a prepared backup. -/
structure PreparedBackup where
  id : String
  engine : BackupEngine
  storageLocationId : Option String

def PreparedBackup.row (p : PreparedBackup) (siteId : String) (now : Time) : BackupRow where
  id := p.id
  siteId := siteId
  engine := p.engine
  storageLocationId := p.storageLocationId
  status := .pending
  progress := 0
  filePath := ""
  resticSnapshotId := none
  sizeBytes := none
  errorMessage := none
  startedAt := none
  completedAt := none
  createdAt := now

/-! ## The reservation -/

/-- The operation has the site as its scope or holds its lock. -/
def scopedTo (db : Db) (siteId : String) (o : Operation) : Bool :=
  o.siteId == some siteId || (db.operationLock.find? fun l =>
    l.operationId == o.id && l.resourceKey == "site:" ++ siteId).isSome

/-- The statuses the reservation looks for. -/
def RESERVATION_STATUSES : List OperationStatus := [.pending, .running]

/-- The `findFirst` of the reservation. -/
def activeOperation (db : Db) (siteId : String) : Option Operation :=
  db.operation.find? fun o => RESERVATION_STATUSES.contains o.status && scopedTo db siteId o

/-- A row that stands for a run no storage location can hold. -/
def legacy (siteId : String) (b : BackupRow) : Bool :=
  b.siteId == siteId && b.active && b.engine == .restic && b.storageLocationId.isNone

/-- The update of the reservation. -/
def failLegacy (backup : BackupTable) (siteId : String) (now : Time) : BackupTable :=
  backup.updateMany (legacy siteId)
    (fun b => { b with
      status := .failed
      errorMessage := some "Некорректный legacy Restic backup без StorageLocation"
      completedAt := some now })
    fun k hk _ => by
      rw [List.mem_singleton.mp hk]

/-- `reserveSiteBackupRows`. -/
def reserveSiteBackupRows (db : Db) (backup : BackupTable) (siteId : String)
    (preparedBackups : List PreparedBackup) (now : Time) : Except Fault BackupTable :=
  match activeOperation db siteId with
  | some activeOperation =>
    .error (.conflict "Site operation is active" (some activeOperation.id))
  | none =>
    let failed := failLegacy backup siteId now
    match failed.find? fun b => b.siteId == siteId && b.active with
    | some activeBackup =>
      .error (.conflict "A backup is already in progress for this site" (some activeBackup.id))
    | none =>
      match failed.createMany? (preparedBackups.map fun p => p.row siteId now) with
      | some created => .ok created
      | none => .error .uniqueViolation

/-- The rows can be created. -/
def Fresh (backup : BackupTable) (preparedBackups : List PreparedBackup) : Prop :=
  (preparedBackups.map PreparedBackup.id).Nodup ∧
    ∀ p ∈ preparedBackups, ∀ b ∈ backup, b.id ≠ p.id

instance (backup : BackupTable) (preparedBackups : List PreparedBackup) :
    Decidable (Fresh backup preparedBackups) := by
  unfold Fresh
  infer_instance

/-! ## The life of a row -/

/-- `updateMany` on `backups`, which leaves the identity alone. -/
structure BackupUpdate where
  selects : BackupRow → Bool
  data : BackupRow → BackupRow
  keeps : ∀ b, (data b).id = b.id ∧ (data b).siteId = b.siteId

def BackupUpdate.run (u : BackupUpdate) (backup : BackupTable) : BackupTable :=
  backup.updateMany u.selects u.data fun k hk b => by
    rw [List.mem_singleton.mp hk]
    exact (u.keeps b).1

/-- `updateBackupProgress`. -/
def updateBackupProgress (backupId : String) (progress : Int) (now : Time) : BackupUpdate where
  selects b := b.id == backupId && b.active
  data b := { b with
    progress := min progress 100
    status := .inProgress
    startedAt := if progress = 0 then some now else b.startedAt }
  keeps _ := ⟨rfl, rfl⟩

/-- `{ startsWith: start }`. -/
def startsWith (start : String) (text : Option String) : Bool :=
  text.any fun t => start.toList.isPrefixOf t.toList

/-- `backupCompletionWhere`. -/
def backupCompletionWhere (id : String) (b : BackupRow) : Bool :=
  b.id == id && (b.active ||
    (b.status == .failed && startsWith "Операция зависла" b.errorMessage) ||
    (b.status == .failed && startsWith "Dispatch failed:" b.errorMessage))

/-- What a completion reports; `errorMessage` is what `safeErrorMessage` made of the error. -/
structure Completion where
  success : Bool
  filePath : Option String
  sizeBytes : Option Nat
  errorMessage : String
  snapshotId : Option String

/-- `completeBackup`. -/
def completeBackup (backupId : String) (c : Completion) (now : Time) : BackupUpdate where
  selects := backupCompletionWhere backupId
  data b := { b with
    status := if c.success then .completed else .failed
    filePath := (truthy c.filePath).getD ""
    resticSnapshotId := truthy c.snapshotId
    sizeBytes := c.sizeBytes.filter fun size => size != 0
    errorMessage := if c.success then none else some c.errorMessage
    completedAt := some now
    progress := if c.success then 100 else 0 }
  keeps _ := ⟨rfl, rfl⟩

/-- The update behind a failed dispatch, with `backupDispatchFailure`: `uncertain` when the agent
did not answer in time. -/
def dispatchFailed (backupId : String) (uncertain : Bool) (message : String) (now : Time) :
    BackupUpdate where
  selects b := b.id == backupId && b.active
  data b := { b with
    status := if uncertain then .pending else .failed
    errorMessage := some ("Dispatch failed: " ++ AgentJobs.slice 1000
      ((truthy (some message)).getD "Agent admission failed"))
    completedAt := if uncertain then none else some now }
  keeps _ := ⟨rfl, rfl⟩

/-- `failStaleBackupRuns` on the backups of sites. -/
def failStaleBackupRuns (cutoff completedAt : Time) (activeAgentIds : List String) :
    BackupUpdate where
  selects b := b.active && decide (b.createdAt < cutoff) && !activeAgentIds.contains b.id
  data b := { b with
    status := .failed
    errorMessage :=
      some "Операция зависла: агент не подтвердил результат; требуется сверка с хранилищем"
    completedAt := some completedAt
    progress := 0 }
  keeps _ := ⟨rfl, rfl⟩

/-- A statement of the backup services. -/
inductive Statement
  | reserveSiteBackupRows (siteId : String) (preparedBackups : List PreparedBackup) (now : Time)
  | updateBackupProgress (backupId : String) (progress : Int) (now : Time)
  | completeBackup (backupId : String) (completion : Completion) (now : Time)
  | dispatchFailed (backupId : String) (uncertain : Bool) (message : String) (now : Time)
  | failStaleBackupRuns (cutoff completedAt : Time) (activeAgentIds : List String)

/-- What a statement leaves of the backups; one that throws leaves them as they are. -/
def Statement.run (db : Db) (backup : BackupTable) : Statement → BackupTable
  | .reserveSiteBackupRows siteId preparedBackups now =>
    match Backups.reserveSiteBackupRows db backup siteId preparedBackups now with
    | .ok reserved => reserved
    | .error _ => backup
  | .updateBackupProgress backupId progress now =>
    (Backups.updateBackupProgress backupId progress now).run backup
  | .completeBackup backupId completion now =>
    (Backups.completeBackup backupId completion now).run backup
  | .dispatchFailed backupId uncertain message now =>
    (Backups.dispatchFailed backupId uncertain message now).run backup
  | .failStaleBackupRuns cutoff completedAt activeAgentIds =>
    (Backups.failStaleBackupRuns cutoff completedAt activeAgentIds).run backup

/-! ## What a statement leaves -/

variable {db : Db} {backup backup' : BackupTable} {b b' : BackupRow}

/-- The update makes no row active that was not. -/
def BackupUpdate.Quiet (u : BackupUpdate) : Prop :=
  ∀ b, u.selects b = true → (u.data b).active = true → b.active = true

/-- A row after an update was there. -/
theorem mem_run {u : BackupUpdate} (h : b' ∈ u.run backup) :
    ∃ b ∈ backup, b'.siteId = b.siteId ∧ (u.Quiet → b'.active = true → b.active = true) := by
  obtain ⟨b, hb, rfl⟩ := List.mem_map.mp h
  refine ⟨b, hb, ?_⟩
  by_cases hsel : u.selects b = true
  · rw [Table.patch_pos hsel]
    exact ⟨(u.keeps b).2, fun hqt => hqt b hsel⟩
  · rw [Table.patch_neg hsel]
    exact ⟨rfl, fun _ => id⟩

theorem updateBackupProgress_quiet (backupId : String) (progress : Int) (now : Time) :
    (updateBackupProgress backupId progress now).Quiet := by
  intro b hsel _
  exact (Bool.and_eq_true_iff.mp hsel).2

theorem completeBackup_quiet (backupId : String) (completion : Completion) (now : Time) :
    (completeBackup backupId completion now).Quiet := by
  intro b _ hact
  unfold BackupRow.active at hact
  simp only [completeBackup] at hact
  split at hact
  · exact absurd hact (by decide)
  · exact absurd hact (by decide)

theorem dispatchFailed_quiet (backupId : String) (uncertain : Bool) (message : String)
    (now : Time) : (dispatchFailed backupId uncertain message now).Quiet := by
  intro b hsel _
  exact (Bool.and_eq_true_iff.mp hsel).2

theorem failStaleBackupRuns_quiet (cutoff completedAt : Time) (activeAgentIds : List String) :
    (failStaleBackupRuns cutoff completedAt activeAgentIds).Quiet := by
  intro b _ hact
  exact absurd hact (by simp [failStaleBackupRuns, BackupRow.active])

/-- A row the reservation failed was there, and is not active. -/
theorem mem_failLegacy {siteId : String} {now : Time} (h : b' ∈ failLegacy backup siteId now) :
    ∃ b ∈ backup, b'.siteId = b.siteId ∧ (b'.active = true → b.active = true) := by
  obtain ⟨b, hb, rfl⟩ := List.mem_map.mp h
  refine ⟨b, hb, ?_⟩
  by_cases hsel : legacy siteId b = true
  · rw [Table.patch_pos hsel]
    exact ⟨rfl, fun hact => absurd hact (by simp [BackupRow.active])⟩
  · rw [Table.patch_neg hsel]
    exact ⟨rfl, id⟩

theorem failLegacy_ids (backup : BackupTable) (siteId : String) (now : Time) :
    (failLegacy backup siteId now).rows.map BackupRow.id = backup.rows.map BackupRow.id :=
  Table.updateMany_key List.mem_cons_self

theorem prepared_ids (siteId : String) (now : Time) (preparedBackups : List PreparedBackup) :
    (preparedBackups.map fun p => p.row siteId now).map BackupRow.id =
      preparedBackups.map PreparedBackup.id := by
  rw [List.map_map]
  rfl

/-- What a reservation checked, and the rows it left. -/
theorem reserve_spec {siteId : String} {preparedBackups : List PreparedBackup} {now : Time}
    (h : reserveSiteBackupRows db backup siteId preparedBackups now = .ok backup') :
    activeOperation db siteId = none ∧ Fresh backup preparedBackups ∧
      backup'.rows = (failLegacy backup siteId now).rows ++
        preparedBackups.map fun p => p.row siteId now := by
  unfold reserveSiteBackupRows at h
  split at h
  · exact absurd h (by simp)
  · rename_i hfree
    simp only at h
    split at h
    · exact absurd h (by simp)
    · split at h
      · rename_i created hcr
        cases h
        have hrows := Table.createMany?_rows hcr
        refine ⟨hfree, ⟨?_, fun p hp b hb hid => ?_⟩, hrows⟩
        · have hnd := backup'.unique BackupRow.id List.mem_cons_self
          rw [hrows, List.map_append, prepared_ids] at hnd
          exact (List.nodup_append.mp hnd).2.1
        · refine Table.createMany?_fresh hcr BackupRow.id List.mem_cons_self
            (p.row siteId now) (List.mem_map_of_mem hp) ?_
          rw [failLegacy_ids]
          exact List.mem_map.mpr ⟨b, hb, hid⟩
      · exact absurd h (by simp)

/-- A reservation that finds neither an operation nor a backup goes through. -/
theorem reserve_of_free {siteId : String} {preparedBackups : List PreparedBackup} (now : Time)
    (hop : activeOperation db siteId = none) (hfr : Fresh backup preparedBackups)
    (hbk : ∀ b ∈ backup, b.siteId = siteId → b.active = false) :
    ∃ backup', reserveSiteBackupRows db backup siteId preparedBackups now = .ok backup' ∧
      ∀ p ∈ preparedBackups, p.row siteId now ∈ backup' := by
  have hnone : (failLegacy backup siteId now).find? (fun b => b.siteId == siteId && b.active) =
      none := by
    refine Table.find?_eq_none.mpr fun b' hb' hp => ?_
    obtain ⟨b, hb, hsite, hact⟩ := mem_failLegacy hb'
    rw [Bool.and_eq_true, beq_iff_eq] at hp
    have hold := hact hp.2
    rw [hbk b hb (hsite.symm.trans hp.1)] at hold
    exact absurd hold (by simp)
  have hrows : ∀ k ∈ [BackupRow.id], ((preparedBackups.map fun p => p.row siteId now).map k).Nodup ∧
      ∀ b ∈ preparedBackups.map fun p => p.row siteId now,
        k b ∉ (failLegacy backup siteId now).rows.map k := by
    intro k hk
    rw [List.mem_singleton.mp hk, prepared_ids, failLegacy_ids]
    refine ⟨hfr.1, fun r hr hmem => ?_⟩
    obtain ⟨p, hp, rfl⟩ := List.mem_map.mp hr
    obtain ⟨b, hb, hid⟩ := List.mem_map.mp hmem
    exact hfr.2 p hp b hb hid
  obtain ⟨created, hcr⟩ := Table.createMany?_of_free hrows
  refine ⟨created, ?_, fun p hp => ?_⟩
  · simp only [reserveSiteBackupRows, hop, hnone, hcr]
  · rw [Table.mem_def, Table.createMany?_rows hcr]
    exact List.mem_append_right _ (List.mem_map_of_mem hp)

/-- **A row after a statement**: it was there and was active if it is now, or a reservation of its
site created it. -/
theorem mem_statement {statement : Statement} (h : b' ∈ statement.run db backup) :
    (∃ b ∈ backup, b'.siteId = b.siteId ∧ (b'.active = true → b.active = true)) ∨
      ∃ preparedBackups now, statement = .reserveSiteBackupRows b'.siteId preparedBackups now ∧
        activeOperation db b'.siteId = none ∧ preparedBackups ≠ [] ∧
          Fresh backup preparedBackups := by
  have hqt : ∀ u : BackupUpdate, u.Quiet → b' ∈ u.run backup →
      ∃ b ∈ backup, b'.siteId = b.siteId ∧ (b'.active = true → b.active = true) := by
    intro u hu hmem
    obtain ⟨b, hb, hsite, hact⟩ := mem_run hmem
    exact ⟨b, hb, hsite, hact hu⟩
  cases statement with
  | reserveSiteBackupRows siteId preparedBackups now =>
    simp only [Statement.run] at h
    split at h
    · rename_i reserved hrsv
      obtain ⟨hfree, hfr, hrows⟩ := reserve_spec hrsv
      rw [Table.mem_def, hrows, List.mem_append] at h
      rcases h with hold | hnew
      · exact .inl (mem_failLegacy hold)
      · obtain ⟨p, hp, rfl⟩ := List.mem_map.mp hnew
        exact .inr ⟨preparedBackups, now, rfl, hfree, List.ne_nil_of_mem hp, hfr⟩
    · exact .inl ⟨b', h, rfl, id⟩
  | updateBackupProgress backupId progress now =>
    exact .inl (hqt _ (updateBackupProgress_quiet backupId progress now) h)
  | completeBackup backupId completion now =>
    exact .inl (hqt _ (completeBackup_quiet backupId completion now) h)
  | dispatchFailed backupId uncertain message now =>
    exact .inl (hqt _ (dispatchFailed_quiet backupId uncertain message now) h)
  | failStaleBackupRuns cutoff completedAt activeAgentIds =>
    exact .inl (hqt _ (failStaleBackupRuns_quiet cutoff completedAt activeAgentIds) h)

end Meowbox.Backups
