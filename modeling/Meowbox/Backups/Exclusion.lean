import Meowbox.Backups.Store
import Meowbox.Operations.ScopeLocks

/-!
# Backups and operations of one site

`Panel` is `OperationsService` with all its calls in flight, next to the backups. `Exclusive` is what
the two sides promise each other: no site has an active backup and an executing operation at once. A
backup row names no operation, so none is exempt.

`begin` and `attachScope` look for active backups in the transaction that takes the scope. The
reservation looks for operations that are `PENDING` or `RUNNING`, and an operation that is `QUEUED`,
`CLAIMED`, `RECOVERING` or `CANCEL_REQUESTED` it does not see.

* `backups_exclude_operations`: every run in which no reservation passes such an operation, and no
  restart takes up an operation that has ended, keeps the sides apart, and a further event does
  exactly when it is such an event.
* `reservation_passes_queued`: a backup is reserved while an operation of the site is queued.
-/

namespace Meowbox.Backups

open Relational JsData Operations

/-- No site has an active backup and an executing operation at once. -/
def Exclusive (db : Db) (backup : BackupTable) : Prop :=
  ∀ b ∈ backup, b.active = true → ∀ o ∈ db.operation, o.status ∈ EXECUTING_STATUSES →
    scopedTo db b.siteId o = false

/-! ## The system -/

/-- The operations and the backups; the former see the latter. -/
structure Panel where
  operations : Operations.State
  backup : BackupTable
  seen : operations.db.backup = backup.rows.map BackupRow.seen

def Panel.db (p : Panel) : Db := p.operations.db

inductive PanelEvent
  | operations (a : Action)
  | backups (statement : Statement)

/-- The backups change by their own statements only. -/
def keepsBackups (p : Panel) : Action → Bool
  | .environment backup _ _ _ => backup == p.backup.rows.map BackupRow.seen
  | _ => true

section Keeps

variable {db : Db} {c : Committed}

/-- `OperationsService` does not write backups. -/
theorem commit_backup {w : Write} (h : db.commit w = .ok c) : c.db.backup = db.backup := by
  rcases commit_others h with heq | ⟨found, completedAt, -, rfl⟩
  · exact congrArg Prod.fst heq
  · rfl

theorem step_backup {sha256 : String → String} {p : Panel} {s' : State} {a : Action}
    (hkps : keepsBackups p a = true) (h : p.operations.step sha256 a = some s') :
    s'.db.backup = p.backup.rows.map BackupRow.seen := by
  cases step_moves h with
  | environment backup siteDomain site deployLog => exact beq_iff_eq.mp hkps
  | @advance i choice c instr next db answer hc hp hperf =>
    rcases effect_tables (perform_effect hperf) with hv | ⟨w, done, -, hd, hv⟩
    · exact (congrArg (fun v : View => v.db.backup) hv).trans p.seen
    · exact (congrArg (fun v : View => v.db.backup) hv).trans ((commit_backup hd).trans p.seen)
  | _ => exact p.seen

end Keeps

/-- One event. -/
def Panel.step (sha256 : String → String) (p : Panel) : PanelEvent → Option Panel
  | .operations a =>
    if hkps : keepsBackups p a = true then
      (p.operations.step sha256 a).pmap (fun s' hs => ⟨s', p.backup, hs⟩)
        fun _ hs => step_backup hkps hs
    else none
  | .backups statement =>
    some ⟨{ p.operations with db := { p.db with
      backup := (statement.run p.db p.backup).rows.map BackupRow.seen } },
      statement.run p.db p.backup, rfl⟩

/-- A fresh installation. -/
def Panel.init : Panel := ⟨State.init, .empty, rfl⟩

/-- A restart takes up no operation of a site with an active backup that has ended meanwhile. -/
def RestartSpares (db : Db) (backup : BackupTable) : Write → Prop
  | .recoverInterrupted found _ => ∀ o ∈ db.operation, o.id ∈ recoveringIds found →
      o.status ∉ EXECUTING_STATUSES → ∀ b ∈ backup, b.active = true →
        scopedTo db b.siteId o = false
  | _ => True

/-- The executing statuses the reservation does not look for. -/
def UNSEEN_STATUSES : List OperationStatus := [.queued, .claimed, .recovering, .cancelRequested]

/-- A reservation that finds no operation passes none it does not see. -/
def ReservationSees (db : Db) (backup : BackupTable) : Statement → Prop
  | .reserveSiteBackupRows siteId preparedBackups _ => preparedBackups ≠ [] →
      Fresh backup preparedBackups → activeOperation db siteId = none → ∀ o ∈ db.operation, scopedTo db siteId o = true →
        o.status ∉ UNSEEN_STATUSES
  | _ => True

/-- The condition on an event. -/
def Excluding (p : Panel) : PanelEvent → Prop
  | .operations a => ∀ w ∈ p.operations.issued a, RestartSpares p.db p.backup w
  | .backups statement => ReservationSees p.db p.backup statement

instance (db : Db) (backup : BackupTable) : Decidable (Exclusive db backup) := by
  unfold Exclusive
  infer_instance

instance (db : Db) (backup : BackupTable) (w : Write) : Decidable (RestartSpares db backup w) := by
  apply Write.casesOn (motive := fun w => Decidable (RestartSpares db backup w)) w <;> intros <;>
    dsimp only [RestartSpares] <;> infer_instance

instance (db : Db) (backup : BackupTable) (statement : Statement) :
    Decidable (ReservationSees db backup statement) := by
  cases statement <;> dsimp only [ReservationSees] <;> infer_instance

instance (p : Panel) (e : PanelEvent) : Decidable (Excluding p e) := by
  cases e <;> dsimp only [Excluding] <;> infer_instance

/-- The runs whose events meet the condition. -/
abbrev Runs (sha256 : String → String) (p : Panel) : Prop :=
  Stepping.Reach (Panel.step sha256) Excluding Panel.init p

/-! ## What a write brings into a site -/

theorem unseen_executing {status : OperationStatus} (h : status ∈ UNSEEN_STATUSES) :
    status ∈ EXECUTING_STATUSES := by
  revert h
  cases status <;> decide

theorem seen_or_unseen {status : OperationStatus} (h : status ∈ EXECUTING_STATUSES) :
    status ∈ RESERVATION_STATUSES ∨ status ∈ UNSEEN_STATUSES := by
  revert h
  cases status <;> decide

section Write

variable {sha256 : String → String} {db : Db} {w : Write} {done : Committed} {siteId : String}
  {backup : BackupTable}

theorem scopedTo_iff {o : Operation} : scopedTo db siteId o = true ↔ o.siteId = some siteId ∨
    ∃ l ∈ db.operationLock, l.operationId = o.id ∧ l.resourceKey = "site:" ++ siteId := by
  unfold scopedTo
  rw [Bool.or_eq_true, beq_iff_eq]
  refine or_congr Iff.rfl ?_
  constructor
  · intro h
    obtain ⟨l, hl⟩ := Option.isSome_iff_exists.mp h
    obtain ⟨hmem, hp⟩ := Table.mem_of_find? hl
    rw [Bool.and_eq_true, beq_iff_eq, beq_iff_eq] at hp
    exact ⟨l, hmem, hp⟩
  · rintro ⟨l, hl, hid, hkey⟩
    by_contra hnone
    rw [Bool.not_eq_true, Option.isSome_eq_false_iff, Option.isNone_iff_eq_none] at hnone
    exact Table.find?_eq_none.mp hnone l hl (by simp [hid, hkey])

/-- The check of `begin` and `attachScope`. -/
theorem free_of_checkBackup (hseen : db.backup = backup.rows.map BackupRow.seen)
    (h : checkBackup db (some siteId) = .ok ()) :
    ∀ b ∈ backup, b.active = true → b.siteId ≠ siteId := by
  intro b hb hact hsite
  simp only [checkBackup] at h
  split at h
  · exact absurd h (by simp)
  · rename_i hnone
    have hmem : b.seen ∈ db.backup := hseen ▸ List.mem_map_of_mem hb
    refine List.find?_eq_none.mp hnone b.seen hmem ?_
    simp only [BackupRow.seen, hsite, BEq.rfl, Bool.true_and]
    exact hact

/-- Only an operation with a site locks a site. -/
theorem site_of_spec {globalLockKey site siteDomainId databaseId parentOperationId : Option String}
    {lockSite : Option Bool} {spec : OperationLockSpec}
    (h : spec ∈ operationLockSpecs globalLockKey site siteDomainId databaseId lockSite
      parentOperationId) (hkey : spec.resourceKey = "site:" ++ siteId) :
    truthy site = some siteId := by
  have hfirst := congrArg (fun key : String => key.toList.head?) hkey
  simp only [operationLockSpecs, List.mem_append] at h
  rcases h with ((h | h) | h) | h
  · split at h
    · rw [List.mem_singleton.mp h] at hfirst
      simp [String.toList_append] at hfirst
    · exact absurd h List.not_mem_nil
  · split at h
    · rename_i id hid hpar
      split at h
      · rw [List.mem_singleton.mp h] at hkey
        rw [hid, append_inj hkey]
      · exact absurd h List.not_mem_nil
    · exact absurd h List.not_mem_nil
  · split at h
    · rw [List.mem_singleton.mp h] at hfirst
      simp [String.toList_append] at hfirst
    · exact absurd h List.not_mem_nil
  · split at h
    · rw [List.mem_singleton.mp h] at hfirst
      simp [String.toList_append] at hfirst
    · exact absurd h List.not_mem_nil

theorem create_checkBackup {p : PreparedBegin} {now : Time}
    (h : db.commit (.create p now) = .ok done) :
    checkBackup db (truthy p.input.siteId) = .ok () := by
  simp only [Db.commit, beginTransaction, bind, Except.bind] at h
  split at h
  · exact absurd h (by simp)
  · split at h
    · exact absurd h (by simp)
    · split at h
      · exact absurd h (by simp)
      · assumption

theorem attachScope_checkBackup {operationId : String} {scope : AttachedScope}
    (h : db.commit (.attachScope operationId scope) = .ok done) :
    checkBackup db (some scope.siteId) = .ok () := by
  simp only [Db.commit, attachScopeWithClient] at h
  split at h
  · exact absurd h (by simp)
  · simp only [bind, Except.bind] at h
    split at h
    · exact absurd h (by simp)
    · assumption

/-- A lock of a site is taken where no backup is active. -/
theorem acquired_checkBackup (hf : w.Formed sha256 db) (hd : db.commit w = .ok done)
    {l : OperationLock} (hl : l ∈ w.acquires db) (hkey : l.resourceKey = "site:" ++ siteId) :
    checkBackup db (some siteId) = .ok () := by
  cases w with
  | create p now =>
    obtain ⟨spec, hspec, rfl⟩ := List.mem_map.mp hl
    obtain ⟨⟨uuid, operationId, releaseMaintenance, t, hprep⟩, -⟩ := hf
    rw [(prepare_spec hprep).locks] at hspec
    have hchk := create_checkBackup hd
    rwa [site_of_spec hspec hkey] at hchk
  | attachScope operationId scope =>
    obtain ⟨spec, hspec, rfl⟩ := List.mem_map.mp hl
    have hsite := site_of_spec (List.mem_filter.mp hspec).1 hkey
    have hchk := attachScope_checkBackup hd
    rwa [(truthy_some hsite).1] at hchk
  | _ => exact absurd hl List.not_mem_nil

/-- An executing row was executing, or a restart takes it up. -/
theorem executing_before {o o' : Operation} (hf : w.Formed sha256 db) (hc : RowChange db w o o')
    (h : o'.status ∈ EXECUTING_STATUSES) : o.status ∈ EXECUTING_STATUSES ∨
      ∃ found completedAt, w = .recoverInterrupted found completedAt ∧
        o.id ∈ recoveringIds found := by
  have hheld : ∀ {status : OperationStatus}, status ∈ HELD_STATUSES →
      status ∈ EXECUTING_STATUSES := by
    intro status
    cases status <;> decide
  cases hc with
  | restart completedAt hid => exact .inr ⟨_, completedAt, rfl, hid⟩
  | attachScope scope hs => exact .inl hs
  | claim leaseOwner now hn =>
    obtain ⟨-, hst, -⟩ := claimable_iff.mp (nextClaim_mem hn).2.1
    refine .inl ?_
    rcases hst with hs | hs
    · rw [hs]
      decide
    · rw [hs]
      decide
  | startClaimed step now hl hs ht => exact .inl (by rw [hs]; decide)
  | retry message now hid hl hs hr => exact .inl (hheld hs)
  | recover now hid hs ht hr => exact .inl (hheld (hs ▸ hf))
  | askToCancel status now hn hs hcancel =>
    refine .inl ?_
    rcases hs with hs | hs
    · rw [hs]
      decide
    · rw [hs]
      decide
  | start step now hs => exact .inl (by rw [hs]; decide)
  | same => exact .inl h
  | step step progress hs => exact .inl h
  | heartbeatClaim step progress now hl hs ht hd => exact .inl h
  | _ => exact absurd h (by simp [failedRow, EXECUTING_STATUSES])

/-- The site of a row was its site, or is attached where no backup is active. -/
theorem site_before {o o' : Operation} (hd : db.commit w = .ok done) (hc : RowChange db w o o')
    (h : o'.siteId = some siteId) :
    o.siteId = some siteId ∨ checkBackup db (some siteId) = .ok () := by
  cases hc with
  | attachScope scope hs =>
    have hchk := attachScope_checkBackup hd
    rw [Option.some.inj h] at hchk
    exact .inr hchk
  | _ => exact .inl h

/-- **The scope of a row** was its scope, or no backup of the site is active. -/
theorem scope_before (hf : w.Formed sha256 db) (hd : db.commit w = .ok done)
    (hown : ∀ l ∈ db.operationLock, ∃ o ∈ db.operation, o.id = l.operationId) {o' : Operation}
    (ho' : o' ∈ done.db.operation) (h : scopedTo done.db siteId o' = true) :
    checkBackup db (some siteId) = .ok () ∨
      ∃ o ∈ db.operation, RowChange db w o o' ∧ scopedTo db siteId o = true := by
  rcases scopedTo_iff.mp h with hsite | ⟨l, hl, hid, hkey⟩
  · rcases mem_commit hd ho' with ⟨p, now, rfl, rfl⟩ | ⟨o, ho, hc⟩
    · have hchk := create_checkBackup hd
      have hin : truthy p.input.siteId = some siteId := hsite
      rw [hin] at hchk
      exact .inl hchk
    · rcases site_before hd hc hsite with hold | hchk
      · exact .inr ⟨o, ho, hc, scopedTo_iff.mpr (.inl hold)⟩
      · exact .inl hchk
  · rcases (mem_commit_locks hd).mp hl with ⟨hold, -⟩ | hnew
    · rcases mem_commit hd ho' with ⟨p, now, rfl, rfl⟩ | ⟨o, ho, hc⟩
      · -- a lock that was there is not one of the new operation
        obtain ⟨r, hr, hrid⟩ := hown l hold
        have hfr := (createOperation_spec (create_spec hd).2.2.2).2.2.1 r hr
        exact absurd (hrid.trans hid) hfr.1
      · exact .inr ⟨o, ho, hc,
          scopedTo_iff.mpr (.inr ⟨l, hold, hid.trans hc.identity.id, hkey⟩)⟩
    · exact .inl (acquired_checkBackup hf hd hnew hkey)

/-- A row a restart takes up stays in its scope and is executing again. -/
theorem restarted_scope {found : List Interrupted} (completedAt : Time) {o : Operation}
    (ho : o ∈ db.operation) (hid : o.id ∈ recoveringIds found)
    (h : scopedTo db siteId o = true) :
    ∃ o' ∈ (recoverInterrupted db found completedAt).db.operation,
      o'.status ∈ EXECUTING_STATUSES ∧
        scopedTo (recoverInterrupted db found completedAt).db siteId o' = true := by
  refine ⟨restartedRow o, ?_, by simp [restartedRow, EXECUTING_STATUSES], ?_⟩
  · rw [Table.mem_def, recoverInterrupted_rows]
    exact List.mem_map.mpr ⟨o, ho, restartRow_recovering completedAt hid⟩
  · rcases scopedTo_iff.mp h with hsite | ⟨l, hl, hlid, hkey⟩
    · exact scopedTo_iff.mpr (.inl hsite)
    · have hd : db.commit (.recoverInterrupted found completedAt) =
          .ok (recoverInterrupted db found completedAt) := rfl
      exact scopedTo_iff.mpr (.inr ⟨l, (mem_commit_locks hd).mpr (.inl ⟨hl, rfl⟩), hlid, hkey⟩)

/-- **A write keeps the sides apart exactly when it spares what a restart must not take up.** -/
theorem exclusive_commit_iff (hf : w.Formed sha256 db) (hd : db.commit w = .ok done)
    (hseen : db.backup = backup.rows.map BackupRow.seen)
    (hown : ∀ l ∈ db.operationLock, ∃ o ∈ db.operation, o.id = l.operationId)
    (h : Exclusive db backup) : Exclusive done.db backup ↔ RestartSpares db backup w := by
  constructor
  · intro haft
    unfold RestartSpares
    split
    · rename_i found completedAt
      cases hd
      intro o ho hid _ b hb hact
      by_contra hscp
      rw [Bool.not_eq_false] at hscp
      obtain ⟨o', ho', hexec, hscp'⟩ := restarted_scope completedAt ho hid hscp
      rw [haft b hb hact o' ho' hexec] at hscp'
      exact absurd hscp' (by simp)
    · trivial
  · intro hspares b hb hact o' ho' hexec
    by_contra hscp
    rw [Bool.not_eq_false] at hscp
    rcases scope_before hf hd hown ho' hscp with hchk | ⟨o, ho, hc, hsc⟩
    · exact free_of_checkBackup hseen hchk b hb hact rfl
    · by_cases hbef : o.status ∈ EXECUTING_STATUSES
      · rw [h b hb hact o ho hbef] at hsc
        exact absurd hsc (by simp)
      · rcases executing_before hf hc hexec with hold | ⟨found, completedAt, rfl, hid⟩
        · exact hbef hold
        · rw [hspares o ho hid hbef b hb hact] at hsc
          exact absurd hsc (by simp)

/-- **A statement keeps the sides apart exactly when it is no reservation past an operation it does
not see.** -/
theorem exclusive_statement_iff {statement : Statement} (h : Exclusive db backup) :
    Exclusive db (statement.run db backup) ↔ ReservationSees db backup statement := by
  constructor
  · intro haft
    unfold ReservationSees
    split
    · rename_i site preparedBackups now
      intro hsome hfr hop o ho hscp hunseen
      have hexec := unseen_executing hunseen
      -- the operation kept the site without backups so far
      have hbk : ∀ b ∈ backup, b.siteId = site → b.active = false := by
        intro b hb hsite
        by_contra hact
        rw [Bool.not_eq_false] at hact
        rw [← hsite, h b hb hact o ho hexec] at hscp
        exact absurd hscp (by simp)
      obtain ⟨reserved, hrsv, hrows⟩ := reserve_of_free now hop hfr hbk
      obtain ⟨p, hp⟩ := List.exists_mem_of_ne_nil preparedBackups hsome
      simp only [Statement.run, hrsv] at haft
      have hfree := haft (p.row site now) (hrows p hp) rfl o ho hexec
      exact absurd (hscp.symm.trans hfree) (by simp)
    · trivial
  · intro hsees b' hb' hact o ho hexec
    rcases mem_statement hb' with ⟨b, hb, hsite, hbef⟩ |
      ⟨preparedBackups, now, rfl, hop, hsome, hfr⟩
    · rw [hsite]
      exact h b hb (hbef hact) o ho hexec
    · by_contra hscp
      rw [Bool.not_eq_false] at hscp
      rcases seen_or_unseen hexec with hseen | hunseen
      · refine Table.find?_eq_none.mp hop o ho ?_
        rw [Bool.and_eq_true, List.contains_iff_mem]
        exact ⟨hseen, hscp⟩
      · exact hsees hsome hfr hop o ho hscp hunseen

end Write

/-! ## Runs -/

variable {sha256 : String → String} {p p' : Panel}

/-- The operations of a run are those of a run of `OperationsService`, to which the backups are part
of the environment. -/
theorem Runs.reachable (hs : Runs sha256 p) : Reachable sha256 anyWrite p.operations := by
  refine Stepping.Reach.invariant hs .init ?_
  intro p e p' ih _ h
  cases e with
  | operations a =>
    simp only [Panel.step] at h
    split at h
    · obtain ⟨s', -, hstep, rfl⟩ := Option.pmap_eq_some_iff.mp h
      exact ih.step (fun _ _ => trivial) hstep
    · exact absurd h (by simp)
  | backups statement =>
    cases h
    refine ih.step (a := .environment _ p.db.siteDomain p.db.site p.db.deployLog) ?_ rfl
    exact fun _ _ => trivial

theorem Runs.owned (hs : Runs sha256 p) :
    ∀ l ∈ p.db.operationLock, ∃ o ∈ p.db.operation, o.id = l.operationId := by
  refine reach_tables (fun operation operationLock => ∀ l ∈ operationLock, ∃ o ∈ operation,
    o.id = l.operationId) hs.reachable ?_ ?_
  · exact fun l hl => absurd hl (Table.not_mem_empty l)
  · exact fun s w done hw ih => owned_commit hw.commit ih

theorem exclusive_congr {db db' : Db} {backup : BackupTable} (hrows : db'.operation = db.operation)
    (hlocks : db'.operationLock = db.operationLock) :
    Exclusive db' backup ↔ Exclusive db backup := by
  unfold Exclusive scopedTo
  rw [hrows, hlocks]

/-- **Step**: the sides stay apart exactly when the event meets the condition. -/
theorem exclusive_step_iff (hs : Runs sha256 p) (h : Exclusive p.db p.backup) {e : PanelEvent}
    (hstep : p.step sha256 e = some p') : Exclusive p'.db p'.backup ↔ Excluding p e := by
  cases e with
  | operations a =>
    simp only [Panel.step] at hstep
    split at hstep
    · obtain ⟨s', -, hs', rfl⟩ := Option.pmap_eq_some_iff.mp hstep
      change Exclusive s'.db p.backup ↔ ∀ w ∈ p.operations.issued a, RestartSpares p.db p.backup w
      cases hw : p.operations.issued a with
      | none =>
        rcases step_db hs' with ⟨hrows, hlocks⟩ | ⟨w, done, hiss, -⟩
        · rw [exclusive_congr hrows hlocks]
          exact iff_of_true h fun w hmem => absurd hmem (by simp)
        · exact absurd (hw.symm.trans hiss) (by simp)
      | some w =>
        have hcond : (∀ v ∈ some w, RestartSpares p.db p.backup v) ↔
            RestartSpares p.db p.backup w := by simp
        rw [hcond]
        have hf := (issued_formed hs.reachable hw).2
        rcases step_issued hs' hw with ⟨done, hd, hdb⟩ | ⟨fault, hd, hdb⟩
        · rw [hdb]
          exact exclusive_commit_iff hf hd p.seen hs.owned h
        · -- only a restart has a condition, and it always commits
          rw [hdb]
          refine iff_of_true h ?_
          cases w with
          | recoverInterrupted found completedAt => exact absurd hd (by simp [Db.commit])
          | _ => trivial
    · exact absurd hstep (by simp)
  | backups statement =>
    cases hstep
    exact exclusive_statement_iff h

/-- **Backups and operations of a site exclude each other** while the condition is met, and no
longer than that. -/
theorem backups_exclude_operations (hs : Runs sha256 p) :
    Exclusive p.db p.backup ∧ ∀ e p', p.step sha256 e = some p' →
      (Exclusive p'.db p'.backup ↔ Excluding p e) := by
  have hexclusive : Exclusive p.db p.backup := by
    refine Stepping.Reach.invariant_of hs ?_ ?_
    · exact fun b hb => absurd hb (Table.not_mem_empty b)
    · exact fun p e p' hrc ih hok hstep => (exclusive_step_iff hrc ih hstep).mpr hok
  exact ⟨hexclusive, fun e p' hstep => exclusive_step_iff hs hexclusive hstep⟩

/-- An operation of one site and a backup of another; the site of the operation is refused. -/
theorem backups_exclude_operations_apart : ∃ p, Runs Sample.digest p ∧
    (∃ b ∈ p.backup, b.active = true) ∧ (∃ o ∈ p.db.operation, o.status ∈ EXECUTING_STATUSES) ∧
      Exclusive p.db p.backup := by
  have hrun : (Stepping.run (Panel.step Sample.digest) Excluding .init
      ((Sample.perform 0 4 (.begin (Sample.inline "key-0001" (some "site-1") none none) "uuid-0001"
        "op-1" false)).map .operations ++
        [.backups (.reserveSiteBackupRows "site-1" [⟨"backup-1", .tar, none⟩] 0),
          .backups (.reserveSiteBackupRows "site-2" [⟨"backup-2", .tar, none⟩] 0),
          .backups (.updateBackupProgress "backup-2" 10 1)])).any (fun p : Panel =>
        decide ((∃ b ∈ p.backup, b.active = true) ∧
          ∃ o ∈ p.db.operation, o.status ∈ EXECUTING_STATUSES)) = true := by decide
  obtain ⟨p, hp, hbk, hop⟩ := Stepping.Reach.of_run_any hrun
  exact ⟨p, hp, hbk, hop, (backups_exclude_operations hp).1⟩

/-- A reservation passes an operation of the site that waits in the queue. -/
theorem reservation_passes_queued : ∃ p, Stepping.Reach (Panel.step Sample.digest)
    Stepping.anyStep .init p ∧ ¬ Exclusive p.db p.backup := by
  have hrun : (Stepping.run (Panel.step Sample.digest) Stepping.anyStep .init
      ((Sample.perform 0 4 (.begin (Sample.queued "key-0001" (some "site-1") none 100000) "uuid-0001"
        "op-1" false)).map .operations ++
        [.backups (.reserveSiteBackupRows "site-1" [⟨"backup-1", .tar, none⟩] 0)])).any
      (fun p : Panel => decide (¬ Exclusive p.db p.backup)) = true := by decide +kernel
  exact Stepping.Reach.of_run_any hrun

end Meowbox.Backups
