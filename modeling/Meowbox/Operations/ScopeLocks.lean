import Meowbox.Operations.Terminal

/-!
# Scope locks exclude each other

A lock on a whole site excludes the domain and database locks inside it, except those of the
children of its owner. Nothing in the lock table says so: the keys differ, and the check runs once,
when a lock is taken. It looks the site lock up by its key and the nested locks by the `siteId` of
their owner, so the exclusion also rests on the owners.

`SiteMap` says which site a domain and a database belong to, and `InScope` is the condition on a
run: the domains and databases passed belong to the site passed with them, only an operation
without a site is attached to one, and the write of `onModuleInit` finds no finished operation.

Results:
* `acquired_site`, `acquired_nested`: what the check of a new lock left of the others.
* `scope_ok`: the locks, their owners and their sites agree, in every such run.
* `scope_exclusion`: the exclusion.
-/

namespace Meowbox.Operations

open Relational JsData Interleaved Stepping

/-- The site of each domain and each database. -/
structure SiteMap where
  domain : String → String
  database : String → String

/-- The domain and the database passed belong to the site passed with them. -/
def SiteMap.Belongs (sites : SiteMap) (siteId siteDomainId databaseId : Option String) : Prop :=
  ∀ s ∈ siteId, (∀ d ∈ truthy siteDomainId, sites.domain d = s) ∧
    ∀ d ∈ truthy databaseId, sites.database d = s

instance (sites : SiteMap) (siteId siteDomainId databaseId : Option String) :
    Decidable (sites.Belongs siteId siteDomainId databaseId) :=
  inferInstanceAs (Decidable (∀ s ∈ siteId, _ ∧ _))

/-- The lock on a whole site. -/
def LocksSite (l : OperationLock) (siteId : String) : Prop :=
  l.kind = .site ∧ l.resourceKey = "site:" ++ siteId

/-- A lock on a domain or a database of the site. -/
def SiteMap.Inside (sites : SiteMap) (l : OperationLock) (siteId : String) : Prop :=
  (l.kind = .domain ∧ ∃ d, l.resourceKey = "domain:" ++ d ∧ sites.domain d = siteId) ∨
    (l.kind = .database ∧ ∃ d, l.resourceKey = "database:" ++ d ∧ sites.database d = siteId)

/-- The condition on the writes of a run. -/
def InScope (sites : SiteMap) (s : State) : Write → Prop
  | .create p _ => sites.Belongs p.input.siteId p.input.siteDomainId p.input.databaseId
  | .attachScope operationId scope =>
    (∀ o ∈ s.db.operation, o.id = operationId → o.siteId = none) ∧
      sites.Belongs (some scope.siteId) scope.siteDomainId none
  | .recoverInterrupted found _ =>
    ∀ o ∈ s.db.operation, o.id ∈ found.map Interrupted.id → o.status.terminal = false
  | _ => True

instance (sites : SiteMap) (s : State) (w : Write) : Decidable (InScope sites s w) := by
  apply Write.casesOn (motive := fun w => Decidable (InScope sites s w)) w <;> intros <;>
    dsimp only [InScope] <;> infer_instance

/-- Of two unfinished operations, one with the lock of a site and one with a lock inside it, the
second is a child of the first. -/
def Exclusive (sites : SiteMap) (operation : OperationTable) (operationLock : LockTable) : Prop :=
  ∀ a ∈ operationLock, ∀ b ∈ operationLock, ∀ A ∈ operation, ∀ B ∈ operation,
    A.id = a.operationId → B.id = b.operationId → A.id ≠ B.id →
      A.status.terminal = false → B.status.terminal = false →
        ∀ siteId, LocksSite a siteId → sites.Inside b siteId → B.parentOperationId = some A.id

/-- What the locks and their owners keep. -/
structure ScopeOk (sites : SiteMap) (operation : OperationTable) (operationLock : LockTable) :
    Prop where
  /-- Every lock has an owner. -/
  owned : ∀ l ∈ operationLock, ∃ o ∈ operation, o.id = l.operationId
  /-- The empty site is never locked. -/
  named : ∀ l ∈ operationLock, ∀ siteId, LocksSite l siteId → siteId ≠ ""
  /-- The owner of a lock inside a site works on that site. -/
  nested : ∀ l ∈ operationLock, ∀ o ∈ operation, o.id = l.operationId →
    ∀ siteId, sites.Inside l siteId → o.siteId = some siteId
  /-- A finished owner has no lease, so it stays finished. -/
  retired : ∀ l ∈ operationLock, ∀ o ∈ operation, o.id = l.operationId →
    o.status.terminal = true → o.leaseOwner = none
  exclusive : Exclusive sites operation operationLock

/-! ## The specs of an operation -/

theorem truthy_some {s : Option String} {t : String} (h : truthy s = some t) :
    s = some t ∧ t ≠ "" := by
  simpa [truthy, Option.filter_eq_some_iff] using h

section Specs

variable {globalLockKey siteId siteDomainId databaseId parentOperationId : Option String}
  {lockSite : Option Bool} {spec : OperationLockSpec}

theorem lockSpec_cases (h : spec ∈ operationLockSpecs globalLockKey siteId siteDomainId databaseId
    lockSite parentOperationId) :
    spec.kind = .global ∨
      (∃ id, spec = ⟨"site:" ++ id, .site⟩ ∧ truthy siteId = some id ∧
        truthy parentOperationId = none ∧ lockSite ≠ some false) ∨
      (∃ id, spec = ⟨"domain:" ++ id, .domain⟩ ∧ truthy siteDomainId = some id) ∨
      ∃ id, spec = ⟨"database:" ++ id, .database⟩ ∧ truthy databaseId = some id := by
  simp only [operationLockSpecs, List.mem_append] at h
  rcases h with ((h | h) | h) | h
  · split at h
    · rw [List.mem_singleton.mp h]
      exact .inl rfl
    · exact absurd h List.not_mem_nil
  · split at h
    · rename_i id hid hparent
      split at h
      · rename_i hlock
        exact .inr (.inl ⟨id, List.mem_singleton.mp h, hid, hparent, by simpa using hlock⟩)
      · exact absurd h List.not_mem_nil
    · exact absurd h List.not_mem_nil
  · split at h
    · rename_i id hid
      exact .inr (.inr (.inl ⟨id, List.mem_singleton.mp h, hid⟩))
    · exact absurd h List.not_mem_nil
  · split at h
    · rename_i id hid
      exact .inr (.inr (.inr ⟨id, List.mem_singleton.mp h, hid⟩))
    · exact absurd h List.not_mem_nil

theorem siteSpec_mem {id : String} (hid : truthy siteId = some id)
    (hparent : truthy parentOperationId = none) (hlock : lockSite ≠ some false) :
    ⟨"site:" ++ id, .site⟩ ∈ operationLockSpecs globalLockKey siteId siteDomainId databaseId
      lockSite parentOperationId := by
  simp [operationLockSpecs, hid, hparent, hlock]

end Specs

theorem append_inj {p a b : String} (h : p ++ a = p ++ b) : a = b := by
  have hl : p.toList ++ a.toList = p.toList ++ b.toList := by
    rw [← String.toList_append, ← String.toList_append, h]
  exact String.toList_injective (List.append_cancel_left hl)

/-! ## What the hierarchy check leaves -/

section Check

variable {db : Db} {scope : ScopeRequest} {exclude : Option String} {siteId : String}

/-- A scope that locks the site is the only one at work inside it. -/
theorem hierarchy_site (h : assertScopeHierarchyAvailable db scope exclude = .ok ())
    (hsite : truthy scope.siteId = some siteId) (hparent : truthy scope.parentOperationId = none)
    (hlock : scope.lockSite ≠ some false) {b : OperationLock} (hb : b ∈ db.operationLock)
    (hkind : b.kind = .domain ∨ b.kind = .database) {B : Operation} (hB : B ∈ db.operation)
    (hid : B.id = b.operationId) (hBsite : B.siteId = some siteId)
    (hlive : B.status.terminal = false) : exclude = some b.operationId := by
  simp only [assertScopeHierarchyAvailable, hsite, hparent, if_neg hlock] at h
  split at h
  · exact absurd h (by simp)
  rename_i hnone
  by_contra hex
  have hfind : (db.operation.find? fun o => o.id == b.operationId) = some B :=
    Table.find?_eq_some id_mem_keys hB (by simp [hid]) fun r hr => by
      rw [hid]
      simpa using hr
  refine Table.find?_eq_none.mp hnone b hb ?_
  rw [hfind]
  have hholds := (holding_iff_not_terminal B.status).mpr hlive
  rcases hkind with hkind | hkind <;> simp [hkind, hex, hBsite, hholds]

/-- A scope inside a site finds the site unlocked, or locked by its parent or by itself, or asks
for the lock of the site. -/
theorem hierarchy_nested (h : assertScopeHierarchyAvailable db scope exclude = .ok ())
    (hsite : truthy scope.siteId = some siteId) {a : OperationLock} (ha : a ∈ db.operationLock)
    (hkey : a.resourceKey = "site:" ++ siteId) :
    truthy scope.parentOperationId = some a.operationId ∨ exclude = some a.operationId ∨
      (truthy scope.parentOperationId = none ∧ scope.lockSite ≠ some false) := by
  have hfind : siteLockOf db siteId = some a := by
    refine Table.find?_eq_some List.mem_cons_self ha (by simp [hkey]) fun r hr => ?_
    rw [hkey]
    simpa using hr
  simp only [assertScopeHierarchyAvailable, hsite, hfind] at h
  split at h
  · rename_i parentId hparent
    split at h
    · exact absurd h (by simp)
    · rename_i hno
      rw [hparent, Option.some.injEq]
      tauto
  · rename_i hparent
    split at h
    · split at h
      · exact absurd h (by simp)
      · rename_i hno
        exact .inr (.inl (not_not.mp hno))
    · rename_i hlock
      exact .inr (.inr ⟨hparent, hlock⟩)

end Check

/-! ## A lock as it is acquired -/

section Acquire

variable {sha256 : String → String} {sites : SiteMap} {s : State} {w : Write} {done : Committed}
  {l : OperationLock} {siteId : String}

/-- **A new lock of a site** is of a site at which no other unfinished operation holds a lock. -/
theorem acquired_site (hf : w.Formed sha256 s.db) (hd : s.db.commit w = .ok done)
    (hl : l ∈ w.acquires s.db) (hsite : LocksSite l siteId) :
    siteId ≠ "" ∧ ∀ b ∈ s.db.operationLock, b.kind = .domain ∨ b.kind = .database →
      ∀ B ∈ s.db.operation, B.id = b.operationId → B.siteId = some siteId →
        B.status.terminal = false → B.id = l.operationId := by
  obtain ⟨hkind, hkey⟩ := hsite
  cases w with
  | create p now =>
    obtain ⟨spec, hspec, rfl⟩ := List.mem_map.mp hl
    obtain ⟨⟨uuid, operationId, releaseMaintenance, t, hprep⟩, -⟩ := hf
    rw [(prepare_spec hprep).locks] at hspec
    rcases lockSpec_cases hspec with hk | ⟨id, rfl, hid, hparent, hlock⟩ | ⟨id, rfl, -⟩ |
      ⟨id, rfl, -⟩
    · rw [hk] at hkind
      exact absurd hkind (by simp)
    · have he : id = siteId := append_inj hkey
      subst he
      refine ⟨(truthy_some hid).2, fun b hb hbk B hB hBid hBsite hlive => ?_⟩
      have hchk := (create_spec hd).2.2.1
      exact absurd (hierarchy_site hchk hid hparent hlock hb hbk hB hBid hBsite hlive) (by simp)
    · exact absurd hkind (by simp)
    · exact absurd hkind (by simp)
  | attachScope operationId scope =>
    obtain ⟨spec, hspec, rfl⟩ := List.mem_map.mp hl
    rcases lockSpec_cases (List.mem_filter.mp hspec).1 with hk | ⟨id, rfl, hid, hparent, hlock⟩ |
      ⟨id, rfl, -⟩ | ⟨id, rfl, -⟩
    · rw [hk] at hkind
      exact absurd hkind (by simp)
    · have he : id = siteId := append_inj hkey
      subst he
      refine ⟨(truthy_some hid).2, fun b hb hbk B hB hBid hBsite hlive => ?_⟩
      have hchk := (attachScope_spec hd).2.1
      have hself := hierarchy_site hchk hid rfl (by simp) hb hbk hB hBid hBsite hlive
      exact hBid.trans (Option.some.inj hself).symm
    · exact absurd hkind (by simp)
    · exact absurd hkind (by simp)
  | _ => exact absurd hl List.not_mem_nil

/-- **A new lock inside a site**: its owner works on that site, and a lock of the site is its own
or its parent's. -/
theorem acquired_nested (hf : w.Formed sha256 s.db) (hg : InScope sites s w)
    (hd : s.db.commit w = .ok done) (hl : l ∈ w.acquires s.db) (hin : sites.Inside l siteId)
    {o : Operation} (ho : o ∈ done.db.operation) (hid : o.id = l.operationId) :
    o.siteId = some siteId ∧ ∀ a ∈ s.db.operationLock, siteId ≠ "" → LocksSite a siteId →
      a.operationId = l.operationId ∨ o.parentOperationId = some a.operationId := by
  cases w with
  | create p now =>
    obtain ⟨spec, hspec, rfl⟩ := List.mem_map.mp hl
    obtain ⟨hadm, hpar, hchk, hcr⟩ := create_spec hd
    obtain ⟨hrows, -, hfr, hkeys⟩ := createOperation_spec hcr
    obtain ⟨⟨uuid, operationId, releaseMaintenance, t, hprep⟩, hsc⟩ := hf
    have hlocks := (prepare_spec hprep).locks
    -- the site passed is the one the lock is inside of
    have hsite : truthy p.input.siteId = some siteId := by
      have hnm : ((truthy p.input.siteDomainId).isSome || (truthy p.input.databaseId).isSome) →
          ∃ id, truthy p.input.siteId = some id := by
        intro hsome
        unfold scopeFault at hsc
        split at hsc
        · exact absurd hsc (by simp)
        · rename_i hno
          rw [Bool.and_eq_true, not_and, Bool.not_eq_true, Option.isNone_eq_false_iff] at hno
          exact Option.isSome_iff_exists.mp (hno hsome)
      rw [hlocks] at hspec
      rcases lockSpec_cases hspec with hk | ⟨id, rfl, -⟩ | ⟨id, rfl, hdom⟩ | ⟨id, rfl, hdb⟩
      · rcases hin with ⟨hk', -⟩ | ⟨hk', -⟩
        · exact absurd (hk.symm.trans hk') (by simp)
        · exact absurd (hk.symm.trans hk') (by simp)
      · rcases hin with ⟨hk', -⟩ | ⟨hk', -⟩ <;> exact absurd hk' (by simp)
      · rcases hin with ⟨-, d, hkey, hsited⟩ | ⟨hk', -⟩
        · have he : id = d := append_inj hkey
          obtain ⟨site, hs⟩ := hnm (by simp [hdom])
          have hbelongs := (hg site (truthy_some hs).1).1 id hdom
          rw [hs, ← hbelongs, he, hsited]
        · exact absurd hk' (by simp)
      · rcases hin with ⟨hk', -⟩ | ⟨-, d, hkey, hsited⟩
        · exact absurd hk' (by simp)
        · have he : id = d := append_inj hkey
          obtain ⟨site, hs⟩ := hnm (by simp [hdb])
          have hbelongs := (hg site (truthy_some hs).1).2 id hdb
          rw [hs, ← hbelongs, he, hsited]
    have hrow : o = p.row now := by
      rw [Table.mem_def, hrows, List.mem_append, List.mem_singleton] at ho
      rcases ho with ho | ho
      · exact absurd hid (hfr o ho).1
      · exact ho
    subst hrow
    refine ⟨hsite, fun a ha _ hlock => ?_⟩
    rcases hierarchy_nested hchk hsite ha hlock.2 with hparent | hex | ⟨hparent, hls⟩
    · exact .inr hparent
    · exact absurd hex (by simp)
    · -- the call locks the site itself, but the key is taken
      have hown : (⟨"site:" ++ siteId, .site⟩ : OperationLockSpec) ∈ p.lockSpecs := by
        rw [hlocks]
        exact siteSpec_mem hsite hparent hls
      exact absurd hlock.2 (hkeys a ha _ hown)
  | attachScope operationId scope =>
    obtain ⟨spec, hspec, rfl⟩ := List.mem_map.mp hl
    obtain ⟨-, hchk, hcr⟩ := attachScope_spec hd
    have hspec' := (List.mem_filter.mp hspec).1
    have hsite : scope.siteId = siteId := by
      have hbelongs := hg.2 scope.siteId rfl
      rcases lockSpec_cases hspec' with hk | ⟨id, rfl, -⟩ | ⟨id, rfl, hdom⟩ | ⟨id, rfl, hdb⟩
      · rcases hin with ⟨hk', -⟩ | ⟨hk', -⟩
        · exact absurd (hk.symm.trans hk') (by simp)
        · exact absurd (hk.symm.trans hk') (by simp)
      · rcases hin with ⟨hk', -⟩ | ⟨hk', -⟩ <;> exact absurd hk' (by simp)
      · rcases hin with ⟨-, d, hkey, hsited⟩ | ⟨hk', -⟩
        · have he : id = d := append_inj hkey
          rw [← hsited, ← he]
          exact (hbelongs.1 id hdom).symm
        · exact absurd hk' (by simp)
      · exact absurd hdb (by simp [truthy])
    refine ⟨(attachScope_row hd ho hid).trans (by rw [hsite]), fun a ha hne hlock => .inl ?_⟩
    have htruthy : truthy (some scope.siteId) = some siteId := by
      simp [truthy, hsite, hne]
    by_contra hother
    -- the site lock is missing then, but its key is taken
    have hmis : (⟨"site:" ++ siteId, .site⟩ : OperationLockSpec) ∈
        missingLocks s.db operationId scope := by
      refine List.mem_filter.mpr ⟨siteSpec_mem htruthy rfl (by simp), ?_⟩
      simp only [Bool.not_eq_true', List.any_eq_false, beq_iff_eq]
      intro r hr hkey
      obtain ⟨hr, hrid⟩ := Table.mem_findMany.mp hr
      have he : r = a := Table.eq_of_key List.mem_cons_self hr ha (hkey.trans hlock.2.symm)
      rw [he, beq_iff_eq] at hrid
      exact hother hrid
    have hfree := Table.createMany?_fresh hcr _ List.mem_cons_self _
      (List.mem_map.mpr ⟨_, hmis, rfl⟩)
    exact hfree (List.mem_map.mpr ⟨a, ha, hlock.2⟩)
  | _ => exact absurd hl List.not_mem_nil

end Acquire

/-! ## One write -/

section Step

variable {sha256 : String → String} {sites : SiteMap} {s : State} {w : Write} {done : Committed}

/-- The owner of a lock that was there before the write was there too. -/
theorem owner_before (hd : s.db.commit w = .ok done)
    (h : ScopeOk sites s.db.operation s.db.operationLock) {l : OperationLock}
    (hl : l ∈ s.db.operationLock) {o' : Operation} (ho' : o' ∈ done.db.operation)
    (hid : o'.id = l.operationId) :
    ∃ o ∈ s.db.operation, RowChange s.db w o o' ∧ o.id = l.operationId := by
  rcases mem_commit hd ho' with ⟨p, now, rfl, rfl⟩ | ⟨o, ho, hc⟩
  · obtain ⟨r, hr, hrid⟩ := h.owned l hl
    have hfr := (createOperation_spec (create_spec hd).2.2.2).2.2.1 r hr
    exact absurd (hrid.trans hid.symm) hfr.1
  · exact ⟨o, ho, hc, hc.identity.id.symm.trans hid⟩

/-- An owner that is unfinished now was unfinished before. -/
theorem owner_live_before (hf : w.Formed sha256 s.db) (hg : InScope sites s w)
    (h : ScopeOk sites s.db.operation s.db.operationLock) {l : OperationLock}
    (hl : l ∈ s.db.operationLock) {o o' : Operation} (ho : o ∈ s.db.operation)
    (hc : RowChange s.db w o o') (hid : o.id = l.operationId)
    (hlive : o'.status.terminal = false) : o.status.terminal = false := by
  by_contra hterm
  rw [Bool.not_eq_false] at hterm
  have hne : o'.status ≠ o.status := by
    intro he
    rw [he, hterm] at hlive
    exact absurd hlive (by simp)
  rcases hc.terminal_origin hf hterm hne with
    ⟨leaseOwner, message, now, -, hlease⟩ | ⟨found, completedAt, rfl, hfnd⟩
  · rw [h.retired l hl o ho hid hterm] at hlease
    exact absurd hlease (by simp)
  · rw [hg o ho hfnd] at hterm
    exact absurd hterm (by simp)

/-- A write leaves no lock without an owner. -/
theorem owned_commit (hd : s.db.commit w = .ok done)
    (h : ∀ l ∈ s.db.operationLock, ∃ o ∈ s.db.operation, o.id = l.operationId) :
    ∀ l ∈ done.db.operationLock, ∃ o ∈ done.db.operation, o.id = l.operationId := by
  intro l hl
  rcases (mem_commit_locks hd).mp hl with ⟨hold, -⟩ | hnew
  · obtain ⟨o, ho, hid⟩ := h l hold
    obtain ⟨o', ho', hc⟩ := commit_keeps hd ho
    exact ⟨o', ho', hc.identity.id.trans hid⟩
  · rcases acquires_owner hd hnew with ⟨p, now, rfl, hp⟩ | ⟨scope, rfl, o, ho, hid, -⟩
    · refine ⟨p.row now, ?_, hp.symm⟩
      rw [Table.mem_def, (createOperation_spec (create_spec hd).2.2.2).1]
      exact List.mem_append_right _ (List.mem_singleton.mpr rfl)
    · obtain ⟨o', ho', hc⟩ := commit_keeps hd ho
      exact ⟨o', ho', hc.identity.id.trans hid⟩

theorem nested_commit (hf : w.Formed sha256 s.db) (hg : InScope sites s w)
    (hd : s.db.commit w = .ok done) (h : ScopeOk sites s.db.operation s.db.operationLock) :
    ∀ l ∈ done.db.operationLock, ∀ o ∈ done.db.operation, o.id = l.operationId →
      ∀ siteId, sites.Inside l siteId → o.siteId = some siteId := by
  intro l hl o' ho' hid siteId hin
  rcases (mem_commit_locks hd).mp hl with ⟨hold, -⟩ | hnew
  · obtain ⟨o, ho, hc, hoid⟩ := owner_before hd h hold ho' hid
    have hsite := h.nested l hold o ho hoid siteId hin
    rcases hc.siteId with hsame | ⟨scope, rfl⟩
    · exact hsame.trans hsite
    · -- an operation with a nested lock has a site, and is not attached
      rw [hg.1 o ho rfl] at hsite
      exact absurd hsite (by simp)
  · exact (acquired_nested hf hg hd hnew hin ho' hid).1

theorem retired_commit (hf : w.Formed sha256 s.db) (hrow : ∀ o ∈ s.db.operation, RowOk o)
    (hd : s.db.commit w = .ok done) (h : ScopeOk sites s.db.operation s.db.operationLock) :
    ∀ l ∈ done.db.operationLock, ∀ o ∈ done.db.operation, o.id = l.operationId →
      o.status.terminal = true → o.leaseOwner = none := by
  intro l hl o' ho' hid hterm
  rw [Option.eq_none_iff_forall_ne_some]
  intro leaseOwner hlease
  rcases (mem_commit_locks hd).mp hl with ⟨hold, hkept⟩ | hnew
  · obtain ⟨o, ho, hc, hoid⟩ := owner_before hd h hold ho' hid
    have hbef : o.leaseOwner = none := by
      cases hlive : o.status.terminal with
      | true => exact h.retired l hold o ho hoid hlive
      | false =>
        rcases hc.finish hlive hterm with ⟨now, rfl, -⟩ | hrel
        · exact ((hrow o ho).idle (.inr hf)).1
        · rw [hrel l hoid.symm] at hkept
          exact absurd hkept (by simp)
    rcases hc.leaseOwner hlease with hl | ⟨now, rfl, hn⟩
    · rw [hbef] at hl
      exact absurd hl (by simp)
    · -- a claimed row is not finished
      have hp := (nextClaim_mem hn).2.1
      obtain ⟨-, hst, -⟩ := claimable_iff.mp hp
      have hlive : o.status.terminal = false := by
        rcases hst with hst | hst <;> rw [hst] <;> rfl
      rcases hc.finish hlive hterm with ⟨t, he, -⟩ | hrel
      · exact absurd he (by simp)
      · exact absurd (hrel l hoid.symm) (by simp [Write.releases])
  · rcases mem_commit hd ho' with ⟨p, now, rfl, rfl⟩ | ⟨o, ho, hc⟩
    · exact absurd hlease (by simp [PreparedBegin.row])
    · have hoid : o.id = l.operationId := hc.identity.id.symm.trans hid
      cases hlive : o.status.terminal with
      | true => exact absurd hoid.symm (acquires_not_terminal hd ho hlive hnew)
      | false =>
        rw [finish_acquires hc hlive hterm hd] at hnew
        exact absurd hnew List.not_mem_nil

/-- **Step**: both locks were there, one of them is new, or both are, and then of one owner. -/
theorem exclusive_commit (hf : w.Formed sha256 s.db) (hg : InScope sites s w)
    (hd : s.db.commit w = .ok done) (h : ScopeOk sites s.db.operation s.db.operationLock) :
    Exclusive sites done.db.operation done.db.operationLock := by
  intro a ha b hb A' hA' B' hB' hAid hBid hne hAlive hBlive siteId hsite hin
  have hnestedKind : b.kind = .domain ∨ b.kind = .database := hin.imp And.left And.left
  rcases (mem_commit_locks hd).mp ha with ⟨haold, -⟩ | hanew
  · rcases (mem_commit_locks hd).mp hb with ⟨hbold, -⟩ | hbnew
    · obtain ⟨A, hA, hAc, hAid₀⟩ := owner_before hd h haold hA' hAid
      obtain ⟨B, hB, hBc, hBid₀⟩ := owner_before hd h hbold hB' hBid
      have hAlive₀ := owner_live_before hf hg h haold hA hAc hAid₀ hAlive
      have hBlive₀ := owner_live_before hf hg h hbold hB hBc hBid₀ hBlive
      have hne₀ : A.id ≠ B.id := by
        rw [← hAc.identity.id, ← hBc.identity.id]
        exact hne
      have hchild := h.exclusive a haold b hbold A hA B hB hAid₀ hBid₀ hne₀ hAlive₀ hBlive₀ siteId
        hsite hin
      rw [hBc.identity.parentOperationId, hchild, hAc.identity.id]
    · have hnm := h.named a haold siteId hsite
      obtain ⟨-, hsiteLock⟩ := acquired_nested hf hg hd hbnew hin hB' hBid
      rcases hsiteLock a haold hnm hsite with hself | hparent
      · exact absurd (hAid.trans (hself.trans hBid.symm)) hne
      · rw [hparent, hAid]
  · rcases (mem_commit_locks hd).mp hb with ⟨hbold, -⟩ | hbnew
    · obtain ⟨B, hB, hBc, hBid₀⟩ := owner_before hd h hbold hB' hBid
      have hBlive₀ := owner_live_before hf hg h hbold hB hBc hBid₀ hBlive
      have hBsite := h.nested b hbold B hB hBid₀ siteId hin
      have hsame := (acquired_site hf hd hanew hsite).2 b hbold hnestedKind B hB hBid₀ hBsite
        hBlive₀
      exact absurd (hAid.trans (hsame.symm.trans hBc.identity.id.symm)) hne
    · -- one write acquires locks for one operation
      have hone : a.operationId = b.operationId := by
        cases w with
        | create p now =>
          obtain ⟨_, -, rfl⟩ := List.mem_map.mp hanew
          obtain ⟨_, -, rfl⟩ := List.mem_map.mp hbnew
          rfl
        | attachScope operationId scope =>
          obtain ⟨_, -, rfl⟩ := List.mem_map.mp hanew
          obtain ⟨_, -, rfl⟩ := List.mem_map.mp hbnew
          rfl
        | _ => exact absurd hanew List.not_mem_nil
      exact absurd (hAid.trans (hone.trans hBid.symm)) hne

theorem scopeOk_commit (hf : w.Formed sha256 s.db) (hg : InScope sites s w)
    (hrow : ∀ o ∈ s.db.operation, RowOk o) (hd : s.db.commit w = .ok done)
    (h : ScopeOk sites s.db.operation s.db.operationLock) :
    ScopeOk sites done.db.operation done.db.operationLock where
  owned := owned_commit hd h.owned
  named l hl siteId hsite := by
    rcases (mem_commit_locks hd).mp hl with ⟨hold, -⟩ | hnew
    · exact h.named l hold siteId hsite
    · exact (acquired_site hf hd hnew hsite).1
  nested := nested_commit hf hg hd h
  retired := retired_commit hf hrow hd h
  exclusive := exclusive_commit hf hg hd h

end Step

/-! ## Runs -/

variable {sha256 : String → String} {sites : SiteMap} {s : State}

theorem scope_ok (hs : Reachable sha256 (InScope sites) s) :
    ScopeOk sites s.db.operation s.db.operationLock := by
  refine reach_tables (ScopeOk sites) hs ?_ ?_
  · constructor
    · exact fun l hl => absurd hl (Table.not_mem_empty l)
    · exact fun l hl => absurd hl (Table.not_mem_empty l)
    · exact fun l hl => absurd hl (Table.not_mem_empty l)
    · exact fun l hl => absurd hl (Table.not_mem_empty l)
    · exact fun a ha => absurd ha (Table.not_mem_empty a)
  · intro s w done hw ih
    exact scopeOk_commit hw.formed hw.guard (row_ok hw.reach) hw.commit ih

/-- **Scope locks exclude each other**, and no resource is locked twice. -/
theorem scope_exclusion (hs : Reachable sha256 (InScope sites) s) :
    Exclusive sites s.db.operation s.db.operationLock ∧
      (s.db.operationLock.rows.map OperationLock.resourceKey).Nodup :=
  ⟨(scope_ok hs).exclusive, s.db.operationLock.unique _ List.mem_cons_self⟩

/-- An operation with the lock of a site and its child with the lock of a domain there. -/
theorem scope_exclusion_child :
    ∃ s, Reachable Sample.digest (InScope ⟨fun _ => "site-1", fun _ => "site-1"⟩) s ∧
      (∃ a ∈ s.db.operationLock, ∃ b ∈ s.db.operationLock, a.kind = .site ∧ b.kind = .domain ∧
        a.operationId ≠ b.operationId) ∧
      Exclusive ⟨fun _ => "site-1", fun _ => "site-1"⟩ s.db.operation s.db.operationLock := by
  have hrun : (run (State.step Sample.digest)
      (Writes (InScope ⟨fun _ => "site-1", fun _ => "site-1"⟩)) .init
      (Sample.perform 0 4
        (.begin (Sample.inline "key-0001" (some "site-1") none none) "uuid-0001" "op-1" false) ++
        Sample.perform 1 2 (.start "op-1" "apply") ++
        Sample.perform 2 4 (.begin (Sample.inline "key-0002" (some "site-1") (some "domain-1")
          (some "op-1")) "uuid-0002" "op-2" false))).any
      (fun s : State => decide (∃ a ∈ s.db.operationLock, ∃ b ∈ s.db.operationLock,
        a.kind = .site ∧ b.kind = .domain ∧ a.operationId ≠ b.operationId)) = true :=
        by decide
  obtain ⟨s, hs, hlocks⟩ := Reach.of_run_any hrun
  exact ⟨s, hs, hlocks, (scope_exclusion hs).1⟩

end Meowbox.Operations
