import Meowbox.Backups.Retention

/-!
# The lease of a repository

Workers sweep at the same time, each with the time at which it began. `RetentionSweepState` takes a
lease that ends `leaseTimeoutMs` after that time and notes at the end when the repository is due
again, counted from the same time: a worker that comes to its second repository late has little of
the lease left, and the next day begins when the sweep began.

`Follows` says from when on a repository may be claimed behind a work, and `Current` what the stored
state of the repository is then; together they are kept by every instruction.

* `retention_leases`: of two works on one repository the earlier is past its lease; a worker whose
  lease was taken over changes nothing; for a day from the beginning of a sweep that succeeded
  nobody takes the lease.
* `second_repository_shared`: two workers on one repository, neither of them longer at it than the
  timeout.
-/

namespace Meowbox.Backups

open Relational Interleaved
open Operations (Fault)

/-! ## What a worker knows -/

section Known

variable {leaseMs : Nat}

/-- The times a worker has read. -/
def readTimes : (i : RetentionInstr) → i.Answer → Set Nat
  | .clock, t => {t}
  | _, _ => ∅

/-- A worker claims what is due, and finishes with the lease it has taken, at a time it has read. -/
def Timely (leaseMs : Nat) (K : Set Nat) : RetentionInstr → Prop
  | .claim _ expected now => now ∈ K ∧ expected.blocks now = false
  | .finish lease _ now => now ∈ K ∧ lease.value = leaseValue leaseMs now
  | _ => True

theorem timely_growing : Growing (Timely leaseMs) := by
  intro K K' i hK hi
  cases i with
  | claim key expected now => exact ⟨hK hi.1, hi.2⟩
  | finish lease success now => exact ⟨hK hi.1, hi.2⟩
  | _ => trivial

/-- The instructions that need no time. -/
def Untimed : RetentionInstr → Prop
  | .claim _ _ _ => False
  | .finish _ _ _ => False
  | _ => True

variable {K : Set Nat} {α β : Type} {now : Nat}

abbrev Retention.Justified (leaseMs : Nat) (K : Set Nat) (c : Retention α) : Prop :=
  Fallible.Justified readTimes (Timely leaseMs) K c

theorem justified_of_untimed {c : Retention α} (h : Fallible.Performs Untimed c) :
    Retention.Justified leaseMs K c :=
  Fallible.justified_of_performs (fun _ i hi => by cases i <;> trivial) h

theorem justified_bind {c : Retention α} {f : α → Retention β} (hc : Retention.Justified leaseMs K c)
    (hf : ∀ a, Retention.Justified leaseMs K (f a)) : Retention.Justified leaseMs K (c >>= f) :=
  Fallible.justified_bind timely_growing hc hf

open Fallible ResticRepositoryRetentionService RetentionSweepState

theorem untimed_readRepositorySnapshotIds (repoName : String) (storage : StorageLocation) :
    Performs Untimed (readRepositorySnapshotIds repoName storage) := by
  refine performs_bind (performs_ask? trivial) fun reply => ?_
  split
  · exact performs_pure _
  · exact performs_throw _

theorem untimed_forgetRepository (repoName : String) (storage : StorageLocation)
    (policy : RetentionPolicy) :
    Performs Untimed (forgetRepository repoName storage policy) := by
  refine performs_bind (untimed_readRepositorySnapshotIds _ _) fun before =>
    performs_bind (performs_ask? trivial) fun retention => ?_
  split
  · exact performs_bind (untimed_readRepositorySnapshotIds _ _) fun after => performs_pure _
  · exact performs_throw _

theorem untimed_runRepositoryRetention (repoName storageLocationId : String)
    (policy : RetentionPolicy) :
    Performs Untimed (runRepositoryRetention repoName storageLocationId policy) := by
  unfold runRepositoryRetention
  split
  · exact performs_throw _
  split
  · exact performs_pure _
  refine performs_bind (performs_ask? trivial) fun location => ?_
  split
  · exact performs_throw _
  · exact performs_bind (untimed_forgetRepository _ _ _) fun removedIds => performs_pure _

theorem untimed_applyRepository (scope : RetentionScope) (configId storageLocationId : String)
    (config : RetentionConfig) :
    Performs Untimed (applyRepository scope configId storageLocationId config) := by
  refine performs_bind (untimed_runRepositoryRetention _ _ _) fun removedIds => ?_
  split
  · exact performs_pure _
  · exact performs_pure _
  · exact performs_ask? trivial

theorem untimed_findOrCreate (key : String) : Performs Untimed (findOrCreate key) := by
  refine performs_bind (performs_ask? trivial) fun found => ?_
  split
  · exact performs_pure _
  · refine performs_bind (performs_attempt (performs_ask? trivial)) fun outcome => ?_
    split
    · exact performs_pure _
    · exact performs_ask? trivial
    · exact performs_throw _

theorem untimed_configure (cs : List Candidate) : Performs Untimed (configure cs) := by
  induction cs with
  | nil => exact performs_pure _
  | cons c cs ih =>
    refine performs_bind (performs_ask? trivial) fun found => ?_
    split
    · exact ih
    · split
      · exact performs_bind ih fun rest => performs_pure _
      · exact ih

/-- The lease of a claim is the one of the time it was made with. -/
theorem returns_take (key : String) (previous : SweepState) :
    Returns (fun lease : Option RetentionLease =>
      ∀ l, lease = some l → l.value = leaseValue leaseMs now) (take leaseMs key previous now) := by
  unfold take
  split
  · exact returns_pure fun l hl => nomatch hl
  · refine returns_bind (returns_any _) fun count _ => returns_pure fun l hl => ?_
    split at hl
    · cases hl
      rfl
    · exact absurd hl (by simp)

theorem returns_claim (key : String) :
    Returns (fun lease : Option RetentionLease =>
      ∀ l, lease = some l → l.value = leaseValue leaseMs now) (claim leaseMs key now) := by
  refine returns_bind (returns_any _) fun found _ => ?_
  split
  · exact returns_pure fun l hl => nomatch hl
  · exact returns_take key _

theorem justified_claim (hnow : now ∈ K) (key : String) :
    Retention.Justified leaseMs K (claim leaseMs key now) := by
  refine justified_bind (justified_of_untimed (untimed_findOrCreate key)) fun found => ?_
  split
  · exact justified_pure _
  · unfold take
    split
    · exact justified_pure _
    · rename_i hdue
      exact justified_bind (justified_ask? ⟨hnow, by simpa using hdue⟩) fun count => justified_pure _

theorem justified_conclude (hnow : now ∈ K) {lease : RetentionLease}
    (hls : lease.value = leaseValue leaseMs now) (succeeded : Bool) (n : SweepCounts) :
    Retention.Justified leaseMs K (conclude lease succeeded now n) := by
  refine justified_bind (justified_attempt timely_growing
    (justified_bind (justified_ask? ⟨hnow, hls⟩) fun count => justified_pure _)) fun outcome => ?_
  split
  · exact justified_pure _
  · exact justified_pure _
  · exact justified_pure _

theorem justified_visit (hnow : now ∈ K) (sha256 : List Char → String) (c : Configured)
    (n : SweepCounts) : Retention.Justified leaseMs K (visit sha256 leaseMs c now n) := by
  refine justified_bind (justified_of_untimed (performs_attempt (performs_ask? trivial)))
    fun active => ?_
  split
  · exact justified_pure _
  · exact justified_pure _
  · refine justified_bind_returns timely_growing
      (justified_attempt timely_growing (justified_claim hnow _))
        (returns_attempt (returns_claim _)) fun lease hls => ?_
    split
    · exact justified_pure _
    · exact justified_pure _
    · rename_i l
      refine justified_bind (justified_of_untimed
        (performs_attempt (untimed_applyRepository _ _ _ _))) fun outcome => ?_
      have hl : l.value = leaseValue leaseMs now := hls (some l) rfl l rfl
      split
      · exact justified_conclude hnow hl _ _
      · exact justified_conclude hnow hl _ _

theorem justified_sweep (hnow : now ∈ K) (sha256 : List Char → String) (all : List Configured)
    (limit : Nat) (cs : List Configured) (n : SweepCounts) :
    Retention.Justified leaseMs K (sweep sha256 leaseMs all now limit cs n) := by
  induction cs generalizing n with
  | nil => exact justified_pure _
  | cons c cs ih =>
    unfold sweep
    split
    · exact justified_pure _
    · split
      · exact ih n
      · exact justified_bind (justified_visit hnow sha256 c n) fun counts => ih counts

/-- **A worker is timely.** -/
theorem justified_sweepDueRepositories (sha256 : List Char → String) (limit : Nat) :
    Retention.Justified leaseMs ∅ (sweepDueRepositories sha256 leaseMs limit) := by
  refine justified_ask_bind trivial fun now => ?_
  have hnow : now ∈ (∅ : Set Nat) ∪ readTimes .clock now := .inr rfl
  exact justified_bind (justified_of_untimed (performs_ask? trivial)) fun panelRows =>
    justified_bind (justified_of_untimed (performs_ask? trivial)) fun pathRows =>
      justified_bind (justified_of_untimed (untimed_configure _)) fun configured =>
        justified_sweep hnow sha256 configured limit configured ⟨0, 0⟩

end Known

/-! ## Works and stored states -/

/-- How long a repository is not due after a sweep. -/
def intervalMs (success : Bool) : Nat := if success then SUCCESS_INTERVAL_MS else RETRY_INTERVAL_MS

/-- A worker that began at `n` may take the lease behind the work. -/
def Follows (leaseMs : Nat) (w : Work) (n : Nat) : Prop :=
  match w.ended with
  | none => w.began + leaseMs ≤ n
  | some (_, success, true) => w.began + intervalMs success ≤ n
  | some (_, _, false) => w.began < n

/-- The state a worker that began at `n` stores first or last. -/
def StoredBy (leaseMs : Nat) (n : Nat) (value : SweepState) : Prop :=
  value = leaseValue leaseMs n ∨ ∃ success, value = finishValue success n

/-- The state a work left, as long as no later worker took the lease. -/
def LeftBy (leaseMs : Nat) (w : Work) (value : SweepState) : Prop :=
  match w.ended with
  | none => value = leaseValue leaseMs w.began
  | some (_, success, true) => value = finishValue success w.began
  | some (_, _, false) => StoredBy leaseMs w.began value

/-- The stored state of the repository of a work: the one the work left, or a later worker's. -/
def Current (leaseMs : Nat) (w : Work) (value : SweepState) : Prop :=
  LeftBy leaseMs w value ∨ ∃ n, Follows leaseMs w n ∧ StoredBy leaseMs n value

/-- What is so of the works in a store. -/
structure Leased (leaseMs : Nat) (x : RetentionStore) : Prop where
  past : ∀ w ∈ x.works, w.began ≤ x.clock
  order : x.works.Pairwise fun w w' => w.key = w'.key → Follows leaseMs w w'.began
  current : ∀ w ∈ x.works, ∃ value, x.setting w.key = some value ∧ Current leaseMs w value

section Values

variable {leaseMs : Nat} {w : Work} {n m : Nat} {value : SweepState} {success : Bool}

theorem leaseValue_inj (h : leaseValue leaseMs n = leaseValue leaseMs m) : n = m := by
  injection h with hst hls hnext
  injection hls with htime
  omega

theorem leaseValue_ne_finishValue : leaseValue leaseMs n ≠ finishValue success m := by
  intro h
  injection h with hst hls hnext
  exact absurd hls (by simp)

theorem StoredBy.of_lease (h : StoredBy leaseMs n (leaseValue leaseMs m)) : m = n := by
  rcases h with h | ⟨success, h⟩
  · exact leaseValue_inj h
  · exact absurd h leaseValue_ne_finishValue

theorem Follows.le (h : Follows leaseMs w n) (hle : n ≤ m) : Follows leaseMs w m := by
  unfold Follows at h ⊢
  split at h
  · exact Nat.le_trans h hle
  · exact Nat.le_trans h hle
  · exact Nat.lt_of_lt_of_le h hle

theorem intervalMs_pos (success : Bool) : 0 < intervalMs success := by
  cases success <;> decide

theorem Follows.lt (hls : 0 < leaseMs) (h : Follows leaseMs w n) : w.began < n := by
  unfold Follows at h
  split at h
  · omega
  · rename_i ended success hend
    have hpos := intervalMs_pos success
    omega
  · exact h

/-- What does not block a worker was stored long enough before. -/
theorem le_of_not_blocks (h : (leaseValue leaseMs n).blocks m = false) : n + leaseMs ≤ m := by
  simp only [SweepState.blocks, leaseValue, Bool.or_eq_false_iff] at h
  exact Nat.not_lt.mp (of_decide_eq_false h.2)

theorem le_of_not_blocks_finish (h : (finishValue success n).blocks m = false) :
    n + intervalMs success ≤ m := by
  simp only [SweepState.blocks, finishValue, Bool.or_eq_false_iff] at h
  exact Nat.not_lt.mp (of_decide_eq_false h.1)

theorem StoredBy.le (h : StoredBy leaseMs n value) (hdue : value.blocks m = false) : n ≤ m := by
  rcases h with rfl | ⟨success, rfl⟩
  · have := le_of_not_blocks hdue
    omega
  · have := le_of_not_blocks_finish hdue
    omega

theorem StoredBy.lt (hls : 0 < leaseMs) (h : StoredBy leaseMs n value)
    (hdue : value.blocks m = false) : n < m := by
  rcases h with rfl | ⟨success, rfl⟩
  · have := le_of_not_blocks hdue
    omega
  · have := le_of_not_blocks_finish hdue
    have hpos := intervalMs_pos success
    omega

/-- **Whoever finds the repository due comes behind every work on it.** -/
theorem Current.follows (hls : 0 < leaseMs) (h : Current leaseMs w value)
    (hdue : value.blocks m = false) : Follows leaseMs w m := by
  rcases h with h | ⟨n, hn, hsto⟩
  · unfold Follows
    unfold LeftBy at h
    split at h
    · exact le_of_not_blocks (h ▸ hdue)
    · exact le_of_not_blocks_finish (h ▸ hdue)
    · exact h.lt hls hdue
  · exact hn.le (hsto.le hdue)

end Values

/-! ## The stored state across an update -/

section Settings

variable {x : RetentionStore} {key other : String} {expected value : SweepState}

theorem matching_le_one : x.matching key expected ≤ 1 := by
  refine Table.count_key_le_one (k := PanelSetting.key) (x := key) (by simp) fun row _ h => ?_
  simpa using (Bool.and_eq_true_iff.mp h).1

theorem setting_mem (h : x.setting key = some value) : (⟨key, value⟩ : PanelSetting) ∈ x.panelSetting := by
  obtain ⟨row, hrow, rfl⟩ := Option.map_eq_some_iff.mp h
  obtain ⟨hmem, hkey⟩ := Table.mem_of_find? hrow
  have hkey : row.key = key := by simpa using hkey
  exact hkey ▸ hmem

theorem mem_setting (h : (⟨key, value⟩ : PanelSetting) ∈ x.panelSetting) :
    x.setting key = some value := by
  rw [RetentionStore.setting, Table.find?_eq_some (k := PanelSetting.key) (by simp) h (by simp)
    (fun b hb => by simpa using hb)]
  rfl

/-- The update finds the stored state exactly when it is the expected one. -/
theorem matching_eq_one : x.matching key expected = 1 ↔ x.setting key = some expected := by
  constructor
  · intro h
    obtain ⟨row, hrow, hp⟩ := Table.count_pos.mp (Nat.lt_of_lt_of_eq Nat.zero_lt_one h.symm)
    simp only [Bool.and_eq_true, beq_iff_eq] at hp
    obtain ⟨rfl, rfl⟩ := hp
    exact mem_setting hrow
  · intro h
    have hpos : 0 < x.matching key expected :=
      Table.count_pos.mpr ⟨_, setting_mem h, by simp⟩
    have hle : x.matching key expected ≤ 1 := matching_le_one
    omega

/-- An update that does not find what it expects changes nothing. -/
theorem compareAndSet_panelSetting (h : x.setting key ≠ some expected) :
    (x.compareAndSet key expected value).panelSetting = x.panelSetting := by
  have hrows : x.panelSetting.rows.map (Table.patch
      (fun row => row.key == key && row.value == expected)
        fun row => { row with value := value }) = x.panelSetting.rows := by
    refine (List.map_congr_left fun row hrow => ?_).trans (List.map_id _)
    refine Table.patch_neg fun hp => h ?_
    simp only [Bool.and_eq_true, beq_iff_eq] at hp
    obtain ⟨rfl, rfl⟩ := hp
    exact mem_setting hrow
  unfold RetentionStore.compareAndSet Table.updateMany
  simp only [hrows]

theorem compareAndSet_eq_self (h : x.setting key ≠ some expected) :
    x.compareAndSet key expected value = x := by
  have htable : (x.compareAndSet key expected value).panelSetting = x.panelSetting :=
    compareAndSet_panelSetting h
  unfold RetentionStore.compareAndSet at htable ⊢
  simp only at htable
  rw [htable]

theorem compareAndSet_setting (h : x.setting key = some expected) :
    (x.compareAndSet key expected value).setting key = some value := by
  refine mem_setting (List.mem_map.mpr ⟨_, setting_mem h, ?_⟩)
  rw [Table.patch_pos (by simp)]

theorem compareAndSet_other (hne : other ≠ key) :
    (x.compareAndSet key expected value).setting other = x.setting other := by
  unfold RetentionStore.setting RetentionStore.compareAndSet Table.find? Table.updateMany
  rw [List.find?_map]
  have hsame : ((fun row : PanelSetting => row.key == other) ∘ Table.patch
      (fun row => row.key == key && row.value == expected)
        fun row => { row with value := value }) = fun row => row.key == other := by
    funext row
    simp only [Function.comp, Table.patch]
    split
    · rfl
    · rfl
  rw [hsame, Option.map_map]
  cases hfind : x.panelSetting.rows.find? (fun row => row.key == other) with
  | none => rfl
  | some row =>
    have hkey : row.key = other := by simpa using List.find?_some hfind
    simp only [Option.map_some, Function.comp]
    rw [Table.patch_neg]
    intro hp
    exact hne (hkey.symm.trans (by simpa using (Bool.and_eq_true_iff.mp hp).1))

end Settings

/-! ## Every instruction keeps the leases -/

section Steps

variable {leaseMs : Nat} {x : RetentionStore} {w w' : Work} {key : String} {now n : Nat}
  {value expected : SweepState} {success : Bool}

/-- What was stored behind a work was stored by a worker that began no earlier. -/
theorem Current.stored (hls : 0 < leaseMs) (h : Current leaseMs w value) :
    ∃ n, w.began ≤ n ∧ StoredBy leaseMs n value := by
  rcases h with h | ⟨n, hn, hsto⟩
  · refine ⟨w.began, Nat.le_refl _, ?_⟩
    unfold LeftBy at h
    split at h
    · exact .inl h
    · exact .inr ⟨_, h⟩
    · exact h
  · exact ⟨n, Nat.le_of_lt (hn.lt hls), hsto⟩

theorem Current.of_lease (hls : 0 < leaseMs) (h : Current leaseMs w (leaseValue leaseMs n)) :
    w.began ≤ n := by
  obtain ⟨m, hm, hsto⟩ := h.stored hls
  rw [hsto.of_lease]
  exact hm

/-- Nothing the leases depend on changed. -/
theorem Leased.same {y : RetentionStore} (h : Leased leaseMs x) (hworks : y.works = x.works)
    (hclk : x.clock ≤ y.clock) (hsetting : ∀ w ∈ x.works, y.setting w.key = x.setting w.key) :
    Leased leaseMs y where
  past w hw := Nat.le_trans (h.past w (hworks ▸ hw)) hclk
  order := hworks ▸ h.order
  current w hw := by
    rw [hworks] at hw
    rw [hsetting w hw]
    exact h.current w hw

/-- A setting that is created is not one of a work. -/
theorem leased_create {created : PanelSettingTable} (h : Leased leaseMs x)
    (hcr : x.panelSetting.create? ⟨key, .empty⟩ = some created) :
    Leased leaseMs { x with panelSetting := created } := by
  refine h.same rfl (Nat.le_refl _) fun w hw => ?_
  obtain ⟨value, hval, -⟩ := h.current w hw
  rw [hval]
  refine mem_setting ?_
  rw [Table.mem_def, (Table.create?_eq_some hcr).1]
  exact List.mem_append_left _ (setting_mem hval)

/-- **The lease is taken**, and the worker works unless it is not told. -/
theorem leased_claim (hls : 0 < leaseMs) (h : Leased leaseMs x) (hnow : now ≤ x.clock)
    (hdue : expected.blocks now = false) :
    Leased leaseMs ((x.compareAndSet key expected (leaseValue leaseMs now)).begun key now
      (x.matching key expected)) := by
  by_cases hfnd : x.setting key = some expected
  · have hfol : ∀ w ∈ x.works, w.key = key → Follows leaseMs w now := by
      intro w hw hkey
      obtain ⟨value, hval, hcur⟩ := h.current w hw
      rw [hkey, hfnd] at hval
      cases hval
      exact hcur.follows hls hdue
    have htk : Leased leaseMs (x.compareAndSet key expected (leaseValue leaseMs now)) := by
      refine ⟨h.past, h.order, fun w hw => ?_⟩
      by_cases hkey : w.key = key
      · refine ⟨_, ?_, .inr ⟨now, hfol w hw hkey, .inl rfl⟩⟩
        rw [hkey]
        exact compareAndSet_setting hfnd
      · rw [compareAndSet_other hkey]
        exact h.current w hw
    unfold RetentionStore.begun
    split
    · refine ⟨fun w hw => ?_, ?_, fun w hw => ?_⟩
      · rcases List.mem_snoc.mp hw with hold | rfl
        · exact htk.past w hold
        · exact hnow
      · refine List.pairwise_append.mpr ⟨h.order, List.pairwise_singleton _ _, ?_⟩
        intro w hw w' hw' hkey
        rw [List.mem_singleton.mp hw'] at hkey ⊢
        exact hfol w hw hkey
      · rcases List.mem_snoc.mp hw with hold | rfl
        · exact htk.current w hold
        · exact ⟨_, compareAndSet_setting hfnd, .inl rfl⟩
    · exact htk
  · rw [compareAndSet_eq_self hfnd, RetentionStore.begun,
      if_neg fun hone => hfnd (matching_eq_one.mp hone.1)]
    exact h

section Over

variable {clock : Nat} {kept : Bool}

@[simp] theorem finished_key : (w.finished clock key now success kept).key = w.key := by
  unfold Work.finished
  split
  · rfl
  · rfl

@[simp] theorem finished_began : (w.finished clock key now success kept).began = w.began := by
  unfold Work.finished
  split
  · rfl
  · rfl

theorem finished_ended (w : Work) (clock : Nat) (key : String) (now : Nat) (success kept : Bool) :
    (w.finished clock key now success kept).ended = w.ended ∨
    w.ended = none ∧ w.began = now ∧
      (w.finished clock key now success kept).ended = some (clock, success, kept) := by
  unfold Work.finished
  split
  · rename_i hover
    exact .inr ⟨hover.2.2, hover.2.1, rfl⟩
  · exact .inl rfl

/-- A work that is over without its lease lets the next one begin no later. -/
theorem follows_finished (hls : 0 < leaseMs) (h : Follows leaseMs w n) :
    Follows leaseMs (w.finished clock key now success false) n := by
  unfold Follows
  rcases finished_ended w clock key now success false with hsame | ⟨-, -, hend⟩
  · rw [hsame, finished_began]
    exact h
  · rw [hend, finished_began]
    exact h.lt hls

theorem leftBy_finished (h : LeftBy leaseMs w value) :
    LeftBy leaseMs (w.finished clock key now success false) value := by
  unfold LeftBy at h ⊢
  rcases finished_ended w clock key now success false with hsame | ⟨hnone, -, hend⟩
  · rw [hsame, finished_began]
    exact h
  · rw [hnone] at h
    rw [hend, finished_began]
    exact .inl h

/-- A work that is none of the worker's goes on. -/
theorem finished_other (h : w.key ≠ key ∨ w.began ≠ now) : w.finished clock key now success kept = w := by
  unfold Work.finished
  rw [if_neg]
  rintro ⟨hkey, hbegan, -⟩
  rcases h with h | h
  · exact h hkey
  · exact h hbegan

/-- The work whose lease is still stored is over with it. -/
theorem leftBy_finished_kept (hkey : w.key = key) (h : LeftBy leaseMs w (leaseValue leaseMs now)) :
    LeftBy leaseMs (w.finished clock key now success true) (finishValue success now) := by
  unfold LeftBy at h
  split at h
  · rename_i hnone
    obtain rfl := leaseValue_inj h
    unfold Work.finished
    rw [if_pos ⟨hkey, rfl, hnone⟩]
    exact rfl
  · exact absurd h leaseValue_ne_finishValue
  · rename_i hend
    have hbegan := h.of_lease
    unfold Work.finished
    rw [if_neg fun hover => absurd hover.2.2 (by simp [hend])]
    unfold LeftBy
    rw [hend]
    exact .inr ⟨success, by rw [hbegan]⟩

end Over

theorem leased_finished (hls : 0 < leaseMs) (h : Leased leaseMs x) :
    Leased leaseMs (x.finished key now success false) := by
  refine ⟨fun w hw => ?_, ?_, fun w hw => ?_⟩
  · obtain ⟨v, hv, rfl⟩ := List.mem_map.mp hw
    rw [finished_began]
    exact h.past v hv
  · refine List.pairwise_map.mpr (h.order.imp fun {v v'} horder hkey => ?_)
    rw [finished_key, finished_key] at hkey
    rw [finished_began]
    exact follows_finished hls (horder hkey)
  · obtain ⟨v, hv, rfl⟩ := List.mem_map.mp hw
    obtain ⟨value, hval, hcur⟩ := h.current v hv
    refine ⟨value, finished_key.symm ▸ hval, ?_⟩
    rcases hcur with hown | ⟨n, hn, hsto⟩
    · exact .inl (leftBy_finished hown)
    · exact .inr ⟨n, follows_finished hls hn, hsto⟩

/-- The worker finds its lease: nobody has worked on the repository since. -/
theorem leased_kept (hls : 0 < leaseMs) (h : Leased leaseMs x)
    (hfnd : x.setting key = some (leaseValue leaseMs now)) :
    Leased leaseMs ((x.compareAndSet key (leaseValue leaseMs now) (finishValue success now)).finished
      key now success true) := by
  have hle : ∀ w ∈ x.works, w.key = key → Current leaseMs w (leaseValue leaseMs now) := by
    intro w hw hkey
    obtain ⟨value, hval, hcur⟩ := h.current w hw
    rw [hkey, hfnd] at hval
    cases hval
    exact hcur
  refine ⟨fun w hw => ?_, ?_, fun w hw => ?_⟩
  · obtain ⟨v, hv, rfl⟩ := List.mem_map.mp hw
    rw [finished_began]
    exact h.past v hv
  · refine List.pairwise_map.mpr (h.order.imp_of_mem fun {v v'} hv hv' horder hkey => ?_)
    rw [finished_key, finished_key] at hkey
    rw [finished_began]
    have hfol := horder hkey
    unfold Work.finished
    split
    · -- a later work on the repository would have taken the lease away
      rename_i hover
      have hlat := (hle v' hv' (hkey.symm.trans hover.1)).of_lease hls
      have hlt := hfol.lt hls
      omega
    · exact hfol
  · obtain ⟨v, hv, rfl⟩ := List.mem_map.mp hw
    rw [finished_key]
    by_cases hkey : v.key = key
    · refine ⟨finishValue success now, ?_, ?_⟩
      · rw [hkey]
        exact compareAndSet_setting hfnd
      · rcases hle v hv hkey with hown | ⟨n, hn, hsto⟩
        · exact .inl (leftBy_finished_kept hkey hown)
        · have hlt := hn.lt hls
          obtain rfl := hsto.of_lease
          rw [finished_other (.inr (Nat.ne_of_lt hlt))]
          exact .inr ⟨_, hn, .inr ⟨success, rfl⟩⟩
    · obtain ⟨value, hval, hcur⟩ := h.current v hv
      refine ⟨value, ?_, ?_⟩
      · exact (compareAndSet_other hkey).trans hval
      · rw [finished_other (.inl hkey)]
        exact hcur

theorem leased_finish (hls : 0 < leaseMs) (h : Leased leaseMs x) {lease : RetentionLease}
    (hval : lease.value = leaseValue leaseMs now) :
    Leased leaseMs (x.finish lease success now).2 := by
  have hupd : Leased leaseMs ((x.compareAndSet lease.key lease.value
      (finishValue success now)).finished lease.key now success
        (x.matching lease.key lease.value == 1)) := by
    by_cases hfnd : x.setting lease.key = some lease.value
    · rw [matching_eq_one.mpr hfnd]
      rw [hval] at hfnd ⊢
      exact leased_kept hls h hfnd
    · rw [compareAndSet_eq_self hfnd,
        beq_eq_false_iff_ne.mpr fun hone => hfnd (matching_eq_one.mp hone)]
      exact leased_finished hls h
  unfold RetentionStore.finish
  dsimp only
  split
  · exact hupd
  · exact leased_finished hls h
  · exact hupd

theorem leased_perform {α : Type} {answer : Except Fault α} {after : RetentionStore}
    (h : Leased leaseMs x) (haft : Leased leaseMs after) :
    Leased leaseMs (x.perform answer after).2 := by
  unfold RetentionStore.perform
  split
  · exact haft
  · exact h
  · exact haft

/-- **Every timely instruction keeps the leases**, and no time passes. -/
theorem leased_answer (hls : 0 < leaseMs) (h : Leased leaseMs x) {i : RetentionInstr}
    (hi : Timely leaseMs { t | t ≤ x.clock } i) :
    Leased leaseMs (RetentionStore.answer leaseMs i x).2 := by
  cases i with
  | claim key expected now => exact leased_perform h (leased_claim hls h hi.1 hi.2)
  | finish lease success now => exact leased_finish hls h hi.2
  | createSetting key =>
    simp only [RetentionStore.answer]
    split
    · rename_i created hcr
      exact leased_perform h (leased_create h hcr)
    · exact leased_perform h h
  | markPruned scope configId locationId removedIds =>
    exact leased_perform h (h.same rfl (Nat.le_refl _) fun _ _ => rfl)
  | agent call =>
    cases call with
    | repositorySnapshots repoName storage =>
      simp only [RetentionStore.answer, RetentionStore.agent]
      split
      · exact h
      · exact h.same rfl (Nat.le_refl _) fun _ _ => rfl
    | forgetRepository repoName storage policy =>
      exact h.same rfl (Nat.le_refl _) fun _ _ => rfl
  | clock => exact h
  | groups scope => exact h
  | config scope configId => exact h
  | active scope configId locationId => exact h
  | findSetting key => exact h
  | location id => exact h

theorem clock_perform {α : Type} {answer : Except Fault α} {after : RetentionStore}
    (haft : after.clock = x.clock) : (x.perform answer after).2.clock = x.clock := by
  unfold RetentionStore.perform
  split
  · exact haft
  · rfl
  · exact haft

theorem clock_answer (i : RetentionInstr) :
    (RetentionStore.answer leaseMs i x).2.clock = x.clock := by
  cases i with
  | claim key expected now =>
    refine clock_perform ?_
    unfold RetentionStore.begun
    split
    · rfl
    · rfl
  | finish lease success now =>
    simp only [RetentionStore.answer, RetentionStore.finish]
    split
    · rfl
    · rfl
    · rfl
  | createSetting key =>
    simp only [RetentionStore.answer]
    split
    · exact clock_perform rfl
    · exact clock_perform rfl
  | markPruned scope configId locationId removedIds => exact clock_perform rfl
  | agent call =>
    cases call with
    | repositorySnapshots repoName storage =>
      simp only [RetentionStore.answer, RetentionStore.agent]
      split
      · rfl
      · rfl
    | forgetRepository repoName storage policy => rfl
  | clock => rfl
  | groups scope => rfl
  | config scope configId => rfl
  | active scope configId locationId => rfl
  | findSetting key => rfl
  | location id => rfl

theorem leased_change (h : Leased leaseMs x) (change : RetentionChange) :
    Leased leaseMs (x.change change) ∧ x.clock ≤ (x.change change).clock := by
  cases change with
  | tick ms => exact ⟨h.same rfl (Nat.le_add_right _ _) fun _ _ => rfl, Nat.le_add_right _ _⟩
  | fate fate => exact ⟨h.same rfl (Nat.le_refl _) fun _ _ => rfl, Nat.le_refl _⟩
  | agent unlisted keeps forgotten =>
    exact ⟨h.same rfl (Nat.le_refl _) fun _ _ => rfl, Nat.le_refl _⟩
  | configure configs locations => exact ⟨h.same rfl (Nat.le_refl _) fun _ _ => rfl, Nat.le_refl _⟩
  | backups rows snapshots => exact ⟨h.same rfl (Nat.le_refl _) fun _ _ => rfl, Nat.le_refl _⟩

end Steps

/-! ## The workers -/

/-- Any number of workers; a request is the limit of a sweep. -/
def sweepService (sha256 : List Char → String) (leaseMs : Nat) :
    Service RetentionStore RetentionChange Nat RetentionInstr RetentionInstr.Answer
      (Except Fault ResticRepositoryRetentionService.SweepCounts) where
  program limit :=
    (ResticRepositoryRetentionService.sweepDueRepositories sha256 leaseMs limit).run
  answer := RetentionStore.answer leaseMs
  outside change x := x.change change

abbrev SweepPool := Pool RetentionStore RetentionInstr RetentionInstr.Answer
  (Except Fault ResticRepositoryRetentionService.SweepCounts)

variable {sha256 : List Char → String} {leaseMs : Nat} {s₀ s s' : SweepPool}

theorem Reach.leased (hls : 0 < leaseMs) (hcalls : s₀.calls = []) (hworks : s₀.store.works = [])
    (hs : Stepping.Reach (Pool.step (sweepService sha256 leaseMs)) Stepping.anyStep s₀ s) :
    Leased leaseMs s.store ∧
      ∀ p ∈ s.calls, p.Justified readTimes (Timely leaseMs) { t | t ≤ s.store.clock } := by
  have hany : Stepping.Reach (Pool.step (sweepService sha256 leaseMs))
      (Pool.Within fun _ _ => True) s₀ s := hs.mono fun _ _ _ _ _ => trivial
  refine Interleaved.Reach.justified (S := sweepService sha256 leaseMs)
    (T := fun x : RetentionStore => { t | t ≤ x.clock }) timely_growing (fun limit => justified_sweepDueRepositories sha256 limit)
    (fun change x hx => ?_) (fun i x hx _ hi => ?_) ?_ hcalls hany
  · obtain ⟨hlea, hle⟩ := leased_change hx change
    exact ⟨hlea, fun t ht => Nat.le_trans ht hle⟩
  · have hclk : ((sweepService sha256 leaseMs).answer i x).2.clock = x.clock := clock_answer i
    refine ⟨leased_answer hls hx hi, fun t ht => ?_, fun t ht => ?_⟩
    · exact hclk ▸ ht
    · cases i with
      | clock =>
        rw [Set.mem_singleton_iff.mp ht]
        exact Nat.le_refl _
      | _ => exact absurd ht (Set.notMem_empty t)
  · refine ⟨fun w hw => ?_, ?_, fun w hw => ?_⟩
    · rw [hworks] at hw
      exact absurd hw List.not_mem_nil
    · rw [hworks]
      exact .nil
    · rw [hworks] at hw
      exact absurd hw List.not_mem_nil

/-! ## What the lease is good for -/

/-- The lease time of a worker's environment. -/
def leaseTimeout (rawResticTimeoutMs : Option Nat) : Nat :=
  (resolveResticMaintenanceTimeouts rawResticTimeoutMs).leaseTimeoutMs

theorem leaseTimeout_pos (raw : Option Nat) : 0 < leaseTimeout raw :=
  Nat.lt_of_lt_of_le (by decide : 0 < LEASE_EXTRA_MS) (Nat.le_add_left _ _)

/-- The instruction of a step meets what the worker knows. -/
theorem timely_issued {a : Event RetentionChange Nat} {i : RetentionInstr} {K : Set Nat}
    (hjust : ∀ p ∈ s.calls, p.Justified readTimes (Timely leaseMs) K) (hi : s.issued a = some i) :
    Timely leaseMs K i := by
  cases a with
  | outside change => exact absurd hi (by simp [Pool.issued])
  | call request => exact absurd hi (by simp [Pool.issued])
  | advance k =>
    obtain ⟨p, hp, hnext⟩ := Option.bind_eq_some_iff.mp hi
    cases p with
    | done r => exact absurd hnext (by simp [Prog.next?])
    | ask j next =>
      cases hnext
      exact (hjust _ (List.mem_of_getElem? hp)).1

/-- **A lease that was taken over is lost**: its worker changes nothing. -/
theorem finish_of_taken (hls : 0 < leaseMs) {x : RetentionStore} (h : Leased leaseMs x)
    {lease : RetentionLease} {success : Bool} {now : Nat}
    (hval : lease.value = leaseValue leaseMs now)
    (htk : ∃ w ∈ x.works, w.key = lease.key ∧ now < w.began) :
    (x.finish lease success now).2.panelSetting = x.panelSetting := by
  obtain ⟨w, hw, hkey, hlat⟩ := htk
  have hlost : x.setting lease.key ≠ some lease.value := by
    intro hfnd
    obtain ⟨value, hsto, hcur⟩ := h.current w hw
    rw [hkey, hfnd] at hsto
    cases hsto
    rw [hval] at hcur
    have hle := hcur.of_lease hls
    omega
  unfold RetentionStore.finish
  dsimp only
  split
  · exact compareAndSet_panelSetting hlost
  · rfl
  · exact compareAndSet_panelSetting hlost

/-- **A repository that was swept is not claimed for a day**, counted from the beginning of the
sweep. -/
theorem claim_of_swept {x : RetentionStore} (h : Leased leaseMs x) {key : String}
    {expected : SweepState} {now : Nat} (hnow : now ≤ x.clock) (hls : 0 < leaseMs)
    (hdue : expected.blocks now = false)
    (hswp : ∃ w ∈ x.works, w.key = key ∧ (∃ t, w.ended = some (t, true, true)) ∧
      x.clock < w.began + SUCCESS_INTERVAL_MS) :
    (RetentionStore.answer leaseMs (.claim key expected now) x).2.panelSetting = x.panelSetting := by
  obtain ⟨w, hw, hkey, ⟨t, hend⟩, hclk⟩ := hswp
  have hother : x.setting key ≠ some expected := by
    intro hfnd
    obtain ⟨value, hsto, hcur⟩ := h.current w hw
    rw [hkey, hfnd] at hsto
    cases hsto
    have hfol := hcur.follows hls hdue
    rw [Follows, hend] at hfol
    have hday : w.began + SUCCESS_INTERVAL_MS ≤ now := hfol
    omega
  have hbeg : ((x.compareAndSet key expected (leaseValue leaseMs now)).begun key now
      (x.matching key expected)).panelSetting = x.panelSetting := by
    unfold RetentionStore.begun
    split
    · exact compareAndSet_panelSetting hother
    · exact compareAndSet_panelSetting hother
  simp only [RetentionStore.answer, RetentionStore.perform]
  split
  · exact hbeg
  · rfl
  · exact hbeg

/-- **The leases of any number of workers.** In every state, the earlier of two works that go on for
one repository is past the lease its worker took when it began; a worker whose lease was taken over
leaves the newer lease as it is; and until a day has passed since the beginning of a sweep that
succeeded, no claim takes the repository. -/
theorem retention_leases (raw : Option Nat) (hcalls : s₀.calls = []) (hworks : s₀.store.works = [])
    (hs : Stepping.Reach (Pool.step (sweepService sha256 (leaseTimeout raw))) Stepping.anyStep s₀ s) :
    (s.store.works.Pairwise fun w w' => w.key = w'.key → w.ended = none → w'.ended = none →
      w.began + leaseTimeout raw ≤ s.store.clock) ∧
    ∀ a, Pool.step (sweepService sha256 (leaseTimeout raw)) s a = some s' →
      (∀ lease success now, s.issued a = some (.finish lease success now) →
        (∃ w ∈ s.store.works, w.key = lease.key ∧ now < w.began) →
          s'.store.panelSetting = s.store.panelSetting) ∧
      (∀ key expected now, s.issued a = some (.claim key expected now) →
        (∃ w ∈ s.store.works, w.key = key ∧ (∃ t, w.ended = some (t, true, true)) ∧
          s.store.clock < w.began + SUCCESS_INTERVAL_MS) →
            s'.store.panelSetting = s.store.panelSetting) := by
  have hls := leaseTimeout_pos raw
  obtain ⟨hlea, hjust⟩ := Reach.leased hls hcalls hworks hs
  refine ⟨?_, fun a hstep => ⟨fun lease success now hi htk => ?_,
    fun key expected now hi hswp => ?_⟩⟩
  · refine hlea.order.imp_of_mem fun {w w'} _ hw' hfol hkey hend _ => ?_
    have hbegan : w.began + leaseTimeout raw ≤ w'.began := by
      have hnext := hfol hkey
      rw [Follows, hend] at hnext
      exact hnext
    exact Nat.le_trans hbegan (hlea.past w' hw')
  · rw [Pool.store_of_issued hstep hi]
    exact finish_of_taken hls hlea (timely_issued hjust hi).2 htk
  · rw [Pool.store_of_issued hstep hi]
    obtain ⟨hnow, hdue⟩ := timely_issued hjust hi
    exact claim_of_swept hlea hnow hls hdue hswp

/-! ### Two workers, two repositories -/

def panelRow (configId : String) : RetentionRow where
  id := "row-" ++ configId
  scope := .panel
  configId := configId
  engine := .restic
  storageLocationId := some "disk"
  status := .completed
  filePath := "restic:s"
  resticSnapshotId := some "s"
  errorMessage := none

def twoRepositories : RetentionStore where
  clock := 0
  panelSetting := .empty
  rows := [panelRow "first", panelRow "second"]
  configs _ configId := some ⟨configId, .restic, ⟨7, 0, 0, 0⟩⟩
  locations _ := some ⟨"LOCAL", some "secret"⟩
  snapshots _ _ := ["s"]
  fate := .done
  unlisted := none
  keeps _ := true
  forgotten := .ok ⟨true, none, none⟩
  works := []
  listed := []

def sweepStart : SweepPool := ⟨twoRepositories, []⟩

/-- The workers with the default timeouts. -/
abbrev defaultSweeps : Service RetentionStore RetentionChange Nat RetentionInstr
    RetentionInstr.Answer (Except Fault ResticRepositoryRetentionService.SweepCounts) :=
  sweepService String.ofList (leaseTimeout none)

/-- `n` instructions of the worker number `i`. -/
def sweepAdvances (n i : Nat) : List (Event RetentionChange Nat) := List.replicate n (.advance i)

/-- The `forget` of the first repository takes all its time, and the first worker is at the second
repository when its lease ends. -/
def longSweep : List (Event RetentionChange Nat) :=
  .call 2 :: sweepAdvances 12 0 ++ .outside (.tick 7500000) :: sweepAdvances 6 0 ++
    .outside (.tick 300000) :: .call 2 :: sweepAdvances 10 1

/-- A sweep of an hour, and the next one a day after it began. -/
def dailySweep : List (Event RetentionChange Nat) :=
  .call 1 :: sweepAdvances 12 0 ++ .outside (.tick 3600000) :: sweepAdvances 2 0 ++
    .outside (.tick 82800000) :: .call 1 :: sweepAdvances 8 1

/-- How long the worker has been at the repository. -/
def Work.lasted (clock : Nat) (w : Work) : Nat := (w.ended.map Prod.fst).getD clock - w.since

/-- The next instruction of the first worker finishes a repository that a newer lease covers. -/
def finishesTaken (s : SweepPool) : Bool :=
  match s.issued (.advance 0 : Event RetentionChange Nat) with
  | some (.finish lease _ now) =>
    s.store.works.any fun w => w.key == lease.key && decide (now < w.began)
  | _ => false

theorem retention_leases_taken : ∃ s s' : SweepPool,
    Pool.step defaultSweeps s (.advance 0) = some s' ∧ finishesTaken s = true ∧
      s'.store.panelSetting = s.store.panelSetting := by
  have hrun : (Stepping.run (Pool.step defaultSweeps) Stepping.anyStep sweepStart
      (longSweep ++ sweepAdvances 4 0)).any (fun s => decide
        ((Pool.step defaultSweeps s (.advance 0)).isSome = true ∧ finishesTaken s = true)) = true := by
    decide +kernel
  obtain ⟨s, hs, hstep, htk⟩ := Stepping.Reach.of_run_any hrun
  obtain ⟨s', hs'⟩ := Option.isSome_iff_exists.mp hstep
  refine ⟨s, s', hs', htk, ?_⟩
  have hsteps := ((retention_leases none rfl rfl hs).2 _ hs').1
  unfold finishesTaken at htk
  split at htk
  · rename_i lease success now hiss
    obtain ⟨w, hw, hp⟩ := List.any_eq_true.mp htk
    simp only [Bool.and_eq_true, beq_iff_eq, decide_eq_true_eq] at hp
    exact hsteps lease success now hiss ⟨w, hw, hp⟩
  · exact absurd htk (by simp)

/-- **Two works on one repository at once, and a claim within a day of a success.** No worker is
longer at a repository than the timeout. -/
theorem second_repository_shared :
    (∃ s : SweepPool, Stepping.Reach (Pool.step defaultSweeps) Stepping.anyStep sweepStart s ∧
      (∀ w ∈ s.store.works, w.lasted s.store.clock ≤
        (resolveResticMaintenanceTimeouts none).rpcTimeoutMs) ∧
      ∃ w ∈ s.store.works, ∃ w' ∈ s.store.works, w.key = w'.key ∧ w.began < w'.began ∧
        w.ended = none ∧ w'.ended = none) ∧
    ∃ s : SweepPool, Stepping.Reach (Pool.step defaultSweeps) Stepping.anyStep sweepStart s ∧
      (∀ w ∈ s.store.works, w.lasted s.store.clock ≤
        (resolveResticMaintenanceTimeouts none).rpcTimeoutMs) ∧
      ∃ w ∈ s.store.works, ∃ w' ∈ s.store.works, w.key = w'.key ∧
        w.ended = some (3600000, true, true) ∧ 3600000 < w'.since ∧
          w'.since < 3600000 + SUCCESS_INTERVAL_MS := by
  constructor
  · have hrun : (Stepping.run (Pool.step defaultSweeps) Stepping.anyStep sweepStart longSweep).any
        (fun s => decide ((∀ w ∈ s.store.works, w.lasted s.store.clock ≤
          (resolveResticMaintenanceTimeouts none).rpcTimeoutMs) ∧
          ∃ w ∈ s.store.works, ∃ w' ∈ s.store.works, w.key = w'.key ∧ w.began < w'.began ∧
            w.ended = none ∧ w'.ended = none)) = true := by
      decide +kernel
    exact Stepping.Reach.of_run_any hrun
  · have hrun : (Stepping.run (Pool.step defaultSweeps) Stepping.anyStep sweepStart dailySweep).any
        (fun s => decide ((∀ w ∈ s.store.works, w.lasted s.store.clock ≤
          (resolveResticMaintenanceTimeouts none).rpcTimeoutMs) ∧
          ∃ w ∈ s.store.works, ∃ w' ∈ s.store.works, w.key = w'.key ∧
            w.ended = some (3600000, true, true) ∧ 3600000 < w'.since ∧
              w'.since < 3600000 + SUCCESS_INTERVAL_MS)) = true := by
      decide
    exact Stepping.Reach.of_run_any hrun

end Meowbox.Backups
