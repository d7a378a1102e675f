import Meowbox.Backups.ReceiptTable

/-!
# The runtime under careful events

Calls of `BackupRuntime`, ends of tasks, ends of `send` and restarts come in any order. `careful`
asks of such an event that what it saves fits the journal, and that a `complete` is for a backup
that was accepted, no earlier result of which a delivery still holds. `Sound` is what every careful
event keeps (`Sound.step`):

* the journal is one `initialize` accepts (`Acceptable`, `initializeRuntime_eq`);
* tasks wait for each other in a chain (`Chained`), and `tasks` are those that are not released;
* a receipt without a result is of a task that waits or runs, and one whose task settled has one;
* the entries of a delivery are those of the journal (`EntriesCurrent`).
-/

namespace Meowbox.Backups

/-! ## Careful events -/

namespace BackupRuntime

/-- The receipts on disk. -/
def onDisk (s : BackupRuntime) : Receipts := s.journal.getD []

/-- The receipts a call finds when it has initialized. -/
def opened (s : BackupRuntime) : Receipts := if s.initialized then s.receipts else fill s.onDisk

/-- What an event saves fits the journal, and a completion is for a backup that was accepted, no
earlier result of which a delivery still holds. -/
def careful (s : BackupRuntime) : RuntimeEvent → Prop
  | .run id event => s.opened.fits ∧
      (validBackupId id → ¬s.tasks.contains id → ¬s.opened.has id →
        s.opened.length < MAX_RECEIPTS → Receipts.fits (s.opened ++ [(id, ⟨event, none⟩)]))
  | .complete event raw => s.opened.fits ∧
      (s.opened.has raw.backupId ∨ raw.backupId ∉ INHERITED) ∧
      (s.opened.has raw.backupId → (s.opened.assign raw.backupId (completed event raw)).fits) ∧
      ∀ d ∈ s.delivery, ∀ e ∈ d.sending :: d.rest, e.1 = raw.backupId → e.2.result = none
  | .exclusive requireIdle => requireIdle → s.opened.fits
  | .deliver => s.opened.fits
  | .finish k outcome => ∀ j ∈ s.jobs[k]?, ∀ b ∈ j.backup,
      (s.receipts.lookup b.1).bind Receipt.result = none →
        (s.receipts.assign b.1 (completed b.2 (unproduced b.1 outcome))).fits
  | .sent _ | .start _ | .release _ | .restart => True

instance (s : BackupRuntime) (e : RuntimeEvent) : Decidable (s.careful e) := by
  cases e <;> unfold careful <;> infer_instance

end BackupRuntime

/-! ## What careful events keep -/

/-- A journal `initialize` accepts. -/
structure Acceptable (rs : Receipts) : Prop where
  fits : rs.fits = true
  bound : rs.length ≤ MAX_RECEIPTS
  keys : (rs.map Prod.fst).Nodup
  valid : ∀ e ∈ rs, validBackupId e.1 = true
  named : ∀ e ∈ rs, ∀ r ∈ e.2.result, r.backupId = e.1

/-- Each task waits for the one before, and goes on when that is released. -/
structure Chained (jobs : List RuntimeJob) (tail : Option Nat) : Prop where
  after : ∀ k j, jobs[k]? = some j → j.after = if k = 0 then none else some (k - 1)
  tail : tail = if jobs.length = 0 then none else some (jobs.length - 1)
  order : ∀ (i k : Nat) (a b : RuntimeJob), i < k → jobs[i]? = some a → jobs[k]? = some b →
    b.phase ≠ .waiting → a.phase = .released

def Phase.active (p : Phase) : Bool := p != .released
def Phase.unsettled (p : Phase) : Bool := p == .waiting || p == .running

/-- The entries of a delivery are those it found, and the results among them are not replaced. -/
structure EntriesCurrent (s : BackupRuntime) (d : Delivery) : Prop where
  keys : ((d.sending :: d.rest).map Prod.fst).Nodup
  idle : d.sending.1 ∉ s.tasks
  result : d.sending.2.result ≠ none
  lookup : ∀ e ∈ d.sending :: d.rest, e.2.result ≠ none → s.receipts.lookup e.1 = some e.2

structure Sound (s : BackupRuntime) : Prop where
  fresh : s.initialized = false → s.receipts = [] ∧ s.delivery = none ∧
    ∀ j ∈ s.jobs, j.backup = none
  stored : s.initialized = true → s.journal = some s.receipts
  journal : ∀ rs ∈ s.journal, Acceptable rs
  chained : Chained s.jobs s.tail
  tasks : s.tasks = idsIn Phase.active s.jobs
  single : s.tasks.Nodup
  pending : ∀ id ∈ s.tasks, s.receipts.has id = true
  unfinished : ∀ e ∈ s.receipts, e.2.result = none → e.1 ∈ idsIn Phase.unsettled s.jobs
  settled : ∀ id ∈ idsIn (· == .settled) s.jobs,
    ∃ result, (s.receipts.lookup id).bind Receipt.result = some result
  once : s.started.Nodup
  reserved : ∀ id ∈ s.started, s.onDisk.has id = true
  waiting : ∀ id ∈ idsIn (· == .waiting) s.jobs, id ∉ s.started
  delivery : ∀ d ∈ s.delivery, EntriesCurrent s d

open BackupRuntime in
theorem fill_keys (rs : Receipts) : (fill rs).map Prod.fst = rs.map Prod.fst := by
  rw [fill, List.map_map]
  rfl

theorem Acceptable.fill {rs : Receipts} (h : Acceptable rs)
    (hfits : (BackupRuntime.fill rs).fits = true) : Acceptable (BackupRuntime.fill rs) where
  fits := hfits
  bound := by
    rw [BackupRuntime.fill, List.length_map]
    exact h.bound
  keys := by
    rw [fill_keys]
    exact h.keys
  valid e he := by
    obtain ⟨e', he', rfl⟩ := List.mem_map.mp he
    exact h.valid e' he'
  named e he r hr := by
    obtain ⟨e', he', rfl⟩ := List.mem_map.mp he
    cases hold : e'.2.result with
    | none =>
      simp only [hold, Option.getD_none, Option.mem_def, Option.some.injEq] at hr
      exact hr ▸ rfl
    | some old =>
      simp only [hold, Option.getD_some, Option.mem_def, Option.some.injEq] at hr
      exact hr ▸ h.named e' he' old hold

theorem Acceptable.entryError {rs : Receipts} (h : Acceptable rs) :
    rs.findSome? BackupRuntime.entryError = none := by
  rw [List.findSome?_eq_none_iff]
  intro e he
  rw [BackupRuntime.entryError, if_neg (by simp [h.valid e he]), if_neg]
  intro hany
  obtain ⟨r, hr, hne⟩ := (Option.any_eq_true _ _).mp hany
  exact (bne_iff_ne.mp hne) (h.named e he r hr)

namespace BackupRuntime

variable {s s' : BackupRuntime} {k : Nat} {j : RuntimeJob} {id : String}

/-- The runtime a call finds when it has initialized. -/
def awake (s : BackupRuntime) : BackupRuntime :=
  if s.initialized then s
  else { s with receipts := s.opened, journal := some s.opened, initialized := true }

theorem save_ok (h : s.receipts.fits = true) :
    s.save = (.ok (), { s with journal := some s.receipts }) := by
  rw [save, if_pos h]

theorem load_none (h : s.journal = none) : s.load = (.ok (), s) := by
  rw [load, h]

theorem load_some {rs : Receipts} (h : s.journal = some rs) (hrs : Acceptable rs) :
    s.load = (.ok (), { s with receipts := fill rs }) := by
  rw [load, h]
  simp only [hrs.fits, hrs.entryError, Bool.not_true, Bool.false_eq_true, if_false]
  rw [if_neg (Nat.not_lt.mpr hrs.bound), ← h]

/-- **`initialize` accepts every journal of a sound runtime that fits once it is filled.** -/
theorem initializeRuntime_eq (hs : Sound s) (hfits : s.opened.fits = true) :
    s.initializeRuntime = (.ok (), s.awake) := by
  rw [initializeRuntime, awake]
  by_cases hi : s.initialized = true
  · rw [if_pos hi, if_pos hi]
  · rw [if_neg hi, if_neg hi]
    have hopd : s.opened = fill s.onDisk := by rw [opened, if_neg hi]
    have hload : s.load = (.ok (), { s with receipts := s.opened }) := by
      rcases Option.eq_none_or_eq_some s.journal with hj | ⟨rs, hj⟩
      · have hnil : s.opened = s.receipts := by
          rw [hopd, onDisk, hj, (hs.fresh (by simpa using hi)).1]
          rfl
        rw [hnil]
        exact load_none hj
      · rw [load_some hj (hs.journal rs hj), hopd, onDisk, hj]
        rfl
    have hsave := save_ok (s := { s with receipts := s.opened }) hfits
    simp only [Called.andThen, hload, hsave]

theorem awake_initialized (s : BackupRuntime) : s.awake.initialized = true := by
  rw [awake]
  split
  · assumption
  · rfl

theorem awake_receipts (s : BackupRuntime) : s.awake.receipts = s.opened := by
  rw [awake, opened]
  split <;> rfl

/-- What `initialize` leaves alone. -/
theorem awake_rest (s : BackupRuntime) : s.awake.tasks = s.tasks ∧ s.awake.jobs = s.jobs ∧
    s.awake.tail = s.tail ∧ s.awake.delivery = s.delivery ∧ s.awake.started = s.started := by
  rw [awake]
  split
  · exact ⟨rfl, rfl, rfl, rfl, rfl⟩
  · exact ⟨rfl, rfl, rfl, rfl, rfl⟩

end BackupRuntime

/-! ### The chain of tasks -/

section Chained

variable {jobs : List RuntimeJob} {tail : Option Nat} {k : Nat} {j : RuntimeJob}

theorem Chained.append (h : Chained jobs tail) (backup : Option (String × CompletionEvent)) :
    Chained (jobs ++ [{ backup := backup, after := tail, phase := .waiting }])
      (some jobs.length) where
  after i a ha := by
    rcases Nat.lt_or_ge i jobs.length with hlt | hge
    · rw [List.getElem?_append_left hlt] at ha
      exact h.after i a ha
    · rw [List.getElem?_append_right hge, List.getElem?_singleton] at ha
      obtain ⟨hi, ha⟩ := Option.ite_none_right_eq_some.mp ha
      cases ha
      have hi : i = jobs.length := by omega
      rw [hi]
      exact h.tail
  tail := by rw [List.length_append, List.length_singleton, if_neg (by omega), Nat.add_sub_cancel]
  order i b x y hib hx hy hph := by
    rcases Nat.lt_or_ge b jobs.length with hlt | hge
    · rw [List.getElem?_append_left hlt] at hy
      rw [List.getElem?_append_left (by omega)] at hx
      exact h.order i b x y hib hx hy hph
    · rw [List.getElem?_append_right hge, List.getElem?_singleton] at hy
      obtain ⟨-, hy⟩ := Option.ite_none_right_eq_some.mp hy
      cases hy
      exact absurd rfl hph

/-- A task goes on: it does not return to wait, and the ones after it wait until it is released. -/
theorem Chained.set (h : Chained jobs tail) (phase : Phase) (hk : jobs[k]? = some j)
    (hbef : ∀ i a, i < k → jobs[i]? = some a → a.phase = .released)
    (hrel : j.phase ≠ .released) : Chained (jobs.set k { j with phase := phase }) tail where
  after i a ha := by
    rw [List.getElem?_set] at ha
    split at ha
    · rename_i hik
      split at ha
      · cases ha
        exact h.after i j (hik ▸ hk)
      · exact absurd ha (by simp)
    · exact h.after i a ha
  tail := by rw [List.length_set]; exact h.tail
  order i b x y hib hx hy hph := by
    have hlat : ∀ c z, k < c → jobs[c]? = some z → z.phase = .waiting := by
      intro c z hc hz
      by_contra hne
      exact hrel (h.order k c j z hc hk hz hne)
    rw [List.getElem?_set] at hx hy
    split at hy
    · rename_i hkb
      subst hkb
      rw [if_neg (by omega)] at hx
      exact hbef i x hib hx
    · split at hx
      · rename_i hki
        subst hki
        exact absurd (hlat b y hib hy) hph
      · exact h.order i b x y hib hx hy hph

/-- The tasks before one that has begun are released. -/
theorem Chained.before (h : Chained jobs tail) (hk : jobs[k]? = some j)
    (hph : j.phase ≠ .waiting) (i : Nat) (a : RuntimeJob) (hi : i < k)
    (ha : jobs[i]? = some a) : a.phase = .released :=
  h.order i k a j hi ha hk hph

/-- The tasks before one that may begin are released. -/
theorem Chained.before_ready {s : BackupRuntime} (h : Chained s.jobs tail)
    (hk : s.jobs[k]? = some j) (hrdy : s.ready j = true) (i : Nat) (a : RuntimeJob) (hi : i < k)
    (ha : s.jobs[i]? = some a) : a.phase = .released := by
  rw [BackupRuntime.ready, h.after k j hk, if_neg (by omega), Option.all_some] at hrdy
  obtain ⟨b, hb, hph⟩ := (Option.any_eq_true _ _).mp hrdy
  have hrel : b.phase = .released := by simpa using hph
  rcases Nat.lt_or_eq_of_le (Nat.le_sub_one_of_lt hi) with hlt | rfl
  · exact h.order i (k - 1) a b hlt ha hb (by rw [hrel]; decide)
  · rw [ha, Option.some.injEq] at hb
    exact hb ▸ hrel

end Chained

/-! ### Sound runtimes -/

namespace Sound

open BackupRuntime

variable {s : BackupRuntime} {k : Nat} {j : RuntimeJob} {id : String}

/-- A process that has just begun. -/
theorem begin {journal : Option Receipts} {started : List String}
    (hjournal : ∀ rs ∈ journal, Acceptable rs) (honce : started.Nodup)
    (hrsv : ∀ id ∈ started, (journal.getD []).has id = true) :
    Sound (.fresh journal started) where
  fresh _ := ⟨rfl, rfl, fun _ hj => absurd hj (List.not_mem_nil)⟩
  stored h := absurd h (by simp [BackupRuntime.fresh])
  journal := hjournal
  chained := ⟨fun _ _ h => absurd h (by simp [BackupRuntime.fresh]), rfl,
    fun _ _ _ _ _ h => absurd h (by simp [BackupRuntime.fresh])⟩
  tasks := rfl
  single := List.nodup_nil
  pending _ h := absurd h List.not_mem_nil
  unfinished _ h := absurd h List.not_mem_nil
  settled _ h := absurd h List.not_mem_nil
  once := honce
  reserved := hrsv
  waiting _ h := absurd h List.not_mem_nil
  delivery _ h := absurd h (by simp [BackupRuntime.fresh])

theorem disk (hs : Sound s) (hi : s.initialized = true) : s.onDisk = s.receipts := by
  rw [onDisk, hs.stored hi]
  rfl

theorem acceptable (hs : Sound s) (hi : s.initialized = true) : Acceptable s.receipts :=
  hs.journal _ (hs.stored hi)

theorem onDisk_acceptable (hs : Sound s) : Acceptable s.onDisk := by
  rw [onDisk]
  rcases Option.eq_none_or_eq_some s.journal with hj | ⟨rs, hj⟩
  · rw [hj]
    exact ⟨by decide, Nat.zero_le _, List.nodup_nil,
      fun _ h => absurd h List.not_mem_nil, fun _ h => absurd h List.not_mem_nil⟩
  · rw [hj]
    exact hs.journal rs hj

/-- Jobs without a backup are of no receipt. -/
theorem idsIn_nil {p : Phase → Bool} {jobs : List RuntimeJob} (h : ∀ j ∈ jobs, j.backup = none) :
    idsIn p jobs = [] := by
  rw [List.eq_nil_iff_forall_not_mem]
  intro id hid
  obtain ⟨j, hj, -, hb⟩ := mem_idsIn.mp hid
  rw [h j hj] at hb
  exact absurd hb (by simp)

/-- **`initialize`.** -/
theorem awake (hs : Sound s) (hfits : s.opened.fits = true) : Sound s.awake := by
  rw [BackupRuntime.awake]
  split
  · exact hs
  · rename_i hi
    obtain ⟨-, hdel, hjobs⟩ := hs.fresh (by simpa using hi)
    have hopd : s.opened = fill s.onDisk := by rw [opened, if_neg hi]
    have htasks : s.tasks = [] := hs.tasks.trans (idsIn_nil hjobs)
    exact {
      fresh := fun h => absurd h (by simp)
      stored := fun _ => rfl
      journal := fun rs hrs => by
        rw [Option.mem_some_iff] at hrs
        subst hrs
        rw [hopd] at hfits ⊢
        exact hs.onDisk_acceptable.fill hfits
      __ := hs
      pending := fun id hid => absurd hid (by simp [htasks])
      unfinished := fun e he hnone => by
        rw [hopd] at he
        obtain ⟨e', -, rfl⟩ := List.mem_map.mp he
        exact absurd hnone (by simp)
      settled := fun id hid => absurd hid (by simp [idsIn_nil hjobs])
      reserved := fun id hid => by
        have hhas := Receipts.has_iff.mp (hs.reserved id hid)
        rw [Receipts.has_iff, onDisk, Option.getD_some, hopd, fill_keys]
        exact hhas
      delivery := fun d hd => absurd hd (by simp [hdel]) }

/-- A task that settled or waits is active. -/
theorem mem_tasks {p : Phase → Bool} (hs : Sound s) (hp : ∀ phase, p phase → phase ≠ .released)
    (h : id ∈ idsIn p s.jobs) : id ∈ s.tasks := by
  obtain ⟨j, hj, hph, hid⟩ := mem_idsIn.mp h
  rw [hs.tasks]
  exact mem_idsIn.mpr ⟨j, hj, by simpa [Phase.active] using hp _ hph, hid⟩

/-- **A result is stored.** -/
theorem assign (hs : Sound s) (hi : s.initialized = true) (hhas : s.receipts.has id = true)
    {receipt : Receipt} {r : BackupResult} (hres : receipt.result = some r)
    (hname : r.backupId = id) (hfits : (s.receipts.assign id receipt).fits = true)
    (hdel : ∀ d ∈ s.delivery, ∀ e ∈ d.sending :: d.rest, e.1 = id → e.2.result = none) :
    Sound { s with
      receipts := s.receipts.assign id receipt
      journal := some (s.receipts.assign id receipt) } := by
  have hold := hs.acceptable hi
  have hkeys := Receipts.assign_keys receipt hhas
  have hself := Receipts.lookup_assign_self receipt hold.keys hhas
  have hmem : ∀ e ∈ s.receipts.assign id receipt,
      e = (id, receipt) ∨ (e ∈ s.receipts ∧ e.1 ≠ id) := by
    intro e he
    rw [Receipts.assign, if_pos hhas] at he
    obtain ⟨e', he', rfl⟩ := List.mem_map.mp he
    split
    · exact .inl rfl
    · rename_i hne
      exact .inr ⟨he', hne⟩
  have hhas' : ∀ other, s.receipts.has other = true →
      (s.receipts.assign id receipt).has other = true := by
    intro other h
    rw [Receipts.has_iff, hkeys]
    exact Receipts.has_iff.mp h
  exact {
    fresh := fun h => absurd (hi.symm.trans h) (by simp)
    stored := fun _ => rfl
    journal := fun rs hrs => by
      rw [Option.mem_some_iff] at hrs
      subst hrs
      refine ⟨hfits, ?_, ?_, fun e he => ?_, fun e he r' hr' => ?_⟩
      · rw [(Receipts.mem_assign hold.keys hhas).2]
        exact hold.bound
      · exact (Receipts.mem_assign hold.keys hhas).1
      · have hkey : e.1 ∈ s.receipts.map Prod.fst := hkeys ▸ List.mem_map_of_mem he
        obtain ⟨e', he', hid⟩ := List.mem_map.mp hkey
        exact hid ▸ hold.valid e' he'
      · rcases hmem e he with rfl | ⟨he', -⟩
        · rw [hres, Option.mem_some_iff] at hr'
          exact hr' ▸ hname
        · exact hold.named e he' r' hr'
    __ := hs
    pending := fun other hother => hhas' other (hs.pending other hother)
    unfinished := fun e he hnone => by
      rcases hmem e he with rfl | ⟨he', -⟩
      · rw [hres] at hnone
        exact absurd hnone (by simp)
      · exact hs.unfinished e he' hnone
    settled := fun other hother => by
      by_cases hid : other = id
      · subst hid
        exact ⟨r, by rw [hself]; exact hres⟩
      · rw [Receipts.lookup_assign_other hhas hid]
        exact hs.settled other hother
    reserved := fun other hother => by
      have h := hs.reserved other hother
      rw [hs.disk hi] at h
      exact hhas' other h
    delivery := fun d hd => by
      have hcur := hs.delivery d hd
      refine ⟨hcur.keys, hcur.idle, hcur.result, fun e he hne => ?_⟩
      rw [Receipts.lookup_assign_other hhas fun hid => hne (hdel d hd e he hid)]
      exact hcur.lookup e he hne }

/-- **A receipt is reserved and its task attached.** -/
theorem accept (hs : Sound s) (hi : s.initialized = true) {event : CompletionEvent}
    (hval : validBackupId id = true) (hnew : s.receipts.has id = false)
    (hroom : s.receipts.length < MAX_RECEIPTS)
    (hfits : Receipts.fits (s.receipts ++ [(id, ⟨event, none⟩)]) = true) :
    Sound { (BackupRuntime.attach { s with
        receipts := s.receipts ++ [(id, ⟨event, none⟩)]
        journal := some (s.receipts ++ [(id, ⟨event, none⟩)]) } (some (id, event))) with
      tasks := s.tasks ++ [id] } := by
  have hold := hs.acceptable hi
  have hkey : id ∉ s.receipts.map Prod.fst := fun h => by
    rw [Receipts.has_iff.mpr h] at hnew
    exact absurd hnew (by simp)
  have hidle : id ∉ s.tasks := fun h => by
    rw [hs.pending id h] at hnew
    exact absurd hnew (by simp)
  have hhas : ∀ other, s.receipts.has other = true →
      Receipts.has (s.receipts ++ [(id, ⟨event, none⟩)]) other = true := by
    intro other h
    rw [Receipts.has_iff, List.map_append]
    exact List.mem_append_left _ (Receipts.has_iff.mp h)
  have hnewjob (p : Phase → Bool) (hp : p .waiting = true) :
      idsIn p [{ backup := some (id, event), after := s.tail, phase := .waiting }] = [id] := by
    simp [idsIn, hp]
  exact {
    fresh := fun h => absurd (hi.symm.trans h) (by simp)
    stored := fun _ => rfl
    journal := fun rs hrs => by
      simp only [BackupRuntime.attach, Option.mem_some_iff] at hrs
      subst hrs
      refine ⟨hfits, ?_, ?_, fun e he => ?_, fun e he r hr => ?_⟩
      · rw [List.length_append, List.length_singleton]
        exact hroom
      · rw [List.map_append, List.map_singleton, List.nodup_append']
        refine ⟨hold.keys, List.nodup_singleton _, ?_⟩
        rw [List.disjoint_singleton]
        exact hkey
      · rcases List.mem_snoc.mp he with he | rfl
        · exact hold.valid e he
        · exact hval
      · rcases List.mem_snoc.mp he with he | rfl
        · exact hold.named e he r hr
        · exact absurd hr (by simp)
    chained := hs.chained.append _
    tasks := by
      simp only [BackupRuntime.attach, idsIn_append]
      rw [hnewjob _ rfl, ← hs.tasks]
    single := by
      rw [List.nodup_append']
      exact ⟨hs.single, List.nodup_singleton _, List.disjoint_singleton.mpr hidle⟩
    pending := fun other hother => by
      rcases List.mem_snoc.mp hother with h | rfl
      · exact hhas other (hs.pending other h)
      · exact Receipts.has_iff.mpr (by simp [BackupRuntime.attach])
    unfinished := fun e he hnone => by
      simp only [BackupRuntime.attach, idsIn_append, hnewjob Phase.unsettled rfl]
      rcases List.mem_snoc.mp he with he | rfl
      · exact List.mem_append_left _ (hs.unfinished e he hnone)
      · exact List.mem_append_right _ (List.mem_singleton_self _)
    settled := fun other hother => by
      simp only [BackupRuntime.attach, idsIn_append] at hother
      rcases List.mem_append.mp hother with h | h
      · obtain ⟨r, hr⟩ := hs.settled other h
        have hne : other ≠ id := by
          rintro rfl
          exact hidle (hs.mem_tasks (fun phase hp => by
            rw [beq_iff_eq.mp hp]
            decide) h)
        refine ⟨r, ?_⟩
        simp only [BackupRuntime.attach]
        rw [Receipts.lookup_append_other hne]
        exact hr
      · exact absurd h (by simp [idsIn])
    once := hs.once
    reserved := fun other hother => by
      have h := hs.reserved other hother
      rw [hs.disk hi] at h
      exact hhas other h
    waiting := fun other hother hsta => by
      simp only [BackupRuntime.attach, idsIn_append] at hother
      rcases List.mem_append.mp hother with h | h
      · exact hs.waiting other h hsta
      · rw [hnewjob _ rfl] at h
        have hrsv := hs.reserved other hsta
        rw [hs.disk hi, List.mem_singleton.mp h, hnew] at hrsv
        exact absurd hrsv (by simp)
    delivery := fun d hd => by
      have hcur := hs.delivery d hd
      have hne : ∀ e ∈ d.sending :: d.rest, e.2.result ≠ none → e.1 ≠ id := by
        intro e he hres hid
        have hhas := Receipts.has_of_lookup (hcur.lookup e he hres)
        rw [hid, hnew] at hhas
        exact absurd hhas (by simp)
      refine ⟨hcur.keys, fun h => ?_, hcur.result, fun e he hres => ?_⟩
      · rcases List.mem_snoc.mp h with h | h
        · exact hcur.idle h
        · exact hne _ List.mem_cons_self hcur.result h
      · simp only [BackupRuntime.attach]
        rw [Receipts.lookup_append_other (hne e he hres)]
        exact hcur.lookup e he hres }

/-- A task of maintenance is attached. -/
theorem maintain (hs : Sound s) (n : Nat) : Sound { s.attach none with exclusivePending := n } := by
  have hsame (p : Phase → Bool) : idsIn p (s.attach none).jobs = idsIn p s.jobs := by
    simp [BackupRuntime.attach, idsIn]
  exact {
    fresh := fun h => by
      obtain ⟨hrcs, hdel, hjobs⟩ := hs.fresh h
      refine ⟨hrcs, hdel, fun j hj => ?_⟩
      rcases List.mem_snoc.mp hj with hj | hj
      · exact hjobs j hj
      · rw [hj]
    __ := hs
    chained := hs.chained.append none
    tasks := hs.tasks.trans (hsame _).symm
    unfinished := fun e he hnone => by
      rw [hsame]
      exact hs.unfinished e he hnone
    settled := fun id hid => by
      rw [hsame] at hid
      exact hs.settled id hid
    waiting := fun id hid => by
      rw [hsame] at hid
      exact hs.waiting id hid
    delivery := fun d hd =>
      have hcur := hs.delivery d hd
      ⟨hcur.keys, hcur.idle, hcur.result, hcur.lookup⟩ }

/-- Only an initialized runtime has tasks of backups. -/
theorem initialized_of_backup (hs : Sound s) (hk : s.jobs[k]? = some j)
    {b : String × CompletionEvent} (hb : j.backup = some b) : s.initialized = true := by
  by_contra hi
  obtain ⟨-, -, hjobs⟩ := hs.fresh (by simpa using hi)
  rw [hjobs j (List.mem_of_getElem? hk)] at hb
  exact absurd hb (by simp)

/-- **A task begins.** -/
theorem start (hs : Sound s) {s' : BackupRuntime} (h : s.start k = some s') : Sound s' := by
  unfold BackupRuntime.start at h
  split at h
  · rename_i j hk
    obtain ⟨⟨hwaiting, hrdy⟩, h⟩ := Option.ite_none_right_eq_some.mp h
    cases h
    have hset := hs.chained.set .running hk (hs.chained.before_ready hk hrdy)
      (by rw [hwaiting]; decide)
    have hsame (p : Phase → Bool) (hp : p .running = p .waiting) :
        idsIn p (s.jobs.set k { j with phase := .running }) = idsIn p s.jobs :=
      idsIn_set_same hk rfl (by rw [hwaiting]; exact hp)
    -- The backup of the task, if it has one, was not started before.
    have hnew : ∀ id ∈ (j.backup.map Prod.fst).toList, id ∉ s.started ∧ s.onDisk.has id = true ∧
        id ∉ idsIn (· == .waiting) (s.jobs.set k { j with phase := .running }) := by
      intro id hid
      have hid : j.backup.map Prod.fst = some id := Option.mem_toList.mp hid
      obtain ⟨b, hb, -⟩ := Option.map_eq_some_iff.mp hid
      have hmem : id ∈ idsIn (· == .waiting) s.jobs :=
        mem_idsIn.mpr ⟨j, List.mem_of_getElem? hk, by simp [hwaiting], hid⟩
      have hnd : (idsIn (· == .waiting) s.jobs).Nodup := by
        refine List.Nodup.sublist ?_ (hs.tasks ▸ hs.single)
        exact idsIn_sublist fun phase hp => by
          rw [beq_iff_eq.mp hp]
          decide
      refine ⟨hs.waiting id hmem, ?_, ?_⟩
      · rw [hs.disk (hs.initialized_of_backup hk hb)]
        exact hs.pending id (hs.mem_tasks (fun phase hp => by
          rw [beq_iff_eq.mp hp]
          decide) hmem)
      · rw [idsIn_set_leave (b := { j with phase := .running }) hk hid (by simp [hwaiting]) rfl
          hnd]
        simp
    exact {
      fresh := fun hi => by
        obtain ⟨hrcs, hdel, hjobs⟩ := hs.fresh hi
        refine ⟨hrcs, hdel, fun a ha => ?_⟩
        rcases List.mem_or_eq_of_mem_set ha with ha | rfl
        · exact hjobs a ha
        · exact hjobs j (List.mem_of_getElem? hk)
      __ := hs
      chained := hset
      tasks := hs.tasks.trans (hsame _ rfl).symm
      unfinished := fun e he hnone => by
        simp only [setPhase, hsame Phase.unsettled rfl]
        exact hs.unfinished e he hnone
      settled := fun id hid => by
        simp only [setPhase, hsame (· == .settled) rfl] at hid
        exact hs.settled id hid
      once := by
        rw [List.nodup_append']
        refine ⟨hs.once, ?_, fun id hold hid => (hnew id hid).1 hold⟩
        cases j.backup with
        | none => exact List.nodup_nil
        | some b => exact List.nodup_singleton _
      reserved := fun id hid => by
        rcases List.mem_append.mp hid with hid | hid
        · exact hs.reserved id hid
        · exact (hnew id hid).2.1
      waiting := fun id hid hsta => by
        rcases List.mem_append.mp hsta with hsta | hsta
        · rcases mem_idsIn_set hid with hid | ⟨hph, -⟩
          · exact hs.waiting id hid hsta
          · exact absurd hph (by simp)
        · exact (hnew id hsta).2.2 hid
      delivery := fun d hd =>
        have hcur := hs.delivery d hd
        ⟨hcur.keys, hcur.idle, hcur.result, hcur.lookup⟩ }
  · exact absurd h (by simp)

/-- **A task whose backup has a result settles.** -/
theorem settle (hs : Sound s) (hk : s.jobs[k]? = some j) (hrun : j.phase = .running)
    (hres : ∀ b ∈ j.backup, ∃ r, (s.receipts.lookup b.1).bind Receipt.result = some r) :
    Sound (s.setPhase k j .settled) := by
  have hset := hs.chained.set .settled hk
    (hs.chained.before hk (by rw [hrun]; decide)) (by rw [hrun]; decide)
  have hsame (p : Phase → Bool) (hp : p .settled = p .running) :
      idsIn p (s.jobs.set k { j with phase := .settled }) = idsIn p s.jobs :=
    idsIn_set_same hk rfl (by rw [hrun]; exact hp)
  exact {
    fresh := fun hi => by
      obtain ⟨hrcs, hdel, hjobs⟩ := hs.fresh hi
      refine ⟨hrcs, hdel, fun a ha => ?_⟩
      rcases List.mem_or_eq_of_mem_set ha with ha | rfl
      · exact hjobs a ha
      · exact hjobs j (List.mem_of_getElem? hk)
    __ := hs
    chained := hset
    tasks := hs.tasks.trans (hsame _ rfl).symm
    unfinished := fun e he hnone => by
      rcases idsIn_set_of_mem (b := { j with phase := .settled }) hk
        (hs.unfinished e he hnone) with hid | hid
      · exact hid
      · obtain ⟨b, hb, hbid⟩ := Option.map_eq_some_iff.mp hid
        obtain ⟨r, hr⟩ := hres b hb
        have hi := hs.initialized_of_backup hk hb
        rw [hbid, Receipts.lookup_of_mem (hs.acceptable hi).keys he, Option.bind_some,
          hnone] at hr
        exact absurd hr (by simp)
    settled := fun id hid => by
      rcases mem_idsIn_set hid with hid | ⟨-, hid⟩
      · exact hs.settled id hid
      · obtain ⟨b, hb, hbid⟩ := Option.map_eq_some_iff.mp hid
        exact hbid ▸ hres b hb
    waiting := fun id hid => by
      simp only [setPhase, hsame (· == .waiting) rfl] at hid
      exact hs.waiting id hid
    delivery := fun d hd =>
      have hcur := hs.delivery d hd
      ⟨hcur.keys, hcur.idle, hcur.result, hcur.lookup⟩ }

/-- **What waits for the promise of a task goes on.** -/
theorem release (hs : Sound s) {s' : BackupRuntime} (h : s.release k = some s') : Sound s' := by
  unfold BackupRuntime.release at h
  split at h
  · rename_i j hk
    obtain ⟨hsettled, h⟩ := Option.ite_none_right_eq_some.mp h
    have hset := hs.chained.set .released hk
      (hs.chained.before hk (by rw [hsettled]; decide)) (by rw [hsettled]; decide)
    have hsame (p : Phase → Bool) (hp : p .released = p .settled) :
        idsIn p (s.jobs.set k { j with phase := .released }) = idsIn p s.jobs :=
      idsIn_set_same hk rfl (by rw [hsettled]; exact hp)
    have hfr : s.initialized = false → s.receipts = [] ∧ s.delivery = none ∧
        ∀ a ∈ s.jobs.set k { j with phase := .released }, a.backup = none := by
      intro hi
      obtain ⟨hrcs, hdel, hjobs⟩ := hs.fresh hi
      refine ⟨hrcs, hdel, fun a ha => ?_⟩
      rcases List.mem_or_eq_of_mem_set ha with ha | rfl
      · exact hjobs a ha
      · exact hjobs j (List.mem_of_getElem? hk)
    have hgone : ∀ id ∈ idsIn (· == .settled) (s.jobs.set k { j with phase := .released }),
        id ∈ idsIn (· == .settled) s.jobs := by
      intro id hid
      rcases mem_idsIn_set hid with hid | ⟨hph, -⟩
      · exact hid
      · exact absurd hph (by simp)
    cases hb : j.backup with
    | some b =>
      rw [hb] at h
      cases h
      have hid : j.backup.map Prod.fst = some b.1 := by rw [hb]; rfl
      exact {
        fresh := hfr
        stored := hs.stored
        journal := hs.journal
        chained := hset
        tasks := by
          rw [hs.tasks, setPhase, idsIn_set_leave (b := { j with phase := .released }) hk hid
            (by rw [hsettled]; rfl) rfl (hs.tasks ▸ hs.single)]
        single := hs.single.filter _
        pending := fun id hid => hs.pending id (List.mem_of_mem_filter hid)
        unfinished := fun e he hnone => by
          simp only [setPhase, hsame Phase.unsettled rfl]
          exact hs.unfinished e he hnone
        settled := fun id hid => hs.settled id (hgone id hid)
        once := hs.once
        reserved := hs.reserved
        waiting := fun id hid => by
          simp only [setPhase, hsame (· == .waiting) rfl] at hid
          exact hs.waiting id hid
        delivery := fun d hd =>
          have hcur := hs.delivery d hd
          ⟨hcur.keys, fun h => hcur.idle (List.mem_of_mem_filter h), hcur.result, hcur.lookup⟩ }
    | none =>
      rw [hb] at h
      cases h
      exact {
        fresh := hfr
        stored := hs.stored
        journal := hs.journal
        chained := hset
        tasks := hs.tasks.trans (idsIn_set_none (b := { j with phase := .released }) hk hb hb).symm
        single := hs.single
        pending := hs.pending
        unfinished := fun e he hnone => by
          simp only [setPhase, hsame Phase.unsettled rfl]
          exact hs.unfinished e he hnone
        settled := fun id hid => hs.settled id (hgone id hid)
        once := hs.once
        reserved := hs.reserved
        waiting := fun id hid => by
          simp only [setPhase, hsame (· == .waiting) rfl] at hid
          exact hs.waiting id hid
        delivery := fun d hd =>
          have hcur := hs.delivery d hd
          ⟨hcur.keys, hcur.idle, hcur.result, hcur.lookup⟩ }
  · exact absurd h (by simp)

/-- The entries a delivery comes to are among those it found. -/
theorem nextEntry_eq {tasks : List String} {rs : Receipts} {d : Delivery}
    (h : nextEntry tasks rs = some d) :
    (d.sending :: d.rest).Sublist rs ∧ d.sending.2.result ≠ none ∧ d.sending.1 ∉ tasks := by
  induction rs with
  | nil => exact absurd h (by simp [nextEntry])
  | cons e rs ih =>
    rw [nextEntry] at h
    split at h
    · obtain ⟨hsub, hd⟩ := ih h
      exact ⟨hsub.cons _, hd⟩
    · rename_i hskip
      cases h
      rw [Bool.or_eq_true, not_or] at hskip
      exact ⟨List.Sublist.refl _, by simpa using hskip.1, by simpa using hskip.2⟩

/-- **A delivery begins.** -/
theorem deliver (hs : Sound s) (hi : s.initialized = true) :
    Sound { s with delivery := nextEntry s.tasks s.receipts } where
  fresh h := absurd (hi.symm.trans h) (by simp)
  __ := hs
  delivery d hd := by
    obtain ⟨hsub, hres, hidle⟩ := nextEntry_eq hd
    have hkeys := (hs.acceptable hi).keys
    exact ⟨hkeys.sublist (hsub.map _), hidle, hres,
      fun e he _ => Receipts.lookup_of_mem hkeys (hsub.subset he)⟩

/-- **A receipt is acknowledged.** -/
theorem acknowledge (hs : Sound s) {d : Delivery} (hd : s.delivery = some d) :
    Sound (s.acknowledge d) ∧ (s.acknowledge d).journal = some (s.receipts.remove d.sending.1) := by
  have hcur := hs.delivery d hd
  have hi : s.initialized = true := by
    by_contra hi
    rw [(hs.fresh (by simpa using hi)).2.1] at hd
    exact absurd hd (by simp)
  have hold := hs.acceptable hi
  have hsub : (s.receipts.remove d.sending.1).Sublist s.receipts := List.filter_sublist
  have hfits := Receipts.fits_of_sublist hsub hold.fits
  have hne : ∀ id ∈ s.tasks, id ≠ d.sending.1 := fun id hid h => hcur.idle (h ▸ hid)
  rw [BackupRuntime.acknowledge, save_ok]
  swap
  · exact hfits
  refine ⟨{
    fresh := fun h => absurd (hi.symm.trans h) (by simp)
    stored := fun _ => rfl
    journal := fun rs hrs => by
      rw [Option.mem_some_iff] at hrs
      subst hrs
      exact ⟨hfits, hsub.length_le.trans hold.bound, hold.keys.sublist (hsub.map _),
        fun e he => hold.valid e (hsub.subset he), fun e he => hold.named e (hsub.subset he)⟩
    __ := hs
    pending := fun id hid => Receipts.has_remove_other (hne id hid) (hs.pending id hid)
    unfinished := fun e he => hs.unfinished e (hsub.subset he)
    settled := fun id hid => by
      have hact := hs.mem_tasks (fun phase hp => by
        rw [beq_iff_eq.mp hp]
        decide) hid
      simp only []
      rw [Receipts.lookup_remove_other (hne id hact)]
      exact hs.settled id hid
    once := hs.once.filter _
    reserved := fun id hid => by
      obtain ⟨hid, hother⟩ := List.mem_filter.mp hid
      have h := hs.reserved id hid
      rw [hs.disk hi] at h
      exact Receipts.has_remove_other (bne_iff_ne.mp hother) h
    waiting := fun id hid h => hs.waiting id hid (List.mem_of_mem_filter h)
    delivery := fun next hnext => ?_ }, rfl⟩
  obtain ⟨hrest, hres, hidle⟩ := nextEntry_eq hnext
  have hkeys := hcur.keys
  rw [List.map_cons, List.nodup_cons] at hkeys
  refine ⟨hkeys.2.sublist (hrest.map _), hidle, hres, fun e he hsome => ?_⟩
  have hmem := hrest.subset he
  have hother : e.1 ≠ d.sending.1 := fun h => hkeys.1 (h ▸ List.mem_map_of_mem hmem)
  simp only []
  rw [Receipts.lookup_remove_other hother]
  exact hcur.lookup e (List.mem_cons_of_mem _ hmem) hsome

end Sound

/-! ### The events -/

namespace BackupRuntime

variable {s s' : BackupRuntime} {k : Nat} {j : RuntimeJob} {id : String}

theorem andThen_ok {c : Called} {f : BackupRuntime → Called} (h : c = (.ok (), s)) :
    c.andThen f = f s := by
  rw [h]
  rfl

/-- What `run` leaves: nothing new, or the receipt and the task of the backup. -/
theorem run_spec {event : CompletionEvent} (hs : Sound s) (hc : s.careful (.run id event)) :
    (s.run id event).2 = s.awake ∨
      (validBackupId id = true ∧ s.awake.receipts.has id = false ∧
        s.awake.receipts.length < MAX_RECEIPTS ∧
        Receipts.fits (s.awake.receipts ++ [(id, ⟨event, none⟩)]) = true ∧
        (s.run id event).2 = { (attach { s.awake with
            receipts := s.awake.receipts ++ [(id, ⟨event, none⟩)]
            journal := some (s.awake.receipts ++ [(id, ⟨event, none⟩)]) } (some (id, event))) with
          tasks := s.awake.tasks ++ [id] }) := by
  obtain ⟨hfits, hroom⟩ := hc
  rw [run, andThen_ok (initializeRuntime_eq hs hfits)]
  by_cases hval : validBackupId id = true
  · rw [if_neg (by simp [hval])]
    by_cases htask : s.awake.tasks.contains id = true
    · exact .inl (by rw [if_pos htask])
    · rw [if_neg htask]
      by_cases hhas : s.awake.receipts.has id = true
      · exact .inl (by rw [if_pos hhas])
      · rw [if_neg hhas]
        by_cases hlen : MAX_RECEIPTS ≤ s.awake.receipts.length
        · exact .inl (by rw [if_pos hlen])
        · rw [if_neg hlen]
          rw [(awake_rest s).1] at htask
          rw [awake_receipts] at hhas hlen
          have hnew := hroom hval htask hhas (by omega)
          have hsave := save_ok
            (s := { s.awake with receipts := s.awake.receipts ++ [(id, ⟨event, none⟩)] })
            (by rw [awake_receipts]; exact hnew)
          refine .inr ⟨hval, ?_, ?_, ?_, ?_⟩
          · rw [awake_receipts]
            simpa using hhas
          · rw [awake_receipts]
            omega
          · rw [awake_receipts]
            exact hnew
          · simp only [accept, hsave]
  · exact .inl (by rw [if_pos (by simp [hval])])

/-- What `complete` leaves: nothing new, or the result. -/
theorem complete_spec {event : CompletionEvent} {raw : BackupResult} (hs : Sound s)
    (hc : s.careful (.complete event raw)) :
    (s.awake.receipts.has raw.backupId = false ∧ (s.complete event raw).2 = s.awake) ∨
      (s.awake.receipts.has raw.backupId = true ∧
        (s.awake.receipts.assign raw.backupId (completed event raw)).fits = true ∧
        (s.complete event raw).2 = { s.awake with
          receipts := s.awake.receipts.assign raw.backupId (completed event raw)
          journal := some (s.awake.receipts.assign raw.backupId (completed event raw)) }) := by
  obtain ⟨hfits, hname, hroom, -⟩ := hc
  rw [complete, andThen_ok (initializeRuntime_eq hs hfits)]
  rw [← awake_receipts] at hname hroom
  by_cases hhas : s.awake.receipts.has raw.backupId = true
  · have hproto : raw.backupId ≠ "__proto__" := by
      obtain ⟨receipt, hl⟩ := Receipts.lookup_of_has hhas
      have hval := ((hs.awake hfits).acceptable (awake_initialized s)).valid _
        (Receipts.lookup_eq_some hl)
      intro hid
      simp only [hid] at hval
      exact absurd hval (by decide)
    refine .inr ⟨hhas, hroom hhas, ?_⟩
    rw [if_neg (by simp [hhas]), store, if_neg hproto]
    rw [save_ok (s := { s.awake with
      receipts := s.awake.receipts.assign raw.backupId (completed event raw) }) (hroom hhas)]
  · have hinherited := hname.resolve_left hhas
    exact .inl ⟨by simpa using hhas, by rw [if_pos (by simp [hhas, hinherited])]⟩

/-- A task that runs has its receipt. -/
theorem has_running (hs : Sound s) (hk : s.jobs[k]? = some j) {b : String × CompletionEvent}
    (hb : j.backup = some b) (hrun : j.phase = .running) : s.receipts.has b.1 = true := by
  have htask : b.1 ∈ s.tasks := by
    rw [hs.tasks]
    exact mem_idsIn.mpr ⟨j, List.mem_of_getElem? hk, by rw [hrun]; rfl, by rw [hb]; rfl⟩
  exact hs.pending _ htask

/-- The completion of a task that ended without a result is careful. -/
theorem careful_unproduced (hs : Sound s) {outcome : Except String Unit}
    {b : String × CompletionEvent} (hc : s.careful (.finish k outcome))
    (hk : s.jobs[k]? = some j) (hb : j.backup = some b)
    (hrun : j.phase = .running) (hnone : (s.receipts.lookup b.1).bind Receipt.result = none) :
    s.careful (.complete b.2 (unproduced b.1 outcome)) := by
  have hi := hs.initialized_of_backup hk hb
  have hopd : s.opened = s.receipts := by rw [opened, if_pos hi]
  refine ⟨by rw [hopd]; exact (hs.acceptable hi).fits, .inl ?_, fun _ => ?_, ?_⟩
  · rw [hopd]
    exact has_running hs hk hb hrun
  · rw [hopd]
    exact hc j hk b hb hnone
  · intro d hd e he hid
    by_contra hsome
    have hl := (hs.delivery d hd).lookup e he hsome
    rw [hid] at hl
    change s.receipts.lookup b.1 = _ at hl
    rw [hl, Option.bind_some] at hnone
    exact hsome hnone

end BackupRuntime

namespace Sound

open BackupRuntime

variable {s s' : BackupRuntime} {k : Nat} {j : RuntimeJob} {id : String}

theorem complete (hs : Sound s) {event : CompletionEvent} {raw : BackupResult}
    (hc : s.careful (.complete event raw)) : Sound (s.complete event raw).2 := by
  have haw := hs.awake hc.1
  rcases complete_spec hs hc with ⟨-, h⟩ | ⟨hhas, hfits, h⟩
  · rw [h]
    exact haw
  · rw [h]
    refine haw.assign (awake_initialized s) hhas rfl rfl hfits ?_
    rw [(awake_rest s).2.2.2.1]
    exact hc.2.2.2

/-- **A task ends.** -/
theorem conclude (hs : Sound s) {outcome : Except String Unit} {b : String × CompletionEvent}
    (hc : s.careful (.finish k outcome)) (hk : s.jobs[k]? = some j) (hb : j.backup = some b)
    (hrun : j.phase = .running) : Sound (s.conclude b.1 b.2 outcome) ∧
      (s.conclude b.1 b.2 outcome).jobs = s.jobs ∧
      ∃ r, ((s.conclude b.1 b.2 outcome).receipts.lookup b.1).bind Receipt.result = some r := by
  have hi := hs.initialized_of_backup hk hb
  rw [BackupRuntime.conclude]
  cases hr : (s.receipts.lookup b.1).bind Receipt.result with
  | some r =>
    rw [Option.isSome_some, if_pos rfl]
    exact ⟨hs, rfl, r, hr⟩
  | none =>
    rw [Option.isSome_none, if_neg Bool.false_ne_true]
    have hcomp := careful_unproduced hs hc hk hb hrun hr
    refine ⟨hs.complete hcomp, ?_⟩
    have haw : s.awake = s := by rw [BackupRuntime.awake, if_pos hi]
    have hhas := has_running hs hk hb hrun
    rcases complete_spec hs hcomp with ⟨hno, -⟩ | ⟨-, -, h⟩
    · rw [haw] at hno
      exact absurd (hhas.symm.trans hno) (by simp)
    · rw [h, haw]
      obtain ⟨r, hr⟩ : ∃ r, (completed b.2 (unproduced b.1 outcome)).result = some r := ⟨_, rfl⟩
      refine ⟨rfl, r, ?_⟩
      change ((s.receipts.assign b.1 _).lookup b.1).bind _ = _
      rw [Receipts.lookup_assign_self _ (hs.acceptable hi).keys hhas, Option.bind_some]
      exact hr

/-- **Every careful event keeps the runtime sound.** -/
theorem step (hs : Sound s) {e : RuntimeEvent} (hc : s.careful e) (h : s.step e = some s') :
    Sound s' := by
  cases e with
  | run id event =>
    cases h
    have haw := hs.awake hc.1
    rcases run_spec hs hc with h | ⟨hval, hnew, hroom, hfits, h⟩
    · rw [h]
      exact haw
    · rw [h]
      exact haw.accept (awake_initialized s) hval hnew hroom hfits
  | complete event raw =>
    cases h
    exact hs.complete hc
  | exclusive requireIdle =>
    cases h
    have hattach : ∀ t : BackupRuntime, Sound t → Sound (if 8 ≤ t.exclusivePending then
        ((.error "Backup maintenance queue is full", t) : Called)
      else (.ok (), { t.attach none with exclusivePending := t.exclusivePending + 1 })).2 := by
      intro t ht
      split
      · exact ht
      · exact ht.maintain _
    rw [BackupRuntime.exclusive]
    cases requireIdle with
    | true =>
      have haw := hs.awake (hc rfl)
      rw [if_pos rfl, andThen_ok (initializeRuntime_eq hs (hc rfl))]
      split
      · exact haw
      · exact hattach _ haw
    | false =>
      rw [if_neg Bool.false_ne_true]
      exact hattach s hs
  | deliver =>
    cases h
    have haw := hs.awake hc
    rw [BackupRuntime.deliver, andThen_ok (initializeRuntime_eq hs hc)]
    split
    · exact haw
    · exact haw.deliver (awake_initialized s)
  | sent acknowledged =>
    obtain ⟨d, hd, rfl⟩ := Option.map_eq_some_iff.mp h
    cases acknowledged with
    | true => exact (hs.acknowledge hd).1
    | false =>
      exact {
        fresh := fun hi => ⟨(hs.fresh hi).1, rfl, (hs.fresh hi).2.2⟩
        __ := hs
        delivery := fun d hd => absurd hd (by simp) }
  | start k => exact hs.start h
  | finish k outcome =>
    simp only [BackupRuntime.step, BackupRuntime.finish] at h
    split at h
    · rename_i j hk
      obtain ⟨hrun, h⟩ := Option.ite_none_right_eq_some.mp h
      cases h
      cases hb : j.backup with
      | none => exact hs.settle hk hrun fun b hb' => absurd (hb.symm.trans hb') (by simp)
      | some b =>
        obtain ⟨hconclude, hjobs, r, hr⟩ := hs.conclude hc hk hb hrun
        refine hconclude.settle (hjobs ▸ hk) hrun fun b' hb' => ?_
        rw [hb, Option.mem_some_iff] at hb'
        exact hb' ▸ ⟨r, hr⟩
    · exact absurd h (by simp)
  | release k => exact hs.release h
  | restart =>
    cases h
    exact begin hs.journal hs.once hs.reserved

end Sound

end Meowbox.Backups
