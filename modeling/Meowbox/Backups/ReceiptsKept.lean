import Meowbox.Backups.ReceiptRuns

/-!
# What becomes of a receipt

* `backup_receipts`: tasks run one after the other, a task is started once before its result is
  acknowledged, the result is on disk when the promise of the task settles, and goes when `send`
  has returned true.
* `escaped_results_refused`: results of accepted backups that the journal refuses for their size.
-/

namespace Meowbox.Backups

open JsonText Stepping

/-! ## What stays on disk -/

/-- The receipts are kept, and so are the results among them. -/
def Keeps (rs rs' : Receipts) : Prop :=
  ∀ id receipt, rs.lookup id = some receipt → ∃ receipt', rs'.lookup id = some receipt' ∧
    (receipt.result ≠ none → receipt' = receipt)

theorem Keeps.refl (rs : Receipts) : Keeps rs rs := fun _ receipt h => ⟨receipt, h, fun _ => rfl⟩

theorem Keeps.trans {rs rs' rs'' : Receipts} (h : Keeps rs rs') (h' : Keeps rs' rs'') :
    Keeps rs rs'' := by
  intro id receipt hl
  obtain ⟨receipt', hl', hsame⟩ := h id receipt hl
  obtain ⟨receipt'', hl'', hsame'⟩ := h' id receipt' hl'
  refine ⟨receipt'', hl'', fun hres => ?_⟩
  have heq := hsame hres
  exact (hsame' (heq ▸ hres)).trans heq

/-- The receipt `initialize` makes of one. -/
def filled (id : String) (receipt : Receipt) : Receipt :=
  { receipt with result := some (receipt.result.getD (BackupRuntime.interrupted id)) }

theorem lookup_fill (rs : Receipts) (id : String) :
    (BackupRuntime.fill rs).lookup id = (rs.lookup id).map (filled id) := by
  induction rs with
  | nil => rfl
  | cons e rs ih =>
    unfold Receipts.lookup BackupRuntime.fill at ih ⊢
    rw [List.map_cons, List.find?_cons, List.find?_cons]
    by_cases hid : e.1 = id
    · subst hid
      simp only [beq_self_eq_true, Option.map_some, filled]
    · simp only [beq_eq_false_iff_ne.mpr hid]
      exact ih

theorem Keeps.fill (rs : Receipts) : Keeps rs (BackupRuntime.fill rs) := by
  intro id receipt hl
  refine ⟨filled id receipt, by rw [lookup_fill, hl]; rfl, fun hres => ?_⟩
  obtain ⟨r, hr⟩ := Option.ne_none_iff_exists'.mp hres
  cases receipt with
  | mk event result =>
    simp only at hr
    rw [filled, hr]
    rfl

theorem Keeps.append {rs : Receipts} {id : String} (receipt : Receipt) (hnew : rs.has id = false) :
    Keeps rs (rs ++ [(id, receipt)]) := by
  intro other old hl
  have hne : other ≠ id := by
    rintro rfl
    rw [Receipts.has_of_lookup hl] at hnew
    exact absurd hnew (by simp)
  exact ⟨old, (Receipts.lookup_append_other hne).trans hl, fun _ => rfl⟩

/-- **What an event leaves of the receipts on disk.** A result goes when `send` has returned true
for it, or is replaced by a later one of its backup. -/
def Kept (s : BackupRuntime) (e : RuntimeEvent) (s' : BackupRuntime) : Prop :=
  ∀ id receipt, s.onDisk.lookup id = some receipt →
    (∃ receipt', s'.onDisk.lookup id = some receipt' ∧ (receipt.result ≠ none →
      receipt' = receipt ∨ ∃ event raw, e = .complete event raw ∧ raw.backupId = id ∧
        receipt' = BackupRuntime.completed event raw)) ∨
    (∃ d ∈ s.delivery, d.sending = (id, receipt) ∧ receipt.result ≠ none ∧ e = .sent true)

theorem Keeps.kept {s s' : BackupRuntime} {e : RuntimeEvent} (h : Keeps s.onDisk s'.onDisk) :
    Kept s e s' := by
  intro id receipt hl
  obtain ⟨receipt', hl', hsame⟩ := h id receipt hl
  exact .inl ⟨receipt', hl', fun hres => .inl (hsame hres)⟩

namespace Sound

open BackupRuntime

variable {s s' : BackupRuntime} {k : Nat} {j : RuntimeJob} {id : String}

theorem keeps_awake (hs : Sound s) : Keeps s.onDisk s.awake.receipts := by
  rw [awake_receipts, opened]
  split
  · rename_i hi
    rw [hs.disk hi]
    exact Keeps.refl _
  · exact Keeps.fill _

theorem disk_awake (hs : Sound s) : s.awake.onDisk = s.awake.receipts := by
  rw [BackupRuntime.awake]
  split
  · rename_i hi
    exact hs.disk hi
  · rfl

/-- **Every careful event keeps what is on disk.** -/
theorem kept (hs : Sound s) {e : RuntimeEvent} (hc : s.careful e) (h : s.step e = some s') :
    Kept s e s' := by
  have haw : s' = s.awake → Kept s e s' := fun heq => Keeps.kept (by
    rw [heq, hs.disk_awake]
    exact hs.keeps_awake)
  cases e with
  | run id event =>
    cases h
    rcases run_spec hs hc with h | ⟨-, hnew, -, -, h⟩
    · exact haw h
    · rw [h]
      exact Keeps.kept (hs.keeps_awake.trans (Keeps.append _ hnew))
  | complete event raw =>
    cases h
    rcases complete_spec hs hc with ⟨-, h⟩ | ⟨hhas, hfits, h⟩
    · exact haw h
    · rw [h]
      intro id receipt hl
      obtain ⟨receipt', hl', hsame⟩ := hs.keeps_awake id receipt hl
      by_cases hid : id = raw.backupId
      · subst hid
        have hkeys := ((hs.awake hc.1).acceptable (awake_initialized s)).keys
        exact .inl ⟨_, Receipts.lookup_assign_self _ hkeys hhas,
          fun _ => .inr ⟨event, raw, rfl, rfl, rfl⟩⟩
      · exact .inl ⟨receipt', (Receipts.lookup_assign_other hhas hid).trans hl',
          fun hres => .inl (hsame hres)⟩
  | exclusive requireIdle =>
    cases h
    have hattach : ∀ t : BackupRuntime, (if 8 ≤ t.exclusivePending then
        ((.error "Backup maintenance queue is full", t) : Called)
      else (.ok (), { t.attach none with exclusivePending := t.exclusivePending + 1 })).2.onDisk =
        t.onDisk := by
      intro t
      split <;> rfl
    refine Keeps.kept ?_
    rw [BackupRuntime.exclusive]
    cases requireIdle with
    | true =>
      rw [if_pos rfl, andThen_ok (initializeRuntime_eq hs (hc rfl))]
      have hkps : Keeps s.onDisk s.awake.onDisk := hs.disk_awake ▸ hs.keeps_awake
      split
      · exact hkps
      · exact (hattach s.awake).symm ▸ hkps
    | false =>
      rw [if_neg Bool.false_ne_true]
      exact (hattach s).symm ▸ Keeps.refl _
  | deliver =>
    cases h
    refine Keeps.kept ?_
    have hkps : Keeps s.onDisk s.awake.onDisk := hs.disk_awake ▸ hs.keeps_awake
    rw [BackupRuntime.deliver, andThen_ok (initializeRuntime_eq hs hc)]
    split
    · exact hkps
    · exact hkps
  | sent acknowledged =>
    obtain ⟨d, hd, rfl⟩ := Option.map_eq_some_iff.mp h
    cases acknowledged with
    | true =>
      have hcur := hs.delivery d hd
      have hi : s.initialized = true := by
        by_contra hi
        rw [(hs.fresh (by simpa using hi)).2.1] at hd
        exact absurd hd (by simp)
      intro id receipt hl
      rw [hs.disk hi] at hl
      by_cases hid : id = d.sending.1
      · have hsending := hcur.lookup d.sending List.mem_cons_self hcur.result
        rw [← hid, hl, Option.some.injEq] at hsending
        exact .inr ⟨d, hd, by rw [hsending, hid], by rw [hsending]; exact hcur.result, rfl⟩
      · refine .inl ⟨receipt, ?_, fun _ => .inl rfl⟩
        rw [if_pos rfl, onDisk, (hs.acknowledge hd).2, Option.getD_some,
          Receipts.lookup_remove_other hid]
        exact hl
    | false => exact Keeps.kept (Keeps.refl _)
  | start k =>
    simp only [BackupRuntime.step, BackupRuntime.start] at h
    split at h
    · obtain ⟨-, h⟩ := Option.ite_none_right_eq_some.mp h
      cases h
      exact Keeps.kept (Keeps.refl _)
    · exact absurd h (by simp)
  | finish k outcome =>
    simp only [BackupRuntime.step, BackupRuntime.finish] at h
    split at h
    · rename_i j hk
      obtain ⟨hrunning, h⟩ := Option.ite_none_right_eq_some.mp h
      cases h
      refine Keeps.kept ?_
      cases hb : j.backup with
      | none => exact Keeps.refl _
      | some b =>
        change Keeps s.onDisk (s.conclude b.1 b.2 outcome).onDisk
        rw [BackupRuntime.conclude]
        split
        · exact Keeps.refl _
        · rename_i hnone
          have hnone : (s.receipts.lookup b.1).bind Receipt.result = none := by simpa using hnone
          have hcomp := careful_unproduced hs hc hk hb hrunning hnone
          rcases complete_spec hs hcomp with ⟨-, h⟩ | ⟨hhas, -, h⟩
          · rw [h]
            exact hs.disk_awake ▸ hs.keeps_awake
          · rw [h]
            intro id receipt hl
            obtain ⟨receipt', hl', hsame⟩ := hs.keeps_awake id receipt hl
            by_cases hid : id = b.1
            · subst hid
              refine ⟨_, Receipts.lookup_assign_self _
                ((hs.awake hcomp.1).acceptable (awake_initialized s)).keys hhas, ?_⟩
              intro hres
              rw [hs.disk (hs.initialized_of_backup hk hb)] at hl
              rw [hl, Option.bind_some] at hnone
              exact absurd hnone hres
            · exact ⟨receipt', (Receipts.lookup_assign_other hhas hid).trans hl', hsame⟩
    · exact absurd h (by simp)
  | release k =>
    simp only [BackupRuntime.step, BackupRuntime.release] at h
    split at h
    · obtain ⟨-, h⟩ := Option.ite_none_right_eq_some.mp h
      split at h
      · cases h
        exact Keeps.kept (Keeps.refl _)
      · cases h
        exact Keeps.kept (Keeps.refl _)
    · exact absurd h (by simp)
  | restart =>
    cases h
    exact Keeps.kept (Keeps.refl _)

end Sound

/-! ## The receipts of every run -/

/-- A promise waits, runs, or is to settle in one of the tasks. -/
def BackupRuntime.goesOn (s : BackupRuntime) (k : Nat) : Prop :=
  (s.start k).isSome = true ∨ (∀ outcome, (s.finish k outcome).isSome = true) ∨
    (s.release k).isSome = true

structure Receipted (s : BackupRuntime) : Prop where
  /-- Tasks run one at a time, in the order of their acceptance. -/
  inOrder : ∀ (i k : Nat) (a b : RuntimeJob), i < k → s.jobs[i]? = some a →
    s.jobs[k]? = some b → b.phase ≠ .waiting → a.phase = .released
  /-- No task of a backup is started again before its result is acknowledged. -/
  startedOnce : s.started.Nodup
  /-- The result is on disk when the promise of the task settles. -/
  settled : ∀ id ∈ idsIn (· == .settled) s.jobs,
    ∃ result, (s.onDisk.lookup id).bind Receipt.result = some result
  /-- A receipt without a result is of a task that waits or runs, and some task goes on. -/
  unfinished : s.initialized = true → ∀ e ∈ s.onDisk, e.2.result = none →
    e.1 ∈ idsIn Phase.unsettled s.jobs ∧ ∃ k, s.goesOn k
  /-- Every accepted backup has one receipt, with at most one result. -/
  single : (s.onDisk.map Prod.fst).Nodup
  bound : s.onDisk.length ≤ MAX_RECEIPTS ∧ s.receipts.length ≤ MAX_RECEIPTS
  /-- A process that begins reads the journal and gives every receipt a result. -/
  loaded : s.opened.fits = true → s.initializeRuntime.1 = .ok () ∧
    (s.initialized = false → ∀ e ∈ s.initializeRuntime.2.onDisk, e.2.result ≠ none)

namespace Sound

open BackupRuntime

variable {s : BackupRuntime}

/-- A task that is not released goes on when the one before is. -/
theorem goesOn_of_ready {k : Nat} {a : RuntimeJob} (ha : s.jobs[k]? = some a)
    (hopen : a.phase ≠ .released) (hrdy : s.ready a = true) : s.goesOn k := by
  cases hp : a.phase with
  | waiting =>
    refine .inl ?_
    rw [BackupRuntime.start, ha]
    simp only [hp, hrdy, and_self, if_true, Option.isSome_some]
  | running =>
    refine .inr (.inl fun outcome => ?_)
    rw [finish, ha]
    simp only [hp, if_true, Option.isSome_some]
  | settled =>
    refine .inr (.inr ?_)
    rw [BackupRuntime.release, ha]
    simp only [hp, if_true]
    split <;> rfl
  | released => exact absurd hp hopen

/-- **The first task that is not released goes on.** -/
theorem goesOn_of_active (hs : Sound s) (k : Nat) : ∀ a, s.jobs[k]? = some a →
    a.phase ≠ .released → ∃ i, s.goesOn i := by
  induction k with
  | zero =>
    intro a ha hopen
    exact ⟨0, goesOn_of_ready ha hopen (by
      rw [ready, hs.chained.after _ _ ha, if_pos rfl, Option.all_none])⟩
  | succ k ih =>
    intro a ha hopen
    have hlt : k < s.jobs.length := by
      have hlen := (List.getElem?_eq_some_iff.mp ha).1
      omega
    have hbef := List.getElem?_eq_getElem hlt
    by_cases hrel : s.jobs[k].phase = .released
    · refine ⟨k + 1, goesOn_of_ready ha hopen ?_⟩
      rw [ready, hs.chained.after _ _ ha, if_neg (Nat.succ_ne_zero k), Option.all_some,
        Nat.add_sub_cancel, hbef, Option.any_some, hrel]
      rfl
    · exact ih _ hbef hrel

theorem goesOn (hs : Sound s) {id : String} (h : id ∈ idsIn Phase.unsettled s.jobs) :
    ∃ k, s.goesOn k := by
  obtain ⟨j, hj, hph, -⟩ := mem_idsIn.mp h
  obtain ⟨k, hk, rfl⟩ := List.getElem_of_mem hj
  refine hs.goesOn_of_active k _ (List.getElem?_eq_getElem hk) ?_
  intro hrel
  rw [hrel] at hph
  exact absurd hph (by decide)

theorem receipted (hs : Sound s) : Receipted s where
  inOrder := hs.chained.order
  startedOnce := hs.once
  settled id hid := by
    obtain ⟨j, hj, -, hb⟩ := mem_idsIn.mp hid
    obtain ⟨b, hb, -⟩ := Option.map_eq_some_iff.mp hb
    obtain ⟨k, hk, rfl⟩ := List.getElem_of_mem hj
    rw [hs.disk (hs.initialized_of_backup (List.getElem?_eq_getElem hk) hb)]
    exact hs.settled id hid
  unfinished hi e he hnone := by
    rw [hs.disk hi] at he
    have hmem := hs.unfinished e he hnone
    exact ⟨hmem, hs.goesOn hmem⟩
  single := hs.onDisk_acceptable.keys
  bound := by
    refine ⟨hs.onDisk_acceptable.bound, ?_⟩
    by_cases hi : s.initialized = true
    · exact (hs.acceptable hi).bound
    · rw [(hs.fresh (by simpa using hi)).1]
      exact Nat.zero_le _
  loaded hfits := by
    rw [initializeRuntime_eq hs hfits]
    refine ⟨rfl, fun hi e he => ?_⟩
    rw [hs.disk_awake, awake_receipts, opened, if_neg (by simp [hi])] at he
    obtain ⟨e', -, rfl⟩ := List.mem_map.mp he
    exact Option.some_ne_none _

end Sound

/-- **The receipts of the agent.** As long as what is saved fits and completions are careful, tasks
run one after the other, each is started once before its result is acknowledged and leaves a result
on disk, and a result stays there until `send` has returned true for it. Receipts of less than 4 KiB
each always fit. -/
theorem backup_receipts {s : BackupRuntime}
    (hs : Reach BackupRuntime.step BackupRuntime.careful (.fresh none []) s) :
    Receipted s ∧ (∀ e s', s.careful e → s.step e = some s' → Kept s e s') ∧
      ∀ rs : Receipts, rs.length ≤ MAX_RECEIPTS → (∀ e ∈ rs, entryBytes e < 4096) → rs.fits := by
  have hsound : Sound s := by
    refine Reach.invariant hs ?_ fun t e t' ht hok hstep => ht.step hok hstep
    exact Sound.begin (fun _ h => absurd h (by simp)) List.nodup_nil
      fun _ h => absurd h List.not_mem_nil
  exact ⟨hsound.receipted, fun e s' hc hstep => hsound.kept hc hstep,
    fun rs hbd h => Receipts.fits_of_entries hbd h⟩

/-- Two backups, the second of which a restart interrupts. -/
theorem backup_receipts_restart : ∃ s,
    (Reach BackupRuntime.step BackupRuntime.careful (.fresh none []) s ∧
      s.onDisk.map Prod.fst = ["b"] ∧ s.started = ["b"] ∧ s.delivery.isSome = true) ∧
    Receipted s ∧ (∀ e s', s.careful e → s.step e = some s' → Kept s e s') ∧
      ∀ rs : Receipts, rs.length ≤ MAX_RECEIPTS → (∀ e ∈ rs, entryBytes e < 4096) → rs.fits := by
  have hrun : ∃ s, Reach BackupRuntime.step BackupRuntime.careful (.fresh none []) s ∧
      s.onDisk.map Prod.fst = ["b"] ∧ s.started = ["b"] ∧ s.delivery.isSome = true :=
    Reach.of_run_any (l := [.run "a" .backup, .start 0,
      .complete .backup ⟨"a", true, some "/backups/a", some "c0ffee", some 7, none⟩,
      .finish 0 (.ok ()), .release 0, .run "b" .serverPath, .deliver, .start 1, .sent true,
      .restart, .deliver]) (by decide +kernel)
  obtain ⟨s, hs, h⟩ := hrun
  exact ⟨s, ⟨hs, h⟩, backup_receipts hs⟩

/-! ## Results the journal refuses -/

/-- A text of `n` bytes that `JSON.stringify` writes with `6 * n`. -/
def escaping (n : Nat) : String := String.ofList (List.replicate n '\x01')

/-- A result with such texts. -/
def escapingResult (n : Nat) (id : String) : BackupResult where
  backupId := id
  success := true
  filePath := some (escaping n)
  snapshotId := none
  sizeBytes := none
  error := some (escaping n)

theorem cutBytes_replicate {c : Char} (hc : c.utf8Size = 1) : ∀ n max : Nat, n ≤ max →
    cutBytes max (List.replicate n c) = List.replicate n c := by
  intro n
  induction n with
  | zero => exact fun _ _ => rfl
  | succ n ih =>
    intro max hmax
    rw [List.replicate_succ, cutBytes, if_pos (by omega), hc, ih (max - 1) (by omega)]

theorem textLimit_escaping {n : Nat} (hn : n ≤ 1000) :
    textLimit (some (escaping n)) = some (escaping n) := by
  rw [textLimit, Option.map_some, escaping, String.toList_ofList,
    cutBytes_replicate (by decide) _ _ hn]

theorem byteLength_cons (c : Char) (cs : List Char) :
    byteLength (c :: cs) = c.utf8Size + byteLength cs := by
  rw [byteLength, List.map_cons, List.sum_cons]
  rfl

theorem byteLength_quote_replicate (n : Nat) (c : Char) :
    byteLength (quote (String.ofList (List.replicate n c))) =
      n * byteLength (escapeChar c) + 2 := by
  have hflat : byteLength ((List.replicate n c).flatMap escapeChar) =
      n * byteLength (escapeChar c) := by
    induction n with
    | zero => rw [Nat.zero_mul]; rfl
    | succ n ih =>
      rw [List.replicate_succ, List.flatMap_cons, byteLength_append, ih, Nat.succ_mul, Nat.add_comm]
  rw [quote, String.toList_ofList, byteLength_cons, byteLength_append, hflat, Nat.add_comm]
  rfl

theorem entryBytes_escaping {n : Nat} (hn : n ≤ 1000) (id : String) :
    12 * n ≤ entryBytes (id, BackupRuntime.completed .backup (escapingResult n id)) := by
  have hesc : byteLength (escapeChar '\x01') = 6 := by decide
  have htext := byteLength_quote_replicate n '\x01'
  rw [hesc] at htext
  have hreceipt : receiptJson (BackupRuntime.completed .backup (escapingResult n id)) =
      .object [("event", .string "backup:complete"), ("result", .object [("backupId", .string id),
        ("success", .boolean true), ("filePath", .string (escaping n)),
        ("error", .string (escaping n))])] := by
    simp only [receiptJson, BackupRuntime.completed, escapingResult, textLimit_escaping hn]
    rfl
  simp only [entryBytes, hreceipt, render, renderMembers, joinComma, byteLength_append, byteLength_cons,
    List.flatMap_cons, escaping, htext]
  omega

section Refused

open BackupRuntime

/-- The size limit refuses the completion of a backup that was accepted. -/
def Refuses (s : BackupRuntime) : Prop :=
  ∃ raw, s.receipts.has raw.backupId = true ∧
    (s.complete .backup raw).1 = .error "Backup receipt journal is full"

/-- Backups with short ids are accepted. -/
theorem accepted_all (ids : List String) : ∀ s : BackupRuntime, s.initialized = true →
    (∀ e ∈ s.receipts, entryBytes e < 4096) → s.receipts.length + ids.length ≤ MAX_RECEIPTS →
    (s.receipts.map Prod.fst ++ ids).Nodup → (∀ id ∈ s.tasks, id ∈ s.receipts.map Prod.fst) →
    (∀ id ∈ ids, validBackupId id = true ∧ entryBytes (id, ⟨.backup, none⟩) < 4096) →
    ∃ t, Reach step anyStep s t ∧ t.initialized = true ∧ t.receipts.fits = true ∧
      t.receipts.map Prod.fst = s.receipts.map Prod.fst ++ ids := by
  induction ids with
  | nil =>
    intro s hi hsmall hroom _ _ _
    exact ⟨s, .init, hi, Receipts.fits_of_entries (by simpa using hroom) hsmall, by simp⟩
  | cons id ids ih =>
    intro s hi hsmall hroom hnd htasks hids
    obtain ⟨hval, hbs⟩ := hids id List.mem_cons_self
    have hnew : id ∉ s.receipts.map Prod.fst := fun hmem =>
      (List.nodup_append'.mp hnd).2.2 hmem List.mem_cons_self
    rw [List.length_cons] at hroom
    have hsmall' : ∀ e ∈ s.receipts ++ [(id, ⟨.backup, none⟩)], entryBytes e < 4096 := by
      intro e he
      rcases List.mem_snoc.mp he with he | rfl
      · exact hsmall e he
      · exact hbs
    have hfits : Receipts.fits (s.receipts ++ [(id, ⟨.backup, none⟩)]) = true :=
      Receipts.fits_of_entries (by rw [List.length_append, List.length_singleton]; omega) hsmall'
    let accepted : BackupRuntime := { (attach { s with
        receipts := s.receipts ++ [(id, ⟨.backup, none⟩)]
        journal := some (s.receipts ++ [(id, ⟨.backup, none⟩)]) } (some (id, .backup))) with
      tasks := s.tasks ++ [id] }
    have hrun : s.run id .backup = (.ok (), accepted) := by
      have hidle : s.tasks.contains id = false := by
        rw [← Bool.not_eq_true, List.contains_iff_mem]
        exact fun hmem => hnew (htasks id hmem)
      have hhas : s.receipts.has id = false := by
        rw [← Bool.not_eq_true, Receipts.has_iff]
        exact hnew
      rw [BackupRuntime.run, andThen_ok (s := s) (by rw [initializeRuntime, if_pos hi]),
        if_neg (by simp [hval]), if_neg (by rw [hidle]; decide), if_neg (by rw [hhas]; decide),
        if_neg (by omega), accept,
        save_ok (s := { s with receipts := s.receipts ++ [(id, ⟨.backup, none⟩)] }) hfits]
    have hkeys : accepted.receipts.map Prod.fst = s.receipts.map Prod.fst ++ [id] :=
      List.map_append
    obtain ⟨t, ht, hti, htfits, htkeys⟩ := ih accepted hi hsmall'
      (by
        change (s.receipts ++ [_]).length + ids.length ≤ MAX_RECEIPTS
        rw [List.length_append, List.length_singleton]
        omega)
      (by rw [hkeys, List.append_assoc]; exact hnd)
      (fun other hother => by
        rw [hkeys]
        rcases List.mem_append.mp hother with hother | hother
        · exact List.mem_append_left _ (htasks other hother)
        · exact List.mem_append_right _ hother)
      (fun other hother => hids other (List.mem_cons_of_mem _ hother))
    have hstep : Reach step anyStep s accepted :=
      Reach.init.step (a := .run id .backup) trivial (by rw [BackupRuntime.step, hrun])
    exact ⟨t, hstep.trans ht, hti, htfits, by rw [htkeys, hkeys, List.append_assoc]; rfl⟩

/-- Either one of these results is refused, or all are stored. -/
theorem refused_or_stored (n : Nat) (ids : List String) : ∀ s : BackupRuntime,
    s.initialized = true → s.receipts.fits = true → (s.receipts.map Prod.fst).Nodup →
    (∀ id ∈ ids, s.receipts.has id = true ∧ id ≠ "__proto__") →
    (∃ t, Reach step anyStep s t ∧ Refuses t) ∨
      ∃ t, Reach step anyStep s t ∧ t.receipts.fits = true ∧
        t.receipts.map Prod.fst = s.receipts.map Prod.fst ∧
        (∀ id ∈ ids, t.receipts.lookup id = some (completed .backup (escapingResult n id))) ∧
        ∀ id, id ∉ ids → t.receipts.lookup id = s.receipts.lookup id := by
  induction ids with
  | nil =>
    intro s _ hfits _ _
    exact .inr ⟨s, .init, hfits, rfl, fun _ h => absurd h List.not_mem_nil, fun _ _ => rfl⟩
  | cons id ids ih =>
    intro s hi hfits hnd hids
    obtain ⟨hhas, hproto⟩ := hids id List.mem_cons_self
    let after : BackupRuntime :=
      { s with receipts := s.receipts.assign id (completed .backup (escapingResult n id)) }
    have hcomp : s.complete .backup (escapingResult n id) = after.save := by
      rw [complete, andThen_ok (s := s) (by rw [initializeRuntime, if_pos hi]),
        if_neg (by simp [escapingResult, hhas]), store]
      exact congrArg save (if_neg hproto)
    by_cases hroom : after.receipts.fits = true
    · rw [save_ok hroom] at hcomp
      have hkeys : after.receipts.map Prod.fst = s.receipts.map Prod.fst :=
        Receipts.assign_keys _ hhas
      have hstep : Reach step anyStep s { after with journal := some after.receipts } :=
        Reach.init.step (a := .complete .backup (escapingResult n id)) trivial
          (by rw [BackupRuntime.step, hcomp])
      rcases ih { after with journal := some after.receipts } hi hroom
        (hkeys ▸ hnd) (fun other hother => by
          obtain ⟨hother, hname⟩ := hids other (List.mem_cons_of_mem _ hother)
          refine ⟨?_, hname⟩
          rw [Receipts.has_iff] at hother ⊢
          exact hkeys ▸ hother) with
        ⟨t, ht, hrefuses⟩ | ⟨t, ht, htfits, htkeys, htstored, htother⟩
      · exact .inl ⟨t, hstep.trans ht, hrefuses⟩
      · refine .inr ⟨t, hstep.trans ht, htfits, htkeys.trans hkeys, fun other hother => ?_,
          fun other hother => ?_⟩
        · by_cases hmem : other ∈ ids
          · exact htstored other hmem
          · have heq : other = id := by simpa [hmem] using hother
            rw [heq] at hmem ⊢
            rw [htother id hmem]
            exact Receipts.lookup_assign_self _ hnd hhas
        · rw [List.mem_cons, not_or] at hother
          rw [htother other hother.2]
          exact Receipts.lookup_assign_other hhas hother.1
    · refine .inl ⟨s, .init, escapingResult n id, hhas, ?_⟩
      rw [hcomp, save, if_neg hroom]

/-- Ids of backups. -/
def reservable (n : Nat) : String := String.ofList (List.replicate (n + 1) 'b')

theorem reservable_nodup (count : Nat) : ((List.range count).map reservable).Nodup := by
  refine List.Nodup.map (fun m n h => ?_) List.nodup_range
  have hlen := congrArg (fun id : String => id.toList.length) h
  simpa [reservable] using hlen

theorem reservable_valid {n : Nat} (hn : n < 80) : validBackupId (reservable n) = true ∧
    entryBytes (reservable n, ⟨.backup, none⟩) < 4096 := by
  have hpl : byteLength (escapeChar 'b') = 1 := by decide
  have hreceipt : byteLength (render (receiptJson ⟨.backup, none⟩)) = 27 := by decide
  have hid := byteLength_quote_replicate (n + 1) 'b'
  rw [hpl] at hid
  constructor
  · rw [validBackupId, reservable, String.toList_ofList, List.length_replicate, List.all_replicate]
    simp
    omega
  · have hcolon : Char.utf8Size ':' = 1 := rfl
    simp only [entryBytes, byteLength_append, byteLength_cons, reservable, hid, hreceipt, hcolon]
    omega

/-- **The journal refuses results of accepted backups for their size.** -/
theorem escaped_results_refused :
    ∃ t, Reach step anyStep (.fresh none []) t ∧ Refuses t := by
  have hnd := reservable_nodup 44
  have hids : ∀ id ∈ (List.range 44).map reservable, validBackupId id = true ∧
      entryBytes (id, ⟨.backup, none⟩) < 4096 := by
    intro id hid
    obtain ⟨n, hn, rfl⟩ := List.mem_map.mp hid
    exact reservable_valid (Nat.lt_trans (List.mem_range.mp hn) (by decide))
  obtain ⟨s₀, hs₀, hi₀, hnone, hidle⟩ : ∃ s₀, Reach step anyStep (.fresh none []) s₀ ∧
      (s₀.initialized = true ∧ s₀.receipts = [] ∧ s₀.tasks = []) :=
    Reach.of_run_any (l := [.deliver]) (by decide)
  obtain ⟨s, hs, hi, hfits, hkeys⟩ := accepted_all ((List.range 44).map reservable) s₀ hi₀
    (by simp [hnone]) (by simp [hnone, MAX_RECEIPTS])
    (by rw [hnone, List.map_nil, List.nil_append]; exact hnd) (by simp [hidle]) hids
  replace hs := hs₀.trans hs
  rw [hnone, List.map_nil, List.nil_append] at hkeys
  have hns : ∀ id ∈ (List.range 44).map reservable, id ≠ "__proto__" := by
    intro id hid hname
    rw [hname] at hid
    exact absurd (hids _ hid).1 (by decide)
  rcases refused_or_stored 1000 ((List.range 44).map reservable) s hi hfits
    (hkeys.symm ▸ hnd)
    (fun id hid => ⟨Receipts.has_iff.mpr (hkeys.symm ▸ hid), hns id hid⟩) with
    ⟨t, ht, hrefuses⟩ | ⟨t, ht, htfits, htkeys, hsto, -⟩
  · exact ⟨t, hs.trans ht, hrefuses⟩
  · -- All 44 results are stored, but they take more than the limit.
    exfalso
    have hmap : (t.receipts.map Prod.fst).Nodup := by
      rw [htkeys, hkeys]
      exact hnd
    have hbig : ∀ e ∈ t.receipts, 12 * 1000 ≤ entryBytes e := by
      rintro ⟨id, receipt⟩ he
      have hid : id ∈ t.receipts.map Prod.fst := List.mem_map_of_mem he
      rw [htkeys, hkeys] at hid
      have hl := hsto id hid
      rw [Receipts.lookup_of_mem hmap he] at hl
      cases hl
      exact entryBytes_escaping (Nat.le_refl 1000) id
    have hlen : t.receipts.length = 44 := by
      have h := congrArg List.length (htkeys.trans hkeys)
      rw [List.length_map, List.length_map, List.length_range] at h
      exact h
    have hsum : (t.receipts.map entryBytes).length • (12 * 1000) ≤ (t.receipts.map entryBytes).sum := by
      refine List.card_nsmul_le_sum _ _ fun n hn => ?_
      obtain ⟨e, he, rfl⟩ := List.mem_map.mp hn
      exact hbig e he
    have hne : t.receipts ≠ [] := fun h => by
      rw [h] at hlen
      exact absurd hlen (by decide)
    rw [List.length_map, hlen, nsmul_eq_mul, Nat.cast_id] at hsum
    rw [Receipts.fits, decide_eq_true_eq, Receipts.byteLength_contents _ hne] at htfits
    simp only [MAX_BYTES] at htfits
    omega

end Refused

end Meowbox.Backups
