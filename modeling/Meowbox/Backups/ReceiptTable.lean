import Mathlib.Data.Nat.Cast.Basic
import Mathlib.Algebra.Order.BigOperators.Group.List
import Mathlib.Algebra.Order.Group.Nat
import Meowbox.Backups.Receipts

/-!
# Receipts and tasks as lists

* `idsIn`: the backups of the tasks in some phases, and how it changes with one task.
* `Receipts.byteLength_contents`: the size of the journal is a sum over its entries, so that fewer
  receipts fit, and receipts of less than 4 KiB each always do.
* The receipts as a map: what `assign`, `remove` and a new entry leave.
-/

namespace Meowbox.Backups

open JsonText

/-! ## Lists of jobs -/

/-- The backups of the jobs in the phases `p`. -/
def idsIn (p : Phase → Bool) (jobs : List RuntimeJob) : List String :=
  jobs.filterMap fun j => if p j.phase then j.backup.map Prod.fst else none

section Jobs

variable {p : Phase → Bool} {jobs : List RuntimeJob} {k : Nat} {j b : RuntimeJob} {id : String}

theorem mem_idsIn : id ∈ idsIn p jobs ↔
    ∃ j ∈ jobs, p j.phase = true ∧ j.backup.map Prod.fst = some id := by
  unfold idsIn
  rw [List.mem_filterMap]
  constructor
  · rintro ⟨j, hj, h⟩
    obtain ⟨hp, h⟩ := Option.ite_none_right_eq_some.mp h
    exact ⟨j, hj, hp, h⟩
  · rintro ⟨j, hj, hp, h⟩
    exact ⟨j, hj, by rw [if_pos hp]; exact h⟩

theorem idsIn_append (jobs more : List RuntimeJob) :
    idsIn p (jobs ++ more) = idsIn p jobs ++ idsIn p more :=
  List.filterMap_append

/-- A job that changes neither its backup nor whether its phase is one of `p`. -/
theorem idsIn_set_same (hk : jobs[k]? = some j) (hbk : b.backup = j.backup)
    (hph : p b.phase = p j.phase) : idsIn p (jobs.set k b) = idsIn p jobs := by
  induction jobs generalizing k with
  | nil => rfl
  | cons a jobs ih =>
    cases k with
    | zero =>
      simp only [List.getElem?_cons_zero, Option.some.injEq] at hk
      subst hk
      simp only [idsIn, List.set_cons_zero, List.filterMap_cons, hbk, hph]
    | succ k =>
      have hrest := ih (k := k) (by simpa using hk)
      simp only [idsIn] at hrest
      simp only [idsIn, List.set_cons_succ, List.filterMap_cons, hrest]

/-- A job of maintenance. -/
theorem idsIn_set_none (hk : jobs[k]? = some j) (hbk : j.backup = none)
    (hbk' : b.backup = none) : idsIn p (jobs.set k b) = idsIn p jobs := by
  induction jobs generalizing k with
  | nil => rfl
  | cons a jobs ih =>
    cases k with
    | zero =>
      simp only [List.getElem?_cons_zero, Option.some.injEq] at hk
      subst hk
      simp only [idsIn, List.set_cons_zero, List.filterMap_cons, hbk, hbk', Option.map_none,
        ite_self]
    | succ k =>
      have hrest := ih (k := k) (by simpa using hk)
      simp only [idsIn] at hrest
      simp only [idsIn, List.set_cons_succ, List.filterMap_cons, hrest]

/-- A job that leaves the phases `p`. -/
theorem idsIn_set_leave (hk : jobs[k]? = some j) (hbk : j.backup.map Prod.fst = some id)
    (hin : p j.phase = true) (hout : p b.phase = false) (hnd : (idsIn p jobs).Nodup) :
    idsIn p (jobs.set k b) = (idsIn p jobs).filter fun t => t != id := by
  induction jobs generalizing k with
  | nil => exact absurd hk (by simp)
  | cons a jobs ih =>
    cases k with
    | zero =>
      simp only [List.getElem?_cons_zero, Option.some.injEq] at hk
      subst hk
      simp only [idsIn, List.filterMap_cons, hin, if_true, hbk, List.nodup_cons] at hnd
      simp only [idsIn, List.set_cons_zero, List.filterMap_cons, hin, hout, if_true, hbk,
        Bool.false_eq_true, if_false, List.filter_cons, bne_self_eq_false]
      rw [List.filter_eq_self.mpr]
      intro t ht
      rw [bne_iff_ne]
      rintro rfl
      exact hnd.1 ht
    | succ k =>
      have hk' : jobs[k]? = some j := by simpa using hk
      have hmem : id ∈ idsIn p jobs := mem_idsIn.mpr ⟨j, List.mem_of_getElem? hk', hin, hbk⟩
      cases ha : (if p a.phase then a.backup.map Prod.fst else none) with
      | none =>
        simp only [idsIn, List.filterMap_cons, ha] at hnd
        have hrest := ih hk' hnd
        simp only [idsIn] at hrest
        simp only [idsIn, List.set_cons_succ, List.filterMap_cons, ha, hrest]
      | some t =>
        simp only [idsIn, List.filterMap_cons, ha, List.nodup_cons] at hnd
        have hrest := ih hk' hnd.2
        have hne : t ≠ id := fun h => hnd.1 (h ▸ hmem)
        simp only [idsIn] at hrest
        simp only [idsIn, List.set_cons_succ, List.filterMap_cons, ha, hrest, List.filter_cons]
        rw [if_pos (by simpa using hne)]

theorem idsIn_sublist {q : Phase → Bool} (h : ∀ phase, p phase = true → q phase = true) :
    (idsIn p jobs).Sublist (idsIn q jobs) := by
  induction jobs with
  | nil => exact List.Sublist.refl _
  | cons a jobs ih =>
    unfold idsIn at ih ⊢
    simp only [List.filterMap_cons]
    by_cases hp : p a.phase = true
    · rw [if_pos hp, if_pos (h _ hp)]
      split
      · exact ih
      · exact ih.cons_cons _
    · rw [if_neg hp]
      dsimp only
      split
      · exact ih
      · exact ih.cons _

/-- What is in `p` after a job changed was, or is the job's. -/
theorem mem_idsIn_set (h : id ∈ idsIn p (jobs.set k b)) :
    id ∈ idsIn p jobs ∨ (p b.phase = true ∧ b.backup.map Prod.fst = some id) := by
  obtain ⟨a, ha, hp, hid⟩ := mem_idsIn.mp h
  rcases List.mem_or_eq_of_mem_set ha with hold | rfl
  · exact .inl (mem_idsIn.mpr ⟨a, hold, hp, hid⟩)
  · exact .inr ⟨hp, hid⟩

/-- What was in `p` before a job changed still is, or was the job's. -/
theorem idsIn_set_of_mem (hk : jobs[k]? = some j) (h : id ∈ idsIn p jobs) :
    id ∈ idsIn p (jobs.set k b) ∨ j.backup.map Prod.fst = some id := by
  obtain ⟨a, ha, hp, hid⟩ := mem_idsIn.mp h
  obtain ⟨i, hi, rfl⟩ := List.getElem_of_mem ha
  by_cases hik : i = k
  · subst hik
    rw [List.getElem?_eq_getElem hi, Option.some.injEq] at hk
    exact .inr (hk ▸ hid)
  · refine .inl (mem_idsIn.mpr ⟨jobs[i], ?_, hp, hid⟩)
    have hset : (jobs.set k b)[i]? = some jobs[i] := by
      rw [List.getElem?_set_ne (Ne.symm hik), List.getElem?_eq_getElem hi]
    exact List.mem_of_getElem? hset

end Jobs

/-! ## Sizes -/

theorem byteLength_append (cs ds : List Char) :
    byteLength (cs ++ ds) = byteLength cs + byteLength ds := by
  simp only [byteLength, List.map_append, List.sum_append]

theorem byteLength_joinComma (t : List Char) (ts : List (List Char)) :
    byteLength (joinComma (t :: ts)) = byteLength t + (ts.map fun u => byteLength u + 1).sum := by
  rw [joinComma, byteLength_append]
  congr 1
  induction ts with
  | nil => rfl
  | cons u ts ih =>
    rw [List.flatMap_cons, byteLength_append, ih, List.map_cons, List.sum_cons]
    have hcomma : byteLength (',' :: u) = byteLength u + 1 := by
      rw [show (',' :: u) = [','] ++ u from rfl, byteLength_append, Nat.add_comm]
      rfl
    rw [hcomma]

/-- The bytes of one entry of the journal and its comma. -/
def entryBytes (e : String × Receipt) : Nat :=
  byteLength (quote e.1 ++ ':' :: render (receiptJson e.2)) + 1

theorem renderMembers_receipts (rs : Receipts) :
    renderMembers (rs.map fun e => (e.1, receiptJson e.2)) =
      rs.map fun e => quote e.1 ++ ':' :: render (receiptJson e.2) := by
  induction rs with
  | nil => rw [List.map_nil, List.map_nil, renderMembers]
  | cons e rs ih => rw [List.map_cons, List.map_cons, renderMembers, ih]

/-- **The size of the journal.** -/
theorem Receipts.byteLength_contents (rs : Receipts) (hrs : rs ≠ []) :
    byteLength rs.contents = 1 + (rs.map entryBytes).sum := by
  have hbraces (cs : List Char) : byteLength ('{' :: (cs ++ ['}'])) = byteLength cs + 2 := by
    rw [show '{' :: (cs ++ ['}']) = ['{'] ++ (cs ++ ['}']) from rfl, byteLength_append,
      byteLength_append, Nat.add_comm, Nat.add_assoc]
    rfl
  cases rs with
  | nil => exact absurd rfl hrs
  | cons e rs =>
    rw [Receipts.contents, render, renderMembers_receipts, hbraces, List.map_cons,
      byteLength_joinComma, List.map_map, List.map_cons, List.sum_cons, entryBytes]
    have hrest : (rs.map ((fun u => byteLength u + 1) ∘
        fun e => quote e.1 ++ ':' :: render (receiptJson e.2))).sum = (rs.map entryBytes).sum := rfl
    rw [hrest]
    omega

/-- Fewer receipts fit. -/
theorem Receipts.fits_of_sublist {rs ss : Receipts} (h : rs.Sublist ss) (hfits : ss.fits = true) :
    rs.fits = true := by
  by_cases hrs : rs = []
  · subst hrs
    decide
  · have hss : ss ≠ [] := fun hss => hrs (List.sublist_nil.mp (hss ▸ h))
    have hsum : (rs.map entryBytes).sum ≤ (ss.map entryBytes).sum :=
      List.Sublist.sum_le_sum (h.map _) fun _ _ => Nat.zero_le _
    rw [Receipts.fits, decide_eq_true_eq, Receipts.byteLength_contents _ hss] at hfits
    rw [Receipts.fits, decide_eq_true_eq, Receipts.byteLength_contents _ hrs]
    omega

/-- Receipts of less than 4 KiB each fit. -/
theorem Receipts.fits_of_entries {rs : Receipts} (hbd : rs.length ≤ MAX_RECEIPTS)
    (h : ∀ e ∈ rs, entryBytes e < 4096) : rs.fits = true := by
  by_cases hrs : rs = []
  · subst hrs
    decide
  · have hsum : (rs.map entryBytes).sum ≤ (rs.map entryBytes).length • 4095 := by
      refine List.sum_le_card_nsmul _ _ fun n hn => ?_
      obtain ⟨e, he, rfl⟩ := List.mem_map.mp hn
      exact Nat.le_of_lt_succ (h e he)
    rw [List.length_map, nsmul_eq_mul, Nat.cast_id] at hsum
    rw [Receipts.fits, decide_eq_true_eq, Receipts.byteLength_contents _ hrs]
    simp only [MAX_RECEIPTS] at hbd
    simp only [MAX_BYTES]
    omega

/-! ## Receipts as a map -/

namespace Receipts

variable {rs : Receipts} {id other : String} {receipt : Receipt}

theorem has_iff : rs.has id = true ↔ id ∈ rs.map Prod.fst := by
  simp [has]

theorem lookup_eq_some (h : rs.lookup id = some receipt) : (id, receipt) ∈ rs := by
  obtain ⟨e, he, rfl⟩ := Option.map_eq_some_iff.mp h
  have hid : e.1 = id := by simpa using List.find?_some he
  exact hid ▸ List.mem_of_find?_eq_some he

theorem lookup_of_mem (hnd : (rs.map Prod.fst).Nodup) (h : (id, receipt) ∈ rs) :
    rs.lookup id = some receipt := by
  cases hl : rs.find? fun e => e.1 == id with
  | none => exact absurd (List.find?_eq_none.mp hl _ h) (by simp)
  | some e =>
    have hid : e.1 = id := by simpa using List.find?_some hl
    have hmem := List.mem_of_find?_eq_some hl
    have he : e = (id, receipt) := List.inj_on_of_nodup_map hnd hmem h hid
    rw [lookup, hl, he]
    rfl

theorem has_of_lookup (h : rs.lookup id = some receipt) : rs.has id = true :=
  has_iff.mpr (List.mem_map.mpr ⟨_, lookup_eq_some h, rfl⟩)

theorem lookup_of_has (h : rs.has id = true) : ∃ receipt, rs.lookup id = some receipt := by
  cases hl : rs.lookup id with
  | some receipt => exact ⟨receipt, rfl⟩
  | none =>
    rw [lookup, Option.map_eq_none_iff, List.find?_eq_none] at hl
    obtain ⟨e, he, hid⟩ := List.any_eq_true.mp h
    exact absurd hid (hl e he)

theorem assign_keys (receipt : Receipt) (h : rs.has id = true) :
    (rs.assign id receipt).map Prod.fst = rs.map Prod.fst := by
  rw [assign, if_pos h, List.map_map]
  refine List.map_congr_left fun e _ => ?_
  simp only [Function.comp]
  split
  · rename_i hid
    exact hid.symm
  · rfl

theorem mem_assign (hnd : (rs.map Prod.fst).Nodup) (h : rs.has id = true) :
    ((rs.assign id receipt).map Prod.fst).Nodup ∧ (rs.assign id receipt).length = rs.length := by
  rw [assign_keys receipt h]
  refine ⟨hnd, ?_⟩
  rw [assign, if_pos h, List.length_map]

theorem lookup_assign_self (receipt : Receipt) (hnd : (rs.map Prod.fst).Nodup) (h : rs.has id = true) :
    (rs.assign id receipt).lookup id = some receipt := by
  refine lookup_of_mem (mem_assign hnd h).1 ?_
  obtain ⟨e, he, hid⟩ := List.mem_map.mp (has_iff.mp h)
  rw [assign, if_pos h]
  exact List.mem_map.mpr ⟨e, he, if_pos hid⟩

theorem lookup_assign_other (h : rs.has id = true) (hne : other ≠ id) :
    (rs.assign id receipt).lookup other = rs.lookup other := by
  rw [assign, if_pos h]
  unfold lookup
  rw [List.find?_map]
  have hsame : ((fun e : String × Receipt => e.1 == other) ∘
      fun e => if e.1 = id then (id, receipt) else e) = fun e => e.1 == other := by
    funext e
    simp only [Function.comp]
    split
    · rename_i hid
      rw [hid]
    · rfl
  rw [hsame, Option.map_map]
  cases hl : rs.find? fun e => e.1 == other with
  | none => rfl
  | some e =>
    have hid : e.1 = other := by simpa using List.find?_some hl
    simp only [Option.map_some, Function.comp]
    rw [if_neg fun h => hne (hid.symm.trans h)]

theorem lookup_remove_other (hne : other ≠ id) : (rs.remove id).lookup other = rs.lookup other := by
  unfold lookup remove
  rw [List.find?_filter]
  congr 2
  funext e
  by_cases hid : e.1 = other
  · simp [hid, hne]
  · simp [hid]

theorem has_remove_other (hne : other ≠ id) (h : rs.has other = true) :
    (rs.remove id).has other = true := by
  obtain ⟨receipt, hl⟩ := lookup_of_has h
  exact has_of_lookup ((lookup_remove_other hne).trans hl)

theorem lookup_append_other (hne : other ≠ id) :
    (rs ++ [(id, receipt)]).lookup other = rs.lookup other := by
  unfold lookup
  rw [List.find?_append]
  have hnone : [(id, receipt)].find? (fun e => e.1 == other) = none := by
    simp [Ne.symm hne]
  rw [hnone, Option.or_none]

end Receipts

end Meowbox.Backups
