import Mathlib.Data.List.Nodup
import Mathlib.Data.List.Perm.Basic

/-!
# JavaScript maps

`Map`: each key has one value, and the keys keep the order of their first assignment.

* `get_set`, `get_delete`: what an assignment and a deletion change.
* `mem_entries`: the entries are what `get` finds.
* `entries_perm`: what `get` finds determines the entries up to their order.
-/

structure JsMap (α β : Type) where
  entries : List (α × β)
  nodup : (entries.map Prod.fst).Nodup

namespace JsMap

variable {α β : Type} [DecidableEq α]

/-- The entries after `map.set(a, b)`. -/
def assign (a : α) (b : β) : List (α × β) → List (α × β)
  | [] => [(a, b)]
  | (k, v) :: es => if k = a then (a, b) :: es else (k, v) :: assign a b es

/-- The value of a key among entries. -/
def find (a : α) : List (α × β) → Option β
  | [] => none
  | (k, v) :: es => if k = a then some v else find a es

theorem find_assign (a c : α) (b : β) (es : List (α × β)) :
    find c (assign a b es) = if c = a then some b else find c es := by
  induction es with
  | nil =>
    by_cases h : c = a
    · rw [if_pos h, h, assign, find, if_pos rfl]
    · rw [if_neg h]
      exact if_neg (Ne.symm h)
  | cons e es ih =>
    obtain ⟨k, v⟩ := e
    rw [assign]
    by_cases hka : k = a
    · subst hka
      rw [if_pos rfl, find, find]
      by_cases hkc : k = c
      · rw [if_pos hkc, if_pos hkc.symm]
      · rw [if_neg hkc, if_neg (Ne.symm hkc), if_neg hkc]
    · rw [if_neg hka, find, find, ih]
      by_cases hkc : k = c
      · subst hkc
        rw [if_pos rfl, if_neg hka, if_pos rfl]
      · rw [if_neg hkc, if_neg hkc]

theorem mem_keys_assign (a c : α) (b : β) (es : List (α × β)) :
    c ∈ (assign a b es).map Prod.fst ↔ c = a ∨ c ∈ es.map Prod.fst := by
  induction es with
  | nil => simp [assign]
  | cons e es ih =>
    obtain ⟨k, v⟩ := e
    rw [assign]
    by_cases hka : k = a
    · rw [if_pos hka]
      simp [hka]
    · rw [if_neg hka, List.map_cons, List.mem_cons, ih, List.map_cons, List.mem_cons]
      tauto

theorem nodup_assign {a : α} {b : β} {es : List (α × β)} (h : (es.map Prod.fst).Nodup) :
    ((assign a b es).map Prod.fst).Nodup := by
  induction es with
  | nil => simp [assign]
  | cons e es ih =>
    obtain ⟨k, v⟩ := e
    rw [List.map_cons, List.nodup_cons] at h
    rw [assign]
    by_cases hka : k = a
    · subst hka
      rw [if_pos rfl, List.map_cons, List.nodup_cons]
      exact h
    · rw [if_neg hka, List.map_cons, List.nodup_cons, mem_keys_assign]
      exact ⟨fun hmem => hmem.elim hka h.1, ih h.2⟩

/-- `new Map()`. -/
def empty : JsMap α β := ⟨[], List.nodup_nil⟩

/-- `map.get(a)`. -/
def get (m : JsMap α β) (a : α) : Option β := find a m.entries

/-- `map.set(a, b)`. -/
def set (m : JsMap α β) (a : α) (b : β) : JsMap α β := ⟨assign a b m.entries, nodup_assign m.nodup⟩

/-- `map.delete(a)`. -/
def delete (m : JsMap α β) (a : α) : JsMap α β where
  entries := m.entries.filter fun e => !decide (e.1 = a)
  nodup := m.nodup.sublist (List.filter_sublist.map _)

variable {m : JsMap α β} {a c : α} {b : β}

theorem get_set : (m.set a b).get c = if c = a then some b else m.get c :=
  find_assign a c b m.entries

theorem find_filter (es : List (α × β)) :
    find c (es.filter fun e => !decide (e.1 = a)) = if c = a then none else find c es := by
  induction es with
  | nil => simp [find]
  | cons e es ih =>
    obtain ⟨k, v⟩ := e
    by_cases hka : k = a
    · rw [List.filter_cons_of_neg (by simp [hka]), ih, find]
      by_cases hca : c = a
      · rw [if_pos hca, if_pos hca]
      · rw [if_neg hca, if_neg hca, if_neg fun h => hca (h.symm.trans hka)]
    · rw [List.filter_cons_of_pos (by simp [hka]), find, ih, find]
      by_cases hkc : k = c
      · rw [if_pos hkc, if_pos hkc, if_neg fun h => hka (hkc.trans h)]
      · rw [if_neg hkc, if_neg hkc]

theorem get_delete : (m.delete a).get c = if c = a then none else m.get c := find_filter m.entries

theorem find_eq_some {es : List (α × β)} (h : (es.map Prod.fst).Nodup) :
    find a es = some b ↔ (a, b) ∈ es := by
  induction es with
  | nil => simp [find]
  | cons e es ih =>
    obtain ⟨k, v⟩ := e
    rw [List.map_cons, List.nodup_cons] at h
    rw [find, List.mem_cons]
    by_cases hka : k = a
    · subst hka
      rw [if_pos rfl]
      constructor
      · intro hv
        cases hv
        exact .inl rfl
      · rintro (heq | hmem)
        · cases heq
          rfl
        · exact absurd (List.mem_map_of_mem (f := Prod.fst) hmem) h.1
    · rw [if_neg hka, ih h.2]
      constructor
      · exact .inr
      · rintro (heq | hmem)
        · cases heq
          exact absurd rfl hka
        · exact hmem

theorem mem_entries : (a, b) ∈ m.entries ↔ m.get a = some b := (find_eq_some m.nodup).symm

/-- The entries are those of any list that has each key once and says what `get` finds. -/
theorem entries_perm {es : List (α × β)} (hnd : (es.map Prod.fst).Nodup)
    (h : ∀ a b, (a, b) ∈ es ↔ m.get a = some b) : m.entries.Perm es := by
  refine (List.perm_ext_iff_of_nodup (m.nodup.of_map _) (hnd.of_map _)).mpr ?_
  rintro ⟨a, b⟩
  rw [mem_entries, h]

end JsMap
