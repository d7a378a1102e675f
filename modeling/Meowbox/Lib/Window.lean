import Mathlib.Data.List.Sort

/-!
# Serving a queue through a window

A server with some free slots takes elements off a queue, one at a time: the first one in a window
at the front whose key is not busy, whose key is busy from then on. What cannot be taken stays in
the window, so that elements of free keys may never come into it.

* `filter_insertionSort`: a queue that is kept sorted loses an element without a change of order.
* **`serve_conserves`**: when the server stops with a slot left, no element of a free key is left,
  exactly when as many elements as there are slots, or all there are, wait behind fewer than a
  window of elements that cannot be taken.
-/

namespace Windowed

section Sorted

variable {α : Type} {r : α → α → Prop} [DecidableRel r] {p : α → Bool} {a : α} {l : List α}

theorem filter_orderedInsert (htrans : ∀ a b c, r a b → r b c → r a c) (hl : l.Pairwise r) :
    (l.orderedInsert r a).filter p =
      if p a then (l.filter p).orderedInsert r a else l.filter p := by
  induction l with
  | nil =>
    rw [List.orderedInsert_nil, List.filter_nil, List.orderedInsert_nil, List.filter_singleton]
    cases p a <;> rfl
  | cons b l ih =>
    obtain ⟨hb, hl⟩ := List.pairwise_cons.mp hl
    by_cases hab : r a b
    · -- it goes in front of everything behind `b`, too
      rw [List.orderedInsert_cons_of_le r l hab, List.filter_cons]
      split
      · symm
        have hfro : ∀ l' : List α, (∀ c ∈ l', r a c) → l'.orderedInsert r a = a :: l' := by
          intro l' hall
          cases l' with
          | nil => rfl
          | cons c l' => exact List.orderedInsert_cons_of_le r l' (hall c List.mem_cons_self)
        refine hfro _ fun c hc => ?_
        rcases List.mem_cons.mp (List.mem_filter.mp hc).1 with rfl | hc
        · exact hab
        · exact htrans a b c hab (hb c hc)
      · rfl
    · rw [List.orderedInsert_of_not_le r l hab, List.filter_cons, ih hl, List.filter_cons]
      by_cases hpb : p b = true
      · rw [if_pos hpb, if_pos hpb]
        split
        · rw [List.orderedInsert_of_not_le r _ hab]
        · rfl
      · rw [if_neg hpb, if_neg hpb]

theorem filter_insertionSort (htotal : ∀ a b, r a b ∨ r b a)
    (htrans : ∀ a b c, r a b → r b c → r a c) (l : List α) :
    (l.insertionSort r).filter p = (l.filter p).insertionSort r := by
  have : Std.Total r := ⟨htotal⟩
  have : IsTrans α r := ⟨htrans⟩
  induction l with
  | nil => rfl
  | cons a l ih =>
    rw [List.insertionSort_cons, filter_orderedInsert htrans (List.pairwise_insertionSort r l), ih,
      List.filter_cons]
    split
    · rw [List.insertionSort_cons]
    · rfl

end Sorted

variable {α β γ : Type} [DecidableEq β] [DecidableEq γ] (key : α → β) (ident : α → γ) (w : Nat)

/-- The first element in the window whose key is free. -/
def pick (busy : List β) (l : List α) : Option α :=
  (l.take w).find? fun a => !busy.contains (key a)

/-- The server: its free slots, the busy keys and the queue. -/
structure Served (α β : Type) where
  slots : Nat
  busy : List β
  left : List α

/-- Elements are taken as long as there is a slot and one can be picked. -/
def serve : Nat → List β → List α → Served α β
  | 0, busy, l => ⟨0, busy, l⟩
  | n + 1, busy, l =>
    match pick key w busy l with
    | none => ⟨n + 1, busy, l⟩
    | some a => serve n (busy ++ [key a]) (l.filter fun b => decide (ident b ≠ ident a))

/-- For each element that is the first one of a free key: how many elements in front of it cannot
be taken, as their keys are busy or have been met before. -/
def waits : List β → Nat → List α → List Nat
  | _, _, [] => []
  | busy, blocked, a :: l =>
    if key a ∈ busy then waits busy (blocked + 1) l
    else blocked :: waits (busy ++ [key a]) blocked l

/-- Those that come into the window. -/
def within (waiting : List Nat) : List Nat := waiting.filter fun blocked => decide (blocked < w)

variable {key} {ident} {w} {busy : List β} {a : α} {front l : List α} {n blocked : Nat}

theorem le_of_mem_waits {k : Nat} (h : k ∈ waits key busy blocked l) : blocked ≤ k := by
  induction l generalizing busy blocked with
  | nil => exact absurd h List.not_mem_nil
  | cons a l ih =>
    unfold waits at h
    split at h
    · exact (Nat.le_succ blocked).trans (ih h)
    · rcases List.mem_cons.mp h with rfl | hlat
      · exact Nat.le_refl _
      · exact ih hlat

/-- Nothing is picked out of elements whose keys are busy. -/
theorem pick_blocked (hfro : ∀ b ∈ front, key b ∈ busy) (hlong : w ≤ front.length) :
    pick key w busy (front ++ l) = none := by
  unfold pick
  rw [List.take_append_of_le_length hlong, List.find?_eq_none]
  intro b hb
  have hbusy := hfro b (List.mem_of_mem_take hb)
  simpa using hbusy

/-- Behind them, the first element of a free key is picked when it is in the window. -/
theorem pick_free (hfro : ∀ b ∈ front, key b ∈ busy) (hsho : front.length < w)
    (ha : key a ∉ busy) : pick key w busy (front ++ a :: l) = some a := by
  unfold pick
  have htake : (front ++ a :: l).take w = front ++ a :: l.take (w - front.length - 1) := by
    obtain ⟨m, rfl⟩ : ∃ m, w = front.length + 1 + m := ⟨w - (front.length + 1), by omega⟩
    rw [List.take_append]
    have hm : front.length + 1 + m - front.length = m + 1 := by omega
    rw [hm, List.take_of_length_le (by omega), List.take_succ_cons]
    congr 3
  rw [htake, List.find?_append]
  have hnone : front.find? (fun b => !busy.contains (key b)) = none := by
    rw [List.find?_eq_none]
    intro b hb
    simpa using hfro b hb
  rw [hnone, Option.none_or, List.find?_cons_of_pos (by simpa using ha)]

/-- The server, behind some elements that cannot be taken. -/
theorem serve_behind (hident : ((front ++ l).map ident).Nodup)
    (hfro : ∀ b ∈ front, key b ∈ busy) :
    (0 < (serve key ident w n busy (front ++ l)).slots →
        ∀ b ∈ (serve key ident w n busy (front ++ l)).left,
          key b ∈ (serve key ident w n busy (front ++ l)).busy) ↔
      n ≤ (within w (waits key busy front.length l)).length ∨
        (within w (waits key busy front.length l)).length =
          (waits key busy front.length l).length := by
  induction l generalizing busy front n with
  | nil =>
    refine iff_of_true (fun hslo => ?_) (.inr rfl)
    cases n with
    | zero => exact absurd hslo (Nat.lt_irrefl _)
    | succ n =>
      have hnone : pick key w busy (front ++ []) = none := by
        unfold pick
        rw [List.find?_eq_none]
        intro b hb
        rw [List.append_nil] at hb
        simpa using hfro b (List.mem_of_mem_take hb)
      simp only [serve, hnone]
      rw [List.append_nil]
      exact hfro
  | cons a l ih =>
    by_cases ha : key a ∈ busy
    · -- one more that cannot be taken
      have hwaits : waits key busy front.length (a :: l) =
          waits key busy (front ++ [a]).length l := by
        rw [waits, if_pos ha, List.length_append, List.length_singleton]
      have hsame : front ++ a :: l = (front ++ [a]) ++ l := by simp
      rw [hwaits, hsame]
      rw [hsame] at hident
      refine ih hident fun b hb => ?_
      rcases List.mem_append.mp hb with hold | hnew
      · exact hfro b hold
      · rwa [List.mem_singleton.mp hnew]
    · have hwaits : waits key busy front.length (a :: l) =
          front.length :: waits key (busy ++ [key a]) front.length l := by
        rw [waits, if_neg ha]
      rw [hwaits]
      by_cases hsho : front.length < w
      · have hwi : within w (front.length :: waits key (busy ++ [key a]) front.length l) =
            front.length :: within w (waits key (busy ++ [key a]) front.length l) := by
          unfold within
          rw [List.filter_cons_of_pos (by simpa using hsho)]
        rw [hwi, List.length_cons, List.length_cons]
        cases n with
        | zero => exact iff_of_true (fun h => absurd h (Nat.lt_irrefl _)) (.inl (Nat.zero_le _))
        | succ n =>
          have hrest : (front ++ a :: l).filter (fun b => decide (ident b ≠ ident a)) =
              front ++ l := by
            rw [List.map_append, List.map_cons] at hident
            obtain ⟨-, hal, hdisjoint⟩ := List.nodup_append.mp hident
            have hfr := (List.nodup_cons.mp hal).1
            rw [List.filter_append, List.filter_cons_of_neg (by simp)]
            congr 1
            · refine List.filter_eq_self.mpr fun b hb => ?_
              have hne := hdisjoint (ident b) (List.mem_map_of_mem hb) (ident a) List.mem_cons_self
              simpa using hne
            · refine List.filter_eq_self.mpr fun b hb => ?_
              have hne : ident b ≠ ident a := fun h => hfr (h ▸ List.mem_map_of_mem hb)
              simpa using hne
          simp only [serve, pick_free hfro hsho ha, hrest]
          have hsub : (front ++ l).Sublist (front ++ a :: l) :=
            (List.Sublist.refl front).append (List.sublist_cons_self a l)
          have hrest : (0 < (serve key ident w n (busy ++ [key a]) (front ++ l)).slots → _) ↔ _ :=
            ih ((hsub.map ident).nodup hident) fun b hb => List.mem_append_left _ (hfro b hb)
          rw [hrest]
          omega
      · -- the window is full of elements that cannot be taken
        have hwi : within w (front.length :: waits key (busy ++ [key a]) front.length l) = [] := by
          unfold within
          rw [List.filter_eq_nil_iff]
          intro k hk
          have hle : front.length ≤ k := by
            rcases List.mem_cons.mp hk with rfl | hlat
            · exact Nat.le_refl _
            · exact le_of_mem_waits hlat
          simpa using (Nat.not_lt.mp hsho).trans hle
        rw [hwi]
        cases n with
        | zero => exact iff_of_true (fun h => absurd h (Nat.lt_irrefl _)) (.inl (Nat.zero_le _))
        | succ n =>
          simp only [serve, pick_blocked hfro (Nat.not_lt.mp hsho)]
          refine iff_of_false (fun h => ?_) (by simp)
          exact ha (h (Nat.succ_pos n) a (List.mem_append_right _ List.mem_cons_self))

/-- **The server conserves work** exactly when its window is wide enough. -/
theorem serve_conserves (hident : (l.map ident).Nodup) :
    (0 < (serve key ident w n busy l).slots →
        ∀ b ∈ (serve key ident w n busy l).left, key b ∈ (serve key ident w n busy l).busy) ↔
      n ≤ (within w (waits key busy 0 l)).length ∨
        (within w (waits key busy 0 l)).length = (waits key busy 0 l).length :=
  serve_behind hident fun _ hb => absurd hb List.not_mem_nil

end Windowed
