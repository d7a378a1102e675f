import Mathlib.Data.List.Basic

/-!
# Climbing levels with a stay on each

`Climb` is the level something is on, since when, and the visits of levels that have ended, newest
first. It moves by `Climb.move`. `Permitted` is the rule of a ladder: a move goes up by one level at
most, and up from a level only after a stay of `need` on it; moves down are free.

`Soaked` says of a climb that the last visit of every level below was long enough, and that only
higher levels were visited since; `Dated` that the visits follow each other in time. Permitted moves
keep both (`Climb.Soaked.move`, `Climb.Dated.move`), so whoever is on a level has stayed long enough
on every level below it, in their order (`Climb.Soaked.twice`).
-/

namespace Ladder

/-- A visit of a level that has ended. -/
structure Visit where
  level : Nat
  entered : Nat
  left : Nat
deriving DecidableEq

structure Climb where
  level : Nat
  entered : Nat
  /-- The visits before, newest first. -/
  visits : List Visit
deriving DecidableEq

namespace Climb

variable {need : Nat → Nat} {c : Climb} {now : Nat}

/-- Nothing has moved yet. -/
def start (now : Nat) : Climb := ⟨0, now, []⟩

def move (c : Climb) (target now : Nat) : Climb :=
  if target = c.level then c else ⟨target, now, ⟨c.level, c.entered, now⟩ :: c.visits⟩

/-- The rule of the ladder. -/
def Permitted (need : Nat → Nat) (c : Climb) (target now : Nat) : Prop :=
  target ≤ c.level + 1 ∧ (target = c.level + 1 → c.entered + need c.level ≤ now)

/-- The last of the visits of `l` was long enough, and only higher levels were visited since. -/
def Stayed (need : Nat → Nat) (l : Nat) (visits : List Visit) : Prop :=
  ∃ newer v older, visits = newer ++ v :: older ∧ v.level = l ∧ v.entered + need l ≤ v.left ∧
    ∀ w ∈ newer, l < w.level

/-- Every level below was left after a stay that was long enough. -/
def Soaked (need : Nat → Nat) (c : Climb) : Prop := ∀ l, l < c.level → Stayed need l c.visits

/-- Visits, newest first, that end when the next begins, the newest at `time`. -/
def Consecutive : Nat → List Visit → Prop
  | _, [] => True
  | time, v :: vs => v.left = time ∧ v.entered ≤ v.left ∧ Consecutive v.entered vs

/-- The visits follow each other, and the last has led to the present level by `now`. -/
def Dated (c : Climb) (now : Nat) : Prop := Consecutive c.entered c.visits ∧ c.entered ≤ now

@[simp] theorem start_level : (start now).level = 0 := rfl

theorem soaked_start : Soaked need (start now) := by
  intro l hl
  rw [start_level] at hl
  exact absurd hl (Nat.not_lt_zero l)

theorem dated_start : Dated (start now) now := ⟨trivial, Nat.le_refl now⟩

theorem move_level (target : Nat) : (c.move target now).level = target := by
  unfold move
  split
  · rename_i heq
    exact heq.symm
  · rfl

theorem move_self : c.move c.level now = c := if_pos rfl

theorem move_ne {target : Nat} (h : target ≠ c.level) :
    c.move target now = ⟨target, now, ⟨c.level, c.entered, now⟩ :: c.visits⟩ := if_neg h

/-- A visit that is newer and higher does not matter. -/
theorem Stayed.cons {l : Nat} {visits : List Visit} (h : Stayed need l visits) {v : Visit}
    (hv : l < v.level) : Stayed need l (v :: visits) := by
  obtain ⟨newer, w, older, rfl, hlev, hlong, hnewer⟩ := h
  refine ⟨v :: newer, w, older, rfl, hlev, hlong, fun u hu => ?_⟩
  rcases List.mem_cons.mp hu with rfl | hu
  · exact hv
  · exact hnewer u hu

/-- **Permitted moves keep the stays below.** -/
theorem Soaked.move {target : Nat} (h : Soaked need c) (hmove : Permitted need c target now) :
    Soaked need (c.move target now) := by
  by_cases hsame : target = c.level
  · rw [hsame, move_self]
    exact h
  rw [move_ne hsame]
  intro l hl
  change l < target at hl
  obtain ⟨hone, hlong⟩ := hmove
  by_cases hat : l = c.level
  · -- the level that is left is below the new one, so the move is the step up
    have hup : target = c.level + 1 := by omega
    refine ⟨[], ⟨c.level, c.entered, now⟩, c.visits, rfl, hat.symm, ?_, ?_⟩
    · rw [hat]
      exact hlong hup
    · intro w hw
      cases hw
  · have hbel : l < c.level := by omega
    exact (h l hbel).cons hbel

theorem Dated.move {target before : Nat} (h : Dated c before) (hnow : before ≤ now) :
    Dated (c.move target now) now := by
  obtain ⟨hvis, hent⟩ := h
  by_cases hsame : target = c.level
  · rw [hsame, move_self]
    exact ⟨hvis, by omega⟩
  · rw [move_ne hsame]
    exact ⟨⟨rfl, by simpa using Nat.le_trans hent hnow, hvis⟩, Nat.le_refl now⟩

theorem Dated.later {before : Nat} (h : Dated c before) (hnow : before ≤ now) : Dated c now :=
  ⟨h.1, Nat.le_trans h.2 hnow⟩

/-- Of consecutive visits, the older ends before the newer begins. -/
theorem Consecutive.le {time : Nat} {newer older : List Visit} {v : Visit}
    (h : Consecutive time (newer ++ v :: older)) :
    v.left ≤ time ∧ v.entered ≤ v.left ∧ Consecutive v.entered older := by
  induction newer generalizing time with
  | nil =>
    obtain ⟨hleft, hent, holder⟩ := h
    exact ⟨Nat.le_of_eq hleft, hent, holder⟩
  | cons w newer ih =>
    obtain ⟨hleft, hent, hrest⟩ := h
    obtain ⟨hle, hstay, holder⟩ := ih hrest
    exact ⟨by omega, hstay, holder⟩

/-- **Two stays, one after the other.** Whoever stands above two levels in a row has left the lower
after its stay, then the upper after its own. -/
theorem Soaked.twice (h : Soaked need c) (hdt : Dated c now) {l : Nat} (hl : l + 1 < c.level) :
    ∃ low ∈ c.visits, ∃ high ∈ c.visits, low.level = l ∧ high.level = l + 1 ∧
      low.entered + need l ≤ low.left ∧ low.left ≤ high.entered ∧
      high.entered + need (l + 1) ≤ high.left ∧ high.left ≤ now := by
  obtain ⟨newer, high, older, hvis, hhigh, hhighLong, hnewer⟩ := h (l + 1) hl
  obtain ⟨_, low, _, hvis', hlow, hlowLong, -⟩ := h l (by omega)
  have hchain := hdt.1
  have hend := hdt.2
  rw [hvis] at hchain hvis'
  -- the last visit of the lower level is older than the last of the upper one
  have holder : low ∈ older := by
    by_contra hnot
    have hmem : low ∈ newer ++ high :: older := by
      rw [hvis']
      exact List.mem_append_right _ List.mem_cons_self
    rcases List.mem_append.mp hmem with hin | hin
    · have := hnewer low hin
      omega
    · rcases List.mem_cons.mp hin with heq | hin
      · rw [heq] at hlow
        omega
      · exact hnot hin
  obtain ⟨hhighEnd, -, hbef⟩ := hchain.le
  obtain ⟨newer'', older'', holder'⟩ := List.append_of_mem holder
  rw [holder'] at hbef
  obtain ⟨hlowEnd, -, -⟩ := hbef.le
  refine ⟨low, ?_, high, ?_, hlow, hhigh, hlowLong, hlowEnd, hhighLong, by omega⟩
  · rw [hvis]
    exact List.mem_append_right _ (List.mem_cons_of_mem _ holder)
  · rw [hvis]
    exact List.mem_append_right _ List.mem_cons_self

end Climb

end Ladder
