import Mathlib.Logic.Relation

/-!
# Runs of an executable step function

A system is a partial step function `step : σ → α → Option σ`: `none` when the action is not
enabled. `Reach step ok s0` is the set of states of its runs from `s0` in which every action `a`
taken in a state `s` meets `ok s a`; `fun _ _ => True` gives all runs. The guard is what a
property that only holds of some runs assumes of each step.

Results:
* `Reach.invariant`: what holds initially and is kept by each guarded step holds in every state
  of a guarded run; `Reach.invariant_of` also offers the step the run that led to it.
* `Reach.mono`: a weaker guard has more runs.
* `run_split`: a run keeps its guard, or what the guard is for is lost for good.
* `Reach.of_run`, `Reach.of_run_any`: evaluating a list of actions gives a run, so one run is a
  closed computation.
-/

namespace List

/-- A list that has grown by one. -/
theorem mem_snoc {α : Type*} {a b : α} {l : List α} : a ∈ l ++ [b] ↔ a ∈ l ∨ a = b := by
  rw [mem_append, mem_singleton]

end List

namespace Stepping

variable {σ α : Type}

/-- The states of the runs from `s0` whose steps all meet `ok`. -/
inductive Reach (step : σ → α → Option σ) (ok : σ → α → Prop) (s0 : σ) : σ → Prop
  | init : Reach step ok s0 s0
  | step {s s' : σ} {a : α} (hs : Reach step ok s0 s) (hok : ok s a) (h : step s a = some s') :
      Reach step ok s0 s'

/-- Every step of every run. -/
abbrev anyStep : σ → α → Prop := fun _ _ => True

variable {step : σ → α → Option σ} {ok ok' : σ → α → Prop} {s0 : σ}

/-- The step of an invariant may use the run that led to the state. -/
@[elab_as_elim]
theorem Reach.invariant_of {I : σ → Prop} {s : σ} (hs : Reach step ok s0 s) (h0 : I s0)
    (hstep : ∀ s a s', Reach step ok s0 s → I s → ok s a → step s a = some s' → I s') : I s := by
  induction hs with
  | init => exact h0
  | step hs hok h ih => exact hstep _ _ _ hs ih hok h

/-- **The invariant rule.** -/
@[elab_as_elim]
theorem Reach.invariant {I : σ → Prop} {s : σ} (hs : Reach step ok s0 s) (h0 : I s0)
    (hstep : ∀ s a s', I s → ok s a → step s a = some s' → I s') : I s :=
  Reach.invariant_of hs h0 fun s a s' _ => hstep s a s'

theorem Reach.mono (h : ∀ s a, ok s a → ok' s a) {s : σ} (hs : Reach step ok s0 s) :
    Reach step ok' s0 s := by
  induction hs with
  | init => exact .init
  | step _ hok hstep ih => exact ih.step (h _ _ hok) hstep

/-- Every guarded run is a run. -/
theorem Reach.any {s : σ} (hs : Reach step ok s0 s) : Reach step anyStep s0 s :=
  hs.mono fun _ _ _ => trivial

/-- A run may be continued by another. -/
theorem Reach.trans {s t : σ} (hs : Reach step ok s0 s) (ht : Reach step ok s t) :
    Reach step ok s0 t := by
  induction ht with
  | init => exact hs
  | step _ hok hstep ih => exact ih.step hok hstep

section Evaluate

variable (step) (ok) [∀ s a, Decidable (ok s a)]

/-- Take the actions in order; `none` when one of them is not enabled or misses the guard. -/
def run : σ → List α → Option σ
  | s, [] => some s
  | s, a :: as => if ok s a then (step s a).bind (run · as) else none

variable {step} {ok}

theorem Reach.of_run : ∀ {s t : σ} {as : List α}, run step ok s as = some t →
    Reach step ok s t
  | s, t, [], h => by
    simp only [run, Option.some.injEq] at h
    exact h ▸ .init
  | s, t, a :: as, h => by
    simp only [run] at h
    split at h
    · rename_i hok
      obtain ⟨u, hu, h⟩ := Option.bind_eq_some_iff.mp h
      exact (Reach.init.step hok hu).trans (Reach.of_run h)
    · exact absurd h (by simp)

/-- A property of the state a list of actions leads to, as a property of a reachable state. -/
theorem Reach.of_run_any {s : σ} {l : List α} {P : σ → Prop} [DecidablePred P]
    (h : (run step ok s l).any (fun t => decide (P t)) = true) :
    ∃ t, Reach step ok s t ∧ P t := by
  cases hr : run step ok s l with
  | none => rw [hr] at h; exact absurd h (by simp)
  | some t =>
    rw [hr, Option.any_some, decide_eq_true_eq] at h
    exact ⟨t, Reach.of_run hr, h⟩

theorem run_append (s : σ) (as bs : List α) :
    run step ok s (as ++ bs) = (run step ok s as).bind (run step ok · bs) := by
  induction as generalizing s with
  | nil => rfl
  | cons a as ih =>
    simp only [List.cons_append, run]
    split
    · simp only [ih, Option.bind_assoc]
    · rfl

/-- **A run keeps its guard, or it is spoilt for good**: where a step that misses the guard leads
from `I` to `J`, and nothing leads out of `J`. -/
theorem run_split {I J : σ → Prop} [∀ (s : σ) (a : α), Decidable (anyStep s a)]
    (hkept : ∀ s a s', I s → ok s a → step s a = some s' → I s')
    (hspoilt : ∀ s a s', I s → ¬ ok s a → step s a = some s' → J s')
    (hsty : ∀ s a s', J s → step s a = some s' → J s') {s t : σ} {as : List α}
    (hs : I s) (h : run step anyStep s as = some t) :
    (run step ok s as = some t ∧ I t) ∨ (run step ok s as ≠ some t ∧ J t) := by
  have hforever : ∀ (as : List α) (s : σ), J s → run step anyStep s as = some t → J t := by
    intro as
    induction as with
    | nil =>
      intro s hs h
      exact Option.some.inj h ▸ hs
    | cons a as ih =>
      intro s hs h
      rw [run, if_pos trivial] at h
      obtain ⟨u, hu, h⟩ := Option.bind_eq_some_iff.mp h
      exact ih u (hsty s a u hs hu) h
  induction as generalizing s with
  | nil =>
    obtain rfl := Option.some.inj h
    exact .inl ⟨rfl, hs⟩
  | cons a as ih =>
    rw [run, if_pos trivial] at h
    obtain ⟨u, hu, h⟩ := Option.bind_eq_some_iff.mp h
    by_cases hok : ok s a
    · rw [run, if_pos hok, hu, Option.bind_some]
      exact ih (hkept s a u hs hok hu) h
    · rw [run, if_neg hok]
      exact .inr ⟨by simp, hforever as u (hspoilt s a u hs hok hu) h⟩

/-- Properties of two states on one run, the second reached from the first. -/
theorem Reach.of_run_append {s : σ} {as bs : List α} {P Q : σ → Prop} [DecidablePred P]
    [DecidablePred Q] (h : (run step ok s as).any (fun t => decide (P t)) = true)
    (h' : (run step ok s (as ++ bs)).any (fun u => decide (Q u)) = true) :
    ∃ t u, Reach step ok s t ∧ Reach step ok t u ∧ P t ∧ Q u := by
  cases hr : run step ok s as with
  | none =>
    rw [hr] at h
    exact absurd h (by simp)
  | some t =>
    rw [hr, Option.any_some, decide_eq_true_eq] at h
    rw [run_append, hr, Option.bind_some] at h'
    obtain ⟨u, hu, hq⟩ := Reach.of_run_any h'
    exact ⟨t, u, Reach.of_run hr, hu, h, hq⟩

end Evaluate

end Stepping
