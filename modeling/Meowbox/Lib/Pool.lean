import Meowbox.Lib.Interleaving
import Meowbox.Lib.Runs

/-!
# Calls of a service over one store

A service answers instructions against a store; a request starts a program over those
instructions, and the store may also change from outside. `Pool` is a store with every call made
so far and what is left of its program. A step changes the store from outside, starts a call, or
lets one call perform its next instruction, so that other calls may run between any two
instructions of a call. A call that is abandoned is one that is never advanced again.

Results:
* `step_store`, `step_calls`: what a step does to the store and to the calls.
* `Within`: a condition on the instructions of a run, as a guard on its steps.
* `Reach.within_issues`: the instructions of a run are those the programs promise.
* `Reach.store_within`: a relation that holds across every change of the store from outside and
  across every guarded instruction holds between the stores of any two states of a guarded run.
-/

namespace Interleaved

variable {σ ε θ ι α : Type} {ρ : ι → Type}

/-- What a service does with a request, an instruction and a change from outside. -/
structure Service (σ ε θ ι : Type) (ρ : ι → Type) (α : Type) where
  program : θ → Prog ι ρ α
  answer : (i : ι) → σ → ρ i × σ
  outside : ε → σ → σ

/-- A store and the calls over it. -/
structure Pool (σ ι : Type) (ρ : ι → Type) (α : Type) where
  store : σ
  calls : List (Prog ι ρ α)

inductive Event (ε θ : Type)
  | outside (change : ε)
  | call (request : θ)
  | advance (i : Nat)

namespace Pool

variable (S : Service σ ε θ ι ρ α)

/-- One step. -/
def step (s : Pool σ ι ρ α) : Event ε θ → Option (Pool σ ι ρ α)
  | .outside change => some { s with store := S.outside change s.store }
  | .call request => some { s with calls := s.calls ++ [S.program request] }
  | .advance i =>
    match s.calls[i]? with
    | some (.ask instr next) =>
      some ⟨(S.answer instr s.store).2, s.calls.set i (next (S.answer instr s.store).1)⟩
    | some (.done _) => none
    | none => none

/-- The instruction a step performs. -/
def issued (s : Pool σ ι ρ α) : Event ε θ → Option ι
  | .advance i => (s.calls[i]?).bind Prog.next?
  | _ => none

variable {S} {s s' : Pool σ ι ρ α} {a : Event ε θ}

/-- **The store across a step.** -/
theorem step_store (h : step S s a = some s') :
    (∃ change, a = .outside change ∧ s'.store = S.outside change s.store) ∨
      (s.issued a = none ∧ s'.store = s.store) ∨
      ∃ instr, s.issued a = some instr ∧ s'.store = (S.answer instr s.store).2 := by
  cases a with
  | outside change =>
    cases h
    exact .inl ⟨change, rfl, rfl⟩
  | call request =>
    cases h
    exact .inr (.inl ⟨rfl, rfl⟩)
  | advance i =>
    simp only [step] at h
    split at h
    · rename_i instr next hc
      cases h
      exact .inr (.inr ⟨instr, by simp only [issued, hc, Option.bind_some, Prog.next?], rfl⟩)
    · exact absurd h (by simp)
    · exact absurd h (by simp)

/-- An instruction a step issues is performed. -/
theorem store_of_issued {instr : ι} (h : step S s a = some s') (hi : s.issued a = some instr) :
    s'.store = (S.answer instr s.store).2 := by
  rcases step_store h with ⟨change, rfl, -⟩ | ⟨hn, -⟩ | ⟨other, ho, hsto⟩
  · exact absurd hi (by simp [issued])
  · rw [hn] at hi
    exact absurd hi (by simp)
  · rw [ho] at hi
    cases hi
    exact hsto

/-- **The calls across a step**: what every call promises to perform stays promised, and what a step
performs was. -/
theorem step_calls {P : ι → Prop} (h : step S s a = some s')
    (hcalls : ∀ p ∈ s.calls, p.Issues P) (hnew : ∀ request, a = .call request →
      (S.program request).Issues P) :
    (∀ p ∈ s'.calls, p.Issues P) ∧ ∀ instr ∈ s.issued a, P instr := by
  cases a with
  | outside change =>
    cases h
    exact ⟨hcalls, fun _ hi => absurd hi (by simp [issued])⟩
  | call request =>
    cases h
    refine ⟨fun p hp => ?_, fun _ hi => absurd hi (by simp [issued])⟩
    rcases List.mem_snoc.mp hp with hold | rfl
    · exact hcalls p hold
    · exact hnew request rfl
  | advance i =>
    simp only [step] at h
    split at h
    · rename_i instr next hc
      cases h
      have hask := hcalls _ (List.mem_of_getElem? hc)
      refine ⟨fun p hp => ?_, fun other ho => ?_⟩
      · rcases List.mem_or_eq_of_mem_set hp with hold | rfl
        · exact hcalls p hold
        · exact hask.2 _
      · simp only [issued, hc, Option.bind_some, Prog.next?, Option.mem_def,
          Option.some.injEq] at ho
        exact ho ▸ hask.1
    · exact absurd h (by simp)
    · exact absurd h (by simp)

/-- The steps whose instruction, if they perform one, meets `G` in the store it finds. -/
def Within (G : σ → ι → Prop) (s : Pool σ ι ρ α) (a : Event ε θ) : Prop :=
  ∀ instr ∈ s.issued a, G s.store instr

instance (G : σ → ι → Prop) [∀ s i, Decidable (G s i)] (s : Pool σ ι ρ α) (a : Event ε θ) :
    Decidable (Within G s a) :=
  inferInstanceAs (Decidable (∀ instr ∈ s.issued a, G s.store instr))

end Pool

variable {S : Service σ ε θ ι ρ α} {G : σ → ι → Prop} {s₀ s : Pool σ ι ρ α}

/-- **What the programs promise to perform is all that runs perform.** -/
theorem Reach.within_issues {P : ι → Prop} (hprog : ∀ request, (S.program request).Issues P)
    (h0 : ∀ p ∈ s₀.calls, p.Issues P)
    (hs : Stepping.Reach (Pool.step S) (Pool.Within G) s₀ s) :
    (∀ p ∈ s.calls, p.Issues P) ∧
      Stepping.Reach (Pool.step S) (Pool.Within fun x i => G x i ∧ P i) s₀ s := by
  induction hs with
  | init => exact ⟨h0, .init⟩
  | step _ hok hstep ih =>
    obtain ⟨hcalls, hrc⟩ := ih
    obtain ⟨hcalls', hiss⟩ := Pool.step_calls hstep hcalls fun request _ => hprog request
    exact ⟨hcalls', hrc.step (fun i hi => ⟨hok i hi, hiss i hi⟩) hstep⟩

/-- **What holds across guarded steps holds across guarded runs.** -/
theorem Reach.store_within (R : σ → σ → Prop) (hrefl : ∀ x, R x x)
    (htrans : ∀ x y z, R x y → R y z → R x z) (hout : ∀ change x, R x (S.outside change x))
    (hans : ∀ instr x, G x instr → R x (S.answer instr x).2)
    (hs : Stepping.Reach (Pool.step S) (Pool.Within G) s₀ s) : R s₀.store s.store := by
  induction hs with
  | init => exact hrefl _
  | step _ hok hstep ih =>
    refine htrans _ _ _ ih ?_
    rcases Pool.step_store hstep with ⟨change, -, hsto⟩ | ⟨-, hsto⟩ | ⟨instr, hi, hsto⟩
    · rw [hsto]
      exact hout change _
    · rw [hsto]
      exact hrefl _
    · rw [hsto]
      exact hans instr _ (hok instr hi)

end Interleaved
