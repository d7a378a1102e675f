import Meowbox.Lib.Protocol

/-!
# Calls with their phases

`Phased` is the pool of `Pool.lean` in which each call carries the phase its instructions and
answers have taken it to. The phases record where the calls are and steer nothing, so a condition on
runs may speak of them: that no other call is between two of its instructions.

* `Phased.invariant`: an invariant of the store and the phases is kept by a run when the
  instructions that the protocol allows, under the guard, keep it; `Phased.invariant_from` begins
  anywhere.
-/

namespace Interleaved

variable {σ ε θ ι φ α : Type} {ρ : ι → Type}

/-- The phases after one of them changed, as a list. -/
theorem mem_set_cases {phases : List φ} {k : Nat} {y z : φ} (hz : z ∈ phases.set k y) :
    z = y ∨ ∃ m, m ≠ k ∧ phases[m]? = some z := by
  obtain ⟨m, hm⟩ := List.mem_iff_getElem?.mp hz
  rcases getElem?_set_cases hm with ⟨-, rfl⟩ | ⟨hne, hm⟩
  · exact .inl rfl
  · exact .inr ⟨m, hne, hm⟩

/-- A phase that stays as it is. -/
theorem set_getElem?_self {phases : List φ} {k : Nat} {y : φ} (hk : phases[k]? = some y) :
    phases.set k y = phases := by
  obtain ⟨hlt, rfl⟩ := List.getElem?_eq_some_iff.mp hk
  exact List.set_getElem_self hlt

/-- A store and the calls over it, each with its phase. -/
structure Phased (σ φ ι : Type) (ρ : ι → Type) (α : Type) where
  store : σ
  calls : List (φ × Prog ι ρ α)

namespace Phased

/-- The phases of the calls. -/
def phases (s : Phased σ φ ι ρ α) : List φ := s.calls.map Prod.fst

variable (S : Service σ ε θ ι ρ α) (T : Protocol φ ι ρ) (start : θ → φ)

/-- One step. -/
def step (s : Phased σ φ ι ρ α) : Event ε θ → Option (Phased σ φ ι ρ α)
  | .outside change => some { s with store := S.outside change s.store }
  | .call request => some { s with calls := s.calls ++ [(start request, S.program request)] }
  | .advance k =>
    match s.calls[k]? with
    | some (y, .ask i next) =>
      some ⟨(S.answer i s.store).2, s.calls.set k
        (T.after y i (S.answer i s.store).1, next (S.answer i s.store).1)⟩
    | some (_, .done _) => none
    | none => none

/-- The instruction a step performs. -/
def issued (s : Phased σ φ ι ρ α) : Event ε θ → Option (Nat × ι)
  | .advance k => (s.calls[k]?).bind fun c => c.2.next?.map fun i => (k, i)
  | _ => none

/-- The steps whose instruction, if they perform one, meets `G`: of the store, the phases, the
number of the call and the instruction. -/
def Within (G : σ → List φ → Nat → ι → Prop) (s : Phased σ φ ι ρ α) (a : Event ε θ) : Prop :=
  ∀ c ∈ s.issued a, G s.store s.phases c.1 c.2

instance (G : σ → List φ → Nat → ι → Prop) [∀ x l k i, Decidable (G x l k i)]
    (s : Phased σ φ ι ρ α) (a : Event ε θ) : Decidable (Within G s a) :=
  inferInstanceAs (Decidable (∀ c ∈ s.issued a, G s.store s.phases c.1 c.2))

variable {S} {T} {start} {s s' : Phased σ φ ι ρ α} {a : Event ε θ}

variable {G : σ → List φ → Nat → ι → Prop} {final : φ → α → Prop} {I : σ → List φ → Prop} {x₀ : σ}

/-- What every state of a guarded run keeps, from a state on. -/
theorem invariant_from {s₀ : Phased σ φ ι ρ α}
    (hprog : ∀ request, (S.program request).Follows T final (start request))
    (h0 : I s₀.store s₀.phases) (hfol : ∀ c ∈ s₀.calls, c.2.Follows T final c.1)
    (hout : ∀ change x l, I x l → I (S.outside change x) l)
    (hcall : ∀ request x l, I x l → I x (l ++ [start request]))
    (hask : ∀ x l k y i, I x l → l[k]? = some y → T.allows y i → G x l k i →
      I (S.answer i x).2 (l.set k (T.after y i (S.answer i x).1)))
    (hs : Stepping.Reach (step S T start) (Within G) s₀ s) :
    I s.store s.phases ∧ ∀ c ∈ s.calls, c.2.Follows T final c.1 := by
  induction hs with
  | init => exact ⟨h0, hfol⟩
  | @step s s' a _ hok hstep ih =>
    obtain ⟨hI, hcalls⟩ := ih
    cases a with
    | outside change =>
      cases hstep
      exact ⟨hout change _ _ hI, hcalls⟩
    | call request =>
      cases hstep
      refine ⟨?_, fun c hc => ?_⟩
      · simpa [phases] using hcall request _ _ hI
      · rcases List.mem_snoc.mp hc with hold | rfl
        · exact hcalls c hold
        · exact hprog request
    | advance k =>
      simp only [step] at hstep
      split at hstep
      · rename_i y i next hk
        cases hstep
        have hg : G s.store s.phases k i := hok (k, i) (by simp [issued, hk, Prog.next?])
        have hfol := hcalls _ (List.mem_of_getElem? hk)
        have hph : s.phases[k]? = some y := by simp [phases, hk]
        refine ⟨?_, fun c hc => ?_⟩
        · have hkept := hask _ _ k y i hI hph hfol.1 hg
          simpa [phases, List.map_set] using hkept
        · rcases List.mem_or_eq_of_mem_set hc with hold | rfl
          · exact hcalls c hold
          · exact hfol.2 _
      · exact absurd hstep (by simp)
      · exact absurd hstep (by simp)

/-- **The invariant rule.** -/
theorem invariant (hprog : ∀ request, (S.program request).Follows T final (start request))
    (h0 : I x₀ []) (hout : ∀ change x l, I x l → I (S.outside change x) l)
    (hcall : ∀ request x l, I x l → I x (l ++ [start request]))
    (hask : ∀ x l k y i, I x l → l[k]? = some y → T.allows y i → G x l k i →
      I (S.answer i x).2 (l.set k (T.after y i (S.answer i x).1)))
    (hs : Stepping.Reach (step S T start) (Within G) ⟨x₀, []⟩ s) :
    I s.store s.phases ∧ ∀ c ∈ s.calls, c.2.Follows T final c.1 :=
  invariant_from hprog h0 (fun c hc => absurd hc (by simp)) hout hcall hask hs

end Phased

end Interleaved
