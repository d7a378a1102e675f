import Meowbox.Lib.Pool
import Mathlib.Data.Set.Basic

/-!
# Where the arguments of an instruction come from

A program performs an instruction on values it was told earlier, in stores that may have changed
since. `Justified teaches P K p` says of a program that knows the facts `K` that each of its
instructions meets `P` on the facts known by then; an answer adds the facts it teaches. What is
known does not change when other programs run, so nothing is assumed of them.

* `Justified.mono`, `justified_bind_returns`, `justified_bind`, `justified_of_issues`: the rules for
  composing programs.
* `Reach.justified`: on a run, what the calls know is true of the past of the store, when every
  fact that was true of it stays so.
-/

namespace Interleaved

variable {σ ε θ ι α β φ : Type} {ρ : ι → Type}

/-- Who knows more may perform what it might before. -/
def Growing (P : Set φ → ι → Prop) : Prop := ∀ ⦃K K' : Set φ⦄ ⦃i : ι⦄, K ⊆ K' → P K i → P K' i

namespace Prog

variable (teaches : (i : ι) → ρ i → Set φ) (P : Set φ → ι → Prop)

/-- Every instruction meets `P` on what the program knows when it performs it. -/
def Justified : Set φ → Prog ι ρ α → Prop
  | _, done _ => True
  | K, ask i next => P K i ∧ ∀ r, (next r).Justified (K ∪ teaches i r)

variable {teaches} {P}

theorem Justified.mono (hP : Growing P) :
    ∀ {p : Prog ι ρ α} {K K' : Set φ}, K ⊆ K' → p.Justified teaches P K →
      p.Justified teaches P K'
  | done _, _, _, _, _ => trivial
  | ask _ _, _, _, hK, hp => ⟨hP hK hp.1, fun r =>
      Justified.mono hP (Set.union_subset_union_left _ hK) (hp.2 r)⟩

/-- **Sequencing**, when what the first program returns meets `post`. -/
theorem justified_bind_returns (hP : Growing P) {post : α → Prop} {f : α → Prog ι ρ β} :
    ∀ {p : Prog ι ρ α} {K : Set φ}, p.Justified teaches P K → p.Returns post →
      (∀ a, post a → (f a).Justified teaches P K) → (p.bind f).Justified teaches P K
  | done a, _, _, hr, hf => hf a hr
  | ask _ _, _, hp, hr, hf => ⟨hp.1, fun r => justified_bind_returns hP (hp.2 r) (hr r) fun a ha =>
      Justified.mono hP Set.subset_union_left (hf a ha)⟩

/-- **Sequencing.** -/
theorem justified_bind (hP : Growing P) {f : α → Prog ι ρ β} {p : Prog ι ρ α} {K : Set φ}
    (hp : p.Justified teaches P K) (hf : ∀ a, (f a).Justified teaches P K) :
    (p.bind f).Justified teaches P K :=
  justified_bind_returns hP hp (returns_of_forall (fun _ => trivial) p) fun a _ => hf a

/-- Instructions that need no facts. -/
theorem justified_of_issues {Q : ι → Prop} (h : ∀ K i, Q i → P K i) :
    ∀ {p : Prog ι ρ α} {K : Set φ}, p.Issues Q → p.Justified teaches P K
  | done _, _, _ => trivial
  | ask i _, K, hp => ⟨h K i hp.1, fun r => justified_of_issues h (hp.2 r)⟩

end Prog

variable {S : Service σ ε θ ι ρ α} {G : σ → ι → Prop} {s₀ s : Pool σ ι ρ α}
  {teaches : (i : ι) → ρ i → Set φ} {P : Set φ → ι → Prop} {I : σ → Prop} {T : σ → Set φ}

/-- **What the calls know is so.** `T` are the facts of a store and of its past: no step ends one
of them, and what an answer teaches is among them. -/
theorem Reach.justified (hP : Growing P)
    (hprog : ∀ request, (S.program request).Justified teaches P ∅)
    (hout : ∀ change x, I x → I (S.outside change x) ∧ T x ⊆ T (S.outside change x))
    (hans : ∀ i x, I x → G x i → P (T x) i → I (S.answer i x).2 ∧
      T x ⊆ T (S.answer i x).2 ∧ teaches i (S.answer i x).1 ⊆ T (S.answer i x).2)
    (hI : I s₀.store) (hcalls : s₀.calls = [])
    (hs : Stepping.Reach (Pool.step S) (Pool.Within G) s₀ s) :
    I s.store ∧ ∀ p ∈ s.calls, p.Justified teaches P (T s.store) := by
  induction hs with
  | init => exact ⟨hI, fun p hp => absurd hp (by rw [hcalls]; exact List.not_mem_nil)⟩
  | @step s s' a _ hok hstep ih =>
    obtain ⟨hI, hjust⟩ := ih
    cases a with
    | outside change =>
      cases hstep
      obtain ⟨hI', hT⟩ := hout change _ hI
      exact ⟨hI', fun p hp => (hjust p hp).mono hP hT⟩
    | call request =>
      cases hstep
      refine ⟨hI, fun p hp => ?_⟩
      rcases List.mem_snoc.mp hp with hold | rfl
      · exact hjust p hold
      · exact (hprog request).mono hP (Set.empty_subset _)
    | advance k =>
      simp only [Pool.step] at hstep
      split at hstep
      · rename_i i next hk
        cases hstep
        have hask := hjust _ (List.mem_of_getElem? hk)
        have hg : G s.store i := hok i (by
          simp only [Pool.issued, hk, Option.bind_some, Prog.next?, Option.mem_def])
        obtain ⟨hI', hT, hteach⟩ := hans i s.store hI hg hask.1
        refine ⟨hI', fun p hp => ?_⟩
        rcases List.mem_or_eq_of_mem_set hp with hold | rfl
        · exact (hjust p hold).mono hP hT
        · exact (hask.2 _).mono hP (Set.union_subset hT hteach)
      · exact absurd hstep (by simp)
      · exact absurd hstep (by simp)

end Interleaved
