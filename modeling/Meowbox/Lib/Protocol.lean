import Meowbox.Lib.Fallible

/-!
# Phases of programs

A protocol says which instructions a program may perform in a phase, and to which phase an answer
takes it. `Prog.Follows T final x p`: from the phase `x` on the program `p` keeps to the protocol
`T`, and its result suits the phase it ends in.

* `follows_bind` and the lemmas beside it: a program keeps to a protocol when its parts do.
* `Reach.follows_when`, `Reach.follows`: a run of a pool is a run of the phases of its calls, so that
  an invariant of the store and these phases needs to be kept by allowed instructions only.
-/

namespace Interleaved

variable {σ ε θ ι φ α β ω : Type} {ρ : ι → Type}

structure Protocol (φ ι : Type) (ρ : ι → Type) where
  allows : φ → ι → Prop
  after : φ → (i : ι) → ρ i → φ

namespace Prog

/-- The result of a program that has ended. -/
def result? : Prog ι ρ α → Option α
  | done a => some a
  | ask _ _ => none

/-- From the phase `x` on the program keeps to the protocol. -/
def Follows (T : Protocol φ ι ρ) (final : φ → α → Prop) : φ → Prog ι ρ α → Prop
  | x, done a => final x a
  | x, ask i next => T.allows x i ∧ ∀ r, (next r).Follows T final (T.after x i r)

variable {T : Protocol φ ι ρ} {final : φ → α → Prop} {x : φ}

/-- The next instruction is one the phase allows. -/
theorem Follows.allows_next {i : ι} : ∀ {p : Prog ι ρ α}, p.Follows T final x →
    p.next? = some i → T.allows x i
  | done _, _, hi => absurd hi (by simp [next?])
  | ask _ _, hp, hi => Option.some.inj hi ▸ hp.1

theorem follows_bind {last : φ → β → Prop} {f : α → Prog ι ρ β}
    (hf : ∀ y a, final y a → (f a).Follows T last y) :
    ∀ {p : Prog ι ρ α} {x : φ}, p.Follows T final x → (p.bind f).Follows T last x
  | done a, x, h => hf x a h
  | ask _ _, _, h => ⟨h.1, fun r => follows_bind hf (h.2 r)⟩

/-- A program whose instructions are allowed and change nothing about the phase. -/
theorem follows_of_issues {Q : ι → Prop} (hQ : ∀ i, Q i → T.allows x i ∧ ∀ r, T.after x i r = x)
    (hfin : ∀ a, final x a) : ∀ {p : Prog ι ρ α}, p.Issues Q → p.Follows T final x
  | done a, _ => hfin a
  | ask i next, hp => by
    obtain ⟨halw, haft⟩ := hQ i hp.1
    refine ⟨halw, fun r => ?_⟩
    rw [haft r]
    exact follows_of_issues hQ hfin (hp.2 r)

theorem Follows.weaken {last : φ → α → Prop} (h : ∀ y a, final y a → last y a) :
    ∀ {p : Prog ι ρ α} {x : φ}, p.Follows T final x → p.Follows T last x
  | done a, x, hp => h x a hp
  | ask _ _, _, hp => ⟨hp.1, fun r => Follows.weaken h (hp.2 r)⟩

end Prog

/-! ### Programs that perform some instructions only -/

section Restrict

variable {T : Protocol φ ι ρ} {Q : ι → Prop} {final : φ → α → Prop}

/-- The protocol, for programs that perform only instructions in `Q`. -/
def Protocol.restrict (T : Protocol φ ι ρ) (Q : ι → Prop) : Protocol φ ι ρ where
  allows y i := T.allows y i ∧ Q i
  after := T.after

theorem Prog.Follows.restrict : ∀ {p : Prog ι ρ α} {x : φ}, p.Follows T final x → p.Issues Q →
    p.Follows (T.restrict Q) final x
  | done _, _, hp, _ => hp
  | ask _ _, _, hp, hq => ⟨⟨hp.1, hq.1⟩, fun r => (hp.2 r).restrict (hq.2 r)⟩

end Restrict

/-! ### Programs over some of the instructions -/

section Along

variable {κ : Type} {f : κ → ι} {T : Protocol φ ι ρ} {final : φ → α → Prop}

/-- The protocol, for programs over the instructions `f` names. -/
def Protocol.along (T : Protocol φ ι ρ) (f : κ → ι) : Protocol φ κ fun k => ρ (f k) where
  allows y k := T.allows y (f k)
  after y k := T.after y (f k)

theorem Prog.Follows.along : ∀ {p : Prog κ (fun k => ρ (f k)) α} {x : φ},
    p.Follows (T.along f) final x → (p.along f).Follows T final x
  | done _, _, hp => hp
  | ask _ _, _, hp => ⟨hp.1, fun r => (hp.2 r).along⟩

/-- A program over some of the instructions, where `g` says what its phases are among those of all
the programs. -/
theorem Prog.Follows.embed {ψ : Type} {U : Protocol ψ ι ρ} {T : Protocol φ κ fun k => ρ (f k)}
    {last : ψ → α → Prop} (g : φ → ψ) (hallows : ∀ x k, T.allows x k → U.allows (g x) (f k))
    (haft : ∀ x k r, U.after (g x) (f k) r = g (T.after x k r))
    (hlast : ∀ x a, final x a → last (g x) a) : ∀ {p : Prog κ (fun k => ρ (f k)) α} {x : φ},
      p.Follows T final x → (p.along f).Follows U last (g x)
  | done a, x, hp => hlast x a hp
  | ask k next, x, hp => by
    refine ⟨hallows x k hp.1, fun r => ?_⟩
    rw [haft]
    exact (hp.2 r).embed g hallows haft hlast

end Along

/-! ### Programs of two kinds -/

section Sum

variable {ψ : Type} {T : Protocol φ ι ρ} {U : Protocol ψ ι ρ} {final : φ → α → Prop}
  {last : ψ → α → Prop}

/-- Each program keeps to the protocol of its kind. -/
def Protocol.sum (T : Protocol φ ι ρ) (U : Protocol ψ ι ρ) : Protocol (φ ⊕ ψ) ι ρ where
  allows := Sum.elim T.allows U.allows
  after x i r := x.map (fun y => T.after y i r) fun y => U.after y i r

theorem Prog.Follows.inl : ∀ {p : Prog ι ρ α} {x : φ}, p.Follows T final x →
    p.Follows (T.sum U) (Sum.elim final last) (.inl x)
  | done _, _, hp => hp
  | ask _ _, _, hp => ⟨hp.1, fun r => (hp.2 r).inl⟩

theorem Prog.Follows.inr : ∀ {p : Prog ι ρ α} {x : ψ}, p.Follows U last x →
    p.Follows (T.sum U) (Sum.elim final last) (.inr x)
  | done _, _, hp => hp
  | ask _ _, _, hp => ⟨hp.1, fun r => (hp.2 r).inr⟩

end Sum

namespace Fallible

variable {T : Protocol φ ι ρ} {final : φ → Except ω α → Prop} {last : φ → Except ω β → Prop} {x : φ}

/-- From the phase `x` on the program keeps to the protocol. -/
def Follows (T : Protocol φ ι ρ) (final : φ → Except ω α → Prop) (x : φ)
    (c : Fallible ι ρ ω α) : Prop := c.run.Follows T final x

theorem follows_pure {a : α} (h : final x (.ok a)) :
    Follows T final x (pure a : Fallible ι ρ ω α) := h

theorem follows_throw {e : ω} (h : final x (.error e)) :
    Follows T final x (throw e : Fallible ι ρ ω α) := h

theorem follows_ofExcept {e : Except ω α} (h : final x e) :
    Follows T final x (ofExcept e : Fallible ι ρ ω α) := by
  cases e with
  | error e => exact h
  | ok a => exact h

/-- What follows an outcome knows it. -/
theorem follows_ofExcept_bind {e : Except ω α} {f : α → Fallible ι ρ ω β}
    (hok : ∀ a, e = .ok a → Follows T last x (f a))
    (herr : ∀ err, e = .error err → last x (.error err)) :
    Follows T last x (ofExcept e >>= f) := by
  cases e with
  | error err => exact herr err rfl
  | ok a => exact hok a rfl

theorem follows_ask {i : ι} {f : ρ i → Fallible ι ρ ω β} (h : T.allows x i)
    (hf : ∀ r, Follows T last (T.after x i r) (f r)) : Follows T last x (ask i >>= f) :=
  ⟨h, hf⟩

/-- A program that ends with an instruction. -/
theorem follows_ask_end {i : ι} {final : φ → Except ω (ρ i) → Prop} (h : T.allows x i)
    (hfin : ∀ r, final (T.after x i r) (.ok r)) :
    Follows T final x (ask i : Fallible ι ρ ω (ρ i)) :=
  ⟨h, hfin⟩

theorem follows_ask? {i : ι} {outcome : ρ i → Except ω α} {f : α → Fallible ι ρ ω β}
    (h : T.allows x i) (hok : ∀ r a, outcome r = .ok a → Follows T last (T.after x i r) (f a))
    (herr : ∀ r e, outcome r = .error e → last (T.after x i r) (.error e)) :
    Follows T last x (ask? i outcome >>= f) := by
  refine ⟨h, fun r => ?_⟩
  show Prog.Follows T last _ (ExceptT.bindCont f (outcome r))
  cases ho : outcome r with
  | error e => exact herr r e ho
  | ok a => exact hok r a ho

theorem follows_ask?_end {i : ι} {outcome : ρ i → Except ω α} (h : T.allows x i)
    (hfin : ∀ r, final (T.after x i r) (outcome r)) : Follows T final x (ask? i outcome) :=
  ⟨h, hfin⟩

theorem follows_bind {c : Fallible ι ρ ω α} {f : α → Fallible ι ρ ω β} (hc : Follows T final x c)
    (hok : ∀ y a, final y (.ok a) → Follows T last y (f a))
    (herr : ∀ y e, final y (.error e) → last y (.error e)) : Follows T last x (c >>= f) := by
  refine Prog.follows_bind (fun y r hr => ?_) hc
  cases r with
  | error e => exact herr y e hr
  | ok a => exact hok y a hr

/-- What follows an attempt looks at its outcome. -/
theorem follows_attempt {c : Fallible ι ρ ω α} {f : Except ω α → Fallible ι ρ ω β}
    (hc : Follows T final x c) (hf : ∀ y r, final y r → Follows T last y (f r)) :
    Follows T last x (attempt c >>= f) := by
  have hrun : Follows T (fun y r => ∃ outcome, r = .ok outcome ∧ final y outcome) x (attempt c) := by
    refine Prog.follows_bind (fun y r hr => ?_) hc
    exact ⟨r, rfl, hr⟩
  refine follows_bind hrun ?_ ?_
  · rintro y _ ⟨_, ⟨⟩, h⟩
    exact hf y _ h
  · rintro y e ⟨_, h, -⟩
    exact nomatch h

end Fallible

/-! ## Runs -/

/-- Every call keeps to the protocol from its phase on. -/
def Aligned (T : Protocol φ ι ρ) (final : φ → α → Prop) (phases : List φ)
    (calls : List (Prog ι ρ α)) : Prop :=
  phases.length = calls.length ∧
    ∀ (k : Nat) (p : Prog ι ρ α), calls[k]? = some p →
      ∃ y, phases[k]? = some y ∧ p.Follows T final y

variable {S : Service σ ε θ ι ρ α} {G : σ → ι → Prop} {T : Protocol φ ι ρ}
  {final : φ → α → Prop} {I : σ → List φ → Prop} {x₀ : σ} {s : Pool σ ι ρ α}
  {phases : List φ} {calls : List (Prog ι ρ α)}

theorem Aligned.append (h : Aligned T final phases calls) {y : φ} {p : Prog ι ρ α}
    (hp : p.Follows T final y) : Aligned T final (phases ++ [y]) (calls ++ [p]) := by
  obtain ⟨hlen, hall⟩ := h
  refine ⟨by rw [List.length_append, List.length_append, hlen]; rfl, fun k q hk => ?_⟩
  rcases Nat.lt_or_ge k calls.length with hlt | hge
  · rw [List.getElem?_append_left hlt] at hk
    rw [List.getElem?_append_left (hlen ▸ hlt)]
    exact hall k q hk
  · rw [List.getElem?_append_right hge, List.getElem?_singleton] at hk
    obtain ⟨hzero, hq⟩ := Option.ite_none_right_eq_some.mp hk
    cases hq
    refine ⟨y, ?_, hp⟩
    rw [List.getElem?_append_right (hlen ▸ hge), hlen, hzero]
    rfl

theorem Aligned.set (h : Aligned T final phases calls) (k : Nat) {y : φ} {p : Prog ι ρ α}
    (hp : p.Follows T final y) : Aligned T final (phases.set k y) (calls.set k p) := by
  obtain ⟨hlen, hall⟩ := h
  refine ⟨by rw [List.length_set, List.length_set, hlen], fun m q hm => ?_⟩
  by_cases hkm : k = m
  · subst hkm
    have hlt : k < calls.length := by
      have hset := (List.getElem?_eq_some_iff.mp hm).1
      rwa [List.length_set] at hset
    rw [List.getElem?_set_self hlt] at hm
    cases hm
    exact ⟨y, List.getElem?_set_self (hlen ▸ hlt), hp⟩
  · rw [List.getElem?_set_ne hkm] at hm
    rw [List.getElem?_set_ne hkm]
    exact hall m q hm

/-- The phases after one of them changed. -/
theorem getElem?_set_cases {k m : Nat} {y z : φ} (h : (phases.set k y)[m]? = some z) :
    (m = k ∧ z = y) ∨ (m ≠ k ∧ phases[m]? = some z) := by
  rw [List.getElem?_set] at h
  split at h
  · rename_i hkm
    split at h
    · cases h
      exact .inl ⟨hkm.symm, rfl⟩
    · exact absurd h (by simp)
  · rename_i hkm
    exact .inr ⟨fun hmk => hkm hmk.symm, h⟩

/-- A phase there is stays there, when the one that changed passes it on. -/
theorem exists_mem_set {P : φ → Prop} {k : Nat} {y z : φ} (h : ∃ x ∈ phases, P x)
    (hk : phases[k]? = some y) (hyz : P y → P z) : ∃ x ∈ phases.set k z, P x := by
  obtain ⟨x, hx, hP⟩ := h
  obtain ⟨m, hm⟩ := List.mem_iff_getElem?.mp hx
  by_cases hmk : m = k
  · subst hmk
    rw [hk] at hm
    cases hm
    have hset : (phases.set m z)[m]? = some z := by
      rw [List.getElem?_set_self', hk]
      rfl
    exact ⟨z, List.mem_of_getElem? hset, hyz hP⟩
  · have hset : (phases.set k z)[m]? = some x := by rwa [List.getElem?_set_ne (Ne.symm hmk)]
    exact ⟨x, List.mem_of_getElem? hset, hP⟩

/-- The phases with one more. -/
theorem getElem?_append_cases {m : Nat} {y z : φ} (h : (phases ++ [y])[m]? = some z) :
    (m = phases.length ∧ z = y) ∨ (m ≠ phases.length ∧ phases[m]? = some z) := by
  rcases Nat.lt_or_ge m phases.length with hlt | hge
  · rw [List.getElem?_append_left hlt] at h
    exact .inr ⟨by omega, h⟩
  · rw [List.getElem?_append_right hge, List.getElem?_singleton] at h
    obtain ⟨hzero, hz⟩ := Option.ite_none_right_eq_some.mp h
    cases hz
    exact .inl ⟨by omega, rfl⟩

/-- **A run of the calls is a run of their phases**, with a guard that may look at every call. -/
theorem Reach.follows_when {ok : Pool σ ι ρ α → Event ε θ → Prop} (start : θ → φ)
    (hprog : ∀ request, (S.program request).Follows T final (start request))
    (h0 : I x₀ []) (hout : ∀ change x phases, I x phases → I (S.outside change x) phases)
    (hcall : ∀ request x phases, I x phases → I x (phases ++ [start request]))
    (hask : ∀ (s : Pool σ ι ρ α) phases k y i next,
      Stepping.Reach (Pool.step S) ok ⟨x₀, []⟩ s → ok s (.advance k) →
        Aligned T final phases s.calls → s.calls[k]? = some (.ask i next) → I s.store phases →
          phases[k]? = some y → T.allows y i →
            I (S.answer i s.store).2 (phases.set k (T.after y i (S.answer i s.store).1)))
    (hs : Stepping.Reach (Pool.step S) ok ⟨x₀, []⟩ s) :
    ∃ phases, I s.store phases ∧ Aligned T final phases s.calls := by
  induction hs with
  | init => exact ⟨[], h0, rfl, fun k p hk => absurd hk (by simp)⟩
  | @step s s' a hrc hok hstep ih =>
    obtain ⟨phases, hI, hcalls⟩ := ih
    cases a with
    | outside change =>
      cases hstep
      exact ⟨phases, hout change _ _ hI, hcalls⟩
    | call request =>
      cases hstep
      exact ⟨_, hcall request _ _ hI, hcalls.append (hprog request)⟩
    | advance k =>
      simp only [Pool.step] at hstep
      split at hstep
      · rename_i i next hk
        cases hstep
        obtain ⟨y, hy, halw, hnext⟩ := hcalls.2 k _ hk
        exact ⟨_, hask s phases k y i next hrc hok hcalls hk hI hy halw,
          hcalls.set k (hnext _)⟩
      · exact absurd hstep (by simp)
      · exact absurd hstep (by simp)

/-- **A run of the calls is a run of their phases.** -/
theorem Reach.follows (start : θ → φ)
    (hprog : ∀ request, (S.program request).Follows T final (start request))
    (h0 : I x₀ []) (hout : ∀ change x phases, I x phases → I (S.outside change x) phases)
    (hcall : ∀ request x phases, I x phases → I x (phases ++ [start request]))
    (hask : ∀ x phases k y i,
      (∃ calls, Stepping.Reach (Pool.step S) (Pool.Within G) ⟨x₀, []⟩ ⟨x, calls⟩) →
        I x phases → phases[k]? = some y → T.allows y i → G x i →
          I (S.answer i x).2 (phases.set k (T.after y i (S.answer i x).1)))
    (hs : Stepping.Reach (Pool.step S) (Pool.Within G) ⟨x₀, []⟩ s) :
    ∃ phases, I s.store phases ∧ Aligned T final phases s.calls := by
  refine Reach.follows_when start hprog h0 hout hcall
    (fun s phases k y i next hrc hok _ hk hI hy halw => ?_) hs
  have hg : G s.store i := hok i (by
    simp only [Pool.issued, hk, Option.bind_some, Prog.next?, Option.mem_def])
  exact hask s.store phases k y i ⟨s.calls, hrc⟩ hI hy halw hg

end Interleaved
