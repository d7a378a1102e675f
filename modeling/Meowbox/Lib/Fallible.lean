import Meowbox.Lib.Provenance

/-!
# Programs that may throw

`Fallible ι ρ ε` are the programs over instructions `ι` that end with a result or throw an `ε`;
`attempt` turns the outcome of one into a value, which is what a `catch` block looks at.

* `performs_bind`, `justified_bind`, `returns_bind` and the lemmas beside them: what a program
  performs, on what grounds, and what it returns, composed from its parts.
* `safe_bind`: the same for what it guarantees while others run.
* `runs_bind`: what it comes to when no other runs.
-/

namespace Interleaved

variable {ι α β γ φ ε σ : Type} {ρ : ι → Type}

/-- A program that ends with an `α` or throws an `ε`. -/
abbrev Fallible (ι : Type) (ρ : ι → Type) (ε : Type) : Type → Type := ExceptT ε (Prog ι ρ)

namespace Fallible

/-- An instruction that does not fail. -/
def ask (i : ι) : Fallible ι ρ ε (ρ i) := ExceptT.mk (.ask i fun r => .done (.ok r))

/-- An instruction whose answer is an outcome. -/
def ask? (i : ι) (outcome : ρ i → Except ε α) : Fallible ι ρ ε α :=
  ExceptT.mk (.ask i fun r => .done (outcome r))

/-- `await p.catch(…)`: the outcome as a value. -/
def attempt (c : Fallible ι ρ ε α) : Fallible ι ρ ε (Except ε α) :=
  ExceptT.mk (c.run.bind fun r => .done (.ok r))

/-- An outcome as a program. -/
def ofExcept : Except ε α → Fallible ι ρ ε α
  | .ok a => pure a
  | .error e => throw e

/-! ### What a program performs -/

section Performs

variable {P : ι → Prop}

/-- Every instruction the program may perform meets `P`. -/
def Performs (P : ι → Prop) (c : Fallible ι ρ ε α) : Prop := c.run.Issues P

theorem performs_pure (a : α) : Performs P (pure a : Fallible ι ρ ε α) := trivial

theorem performs_throw (e : ε) : Performs P (throw e : Fallible ι ρ ε α) := trivial

theorem performs_ask {i : ι} (h : P i) : Performs P (ask i : Fallible ι ρ ε (ρ i)) :=
  ⟨h, fun _ => trivial⟩

theorem performs_ask? {i : ι} {outcome : ρ i → Except ε α} (h : P i) :
    Performs P (ask? i outcome) :=
  ⟨h, fun _ => trivial⟩

theorem performs_bind {c : Fallible ι ρ ε α} {f : α → Fallible ι ρ ε β} (hc : Performs P c)
    (hf : ∀ a, Performs P (f a)) : Performs P (c >>= f) := by
  refine Prog.issues_bind (fun r => ?_) hc
  cases r with
  | error e => trivial
  | ok a => exact hf a

theorem performs_attempt {c : Fallible ι ρ ε α} (hc : Performs P c) : Performs P (attempt c) := by
  refine Prog.issues_bind (fun r => ?_) hc
  trivial

theorem performs_ofExcept (e : Except ε α) :
    Performs P (ofExcept e : Fallible ι ρ ε α) := by
  cases e with
  | error e => trivial
  | ok a => trivial

end Performs

/-! ### What a program returns -/

section Returns

variable {pre : α → Prop} {post : β → Prop}

/-- What the program returns, when it does not throw, meets `post`. -/
def Returns (post : α → Prop) (c : Fallible ι ρ ε α) : Prop :=
  c.run.Returns fun r => ∀ a, r = .ok a → post a

theorem returns_any (c : Fallible ι ρ ε α) : Returns (fun _ => True) c :=
  Prog.returns_of_forall (fun _ _ _ => trivial) c.run

theorem returns_pure {b : β} (h : post b) : Returns post (pure b : Fallible ι ρ ε β) := by
  rintro a ⟨⟩
  exact h

theorem returns_bind {c : Fallible ι ρ ε α} {f : α → Fallible ι ρ ε β} (hc : Returns pre c)
    (hf : ∀ a, pre a → Returns post (f a)) : Returns post (c >>= f) := by
  refine Prog.returns_bind hc fun r hr => ?_
  cases r with
  | error e => exact fun _ h => nomatch h
  | ok a => exact hf a (hr a rfl)

theorem returns_attempt {c : Fallible ι ρ ε α} (hc : Returns pre c) :
    Returns (fun r : Except ε α => ∀ a, r = .ok a → pre a) (attempt c) := by
  refine Prog.returns_bind hc fun r hr => ?_
  rintro outcome ⟨⟩
  exact hr

end Returns

/-! ### On what grounds it performs it -/

section Justified

variable {teaches : (i : ι) → ρ i → Set φ} {P : Set φ → ι → Prop} {K : Set φ}

/-- Every instruction meets `P` on what the program knows when it performs it. -/
def Justified (teaches : (i : ι) → ρ i → Set φ) (P : Set φ → ι → Prop) (K : Set φ)
    (c : Fallible ι ρ ε α) : Prop := c.run.Justified teaches P K

theorem justified_pure (a : α) : Justified teaches P K (pure a : Fallible ι ρ ε α) := trivial

theorem justified_ask? {i : ι} {outcome : ρ i → Except ε α} (h : P K i) :
    Justified teaches P K (ask? i outcome) :=
  ⟨h, fun _ => trivial⟩

/-- What follows an instruction knows its answer. -/
theorem justified_ask_bind {i : ι} {f : ρ i → Fallible ι ρ ε β} (h : P K i)
    (hf : ∀ r, Justified teaches P (K ∪ teaches i r) (f r)) :
    Justified teaches P K (ask i >>= f) :=
  ⟨h, hf⟩

variable {c : Fallible ι ρ ε α}

theorem justified_bind_returns (hP : Growing P) {post : α → Prop} {f : α → Fallible ι ρ ε β}
    (hc : Justified teaches P K c) (hr : Returns post c)
    (hf : ∀ a, post a → Justified teaches P K (f a)) : Justified teaches P K (c >>= f) := by
  refine Prog.justified_bind_returns hP hc hr fun r hpost => ?_
  cases r with
  | error e => trivial
  | ok a => exact hf a (hpost a rfl)

theorem justified_bind (hP : Growing P) {f : α → Fallible ι ρ ε β} (hc : Justified teaches P K c)
    (hf : ∀ a, Justified teaches P K (f a)) :
    Justified teaches P K (c >>= f) :=
  justified_bind_returns hP hc (returns_any c) fun a _ => hf a

theorem justified_attempt (hP : Growing P) (hc : Justified teaches P K c) :
    Justified teaches P K (attempt c) := by
  refine Prog.justified_bind hP hc fun r => ?_
  trivial

theorem justified_of_performs {Q : ι → Prop} (h : ∀ K i, Q i → P K i) (hc : Performs Q c) :
    Justified teaches P K c :=
  Prog.justified_of_issues h hc

end Justified

/-! ### What it guarantees while others run -/

section Safe

variable {rely : σ → σ → Prop} {effect : (i : ι) → σ → ρ i → σ → Prop} {ok : σ → ι → Prop}
  {post : σ → Except ε α → Prop} {after : σ → Except ε β → Prop} {s : σ} {a : α}

theorem safe_pure (hpost : ∀ s', rely s s' → post s' (.ok a)) :
    Safe rely effect ok post (pure a : Fallible ι ρ ε α).run s := hpost

theorem safe_throw {e : ε} (hpost : ∀ s', rely s s' → post s' (.error e)) :
    Safe rely effect ok post (throw e : Fallible ι ρ ε α).run s := hpost

theorem safe_ask? {i : ι} {outcome : ρ i → Except ε α} (hok : ∀ s', rely s s' → ok s' i)
    (hpost : ∀ s' r s'', rely s s' → effect i s' r s'' → ∀ t, rely s'' t → post t (outcome r)) :
    Safe rely effect ok post (ask? i outcome).run s :=
  fun s' hs => ⟨hok s' hs, fun r s'' he => hpost s' r s'' hs he⟩

/-- **Sequencing**: where the first program ends, the second is safe; what it throws is passed
on. -/
theorem safe_bind (hrefl : ∀ s, rely s s) {Q : σ → Except ε α → Prop} {c : Fallible ι ρ ε α}
    {f : α → Fallible ι ρ ε β} (hc : Safe rely effect ok Q c.run s)
    (hok : ∀ s a, Q s (.ok a) → Safe rely effect ok after (f a).run s)
    (herr : ∀ s e, Q s (.error e) → ∀ s', rely s s' → after s' (.error e)) :
    Safe rely effect ok after (c >>= f).run s := by
  refine safe_seq hrefl (Safe.weaken (fun t r hr => ?_) hc)
  cases r with
  | error e => exact herr t e hr
  | ok a => exact hok t a hr

end Safe

/-! ### What it comes to by itself -/

section Runs

variable {answer : (i : ι) → σ → ρ i × σ} {s s₁ s' : σ}

/-- By itself the program comes to `r`, and takes `s` to `s'`. -/
def Runs (answer : (i : ι) → σ → ρ i × σ) (c : Fallible ι ρ ε α) (s : σ) (r : Except ε α)
    (s' : σ) : Prop :=
  c.run.alone (fun i s => some (answer i s)) s = some (r, s')

theorem runs_pure (a : α) : Runs answer (pure a : Fallible ι ρ ε α) s (.ok a) s := rfl

theorem runs_ask (i : ι) :
    Runs answer (ask i : Fallible ι ρ ε (ρ i)) s (.ok (answer i s).1) (answer i s).2 := rfl

theorem runs_ask? (i : ι) (outcome : ρ i → Except ε α) :
    Runs answer (ask? i outcome) s (outcome (answer i s).1) (answer i s).2 := rfl

/-- The parts of a program run one after the other. -/
theorem alone_bind {f : Except ε α → Prog ι ρ β} {r : Except ε α} {t : Option (β × σ)} :
    ∀ {p : Prog ι ρ (Except ε α)} {s : σ},
      p.alone (fun i s => some (answer i s)) s = some (r, s₁) →
        (f r).alone (fun i s => some (answer i s)) s₁ = t →
          (p.bind f).alone (fun i s => some (answer i s)) s = t
  | .done a, s, hp, hf => by
    cases hp
    exact hf
  | .ask i next, s, hp, hf => alone_bind (p := next (answer i s).1) hp hf

theorem runs_bind {c : Fallible ι ρ ε α} {f : α → Fallible ι ρ ε β} {a : α} {r : Except ε β}
    (hc : Runs answer c s (.ok a) s₁) (hf : Runs answer (f a) s₁ r s') :
    Runs answer (c >>= f) s r s' :=
  alone_bind hc hf

theorem runs_throw (e : ε) : Runs answer (throw e : Fallible ι ρ ε α) s (.error e) s := rfl

/-- What follows an error does not run. -/
theorem runs_error {c : Fallible ι ρ ε α} {f : α → Fallible ι ρ ε β} {e : ε}
    (hc : Runs answer c s (.error e) s') : Runs answer (c >>= f) s (.error e) s' :=
  alone_bind hc rfl

end Runs

end Fallible

end Interleaved
