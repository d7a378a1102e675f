import Meowbox.Lib.Protocol

/-!
# Programs that run by themselves

`Ends answer c s post`: when no other program runs, `c` comes from `s` to a result and a state that
meet `post`. The rules go by the structure of the program, as those of a Hoare logic do.

* `ends_bind`, `ends_attempt`, `ends_each`: sequencing, `catch`, and loops with an invariant.
* `Ends.of_runs`: what a program comes to is what it is proved to come to.
* `follows_each`: a loop keeps to a protocol when its body does.
* `alone_along`: a program over a part of the state.
-/

namespace Interleaved

variable {ι α β φ ε σ : Type} {ρ : ι → Type}

namespace Fallible

/-- `for (const b of bs) await f(b)`. -/
def each (f : β → Fallible ι ρ ε Unit) : List β → Fallible ι ρ ε Unit
  | [] => pure ()
  | b :: bs => do
    f b
    each f bs

/-- A loop, when its body goes from the phase to the phase. -/
theorem follows_each {T : Protocol φ ι ρ} (final : φ → Except ε Unit → Prop) {x : φ}
    {f : β → Fallible ι ρ ε Unit} (hfin : final x (.ok ())) :
    ∀ {bs : List β}, (∀ b ∈ bs, Follows T (fun y r => final y r ∧ (r = .ok () → y = x)) x (f b)) →
      Follows T final x (each f bs)
  | [], _ => hfin
  | b :: bs, hbody => by
    refine follows_bind (hbody b (.head _)) ?_ ?_
    · rintro y _ ⟨-, hy⟩
      rw [hy rfl]
      exact follows_each final hfin fun c hc => hbody c (.tail _ hc)
    · rintro y e ⟨h, -⟩
      exact h

section Ends

variable {answer : (i : ι) → σ → ρ i × σ} {s : σ} {post : Except ε α → σ → Prop}
  {after : Except ε β → σ → Prop}

/-- By itself the program comes to a result and a state that meet `post`. -/
def Ends (answer : (i : ι) → σ → ρ i × σ) (c : Fallible ι ρ ε α) (s : σ)
    (post : Except ε α → σ → Prop) : Prop :=
  ∃ r s', Runs answer c s r s' ∧ post r s'

variable {c : Fallible ι ρ ε α}

theorem Ends.of_runs {r : Except ε α} {s' : σ} (h : Ends answer c s post)
    (hruns : Runs answer c s r s') : post r s' := by
  obtain ⟨r', t, hr, hpost⟩ := h
  rw [Runs, hruns] at hr
  cases hr
  exact hpost

theorem Ends.weaken {last : Except ε α → σ → Prop} (hc : Ends answer c s post)
    (h : ∀ r s', post r s' → last r s') : Ends answer c s last := by
  obtain ⟨r, s', hruns, hpost⟩ := hc
  exact ⟨r, s', hruns, h r s' hpost⟩

theorem ends_pure {a : α} (h : post (.ok a) s) :
    Ends answer (pure a : Fallible ι ρ ε α) s post := ⟨_, _, runs_pure a, h⟩

theorem ends_throw {e : ε} (h : post (.error e) s) :
    Ends answer (throw e : Fallible ι ρ ε α) s post := ⟨_, _, runs_throw e, h⟩

/-- **Sequencing**: what follows a result starts where it left off. -/
theorem ends_bind {f : α → Fallible ι ρ ε β}
    (hc : Ends answer c s fun r s' => match r with | .ok a => Ends answer (f a) s' after | .error e => after (.error e) s') :
    Ends answer (c >>= f) s after := by
  obtain ⟨r, s', hruns, hr⟩ := hc
  cases r with
  | error e => exact ⟨_, s', runs_error hruns, hr⟩
  | ok a =>
    obtain ⟨r', t, hf, hpost⟩ := hr
    exact ⟨r', t, runs_bind hruns hf, hpost⟩

/-- What follows an instruction knows its answer. -/
theorem ends_ask {i : ι} {f : ρ i → Fallible ι ρ ε β}
    (h : Ends answer (f (answer i s).1) (answer i s).2 after) :
    Ends answer (ask i >>= f) s after :=
  ends_bind ⟨_, _, runs_ask i, h⟩

theorem ends_ask? {i : ι} {outcome : ρ i → Except ε α} {f : α → Fallible ι ρ ε β}
    (hok : ∀ a, outcome (answer i s).1 = .ok a → Ends answer (f a) (answer i s).2 after)
    (herr : ∀ e, outcome (answer i s).1 = .error e → after (.error e) (answer i s).2) :
    Ends answer (ask? i outcome >>= f) s after := by
  refine ends_bind ⟨_, _, runs_ask? i outcome, ?_⟩
  cases ho : outcome (answer i s).1 with
  | error e => exact herr e ho
  | ok a => exact hok a ho

theorem ends_ask?_end {i : ι} {outcome : ρ i → Except ε α}
    (h : post (outcome (answer i s).1) (answer i s).2) :
    Ends answer (ask? i outcome) s post := ⟨_, _, runs_ask? i outcome, h⟩

theorem ends_ofExcept_bind {e : Except ε α} {f : α → Fallible ι ρ ε β}
    (hok : ∀ a, e = .ok a → Ends answer (f a) s after)
    (herr : ∀ err, e = .error err → after (.error err) s) :
    Ends answer (ofExcept e >>= f) s after := by
  cases e with
  | error err => exact ends_bind (ends_throw (herr err rfl))
  | ok a => exact ends_bind (ends_pure (hok a rfl))

/-- `try`: its outcome is a value to what follows. -/
theorem ends_attempt {f : Except ε α → Fallible ι ρ ε β}
    (hc : Ends answer c s fun r s' => Ends answer (f r) s' after) :
    Ends answer (attempt c >>= f) s after := by
  obtain ⟨r, s', hruns, t, s'', hf, hpost⟩ := hc
  have hatt : Runs answer (attempt c) s (.ok r) s' := alone_bind hruns rfl
  exact ⟨t, s'', runs_bind hatt hf, hpost⟩

/-- **Loops**: `inv` holds before each turn, of the elements that are left; an error ends the loop
with `after`. -/
theorem ends_each {f : β → Fallible ι ρ ε Unit} (inv : List β → σ → Prop)
    {after : Except ε Unit → σ → Prop} (hend : ∀ s, inv [] s → after (.ok ()) s)
    (hbody : ∀ b bs s, inv (b :: bs) s → Ends answer (f b) s fun r s' => match r with
      | .ok _ => inv bs s'
      | .error e => after (.error e) s') :
    ∀ {bs : List β} {s : σ}, inv bs s → Ends answer (each f bs) s after
  | [], s, h => ends_pure (hend s h)
  | b :: bs, s, h => by
    refine ends_bind (Ends.weaken (hbody b bs s h) fun r s' hr => ?_)
    cases r with
    | error e => exact hr
    | ok u => exact ends_each inv hend hbody hr

end Ends

/-- A program over one part of the state does to the whole what it does to the part. -/
theorem alone_along {κ τ : Type} {f : κ → ι} (answer : (i : ι) → σ → ρ i × σ)
    {part : (k : κ) → τ → ρ (f k) × τ} (get : σ → τ) (put : τ → σ → σ)
    (hans : ∀ k s, answer (f k) s = ((part k (get s)).1, put (part k (get s)).2 s))
    (hget : ∀ t s, get (put t s) = t) (hself : ∀ s, put (get s) s = s)
    (hput : ∀ t t' s, put t' (put t s) = put t' s) {a : α} {t' : τ} :
    ∀ {p : Prog κ (fun k => ρ (f k)) α} {s : σ},
      p.alone (fun k t => some (part k t)) (get s) = some (a, t') →
        (p.along f).alone (fun i s => some (answer i s)) s = some (a, put t' s)
  | .done b, s, h => by
    obtain ⟨rfl, rfl⟩ := Prod.mk.injEq .. ▸ Option.some.inj h
    rw [hself]
    rfl
  | .ask k next, s, h => by
    have hnext : (next (part k (get s)).1).alone (fun k t => some (part k t)) (part k (get s)).2 =
        some (a, t') := h
    have hrest := alone_along answer get put hans hget hself hput (p := next (part k (get s)).1)
      (s := put (part k (get s)).2 s) (by rw [hget]; exact hnext)
    rw [hput] at hrest
    simp only [Prog.along, Prog.alone]
    rw [hans]
    exact hrest

end Fallible

end Interleaved
