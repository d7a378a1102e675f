import Mathlib.Logic.Basic

/-!
# Programs that interleave over a shared state

A program performs instructions one at a time and continues with the answer; between two of its
instructions any other program may run. `Prog ι ρ α` is such a program over instructions `ι`,
where `ρ i` is the type of the answers to `i`.

`Safe rely effect ok post p s` is what a program guarantees and assumes: whatever the others do,
as long as each of their steps stays within `rely`, every instruction `p` performs is performed in
a state that meets `ok`, and the result of `p` meets `post` in every later state. It is indexed by
the state in which the program stands now, so it can speak about values the program has read.

`Prog.Issues P p` is the simplest promise: whatever it is answered, `p` performs only instructions
that meet `P`. `Prog.Returns post p` is the one about its result.

Results:
* `Safe.later`: it survives the steps of the others.
* `Safe.perform`: after an instruction of its own the program is safe in the new state.
* `safe_bind`, `safe_seq`, `safe_each`, `Safe.weaken`: the rules for composing programs.
-/

namespace Interleaved

variable {ι : Type} {ρ : ι → Type} {σ α β : Type}

/-- A program: done with a result, or an instruction and what follows each answer. -/
inductive Prog (ι : Type) (ρ : ι → Type) (α : Type) : Type
  | done (a : α)
  | ask (i : ι) (next : ρ i → Prog ι ρ α)

namespace Prog

/-- Run `p`, then what `f` makes of its result. -/
def bind : Prog ι ρ α → (α → Prog ι ρ β) → Prog ι ρ β
  | done a, f => f a
  | ask i next, f => ask i fun r => (next r).bind f

instance : Monad (Prog ι ρ) where
  pure := done
  bind := bind

/-- `for (const b of bs) await f(b)`. -/
def each (f : β → Prog ι ρ Unit) : List β → Prog ι ρ Unit
  | [] => done ()
  | b :: bs => (f b).bind fun _ => each f bs

/-- The instruction a program performs next. -/
def next? : Prog ι ρ α → Option ι
  | done _ => none
  | ask i _ => some i

/-- Every instruction the program may perform, whatever it is answered, meets `P`. -/
def Issues (P : ι → Prop) : Prog ι ρ α → Prop
  | done _ => True
  | ask i next => P i ∧ ∀ r, (next r).Issues P

theorem Issues.mono {P Q : ι → Prop} (h : ∀ i, P i → Q i) :
    ∀ {p : Prog ι ρ α}, p.Issues P → p.Issues Q
  | done _, _ => trivial
  | ask i _, hp => ⟨h i hp.1, fun r => Issues.mono h (hp.2 r)⟩

theorem issues_bind {P : ι → Prop} {f : α → Prog ι ρ β} (hf : ∀ a, (f a).Issues P) :
    ∀ {p : Prog ι ρ α}, p.Issues P → (p.bind f).Issues P
  | done a, _ => hf a
  | ask _ _, hp => ⟨hp.1, fun r => issues_bind hf (hp.2 r)⟩

/-- Whatever it is answered, the result of the program meets `post`. -/
def Returns (post : α → Prop) : Prog ι ρ α → Prop
  | done a => post a
  | ask _ next => ∀ r, (next r).Returns post

theorem returns_of_forall {post : α → Prop} (h : ∀ a, post a) : ∀ p : Prog ι ρ α, p.Returns post
  | done a => h a
  | ask _ next => fun r => returns_of_forall h (next r)

theorem returns_bind {pre : α → Prop} {post : β → Prop} {f : α → Prog ι ρ β} :
    ∀ {p : Prog ι ρ α}, p.Returns pre → (∀ a, pre a → (f a).Returns post) →
      (p.bind f).Returns post
  | done a, hp, hf => hf a hp
  | ask _ _, hp, hf => fun r => returns_bind (hp r) hf

/-- A program over some of the instructions, as a program over all of them. -/
def along {κ : Type} (f : κ → ι) : Prog κ (fun k => ρ (f k)) α → Prog ι ρ α
  | done a => done a
  | ask k next => ask (f k) fun r => (next r).along f

theorem issues_along {κ : Type} {f : κ → ι} {P : ι → Prop} (h : ∀ k, P (f k)) :
    ∀ p : Prog κ (fun k => ρ (f k)) α, (p.along f).Issues P
  | done _ => trivial
  | ask k next => ⟨h k, fun r => issues_along h (next r)⟩

/-- Run a program with no other in between, when `answer` performs its instructions. -/
def alone (answer : (i : ι) → σ → Option (ρ i × σ)) : Prog ι ρ α → σ → Option (α × σ)
  | done a, s => some (a, s)
  | ask i next, s =>
    match answer i s with
    | some (r, s') => (next r).alone answer s'
    | none => none

/-- A program run by itself ends, with a result it promises. -/
theorem Returns.alone {post : α → Prop} (answer : (i : ι) → σ → ρ i × σ) :
    ∀ {p : Prog ι ρ α}, p.Returns post → ∀ s,
      ∃ a s', p.alone (fun i s => some (answer i s)) s = some (a, s') ∧ post a
  | done a, hp, s => ⟨a, s, rfl, hp⟩
  | ask i _, hp, s => (hp (answer i s).1).alone answer (answer i s).2

end Prog

section Safe

variable (rely : σ → σ → Prop) (effect : (i : ι) → σ → ρ i → σ → Prop)

/-- What a program guarantees while the others stay within `rely`. -/
def Safe (ok : σ → ι → Prop) (post : σ → α → Prop) : Prog ι ρ α → σ → Prop
  | .done a, s => ∀ s', rely s s' → post s' a
  | .ask i next, s => ∀ s', rely s s' → ok s' i ∧ ∀ r s'', effect i s' r s'' →
      Safe ok post (next r) s''

/-- What the rules ask of `rely`: it is a preorder, and a program's own steps are within it. -/
structure Stable : Prop where
  refl : ∀ s, rely s s
  trans : ∀ {a b c}, rely a b → rely b c → rely a c
  own : ∀ {i s r s'}, effect i s r s' → rely s s'

variable {rely} {effect} {ok ok' : σ → ι → Prop} {post post' : σ → α → Prop} {s s' : σ}

/-- Steps of other programs keep a program safe. -/
theorem Safe.later (st : Stable rely effect) {p : Prog ι ρ α}
    (h : Safe rely effect ok post p s) (hs : rely s s') : Safe rely effect ok post p s' := by
  cases p with
  | done a => exact fun t ht => h t (st.trans hs ht)
  | ask i next => exact fun t ht => h t (st.trans hs ht)

/-- A step of the program itself. -/
theorem Safe.perform (st : Stable rely effect) {i : ι} {next : ρ i → Prog ι ρ α}
    (h : Safe rely effect ok post (.ask i next) s) :
    ok s i ∧ ∀ r s'', effect i s r s'' → Safe rely effect ok post (next r) s'' :=
  h s (st.refl s)

/-- A finished program has kept its promise. -/
theorem Safe.result (st : Stable rely effect) {a : α}
    (h : Safe rely effect ok post (.done a) s) : post s a := h s (st.refl s)

theorem safe_ask {i : ι} {next : ρ i → Prog ι ρ α} (hok : ∀ s', rely s s' → ok s' i)
    (hnext : ∀ s' r s'', rely s s' → effect i s' r s'' →
      Safe rely effect ok post (next r) s'') :
    Safe rely effect ok post (.ask i next) s :=
  fun s' hs => ⟨hok s' hs, fun r s'' he => hnext s' r s'' hs he⟩

/-- **Sequencing**: `f` continues in a state later than the one `p` began in, with a result that
meets the postcondition of `p`. -/
theorem safe_bind (st : Stable rely effect) {post' : σ → β → Prop} {f : α → Prog ι ρ β} :
    ∀ {p : Prog ι ρ α} {s : σ}, Safe rely effect ok post p s →
      (∀ t a, rely s t → post t a → Safe rely effect ok post' (f a) t) →
        Safe rely effect ok post' (p.bind f) s
  | .done a, s, h, hf => hf s a (st.refl s) (h s (st.refl s))
  | .ask _ _, _, h, hf => fun s' hs => ⟨(h s' hs).1, fun r s'' he =>
      safe_bind st ((h s' hs).2 r s'' he) fun t a ht =>
        hf t a (st.trans hs (st.trans (st.own he) ht))⟩

/-- Sequencing when the program's own steps leave `rely`: the continuation is safe wherever `p`
ends. -/
theorem safe_seq (hrefl : ∀ a, rely a a) {post' : σ → β → Prop} {f : α → Prog ι ρ β} :
    ∀ {p : Prog ι ρ α} {s : σ},
      Safe rely effect ok (fun t a => Safe rely effect ok post' (f a) t) p s →
        Safe rely effect ok post' (p.bind f) s
  | .done _, s, h => h s (hrefl s)
  | .ask _ _, _, h => fun s' hs => ⟨(h s' hs).1, fun r s'' he =>
      safe_seq hrefl ((h s' hs).2 r s'' he)⟩

/-- A stronger postcondition implies a weaker one. -/
theorem Safe.weaken (hpost : ∀ t a, post t a → post' t a) :
    ∀ {p : Prog ι ρ α} {s : σ}, Safe rely effect ok post p s → Safe rely effect ok post' p s
  | .done _, _, h => fun s' hs => hpost s' _ (h s' hs)
  | .ask _ _, _, h => fun s' hs => ⟨(h s' hs).1, fun r s'' he =>
      Safe.weaken hpost ((h s' hs).2 r s'' he)⟩

/-- **Loops.** A loop is safe when its body is, for each element and in any later state. -/
theorem safe_each (st : Stable rely effect) {f : β → Prog ι ρ Unit} :
    ∀ {bs : List β} {s : σ},
      (∀ b ∈ bs, ∀ t, rely s t → Safe rely effect ok (fun _ _ => True) (f b) t) →
        Safe rely effect ok (fun _ _ => True) (Prog.each f bs) s
  | [], _, _ => fun _ _ => trivial
  | b :: bs, s, h => by
    refine safe_bind st (h b List.mem_cons_self s (st.refl s)) fun t _ ht _ => ?_
    exact safe_each st fun b' hb' t' ht' =>
      h b' (List.mem_cons_of_mem b hb') t' (st.trans ht ht')

/-- A loop keeps what each turn of its body keeps. -/
theorem safe_each_keeps {I : σ → Prop} (hrefl : ∀ a, rely a a)
    (hI : ∀ {a b}, I a → rely a b → I b) {f : β → Prog ι ρ Unit} :
    ∀ {bs : List β} {s : σ}, I s →
      (∀ b ∈ bs, ∀ t, I t → Safe rely effect ok (fun t _ => I t) (f b) t) →
        Safe rely effect ok (fun t _ => I t) (Prog.each f bs) s
  | [], _, hs, _ => fun _ ht => hI hs ht
  | b :: bs, s, hs, h => by
    refine safe_seq hrefl (Safe.weaken (fun t _ ht => ?_) (h b List.mem_cons_self s hs))
    exact safe_each_keeps hrefl hI ht fun b' hb' => h b' (List.mem_cons_of_mem b hb')

end Safe

end Interleaved
