import Mathlib.Data.List.Forall2

/-!
# Computations that may fail

* `bind_eq_ok`, `map_eq_ok`: a sequence that succeeded, taken apart.
* `mapM_forall₂`: a list computed in order pairs each result with its argument.
* `mapM_eq_ok`: it succeeds when each argument does.
* `foldlM_keeps`, `foldlM_keeps_of_mem`: what every turn of a loop keeps, the loop keeps.
-/

namespace Failing

variable {ε α β σ : Type}

theorem bind_eq_ok {x : Except ε α} {f : α → Except ε β} {b : β} :
    x >>= f = .ok b ↔ ∃ a, x = .ok a ∧ f a = .ok b := by
  cases x with
  | error e => simp [bind, Except.bind]
  | ok a => simp [bind, Except.bind]

theorem map_eq_ok {x : Except ε α} {f : α → β} {b : β} :
    x.map f = .ok b ↔ ∃ a, x = .ok a ∧ f a = b := by
  cases x with
  | error e => simp [Except.map]
  | ok a => simp [Except.map]

theorem map_eq_error {x : Except ε α} {f : α → β} {e : ε} :
    x.map f = .error e ↔ x = .error e := by
  cases x with
  | error e' => simp [Except.map]
  | ok a => simp [Except.map]

theorem mapError_eq_ok {ε' : Type} {x : Except ε α} {f : ε → ε'} {a : α} :
    x.mapError f = .ok a ↔ x = .ok a := by
  cases x with
  | error e => simp [Except.mapError]
  | ok b => simp [Except.mapError]

theorem pure_eq_ok {a b : α} : (pure a : Except ε α) = .ok b ↔ a = b := Except.ok.injEq a b ▸ Iff.rfl

/-! A guard, and a row that has to be there. -/

section Guards

variable {c : Prop} [Decidable c] {e : ε} {r : Except ε α} {a : α}

theorem unless_ok (h : (if c then Except.error e else r) = .ok a) : ¬c ∧ r = .ok a := by
  split at h
  · cases h
  · exact ⟨‹_›, h⟩

theorem when_ok (h : (if c then r else Except.error e) = .ok a) : c ∧ r = .ok a := by
  split at h
  · exact ⟨‹_›, h⟩
  · cases h

theorem unless_some {r : Option α} (h : (if c then none else r) = some a) : ¬c ∧ r = some a :=
  Option.ite_none_left_eq_some.mp h

theorem when_some {r : Option α} (h : (if c then r else none) = some a) : c ∧ r = some a :=
  Option.ite_none_right_eq_some.mp h

end Guards

/-- `if (condition) throw fault`. -/
def refuse (condition : Bool) (fault : ε) : Except ε Unit :=
  if condition then .error fault else .ok ()

theorem refuse_eq_ok {condition : Bool} {fault : ε} {u : Unit} :
    refuse condition fault = .ok u ↔ condition = false := by
  cases condition with
  | false => simp [refuse]
  | true => simp [refuse]

variable {as : List α}

theorem mapM_forall₂ {f : α → Except ε β} {bs : List β} (h : as.mapM f = .ok bs) :
    List.Forall₂ (fun a b => f a = .ok b) as bs := by
  induction as generalizing bs with
  | nil =>
    cases h
    exact .nil
  | cons a as ih =>
    rw [List.mapM_cons] at h
    obtain ⟨b, hb, h⟩ := bind_eq_ok.mp h
    obtain ⟨rest, hrest, h⟩ := bind_eq_ok.mp h
    cases h
    exact .cons hb (ih hrest)

/-- A list computed in order, when it is known which arguments succeed and with what. -/
theorem mapM_eq_ok {f : α → Except ε β} {h : α → β} {P : α → Prop}
    (hone : ∀ a b, f a = .ok b ↔ h a = b ∧ P a) {bs : List β} :
    as.mapM f = .ok bs ↔ as.map h = bs ∧ ∀ a ∈ as, P a := by
  induction as generalizing bs with
  | nil => simp [pure_eq_ok]
  | cons a as ih =>
    rw [List.mapM_cons, bind_eq_ok, List.map_cons, List.forall_mem_cons]
    constructor
    · rintro ⟨b, hb, hrest⟩
      obtain ⟨rest, htail, hbs⟩ := bind_eq_ok.mp hrest
      obtain ⟨rfl, ha⟩ := (hone a b).mp hb
      obtain ⟨rfl, has⟩ := ih.mp htail
      exact ⟨pure_eq_ok.mp hbs, ha, has⟩
    · rintro ⟨rfl, ha, has⟩
      exact ⟨h a, (hone a (h a)).mpr ⟨rfl, ha⟩,
        bind_eq_ok.mpr ⟨as.map h, ih.mpr ⟨rfl, has⟩, rfl⟩⟩

/-- A result of a list computed in order is the result of one of its arguments. -/
theorem mem_mapM {f : α → Except ε β} {bs : List β} (h : as.mapM f = .ok bs) {b : β} (hb : b ∈ bs) :
    ∃ a ∈ as, f a = .ok b := by
  obtain ⟨i, hi, rfl⟩ := List.getElem_of_mem hb
  have hps := List.forall₂_iff_get.mp (mapM_forall₂ h)
  have hi' : i < as.length := hps.1 ▸ hi
  exact ⟨as[i], List.getElem_mem hi', hps.2 i hi' hi⟩

/-- **Loops.** What every turn keeps, the loop keeps. -/
theorem foldlM_keeps_of_mem {I : σ → Prop} {f : σ → α → Except ε σ} {s s' : σ}
    (h : as.foldlM f s = .ok s') (h0 : I s)
    (hstep : ∀ s a s', a ∈ as → I s → f s a = .ok s' → I s') : I s' := by
  induction as generalizing s with
  | nil =>
    cases h
    exact h0
  | cons a as ih =>
    rw [List.foldlM_cons] at h
    obtain ⟨t, ht, h⟩ := bind_eq_ok.mp h
    exact ih h (hstep s a t List.mem_cons_self h0 ht) fun s b s' hb =>
      hstep s b s' (List.mem_cons_of_mem a hb)

theorem foldlM_keeps {I : σ → Prop} {f : σ → α → Except ε σ} {s s' : σ}
    (h : as.foldlM f s = .ok s') (h0 : I s) (hstep : ∀ s a s', I s → f s a = .ok s' → I s') :
    I s' :=
  foldlM_keeps_of_mem h h0 fun s a s' _ => hstep s a s'

end Failing
