import Mathlib.Data.List.Lex
import Mathlib.Data.Prod.Lex
import Mathlib.Data.Sum.Order

/-!
# Three-way comparisons

`signOf` is the comparison of a linear order that answers -1, 0 or 1, as the comparators of a sort
do. On lexicographic pairs and lists it is the comparison of the first difference.

`Faithful f a`: a function that is applied to both sides does not change how anything compares with
`a`. It is enough that the function keeps the order and takes its value at `a` nowhere else, and
pairs, lists and a new greatest element carry it on.
-/

namespace ThreeWay

variable {α β γ δ : Type} [LinearOrder α] [LinearOrder β] [LinearOrder γ] [LinearOrder δ]

/-- -1, 0 or 1, for less, equal and greater. -/
def signOf (a b : α) : Int := if a < b then -1 else if b < a then 1 else 0

variable (a : α)

theorem signOf_self : signOf a a = 0 := by
  simp [signOf]

theorem signOf_of_lt {a b : α} (h : a < b) : signOf a b = -1 := if_pos h

theorem signOf_of_gt {a b : α} (h : b < a) : signOf a b = 1 := by
  rw [signOf, if_neg h.not_gt, if_pos h]

theorem signOf_eq_zero {a b : α} : signOf a b = 0 ↔ a = b := by
  rcases lt_trichotomy a b with h | rfl | h
  · simp [signOf_of_lt h, h.ne]
  · simp [signOf_self]
  · simp [signOf_of_gt h, h.ne']

theorem signOf_swap (b : α) : signOf b a = -signOf a b := by
  rcases lt_trichotomy a b with h | rfl | h
  · rw [signOf_of_lt h, signOf_of_gt h, Int.neg_neg]
  · rw [signOf_self, Int.neg_zero]
  · rw [signOf_of_lt h, signOf_of_gt h]

theorem signOf_nonpos {a b : α} : signOf a b ≤ 0 ↔ a ≤ b := by
  rcases lt_trichotomy a b with h | rfl | h
  · simp [signOf_of_lt h, h.le]
  · simp [signOf_self]
  · simp [signOf_of_gt h, h]

/-- An order that is kept both ways is compared alike. -/
theorem signOf_congr {a b : α} {c d : β} (hlt : a < b ↔ c < d) (hgt : b < a ↔ d < c) :
    signOf a b = signOf c d := by
  unfold signOf
  simp only [hlt, hgt]

/-! ## Lexicographic orders -/

theorem signOf_pair (a' : α) (b b' : β) :
    signOf (toLex (a, b)) (toLex (a', b')) =
      if a = a' then signOf b b' else signOf a a' := by
  by_cases h : a = a'
  · subst h
    rw [if_pos rfl]
    exact signOf_congr (by simp [Prod.Lex.toLex_lt_toLex]) (by simp [Prod.Lex.toLex_lt_toLex])
  · rw [if_neg h]
    refine signOf_congr ?_ ?_
    · simp [Prod.Lex.toLex_lt_toLex, h]
    · simp [Prod.Lex.toLex_lt_toLex, Ne.symm h]

theorem signOf_nil_cons (as : List α) : signOf [] (a :: as) = -1 :=
  signOf_of_lt (List.nil_lt_cons a as)

theorem signOf_cons_nil (as : List α) : signOf (a :: as) [] = 1 :=
  signOf_of_gt (List.nil_lt_cons a as)

theorem signOf_cons (a' : α) (as as' : List α) :
    signOf (a :: as) (a' :: as') = if a = a' then signOf as as' else signOf a a' := by
  by_cases h : a = a'
  · subst h
    rw [if_pos rfl]
    exact signOf_congr (by simp [List.cons_lt_cons_iff]) (by simp [List.cons_lt_cons_iff])
  · rw [if_neg h]
    refine signOf_congr ?_ ?_
    · simp [List.cons_lt_cons_iff, h]
    · simp [List.cons_lt_cons_iff, Ne.symm h]

theorem signOf_coe (b : α) : signOf (a : WithTop α) b = signOf a b :=
  signOf_congr WithTop.coe_lt_coe WithTop.coe_lt_coe

theorem signOf_coe_top : signOf (a : WithTop α) ⊤ = -1 := signOf_of_lt (WithTop.coe_lt_top a)

theorem signOf_top_coe : signOf ⊤ (a : WithTop α) = 1 := signOf_of_gt (WithTop.coe_lt_top a)

theorem signOf_inl (b : α) : signOf (Sum.inlₗ a : α ⊕ₗ β) (Sum.inlₗ b) = signOf a b :=
  signOf_congr Sum.Lex.inl_lt_inl_iff Sum.Lex.inl_lt_inl_iff

theorem signOf_inr (a b : β) :
    signOf (Sum.inrₗ a : α ⊕ₗ β) (Sum.inrₗ b) = signOf a b :=
  signOf_congr Sum.Lex.inr_lt_inr_iff Sum.Lex.inr_lt_inr_iff

theorem signOf_inl_inr (b : β) :
    signOf (Sum.inlₗ a : α ⊕ₗ β) (Sum.inrₗ b) = -1 := signOf_of_lt (Sum.Lex.inl_lt_inr a b)

theorem signOf_inr_inl (b : β) :
    signOf (Sum.inrₗ b : α ⊕ₗ β) (Sum.inlₗ a) = 1 := signOf_of_gt (Sum.Lex.inl_lt_inr a b)

/-! ## Functions on both sides -/

/-- Whatever is compared with `a` compares the same behind `f`. -/
def Faithful (f : α → β) (a : α) : Prop := ∀ b, signOf (f a) (f b) = signOf a b

theorem Faithful.eq_iff {f : α → β} {a b : α} (h : Faithful f a) : f a = f b ↔ a = b := by
  rw [← signOf_eq_zero, h b, signOf_eq_zero]

/-- **A function that keeps the order, and takes a value only once.** -/
theorem Faithful.of_mono {f : α → β} (hf : Monotone f) {a : α} (h : ∀ b, f b = f a → b = a) :
    Faithful f a := by
  intro b
  rcases lt_trichotomy a b with hlt | rfl | hgt
  · have hne : f a ≠ f b := fun heq => hlt.ne' (h b heq.symm)
    rw [signOf_of_lt hlt, signOf_of_lt (lt_of_le_of_ne (hf hlt.le) hne)]
  · rw [signOf_self, signOf_self]
  · have hne : f b ≠ f a := fun heq => hgt.ne (h b heq)
    rw [signOf_of_gt hgt, signOf_of_gt (lt_of_le_of_ne (hf hgt.le) hne)]

theorem Faithful.list {f : α → β} {as : List α} (h : ∀ a ∈ as, Faithful f a) :
    Faithful (List.map f) as := by
  induction as with
  | nil =>
    intro bs
    cases bs with
    | nil => rw [List.map_nil, signOf_self, signOf_self]
    | cons b bs => rw [List.map_nil, List.map_cons, signOf_nil_cons, signOf_nil_cons]
  | cons a as ih =>
    intro bs
    cases bs with
    | nil => rw [List.map_nil, List.map_cons, signOf_cons_nil, signOf_cons_nil]
    | cons b bs =>
      have ha := h a List.mem_cons_self
      rw [List.map_cons, List.map_cons, signOf_cons, signOf_cons, ha b,
        ih (fun a ha => h a (List.mem_cons_of_mem _ ha)) bs]
      simp only [ha.eq_iff]

theorem Faithful.inl {f : α → γ} {g : β → δ} {a : α} (h : Faithful f a) :
    Faithful (fun x : α ⊕ₗ β => toLex (Sum.map f g (ofLex x))) (Sum.inlₗ a) := by
  intro x
  rcases hx : ofLex x with b | b
  · have hb : x = Sum.inlₗ b := hx
    subst hb
    exact (signOf_inl (f a) (f b)).trans ((h b).trans (signOf_inl a b).symm)
  · have hb : x = Sum.inrₗ b := hx
    subst hb
    exact (signOf_inl_inr (f a) (g b)).trans (signOf_inl_inr a b).symm

theorem Faithful.inr {f : α → γ} {g : β → δ} {b : β} (h : Faithful g b) :
    Faithful (fun x : α ⊕ₗ β => toLex (Sum.map f g (ofLex x))) (Sum.inrₗ b) := by
  intro x
  rcases hx : ofLex x with a | a
  · have ha : x = Sum.inlₗ a := hx
    subst ha
    exact (signOf_inr_inl (f a) (g b)).trans (signOf_inr_inl a b).symm
  · have ha : x = Sum.inrₗ a := hx
    subst ha
    exact (signOf_inr (g b) (g a)).trans ((h a).trans (signOf_inr b a).symm)

theorem Faithful.top (f : α → β) : Faithful (WithTop.map f) ⊤ := by
  intro b
  cases b with
  | top => rw [WithTop.map_top, signOf_self, signOf_self]
  | coe b => rw [WithTop.map_top, WithTop.map_coe, signOf_top_coe, signOf_top_coe]

theorem Faithful.coe {f : α → β} {a : α} (h : Faithful f a) :
    Faithful (WithTop.map f) (a : WithTop α) := by
  intro b
  cases b with
  | top => rw [WithTop.map_top, WithTop.map_coe, signOf_coe_top, signOf_coe_top]
  | coe b => rw [WithTop.map_coe, WithTop.map_coe, signOf_coe, signOf_coe, h b]

theorem Faithful.id : Faithful (fun a => a) a := fun _ => rfl

end ThreeWay
