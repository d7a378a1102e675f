import Mathlib.Tactic.Ring

/-!
# Natural numbers as JavaScript numbers

`toNumber` is the double that a decimal literal of a natural number denotes: the nearest multiple
of the last of 53 bits, at the half the one with an even last bit. Doubles are natural numbers
here; `INFINITY`, which is greater than all of them, stands for `Infinity`, so that `===` and `<`
are equality and order.

* `toNumber_mono`, `toNumber_of_lt`: the order is kept, and so is what lies below 2^53.
* `Alone`, **`alone_iff`**: which numbers share their double with no other.
-/

namespace JsData

/-- The value of the last of the 53 bits. -/
def lastBit (n : Nat) : Nat := 1 <<< (n.log2 - 52)

/-- Round to the nearest multiple of the unit, at the half to an even one. -/
def roundHalfEven (n unit : Nat) : Nat :=
  if 2 * (n % unit) < unit ∨ 2 * (n % unit) = unit ∧ n / unit % 2 = 0 then n / unit * unit
  else (n / unit + 1) * unit

/-- What stands for `Infinity`. -/
def INFINITY : Nat := 1 <<< 1024

/-- `Number(text)`, of the text of a natural number. -/
def toNumber (n : Nat) : Nat := min (roundHalfEven n (lastBit n)) INFINITY

/-- `Number.isSafeInteger`, of an integer that is not negative. -/
def isSafeInteger (n : Nat) : Bool := decide (n < 2 ^ 53)

/-! ## Rounding -/

section Rounding

variable {m n u k s : Nat}

/-- A number is rounded to one of its two neighbours. -/
theorem roundHalfEven_cases (n u : Nat) :
    roundHalfEven n u = n / u * u ∨ roundHalfEven n u = (n / u + 1) * u := by
  unfold roundHalfEven
  split
  · exact .inl rfl
  · exact .inr rfl

theorem le_roundHalfEven (n u : Nat) : n / u * u ≤ roundHalfEven n u := by
  rcases roundHalfEven_cases n u with h | h
  · exact h.ge
  · rw [h]
    exact Nat.mul_le_mul_right u (Nat.le_succ _)

theorem roundHalfEven_le (n u : Nat) : roundHalfEven n u ≤ (n / u + 1) * u := by
  rcases roundHalfEven_cases n u with h | h
  · rw [h]
    exact Nat.mul_le_mul_right u (Nat.le_succ _)
  · exact h.le

/-- To one unit, rounding keeps the order. -/
theorem roundHalfEven_mono (h : m ≤ n) : roundHalfEven m u ≤ roundHalfEven n u := by
  rcases Nat.lt_or_eq_of_le (Nat.div_le_div_right (c := u) h) with hlt | heq
  · calc roundHalfEven m u ≤ (m / u + 1) * u := roundHalfEven_le m u
      _ ≤ n / u * u := Nat.mul_le_mul_right u hlt
      _ ≤ roundHalfEven n u := le_roundHalfEven n u
  · have hrest : m % u ≤ n % u := by
      have hm := Nat.div_add_mod m u
      have hn := Nat.div_add_mod n u
      rw [heq] at hm
      omega
    unfold roundHalfEven
    rw [heq]
    have hstep : n / u * u ≤ (n / u + 1) * u := Nat.mul_le_mul_right u (Nat.le_succ _)
    split
    · split
      · exact Nat.le_refl _
      · exact hstep
    · split
      · omega
      · exact Nat.le_refl _

theorem roundHalfEven_mul (hu : 0 < u) (k : Nat) : roundHalfEven (k * u) u = k * u := by
  have hrest : k * u % u = 0 := Nat.mul_mod_left k u
  unfold roundHalfEven
  rw [hrest, Nat.mul_div_cancel k hu, if_pos (.inl hu)]

end Rounding

/-! ## Doubles -/

section Doubles

variable {m n k s : Nat}

theorem lastBit_eq (n : Nat) : lastBit n = 2 ^ (n.log2 - 52) := Nat.one_shiftLeft _

theorem lastBit_pos (n : Nat) : 0 < lastBit n := lastBit_eq n ▸ Nat.two_pow_pos _

theorem log2_eq (hlow : 2 ^ k ≤ n) (hhigh : n < 2 ^ (k + 1)) : n.log2 = k := by
  have hne : n ≠ 0 := Nat.pos_iff_ne_zero.mp (Nat.lt_of_lt_of_le (Nat.two_pow_pos k) hlow)
  exact (Nat.log2_eq_iff hne).mpr ⟨hlow, hhigh⟩

theorem lastBit_of_lt (h : n < 2 ^ 53) : lastBit n = 1 := by
  have hlog : n.log2 < 53 := by
    by_cases hn : n = 0
    · subst hn
      decide
    · exact (Nat.log2_lt hn).mpr h
  rw [lastBit_eq, show n.log2 - 52 = 0 by omega, Nat.pow_zero]

/-- Below 2^53 a number is its own double. -/
theorem round_of_lt (h : n < 2 ^ 53) : roundHalfEven n (lastBit n) = n := by
  have hrnd := roundHalfEven_mul (u := lastBit n) (lastBit_pos n) n
  rw [lastBit_of_lt h, Nat.mul_one] at hrnd
  rw [lastBit_of_lt h, hrnd]

/-- The last bit of a number whose first 53 bits are followed by `s` more. -/
theorem lastBit_of_div (hlow : 2 ^ 52 ≤ n / 2 ^ s) (hhigh : n / 2 ^ s < 2 ^ 53) :
    lastBit n = 2 ^ s := by
  have hpos : 0 < 2 ^ s := Nat.two_pow_pos s
  have habove : 2 ^ (52 + s) ≤ n := by
    rw [Nat.pow_add]
    exact (Nat.le_div_iff_mul_le hpos).mp hlow
  have hbel : n < 2 ^ (52 + s + 1) := by
    rw [show 52 + s + 1 = 53 + s by omega, Nat.pow_add]
    exact (Nat.div_lt_iff_lt_mul hpos).mp hhigh
  rw [lastBit_eq, log2_eq habove hbel, Nat.add_sub_cancel_left]

/-- The first 53 bits of a number that has more. -/
theorem div_lastBit (h : 2 ^ 53 ≤ n) : 2 ^ 52 ≤ n / lastBit n ∧ n / lastBit n < 2 ^ 53 := by
  have hne : n ≠ 0 := by
    rintro rfl
    exact absurd h (by decide)
  have hlog : 53 ≤ n.log2 := (Nat.le_log2 hne).mpr h
  have hself := Nat.log2_self_le hne
  have hlt := Nat.lt_log2_self (n := n)
  obtain ⟨s, hs⟩ : ∃ s, n.log2 = 52 + s := ⟨n.log2 - 52, by omega⟩
  have hpos : 0 < 2 ^ s := Nat.two_pow_pos s
  rw [hs] at hself hlt
  rw [lastBit_eq, hs, Nat.add_sub_cancel_left]
  constructor
  · rw [Nat.le_div_iff_mul_le hpos, ← Nat.pow_add]
    exact hself
  · rw [Nat.div_lt_iff_lt_mul hpos, ← Nat.pow_add, show 53 + s = 52 + s + 1 by omega]
    exact hlt

/-- A multiple of a unit by 53 bits is a double. -/
theorem round_mul (hlow : 2 ^ 52 ≤ k) (hhigh : k ≤ 2 ^ 53) :
    roundHalfEven (k * 2 ^ s) (lastBit (k * 2 ^ s)) = k * 2 ^ s := by
  rcases Nat.lt_or_eq_of_le hhigh with hlt | rfl
  · have hdiv : k * 2 ^ s / 2 ^ s = k := Nat.mul_div_cancel k (Nat.two_pow_pos s)
    rw [lastBit_of_div (hdiv.symm ▸ hlow) (hdiv.symm ▸ hlt)]
    exact roundHalfEven_mul (Nat.two_pow_pos s) k
  · have hshift : 2 ^ 53 * 2 ^ s = 2 ^ 52 * 2 ^ (s + 1) := by
      rw [← Nat.pow_add, ← Nat.pow_add]
      exact congrArg (2 ^ ·) (by omega)
    have hdiv : 2 ^ 52 * 2 ^ (s + 1) / 2 ^ (s + 1) = 2 ^ 52 :=
      Nat.mul_div_cancel _ (Nat.two_pow_pos _)
    rw [hshift, lastBit_of_div (s := s + 1) hdiv.ge (hdiv.trans_lt (by decide))]
    exact roundHalfEven_mul (Nat.two_pow_pos _) _

/-- What has been rounded is a double. -/
theorem round_round (n : Nat) :
    roundHalfEven (roundHalfEven n (lastBit n)) (lastBit (roundHalfEven n (lastBit n))) =
      roundHalfEven n (lastBit n) := by
  by_cases h : n < 2 ^ 53
  · rw [round_of_lt h, round_of_lt h]
  · obtain ⟨hlow, hhigh⟩ := div_lastBit (Nat.le_of_not_lt h)
    rcases roundHalfEven_cases n (lastBit n) with hr | hr
    · rw [hr, lastBit_eq n] at *
      exact round_mul hlow hhigh.le
    · rw [hr, lastBit_eq n] at *
      exact round_mul (Nat.le_succ_of_le hlow) hhigh

/-- Rounding stays between the powers of two around a number. -/
theorem round_bounds (hlow : 2 ^ k ≤ n) (hhigh : n < 2 ^ (k + 1)) :
    2 ^ k ≤ roundHalfEven n (lastBit n) ∧ roundHalfEven n (lastBit n) ≤ 2 ^ (k + 1) := by
  have hunit : lastBit n = 2 ^ (k - 52) := by rw [lastBit_eq, log2_eq hlow hhigh]
  have hpos := Nat.two_pow_pos (k - 52)
  have hspl : ∀ j, k ≤ j → 2 ^ (j - (k - 52)) * 2 ^ (k - 52) = 2 ^ j := by
    intro j hj
    rw [← Nat.pow_add]
    exact congrArg (2 ^ ·) (by omega)
  rw [hunit]
  constructor
  · refine Nat.le_trans ?_ (le_roundHalfEven n _)
    rw [← hspl k (Nat.le_refl k)] at hlow ⊢
    exact Nat.mul_le_mul_right _ ((Nat.le_div_iff_mul_le hpos).mpr hlow)
  · refine Nat.le_trans (roundHalfEven_le n _) ?_
    rw [← hspl (k + 1) (Nat.le_succ k)] at hhigh ⊢
    exact Nat.mul_le_mul_right _ ((Nat.div_lt_iff_lt_mul hpos).mpr hhigh)

/-- **Rounding keeps the order.** -/
theorem round_mono (h : m ≤ n) :
    roundHalfEven m (lastBit m) ≤ roundHalfEven n (lastBit n) := by
  by_cases hm : m = 0
  · subst hm
    rw [round_of_lt (by decide)]
    exact Nat.zero_le _
  · have hn : n ≠ 0 := by omega
    have hlog : m.log2 ≤ n.log2 :=
      (Nat.le_log2 hn).mpr (Nat.le_trans (Nat.log2_self_le hm) h)
    rcases Nat.lt_or_eq_of_le hlog with hlt | heq
    · calc roundHalfEven m (lastBit m) ≤ 2 ^ (m.log2 + 1) :=
            (round_bounds (Nat.log2_self_le hm) Nat.lt_log2_self).2
        _ ≤ 2 ^ n.log2 := Nat.pow_le_pow_right (by decide) hlt
        _ ≤ roundHalfEven n (lastBit n) :=
            (round_bounds (Nat.log2_self_le hn) Nat.lt_log2_self).1
    · rw [lastBit, lastBit, heq]
      exact roundHalfEven_mono h

theorem toNumber_mono (h : m ≤ n) : toNumber m ≤ toNumber n := by
  unfold toNumber
  have := round_mono h
  omega

/-- The greatest integer that is safe is far from `Infinity`. -/
theorem safe_lt_infinity : 2 ^ 54 < INFINITY := by
  decide

theorem toNumber_of_lt (h : n < 2 ^ 53) : toNumber n = n := by
  have hinf := safe_lt_infinity
  unfold toNumber
  rw [round_of_lt h]
  omega

/-- What denotes a safe integer is one. -/
theorem toNumber_lt_iff : toNumber n < 2 ^ 53 ↔ n < 2 ^ 53 := by
  constructor
  · intro h
    by_contra hge
    have hmono := toNumber_mono (Nat.le_of_not_lt hge)
    have htop : toNumber (2 ^ 53) = 2 ^ 53 := by decide
    omega
  · intro h
    rwa [toNumber_of_lt h]

/-! ## Numbers that keep their double to themselves -/

/-- No other number denotes the same double. -/
def Alone (n : Nat) : Prop := ∀ m, toNumber m = toNumber n → m = n

/-- Between 2^53 and 2^54 every second number is a double. -/
theorem toNumber_even (hlow : 2 ^ 53 ≤ n) (hhigh : n < 2 ^ 54) :
    toNumber n = if n % 2 = 0 then n else if n % 4 = 1 then n - 1 else n + 1 := by
  have hinf := safe_lt_infinity
  have hunit : lastBit n = 2 := by
    rw [lastBit_eq, log2_eq hlow hhigh]
    rfl
  unfold toNumber roundHalfEven
  rw [hunit]
  split
  · split
    · omega
    · split
      · omega
      · omega
  · split
    · omega
    · split
      · omega
      · omega

theorem alone_of_lt (h : n < 2 ^ 53) : Alone n := by
  intro m hm
  rw [toNumber_of_lt h] at hm
  have hlt : m < 2 ^ 53 := toNumber_lt_iff.mp (by omega)
  rwa [toNumber_of_lt hlt] at hm

/-- The even ones among the doubles take the halves on both sides; the others have none. -/
theorem alone_of_odd_bits (hlow : 2 ^ 53 ≤ n) (hhigh : n < 2 ^ 54) (h : n % 4 = 2) : Alone n := by
  intro m hm
  have hn := toNumber_even hlow hhigh
  rw [if_pos (by omega)] at hn
  rcases Nat.lt_trichotomy m n with hlt | heq | hgt
  · have hmono := toNumber_mono (m := m) (n := n - 1) (by omega)
    have hbel := toNumber_even (n := n - 1) (by omega) (by omega)
    rw [if_neg (by omega), if_pos (by omega)] at hbel
    omega
  · exact heq
  · have hmono := toNumber_mono (m := n + 1) (n := m) (by omega)
    have habove := toNumber_even (n := n + 1) (by omega) (by omega)
    rw [if_neg (by omega), if_neg (by omega)] at habove
    omega

/-- A number that is rounded shares its double with what it is rounded to. -/
theorem not_alone_of_round (h : roundHalfEven n (lastBit n) ≠ n) : ¬ Alone n := by
  intro halone
  refine h (halone _ ?_)
  unfold toNumber
  rw [round_round]

/-- From 2^54 on a double is the double of the number after it. -/
theorem not_alone_of_ge (h : 2 ^ 54 ≤ n) : ¬ Alone n := by
  by_cases hrnd : roundHalfEven n (lastBit n) = n
  · obtain ⟨hlow, hhigh⟩ := div_lastBit (n := n) (Nat.le_trans (by decide) h)
    obtain ⟨s, hs⟩ : ∃ s, lastBit n = 2 ^ s := ⟨_, lastBit_eq n⟩
    have hfour : 4 ≤ 2 ^ s := by
      have hne : n ≠ 0 := by
        rintro rfl
        exact absurd h (by decide)
      have hlog : 54 ≤ n.log2 := (Nat.le_log2 hne).mpr h
      rw [← hs, lastBit_eq, show (4 : Nat) = 2 ^ 2 by rfl]
      exact Nat.pow_le_pow_right (by decide) (by omega)
    rw [hs] at hlow hhigh hrnd
    have hexact : n % 2 ^ s = 0 := by
      rcases roundHalfEven_cases n (2 ^ s) with hr | hr
      · exact Nat.mod_eq_zero_of_dvd ⟨n / 2 ^ s, by rw [Nat.mul_comm]; omega⟩
      · exact Nat.mod_eq_zero_of_dvd ⟨n / 2 ^ s + 1, by rw [Nat.mul_comm]; omega⟩
    have hnext : (n + 1) / 2 ^ s = n / 2 ^ s ∧ (n + 1) % 2 ^ s = 1 := by
      have hn := Nat.div_add_mod n (2 ^ s)
      refine (Nat.div_mod_unique (by omega)).mpr ⟨by omega, by omega⟩
    have hsame : roundHalfEven (n + 1) (lastBit (n + 1)) = n := by
      rw [lastBit_of_div (hnext.1.symm ▸ hlow) (hnext.1.symm ▸ hhigh)]
      unfold roundHalfEven
      rw [hnext.1, hnext.2, if_pos (.inl (by omega))]
      have hn := Nat.div_add_mod n (2 ^ s)
      rw [Nat.mul_comm]
      omega
    intro halone
    have : n + 1 = n := by
      refine halone _ ?_
      unfold toNumber
      rw [hsame, hs, hrnd]
    omega
  · exact not_alone_of_round hrnd

/-- **Which numbers keep their double to themselves.** -/
theorem alone_iff : Alone n ↔ n < 2 ^ 53 ∨ n < 2 ^ 54 ∧ n % 4 = 2 := by
  constructor
  · intro h
    by_contra hno
    obtain ⟨hge, hodd⟩ := not_or.mp hno
    by_cases hhigh : n < 2 ^ 54
    · have hn := toNumber_even (by omega) hhigh
      by_cases heven : n % 2 = 0
      · rw [if_pos heven] at hn
        have hnext := toNumber_even (n := n + 1) (by omega) (by omega)
        rw [if_neg (by omega), if_pos (by omega)] at hnext
        have := h (n + 1) (by omega)
        omega
      · refine not_alone_of_round ?_ h
        intro hrnd
        unfold toNumber at hn
        rw [hrnd, if_neg heven] at hn
        have hinf := safe_lt_infinity
        split at hn
        · omega
        · omega
    · exact not_alone_of_ge (Nat.le_of_not_lt hhigh) h
  · rintro (h | ⟨hhigh, hodd⟩)
    · exact alone_of_lt h
    · by_cases hlow : n < 2 ^ 53
      · exact alone_of_lt hlow
      · exact alone_of_odd_bits (Nat.le_of_not_lt hlow) hhigh hodd

end Doubles

end JsData
