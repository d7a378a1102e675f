import Mathlib.Data.List.Basic

/-!
# Base32

The decoding of RFC 4648 as authenticators do it: five bits for a letter or one of the digits
`2`–`7`, upper and lower case alike; bits that do not fill a byte are dropped.

* `decode_isSome`: exactly the texts of such characters are decoded.
* `decode_head`: the first byte is the first character and three bits of the second.
-/

namespace Base32

def alphabet : List Char := "ABCDEFGHIJKLMNOPQRSTUVWXYZ234567".toList

/-- The value of a character. -/
def value (c : Char) : Option Nat := alphabet.idxOf? c.toUpper

def values : List Char → Option (List Nat)
  | [] => some []
  | c :: cs => (value c).bind fun v => (values cs).map (v :: ·)

/-- The bits of a character, the highest first. -/
def bits (v : Nat) : List Nat := [v / 16 % 2, v / 8 % 2, v / 4 % 2, v / 2 % 2, v % 2]

/-- The bytes that the bits fill. -/
def bytes : List Nat → List Nat
  | a :: b :: c :: d :: e :: f :: g :: h :: rest =>
    (128 * a + 64 * b + 32 * c + 16 * d + 8 * e + 4 * f + 2 * g + h) :: bytes rest
  | _ => []

def decode (cs : List Char) : Option (List Nat) := (values cs).map fun vs => bytes (vs.flatMap bits)

theorem value_lt {c : Char} {v : Nat} (h : value c = some v) : v < 32 := by
  obtain ⟨hlt, -⟩ := List.findIdx?_eq_some_iff_findIdx_eq.mp h
  exact hlt

theorem values_isSome : ∀ {cs : List Char}, (values cs).isSome = true ↔
    ∀ c ∈ cs, (value c).isSome = true
  | [] => by simp [values]
  | c :: cs => by
    rw [List.forall_mem_cons, ← values_isSome]
    cases hc : value c with
    | none => simp [values, hc]
    | some v => simp [values, hc]

/-- Exactly the texts over the alphabet are decoded. -/
theorem decode_isSome {cs : List Char} : (decode cs).isSome = true ↔
    ∀ c ∈ cs, (value c).isSome = true := by
  rw [decode, Option.isSome_map, values_isSome]

/-- The first byte. -/
theorem decode_head {a b : Char} {cs : List Char} {key : List Nat}
    (h : decode (a :: b :: cs) = some key) :
    ∃ u v, value a = some u ∧ value b = some v ∧ key.head? = some (8 * u + v / 4) := by
  cases ha : value a with
  | none => simp [decode, values, ha] at h
  | some u =>
    cases hb : value b with
    | none => simp [decode, values, ha, hb] at h
    | some v =>
      refine ⟨u, v, rfl, rfl, ?_⟩
      cases hcs : values cs with
      | none => simp [decode, values, ha, hb, hcs] at h
      | some vs =>
        have hu := value_lt ha
        have hv := value_lt hb
        simp only [decode, values, ha, hb, hcs, Option.bind_some, Option.map_some,
          Option.some.injEq] at h
        rw [← h, List.flatMap_cons, List.flatMap_cons, bits, bits]
        simp only [List.cons_append, List.nil_append, bytes, List.head?_cons, Option.some.injEq]
        omega

end Base32
