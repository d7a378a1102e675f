import Mathlib.Data.List.Basic

/-!
# Base64url without padding

The encoding of RFC 4648: three bytes are four characters, and one or two bytes that are left over
are two or three.

* **`encode_injective`**: two byte strings with one encoding are equal.
-/

namespace Base64Url

def alphabet : List Char :=
  "ABCDEFGHIJKLMNOPQRSTUVWXYZabcdefghijklmnopqrstuvwxyz0123456789-_".toList

/-- The character of six bits. -/
def digit (n : Nat) : Char := alphabet.getD n 'A'

def encode : List UInt8 → List Char
  | a :: b :: c :: rest =>
    digit (a.toNat / 4) :: digit (a.toNat % 4 * 16 + b.toNat / 16) ::
      digit (b.toNat % 16 * 4 + c.toNat / 64) :: digit (c.toNat % 64) :: encode rest
  | [a, b] =>
    [digit (a.toNat / 4), digit (a.toNat % 4 * 16 + b.toNat / 16), digit (b.toNat % 16 * 4)]
  | [a] => [digit (a.toNat / 4), digit (a.toNat % 4 * 16)]
  | [] => []

theorem idxOf_digit : ∀ n < 64, alphabet.idxOf (digit n) = n := by decide +kernel

theorem digit_inj {m n : Nat} (hm : m < 64) (hn : n < 64) (h : digit m = digit n) : m = n := by
  rw [← idxOf_digit m hm, ← idxOf_digit n hn, h]

/-- Two characters hold a byte, and the upper half of what follows. -/
theorem first_inj {a a' : UInt8} {m n : Nat} (hm : m < 16) (hn : n < 16)
    (h₁ : digit (a.toNat / 4) = digit (a'.toNat / 4))
    (h₂ : digit (a.toNat % 4 * 16 + m) = digit (a'.toNat % 4 * 16 + n)) : a = a' ∧ m = n := by
  have hlt := a.toNat_lt
  have hlt' := a'.toNat_lt
  have e₁ := digit_inj (by omega) (by omega) h₁
  have e₂ := digit_inj (by omega) (by omega) h₂
  exact ⟨UInt8.toNat_inj.mp (by omega), by omega⟩

/-- Three characters hold two bytes, and the first two bits of what follows. -/
theorem second_inj {a a' b b' : UInt8} {m n : Nat} (hm : m < 4) (hn : n < 4)
    (h₁ : digit (a.toNat / 4) = digit (a'.toNat / 4))
    (h₂ : digit (a.toNat % 4 * 16 + b.toNat / 16) = digit (a'.toNat % 4 * 16 + b'.toNat / 16))
    (h₃ : digit (b.toNat % 16 * 4 + m) = digit (b'.toNat % 16 * 4 + n)) :
    a = a' ∧ b = b' ∧ m = n := by
  have hlt := b.toNat_lt
  have hlt' := b'.toNat_lt
  obtain ⟨ha, hb⟩ := first_inj (by omega) (by omega) h₁ h₂
  have e₃ := digit_inj (by omega) (by omega) h₃
  exact ⟨ha, UInt8.toNat_inj.mp (by omega), by omega⟩

theorem digit_mem {n : Nat} : digit n ∈ alphabet := by
  rw [digit, List.getD_eq_getElem?_getD]
  cases h : alphabet[n]? with
  | none => exact (by decide : 'A' ∈ alphabet)
  | some c => exact List.mem_of_getElem? h

/-- An encoding is made of the alphabet. -/
theorem mem_encode {c : Char} : ∀ {as : List UInt8}, c ∈ encode as → c ∈ alphabet
  | [], h => absurd h List.not_mem_nil
  | [_], h => by
    simp only [encode, List.mem_cons, List.not_mem_nil, or_false] at h
    rcases h with rfl | rfl <;> exact digit_mem
  | [_, _], h => by
    simp only [encode, List.mem_cons, List.not_mem_nil, or_false] at h
    rcases h with rfl | rfl | rfl <;> exact digit_mem
  | _ :: _ :: _ :: _, h => by
    simp only [encode, List.mem_cons] at h
    rcases h with rfl | rfl | rfl | rfl | h
    · exact digit_mem
    · exact digit_mem
    · exact digit_mem
    · exact digit_mem
    · exact mem_encode h

theorem length_encode : ∀ as : List UInt8, (encode as).length = (4 * as.length + 2) / 3
  | [] => rfl
  | [_] => by simp [encode]
  | [_, _] => by simp [encode]
  | _ :: _ :: _ :: rest => by
    simp only [encode, List.length_cons, length_encode rest]
    omega

/-- **Two byte strings with one encoding are equal.** -/
theorem encode_injective : ∀ {as bs : List UInt8}, encode as = encode bs → as = bs
  | [], [], _ => rfl
  | [], [_], h => by simp [encode] at h
  | [], [_, _], h => by simp [encode] at h
  | [], _ :: _ :: _ :: _, h => by simp [encode] at h
  | [_], [], h => by simp [encode] at h
  | [a], [a'], h => by
    simp only [encode, List.cons.injEq, and_true] at h
    have hfirst := first_inj (m := 0) (n := 0) (by decide) (by decide) h.1 h.2
    rw [hfirst.1]
  | [_], [_, _], h => by simp [encode] at h
  | [_], _ :: _ :: _ :: _, h => by simp [encode] at h
  | [_, _], [], h => by simp [encode] at h
  | [_, _], [_], h => by simp [encode] at h
  | [a, b], [a', b'], h => by
    simp only [encode, List.cons.injEq, and_true] at h
    have hboth := second_inj (m := 0) (n := 0) (by decide) (by decide) h.1 h.2.1 h.2.2
    rw [hboth.1, hboth.2.1]
  | [_, _], _ :: _ :: _ :: _, h => by simp [encode] at h
  | _ :: _ :: _ :: _, [], h => by simp [encode] at h
  | _ :: _ :: _ :: _, [_], h => by simp [encode] at h
  | _ :: _ :: _ :: _, [_, _], h => by simp [encode] at h
  | a :: b :: c :: rest, a' :: b' :: c' :: rest', h => by
    simp only [encode, List.cons.injEq] at h
    obtain ⟨h₁, h₂, h₃, h₄, hrest⟩ := h
    have hc := c.toNat_lt
    have hc' := c'.toNat_lt
    obtain ⟨ha, hb, hhigh⟩ := second_inj (by omega) (by omega) h₁ h₂ h₃
    have hlow := digit_inj (by omega) (by omega) h₄
    have heq : c = c' := UInt8.toNat_inj.mp (by omega)
    rw [ha, hb, heq, encode_injective hrest]

end Base64Url
