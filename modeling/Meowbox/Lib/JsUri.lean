import Meowbox.Lib.JsValue

/-!
# Percent encoding

`decodeURIComponent`, on texts without surrogates: the bytes that a text denotes, which have to be
UTF-8. A character that is no escape stands for its own encoding, so that an escaped byte which
needs a continuation is refused before it.
-/

namespace JsData

/-- The value of a hexadecimal digit. -/
def hexValue? (c : Char) : Option Nat :=
  if isDigitAscii c then some (c.toNat - '0'.toNat)
  else if 'a' ≤ c ∧ c ≤ 'f' then some (c.toNat - 'a'.toNat + 10)
  else if 'A' ≤ c ∧ c ≤ 'F' then some (c.toNat - 'A'.toNat + 10)
  else none

/-- The bytes of a text with escapes, `none` where a percent sign begins no escape. -/
def percentBytes : List Char → Option (List UInt8)
  | [] => some []
  | '%' :: high :: low :: rest => do
    let x ← hexValue? high
    let y ← hexValue? low
    let bytes ← percentBytes rest
    return UInt8.ofNat (16 * x + y) :: bytes
  | c :: rest =>
    if c = '%' then none
    else do
      let bytes ← percentBytes rest
      return String.utf8EncodeChar c ++ bytes

/-- `decodeURIComponent(text)`, `none` where it throws. -/
def decodeURIComponent (text : List Char) : Option (List Char) := do
  let bytes ← percentBytes text
  let decoded ← String.fromUTF8? ⟨bytes.toArray⟩
  return decoded.toList

/-! ## What is decoded -/

/-- A digit stands for its value in one of three ranges. -/
theorem hexValue?_some {c : Char} {n : Nat} (h : hexValue? c = some n) :
    (n < 10 ∧ c.toNat = n + 48) ∨
      (10 ≤ n ∧ n < 16 ∧ (c.toNat = n + 87 ∨ c.toNat = n + 55)) := by
  unfold hexValue? isDigitAscii at h
  split at h
  · rename_i hdig
    simp only [Bool.and_eq_true, decide_eq_true_eq, Char.le_def, UInt32.le_iff_toNat_le] at hdig
    obtain rfl := Option.some.inj h
    obtain ⟨hlo, hhi⟩ : 48 ≤ c.toNat ∧ c.toNat ≤ 57 := hdig
    have hzero : '0'.toNat = 48 := rfl
    omega
  · split at h
    · rename_i hlower
      simp only [Char.le_def, UInt32.le_iff_toNat_le] at hlower
      obtain rfl := Option.some.inj h
      obtain ⟨hlo, hhi⟩ : 97 ≤ c.toNat ∧ c.toNat ≤ 102 := hlower
      have ha : 'a'.toNat = 97 := rfl
      omega
    · split at h
      · rename_i hupper
        simp only [Char.le_def, UInt32.le_iff_toNat_le] at hupper
        obtain rfl := Option.some.inj h
        obtain ⟨hlo, hhi⟩ : 65 ≤ c.toNat ∧ c.toNat ≤ 70 := hupper
        have ha : 'A'.toNat = 65 := rfl
        omega
      · exact absurd h (by simp)

/-- An ASCII character is one byte. -/
theorem encode_ascii {c : Char} (h : c.toNat < 0x80) :
    String.utf8EncodeChar c = [UInt8.ofNat c.toNat] := by
  have hsize : c.utf8Size = 1 := by
    rw [Char.utf8Size_eq_one_iff]
    exact UInt32.le_iff_toNat_le.mpr (by simpa using Nat.le_of_lt_succ h)
  rw [String.utf8EncodeChar_eq_singleton hsize]
  rfl

/-- The escape of a byte stands in a text. -/
def HasEscape (text : List Char) (byte : Nat) : Prop :=
  ∃ front high low back x y, text = front ++ '%' :: high :: low :: back ∧
    hexValue? high = some x ∧ hexValue? low = some y ∧ 16 * x + y = byte

variable {text : List Char}

theorem HasEscape.cons {byte : Nat} (c : Char) (h : HasEscape text byte) :
    HasEscape (c :: text) byte := by
  obtain ⟨front, high, low, back, x, y, rfl, hx, hy, hbyte⟩ := h
  exact ⟨c :: front, high, low, back, x, y, rfl, hx, hy, hbyte⟩

/-- The bytes of an ASCII text are its characters and its escapes. -/
theorem mem_percentBytes : ∀ {bytes : List UInt8},
    (∀ c ∈ text, c.toNat < 0x80) → percentBytes text = some bytes → ∀ b ∈ bytes,
      (∃ c ∈ text, c.toNat = b.toNat) ∨ HasEscape text b.toNat := by
  fun_induction percentBytes text with
  | case1 =>
    intro bytes _ h b hb
    cases h
    exact absurd hb List.not_mem_nil
  | case2 high low rest ih =>
    intro bytes hasc h b hb
    simp only [Option.bind_eq_bind, Option.bind_eq_some_iff, Option.pure_def,
      Option.some.injEq] at h
    obtain ⟨x, hx, y, hy, tail, htail, rfl⟩ := h
    rcases List.mem_cons.mp hb with rfl | hb
    · refine .inr ⟨[], high, low, rest, x, y, rfl, hx, hy, ?_⟩
      have hxb := hexValue?_some hx
      have hyb := hexValue?_some hy
      rw [UInt8.toNat_ofNat_of_lt' (by rw [UInt8.size]; omega)]
    · have hrest : ∀ c ∈ rest, c.toNat < 0x80 := fun c hc => hasc c (by simp [hc])
      rcases ih hrest htail b hb with ⟨c, hc, hcb⟩ | hesc
      · exact .inl ⟨c, by simp [hc], hcb⟩
      · exact .inr (((hesc.cons low).cons high).cons '%')
  | case3 => exact fun _ h => absurd h (by simp)
  | case4 c rest _ _ ih =>
    intro bytes hasc h b hb
    simp only [Option.bind_eq_bind, Option.bind_eq_some_iff, Option.pure_def,
      Option.some.injEq] at h
    obtain ⟨tail, htail, rfl⟩ := h
    have hc := hasc c List.mem_cons_self
    rw [encode_ascii hc] at hb
    rcases List.mem_cons.mp hb with rfl | hb
    · refine .inl ⟨c, List.mem_cons_self, ?_⟩
      rw [UInt8.toNat_ofNat_of_lt' (by rw [UInt8.size]; omega)]
    · rcases ih (fun d hd => hasc d (List.mem_cons_of_mem c hd)) htail b hb with
        ⟨d, hd, hdb⟩ | hesc
      · exact .inl ⟨d, List.mem_cons_of_mem c hd, hdb⟩
      · exact .inr (hesc.cons c)

/-- A decoded text is encoded by the bytes. -/
theorem decodeURIComponent_some {decoded : List Char} (h : decodeURIComponent text = some decoded) :
    percentBytes text = some (decoded.flatMap String.utf8EncodeChar) := by
  simp only [decodeURIComponent, Option.bind_eq_bind, Option.bind_eq_some_iff, Option.pure_def,
    Option.some.injEq] at h
  obtain ⟨bytes, hbs, s, hs, rfl⟩ := h
  rw [hbs]
  unfold String.fromUTF8? at hs
  split at hs
  · obtain rfl := Option.some.inj hs
    rename_i hvalid
    have hsame := String.utf8Encode_toList (b := String.fromUTF8 ⟨bytes.toArray⟩ hvalid)
    have hdata := congrArg (fun a : ByteArray => a.data.toList) hsame
    simp only [List.utf8Encode, List.toList_data_toByteArray] at hdata
    rw [hdata]
    rfl
  · exact absurd hs (by simp)

/-- **An ASCII character of the decoded text stands in the text itself, or its escape does.** -/
theorem mem_decodeURIComponent {decoded : List Char} {c : Char}
    (hasc : ∀ d ∈ text, d.toNat < 0x80) (h : decodeURIComponent text = some decoded)
    (hc : c ∈ decoded) (hlow : c.toNat < 0x80) : c ∈ text ∨ HasEscape text c.toNat := by
  have hbyte : UInt8.ofNat c.toNat ∈ decoded.flatMap String.utf8EncodeChar :=
    List.mem_flatMap.mpr ⟨c, hc, encode_ascii hlow ▸ List.mem_singleton_self _⟩
  have hval : (UInt8.ofNat c.toNat).toNat = c.toNat :=
    UInt8.toNat_ofNat_of_lt' (by rw [UInt8.size]; omega)
  rcases mem_percentBytes hasc (decodeURIComponent_some h) _ hbyte with ⟨d, hd, hdc⟩ | hesc
  · rw [hval] at hdc
    exact .inl (Char.toNat_inj.mp hdc ▸ hd)
  · rw [hval] at hesc
    exact .inr hesc

end JsData
