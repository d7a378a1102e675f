import Mathlib.Data.List.Basic
import Mathlib.Data.Char

/-!
# JSON values and their texts

`Json` is a JSON value with its object members in a fixed order; `render` is its text without
white space, with strings quoted as ECMAScript's `QuoteJSONString` does. A finite number is
represented by its decimal text (`JsonNumber`), which determines it.

`readValue` reads a value from the front of a text. How a number is read is the language's
(`NumberTexts`). It keeps the members of an object as they stand in the text, and refuses the
escape of half a surrogate pair, which no `Char` is.

* **`readValue_render`**: a value is read back from the front of its text. The rest behind it is
  empty or starts with a delimiter (`Delimited`), which no number contains.
* `render_injective`: two values with one text are equal.
-/

namespace JsonText

/-- The characters of a decimal number text. -/
def isNumberChar (c : Char) : Bool :=
  c.isDigit || c == '-' || c == '+' || c == '.' || c == 'e'

/-- A finite number, by the text the language prints for it. -/
structure JsonNumber where
  text : String
  numeric : text.toList ≠ [] ∧ ∀ c ∈ text.toList, isNumberChar c = true
deriving DecidableEq

/-- The characters of an integer's text. -/
def integerChars : Int → List Char
  | .ofNat m => Nat.toDigits 10 m
  | .negSucc m => '-' :: Nat.toDigits 10 (m + 1)

theorem toDigits_isDigit {n : Nat} : ∀ c ∈ Nat.toDigits 10 n, c.isDigit = true := fun _ hc =>
  Nat.isDigit_of_mem_toDigits (by decide) (by decide) hc

theorem integerChars_numeric (n : Int) :
    integerChars n ≠ [] ∧ ∀ c ∈ integerChars n, isNumberChar c = true := by
  cases n with
  | ofNat m =>
    exact ⟨Nat.toDigits_ne_nil, fun c hc => by simp [isNumberChar, toDigits_isDigit c hc]⟩
  | negSucc m =>
    refine ⟨List.cons_ne_nil _ _, fun c hc => ?_⟩
    rcases List.mem_cons.mp hc with rfl | hc
    · rfl
    · simp [isNumberChar, toDigits_isDigit c hc]

/-- The number text of an integer. -/
def JsonNumber.ofInt (n : Int) : JsonNumber where
  text := String.ofList (integerChars n)
  numeric := by rw [String.toList_ofList]; exact integerChars_numeric n

/-- A JSON value; object members keep their order. -/
inductive Json
  | null
  | boolean (b : Bool)
  | number (n : JsonNumber)
  | string (s : String)
  | array (items : List Json)
  | object (members : List (String × Json))

/-- A member of an object, unless its value is `undefined`. -/
def member (name : String) : Option Json → List (String × Json)
  | some value => [(name, value)]
  | none => []

/-! ## Quoting strings -/

/-- The lower-case hexadecimal digit of a number below 16. -/
def hexDigit (n : Nat) : Char := "0123456789abcdef".toList.getD n '0'

/-- The letter of a two-character escape. -/
def shortEscape (c : Char) : Option Char :=
  if c = '"' then some '"'
  else if c = '\\' then some '\\'
  else if c = '\x08' then some 'b'
  else if c = '\t' then some 't'
  else if c = '\n' then some 'n'
  else if c = '\x0c' then some 'f'
  else if c = '\r' then some 'r'
  else none

/-- One character of a string inside the quotes. -/
def escapeChar (c : Char) : List Char :=
  match shortEscape c with
  | some e => ['\\', e]
  | none =>
    if c.toNat < 32 then
      ['\\', 'u', '0', '0', hexDigit (c.toNat / 16), hexDigit (c.toNat % 16)]
    else [c]

/-- `QuoteJSONString`. -/
def quote (s : String) : List Char := '"' :: (s.toList.flatMap escapeChar ++ ['"'])

/-- The texts joined by commas. -/
def joinComma : List (List Char) → List Char
  | [] => []
  | t :: ts => t ++ ts.flatMap (',' :: ·)

mutual

/-- The text of a value. -/
def render : Json → List Char
  | .null => "null".toList
  | .boolean true => "true".toList
  | .boolean false => "false".toList
  | .number n => n.text.toList
  | .string s => quote s
  | .array items => '[' :: (joinComma (renderItems items) ++ [']'])
  | .object members => '{' :: (joinComma (renderMembers members) ++ ['}'])

/-- The texts of an array's items. -/
def renderItems : List Json → List (List Char)
  | [] => []
  | v :: vs => render v :: renderItems vs

/-- The texts `"key":value` of an object's members. -/
def renderMembers : List (String × Json) → List (List Char)
  | [] => []
  | (k, v) :: ms => (quote k ++ ':' :: render v) :: renderMembers ms

end

/-! ## Reading strings -/

/-- The value of a hexadecimal digit. -/
def hexValue (c : Char) : Option Nat :=
  if c.isDigit then some (c.toNat - 48)
  else if 'a' ≤ c ∧ c ≤ 'f' then some (c.toNat - 87)
  else if 'A' ≤ c ∧ c ≤ 'F' then some (c.toNat - 55)
  else none

/-- A code unit of four hexadecimal digits. -/
def readUnit : List Char → Option (Nat × List Char)
  | a :: b :: c :: d :: r => do
    some (((← hexValue a) * 4096 + (← hexValue b) * 256 + (← hexValue c) * 16 + (← hexValue d)), r)
  | _ => none

/-- The character a two-character escape stands for. -/
def unescape (e : Char) : Option Char :=
  if e = 'b' then some '\x08'
  else if e = 't' then some '\t'
  else if e = 'n' then some '\n'
  else if e = 'f' then some '\x0c'
  else if e = 'r' then some '\r'
  else if e = '"' ∨ e = '\\' ∨ e = '/' then some e
  else none

/-- The character behind a backslash; a pair of surrogates is one character. -/
def readEscape : List Char → Option (Char × List Char)
  | 'u' :: r => do
    let (unit, r) ← readUnit r
    if unit < 0xd800 ∨ 0xdfff < unit then some (Char.ofNat unit, r)
    else
      match r with
      | '\\' :: 'u' :: r => do
        let (low, r) ← readUnit r
        if unit < 0xdc00 ∧ 0xdc00 ≤ low ∧ low ≤ 0xdfff then
          some (Char.ofNat (0x10000 + (unit - 0xd800) * 0x400 + (low - 0xdc00)), r)
        else none
      | _ => none
  | e :: r => (unescape e).map fun c => (c, r)
  | [] => none

/-- The characters up to the closing quote. -/
def readChars : Nat → List Char → Option (List Char × List Char)
  | n + 1, c :: r =>
    if c = '"' then some ([], r)
    else if c = '\\' then do
      let (c, r) ← readEscape r
      let (cs, r) ← readChars n r
      some (c :: cs, r)
    else if c.toNat < 32 then none
    else do
      let (cs, r) ← readChars n r
      some (c :: cs, r)
  | _, _ => none

theorem hexValue_hexDigit : ∀ d < 16, hexValue (hexDigit d) = some d := by decide

theorem readEscape_shortEscape {c e : Char} (h : shortEscape c = some e) (r : List Char) :
    readEscape (e :: r) = some (c, r) := by
  unfold shortEscape at h
  split_ifs at h <;> (cases h; subst_vars; rfl)

variable {r : List Char}

theorem readChars_escape {l : List Char} {c : Char} (h : readEscape l = some (c, r)) (n : Nat) :
    readChars (n + 1) ('\\' :: l) = (readChars n r).map fun p => (c :: p.1, p.2) := by
  rw [readChars, if_neg (by decide), if_pos rfl, h]
  cases hr : readChars n r with
  | none => simp [hr]
  | some p => simp [hr]

theorem readChars_escapeChar (n : Nat) (c : Char) (r : List Char) :
    readChars (n + 1) (escapeChar c ++ r) = (readChars n r).map fun p => (c :: p.1, p.2) := by
  unfold escapeChar
  cases hc : shortEscape c with
  | some e =>
    exact readChars_escape (readEscape_shortEscape hc r) n
  | none =>
    have hquote : c ≠ '"' := by
      rintro rfl
      exact absurd hc (by decide)
    have hsl : c ≠ '\\' := by
      rintro rfl
      exact absurd hc (by decide)
    simp only
    split
    · rename_i hlow
      have hunit : readEscape ('u' :: '0' :: '0' :: hexDigit (c.toNat / 16) ::
          hexDigit (c.toNat % 16) :: r) = some (c, r) := by
        have hzero : hexValue '0' = some 0 := rfl
        have hnat : 0 * 4096 + 0 * 256 + c.toNat / 16 * 16 + c.toNat % 16 = c.toNat := by omega
        simp only [readEscape, readUnit, hzero, hexValue_hexDigit (c.toNat / 16) (by omega),
          hexValue_hexDigit (c.toNat % 16) (by omega), Option.bind_eq_bind, Option.bind_some, hnat]
        rw [if_pos (Or.inl (by omega)), Char.ofNat_toNat]
      exact readChars_escape hunit n
    · rename_i hhigh
      rw [List.singleton_append, readChars, if_neg hquote, if_neg hsl, if_neg hhigh]
      cases readChars n r <;> rfl

theorem escapeChar_pos (c : Char) : 0 < (escapeChar c).length := by
  unfold escapeChar
  split
  · exact Nat.succ_pos _
  · split <;> exact Nat.succ_pos _

/-- A string is read back up to its closing quote. -/
theorem readChars_quote {n : Nat} (cs r : List Char)
    (h : (cs.flatMap escapeChar).length < n) :
    readChars n (cs.flatMap escapeChar ++ '"' :: r) = some (cs, r) := by
  induction cs generalizing n with
  | nil =>
    obtain ⟨n, rfl⟩ := Nat.exists_eq_succ_of_ne_zero (Nat.ne_of_gt h)
    rfl
  | cons c cs ih =>
    obtain ⟨n, rfl⟩ := Nat.exists_eq_succ_of_ne_zero (Nat.ne_of_gt (Nat.zero_lt_of_lt h))
    have hpos := escapeChar_pos c
    rw [List.flatMap_cons, List.length_append] at h
    rw [List.flatMap_cons, List.append_assoc, readChars_escapeChar, ih (by omega)]
    rfl

/-! ## Reading lists -/

/-- JSON's white space. -/
def isBlank (c : Char) : Bool := c == ' ' || c == '\t' || c == '\n' || c == '\r'

/-- The text behind white space. -/
def skip (r : List Char) : List Char := r.dropWhile isBlank

section Lists

variable {α : Type} (item : List Char → Option (α × List Char)) (close : Char)

/-- The items behind the first, each behind a comma, up to the closing bracket. -/
def readMore : Nat → List Char → Option (List α × List Char)
  | 0, _ => none
  | n + 1, r =>
    match skip r with
    | [] => none
    | c :: r =>
      if c = close then some ([], r)
      else if c = ',' then do
        let (a, r) ← item r
        let (as, r) ← readMore n r
        some (a :: as, r)
      else none

/-- Items up to the closing bracket. -/
def readList (n : Nat) (r : List Char) : Option (List α × List Char) :=
  match skip r with
  | [] => none
  | c :: r =>
    if c = close then some ([], r)
    else do
      let (a, r) ← item (c :: r)
      let (as, r) ← readMore item close n r
      some (a :: as, r)

end Lists

/-- The characters of a number in any spelling. -/
def inNumber (c : Char) : Bool := isNumberChar c || c == 'E'

/-- What may follow a value: nothing, or a delimiter. -/
def Delimited (r : List Char) : Prop := ∀ c ∈ r.head?, inNumber c = false

theorem delimited_nil : Delimited [] := fun _ h => by simp at h

theorem delimited_cons {c : Char} (h : inNumber c = false) :
    Delimited (c :: r) := fun d hd => by
  simp only [List.head?_cons, Option.mem_def, Option.some.injEq] at hd
  exact hd ▸ h

/-- A closing bracket. -/
def IsClose (c : Char) : Prop := c = ']' ∨ c = '}'

/-- What a value or a member starts with. -/
def isFirst (c : Char) : Bool := isNumberChar c || "ntf\"[\x7b".toList.contains c

theorem isFirst_ne {c d : Char} (hc : isFirst c = true) (hd : isFirst d = false) : c ≠ d := by
  rintro rfl
  rw [hc] at hd
  exact absurd hd (by decide)

theorem skip_first {c : Char} (h : isFirst c = true) : skip (c :: r) = c :: r := by
  refine List.dropWhile_cons_of_neg ?_
  simp [isBlank, isFirst_ne h (d := ' ') (by decide), isFirst_ne h (d := '\t') (by decide),
    isFirst_ne h (d := '\n') (by decide), isFirst_ne h (d := '\r') (by decide)]

section ListsBack

variable {α : Type} {item : List Char → Option (α × List Char)} {text : α → List Char}
  {close : Char} {as : List α}

theorem delimited_more (hclo : IsClose close) (ts : List (List Char)) (r : List Char) :
    Delimited (ts.flatMap (',' :: ·) ++ close :: r) := by
  cases ts with
  | nil => rcases hclo with rfl | rfl <;> exact delimited_cons (by decide)
  | cons t ts => exact delimited_cons (by decide)

theorem readMore_back (hclo : IsClose close)
    (hitem : ∀ a ∈ as, ∀ r, Delimited r → item (text a ++ r) = some (a, r)) {n : Nat}
    (r : List Char) (hn : as.length < n) :
    readMore item close n ((as.map text).flatMap (',' :: ·) ++ close :: r) = some (as, r) := by
  induction as generalizing n with
  | nil =>
    obtain ⟨n, rfl⟩ := Nat.exists_eq_succ_of_ne_zero (Nat.ne_of_gt hn)
    rcases hclo with rfl | rfl <;> rfl
  | cons a as ih =>
    obtain ⟨n, rfl⟩ := Nat.exists_eq_succ_of_ne_zero (Nat.ne_of_gt (Nat.zero_lt_of_lt hn))
    have hcomma : ',' ≠ close := by rcases hclo with rfl | rfl <;> decide
    have hmore := ih (fun b hb => hitem b (List.mem_cons_of_mem a hb)) (Nat.lt_of_succ_lt_succ hn)
    rw [List.map_cons, List.flatMap_cons, List.cons_append, List.cons_append, List.append_assoc,
      readMore]
    show (if ',' = close then _ else _) = _
    rw [if_neg hcomma, if_pos rfl, hitem a List.mem_cons_self _ (delimited_more hclo _ r)]
    show (readMore item close n _).bind _ = _
    rw [hmore]
    rfl

theorem readList_back (hclo : IsClose close)
    (hitem : ∀ a ∈ as, ∀ r, Delimited r → item (text a ++ r) = some (a, r))
    (hfirst : ∀ a ∈ as, ∃ c l, text a = c :: l ∧ isFirst c = true) {n : Nat} (r : List Char)
    (hn : as.length ≤ n) :
    readList item close n (joinComma (as.map text) ++ close :: r) = some (as, r) := by
  cases as with
  | nil => rcases hclo with rfl | rfl <;> rfl
  | cons a as =>
    obtain ⟨c, l, htext, hc⟩ := hfirst a List.mem_cons_self
    have hne : c ≠ close := isFirst_ne hc (by rcases hclo with rfl | rfl <;> decide)
    have hhead := hitem a List.mem_cons_self _ (delimited_more hclo (as.map text) r)
    have hmore := readMore_back hclo (fun b hb => hitem b (List.mem_cons_of_mem a hb)) r hn
    rw [htext, List.cons_append] at hhead
    rw [List.map_cons, joinComma, List.append_assoc, htext, List.cons_append, readList,
      skip_first hc]
    show (if c = close then _ else _) = _
    rw [if_neg hne, hhead]
    show (readMore item close n _).bind _ = _
    rw [hmore]
    rfl

end ListsBack

/-- The text of a list has room for each of its items, and for the commas. -/
theorem length_joinComma (ts : List (List Char)) :
    ts.length ≤ (joinComma ts).length + 1 ∧ ∀ t ∈ ts, t.length ≤ (joinComma ts).length := by
  have hmore : ∀ us : List (List Char), us.length ≤ (us.flatMap (',' :: ·)).length ∧
      ∀ u ∈ us, u.length ≤ (us.flatMap (',' :: ·)).length := by
    intro us
    induction us with
    | nil => simp
    | cons u us ih =>
      simp only [List.flatMap_cons, List.length_append, List.length_cons, List.forall_mem_cons]
      exact ⟨by omega, by omega, fun w hw => Nat.le_add_left_of_le (ih.2 w hw)⟩
  cases ts with
  | nil => simp
  | cons t ts =>
    obtain ⟨hlen, hmem⟩ := hmore ts
    rw [joinComma, List.length_append, List.length_cons, List.forall_mem_cons]
    exact ⟨by omega, by omega, fun u hu => Nat.le_add_left_of_le (hmem u hu)⟩

/-! ## Reading values -/

/-- The numbers of the language: which texts it prints, and how it reads a text. -/
structure NumberTexts where
  printed : JsonNumber → Prop
  read : List Char → Option JsonNumber
  read_printed : ∀ n, printed n → read n.text.toList = some n

section Read

variable (N : NumberTexts)

/-- A member `"key":value`. -/
def readMember (value : List Char → Option (Json × List Char)) (n : Nat) (r : List Char) :
    Option ((String × Json) × List Char) :=
  match skip r with
  | '"' :: r => do
    let (key, r) ← readChars n r
    match skip r with
    | ':' :: r => do
      let (v, r) ← value r
      some ((String.ofList key, v), r)
    | _ => none
  | _ => none

/-- A value, and the text behind it. -/
def readValue : Nat → List Char → Option (Json × List Char)
  | 0, _ => none
  | n + 1, r =>
    match skip r with
    | 'n' :: 'u' :: 'l' :: 'l' :: r => some (.null, r)
    | 't' :: 'r' :: 'u' :: 'e' :: r => some (.boolean true, r)
    | 'f' :: 'a' :: 'l' :: 's' :: 'e' :: r => some (.boolean false, r)
    | '"' :: r => do
      let (s, r) ← readChars n r
      some (.string (String.ofList s), r)
    | '[' :: r => do
      let (items, r) ← readList (readValue n) ']' n r
      some (.array items, r)
    | '\x7b' :: r => do
      let (members, r) ← readList (readMember (readValue n) n) '}' n r
      some (.object members, r)
    | r => do
      let number ← N.read (r.takeWhile inNumber)
      some (.number number, r.dropWhile inNumber)

end Read

/-! ## Values are read back -/

section All

variable (P : Json → Prop)

mutual

/-- Every value inside has the property. -/
def Json.All : Json → Prop
  | .array items => P (.array items) ∧ AllItems items
  | .object members => P (.object members) ∧ AllMembers members
  | v => P v

def AllItems : List Json → Prop
  | [] => True
  | v :: vs => v.All ∧ AllItems vs

def AllMembers : List (String × Json) → Prop
  | [] => True
  | (_, v) :: ms => v.All ∧ AllMembers ms

end

variable {P}

theorem allItems_iff {vs : List Json} : AllItems P vs ↔ ∀ v ∈ vs, v.All P := by
  induction vs with
  | nil => simp [AllItems]
  | cons v vs ih => rw [AllItems, ih, List.forall_mem_cons]

theorem allMembers_iff {ms : List (String × Json)} :
    AllMembers P ms ↔ ∀ kv ∈ ms, kv.2.All P := by
  induction ms with
  | nil => simp [AllMembers]
  | cons kv ms ih => rw [AllMembers, ih, List.forall_mem_cons]

end All

/-- Induction over a value, with its items and members by membership. -/
theorem Json.structural {motive : Json → Prop} (null : motive .null)
    (boolean : ∀ b, motive (.boolean b)) (number : ∀ n, motive (.number n))
    (string : ∀ s, motive (.string s)) (array : ∀ vs, (∀ v ∈ vs, motive v) → motive (.array vs))
    (object : ∀ ms, (∀ kv ∈ ms, motive kv.2) → motive (.object ms)) (v : Json) : motive v :=
  @Json.rec motive (fun vs => ∀ v ∈ vs, motive v) (fun ms => ∀ kv ∈ ms, motive kv.2)
    (fun kv => motive kv.2) null boolean number string array object (by simp)
    (fun _ _ hv hvs => List.forall_mem_cons.mpr ⟨hv, hvs⟩) (by simp)
    (fun _ _ hv hvs => List.forall_mem_cons.mpr ⟨hv, hvs⟩) (fun _ _ h => h) v

/-- The numbers of a value are printed ones. -/
def Printed (N : NumberTexts) : Json → Prop
  | .number n => N.printed n
  | _ => True

theorem renderItems_eq (vs : List Json) : renderItems vs = vs.map render := by
  induction vs with
  | nil => rfl
  | cons v vs ih => rw [renderItems, ih, List.map_cons]

theorem renderMembers_eq (ms : List (String × Json)) :
    renderMembers ms = ms.map fun kv => quote kv.1 ++ ':' :: render kv.2 := by
  induction ms with
  | nil => rfl
  | cons kv ms ih => rw [renderMembers, ih, List.map_cons]

theorem render_head (v : Json) : ∃ c l, render v = c :: l ∧ isFirst c = true := by
  cases v with
  | null => exact ⟨_, _, rfl, by decide⟩
  | boolean b => cases b <;> exact ⟨_, _, rfl, by decide⟩
  | number n =>
    obtain ⟨hne, hall⟩ := n.numeric
    obtain ⟨c, l, htext⟩ := List.exists_cons_of_ne_nil hne
    exact ⟨c, l, by rw [render, htext], by
      rw [isFirst, hall c (htext ▸ List.mem_cons_self), Bool.true_or]⟩
  | string s => exact ⟨'"', _, rfl, by decide⟩
  | array items => exact ⟨'[', _, rfl, by decide⟩
  | object members => exact ⟨'\x7b', _, rfl, by decide⟩

variable {N : NumberTexts}

theorem readMember_back {value : List Char → Option (Json × List Char)} {n : Nat}
    {kv : String × Json} (hn : (quote kv.1).length ≤ n)
    (hval : value (render kv.2 ++ r) = some (kv.2, r)) :
    readMember value n ((quote kv.1 ++ ':' :: render kv.2) ++ r) = some (kv, r) := by
  rw [quote, List.length_cons, List.length_append] at hn
  have hkey := readChars_quote kv.1.toList (':' :: (render kv.2 ++ r))
    (Nat.lt_of_lt_of_le (Nat.lt_succ_of_le (Nat.le_add_right _ _)) hn)
  rw [quote, List.append_assoc, List.cons_append, List.append_assoc, readMember,
    skip_first (by decide)]
  show (readChars n _).bind _ = _
  rw [List.singleton_append, List.cons_append, hkey]
  show (value (render kv.2 ++ r)).bind _ = _
  rw [hval, Option.bind_some, String.ofList_toList]

theorem readNumber_back {number : JsonNumber} (h : N.printed number) (n : Nat) (hr : Delimited r) :
    readValue N (n + 1) (number.text.toList ++ r) = some (.number number, r) := by
  obtain ⟨hne, hall⟩ := number.numeric
  have hrun : ∀ c ∈ number.text.toList, inNumber c = true := fun c hc => by
    rw [inNumber, hall c hc, Bool.true_or]
  have hstop : r.takeWhile inNumber = [] ∧ r.dropWhile inNumber = r := by
    cases r with
    | nil => exact ⟨rfl, rfl⟩
    | cons c r =>
      have hc := hr c (by simp)
      exact ⟨List.takeWhile_cons_of_neg (by simp [hc]), List.dropWhile_cons_of_neg (by simp [hc])⟩
  obtain ⟨c, l, htext⟩ := List.exists_cons_of_ne_nil hne
  have hc : isNumberChar c = true := hall c (htext ▸ List.mem_cons_self)
  have hfirst : isFirst c = true := by rw [isFirst, hc, Bool.true_or]
  have hskip : skip (number.text.toList ++ r) = number.text.toList ++ r := by
    rw [htext]
    exact skip_first hfirst
  have hhead : (number.text.toList ++ r).head? = some c := by rw [htext]; rfl
  rw [readValue, hskip]
  split
  -- no other value starts with a character of a number
  iterate 6
    rename_i heq
    rw [heq] at hhead
    cases hhead
    exact absurd hc (by decide)
  rw [List.takeWhile_append_of_pos hrun, List.dropWhile_append_of_pos hrun, hstop.1, hstop.2,
    List.append_nil, N.read_printed number h]
  rfl

/-- **A value is read back from the front of its text.** -/
theorem readValue_render : ∀ {n : Nat} {v : Json} {r : List Char}, (render v).length ≤ n →
    v.All (Printed N) → Delimited r → readValue N n (render v ++ r) = some (v, r) := by
  intro n
  induction n with
  | zero =>
    intro v r hn _ _
    obtain ⟨c, l, h, -⟩ := render_head v
    rw [h] at hn
    exact absurd hn (Nat.not_succ_le_zero _)
  | succ n ih =>
    intro v r hn hv hr
    cases v with
    | null => rfl
    | boolean b => cases b <;> rfl
    | number number => exact readNumber_back hv n hr
    | string s =>
      rw [render, quote, List.length_cons, List.length_append] at hn
      have hs := readChars_quote s.toList r (Nat.lt_of_succ_le (Nat.le_of_succ_le_succ hn))
      rw [render, quote, List.cons_append, List.append_assoc, readValue, skip_first (by decide)]
      show (readChars n _).bind _ = _
      rw [List.singleton_append, hs]
      show some (Json.string (String.ofList s.toList), r) = _
      rw [String.ofList_toList]
    | array vs =>
      obtain ⟨hcnt, hmem⟩ := length_joinComma (vs.map render)
      rw [render, renderItems_eq, List.length_cons, List.length_append, List.length_singleton] at hn
      rw [List.length_map] at hcnt
      have hback := @readList_back _ (readValue N n) render ']' vs (.inl rfl)
        (fun w hw r' hr' => by
          have := hmem _ (List.mem_map_of_mem hw)
          exact ih (by omega) (allItems_iff.mp hv.2 w hw) hr')
        (fun w _ => render_head w) n r (by omega)
      rw [render, renderItems_eq, List.cons_append, List.append_assoc, readValue,
        skip_first (by decide)]
      show (readList _ _ _ _).bind _ = _
      rw [List.singleton_append, hback]
      rfl
    | object ms =>
      obtain ⟨hcnt, hmem⟩ := length_joinComma
        (ms.map fun kv => quote kv.1 ++ ':' :: render kv.2)
      rw [render, renderMembers_eq, List.length_cons, List.length_append,
        List.length_singleton] at hn
      rw [List.length_map] at hcnt
      have hback := @readList_back _ (readMember (readValue N n) n)
        (fun kv => quote kv.1 ++ ':' :: render kv.2) '}' ms (.inr rfl)
        (fun kv hkv r' hr' => by
          have := hmem _ (List.mem_map_of_mem hkv)
          rw [List.length_append, List.length_cons] at this
          exact readMember_back (by omega) (ih (by omega) (allMembers_iff.mp hv.2 kv hkv) hr'))
        (fun kv _ => ⟨'"', _, rfl, by decide⟩) n r (by omega)
      rw [render, renderMembers_eq, List.cons_append, List.append_assoc, readValue,
        skip_first (by decide)]
      show (readList _ _ _ _).bind _ = _
      rw [List.singleton_append, hback]
      rfl

/-- Every text of number characters, read as it stands. -/
def NumberTexts.verbatim : NumberTexts where
  printed _ := True
  read cs :=
    if h : cs ≠ [] ∧ cs.all isNumberChar = true then
      some ⟨String.ofList cs, by rwa [String.toList_ofList, ← List.all_eq_true]⟩
    else none
  read_printed n _ := by
    have hall := n.numeric
    rw [← List.all_eq_true] at hall
    rw [dif_pos hall]
    exact congrArg some (JsonNumber.mk.injEq .. ▸ String.ofList_toList)

/-- **A text determines its value.** -/
theorem render_injective {v w : Json} (h : render v = render w) : v = w := by
  have hall (v : Json) : v.All (Printed .verbatim) := by
    induction v using Json.structural with
    | null | boolean | number | string => trivial
    | array vs ih => exact ⟨trivial, allItems_iff.mpr ih⟩
    | object ms ih => exact ⟨trivial, allMembers_iff.mpr ih⟩
  have hv := readValue_render (le_refl _) (hall v) delimited_nil
  have hw := readValue_render (le_refl _) (hall w) delimited_nil
  rw [h, hw] at hv
  exact (Prod.mk.inj (Option.some.inj hv)).1.symm

end JsonText
