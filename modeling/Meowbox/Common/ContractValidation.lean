import Meowbox.Lib.JsDate
import Meowbox.Lib.JsValue

/-!
# The checks of `shared/src/contract-validation.ts`

A message from outside is a `JsValue`; each check returns the value it admits, typed, or the text
of the error it throws. `label` is the path of the checked value. `requireUniqueStrings` and
`requireHttpsOrigin` are left out: no modelled message uses them.
-/

namespace Meowbox

open JsData JsonText

/-- `value.length` of a string: its UTF-16 code units. -/
def jsLength (s : String) : Nat := (s.toList.flatMap utf16).length

/-- `Number.MAX_SAFE_INTEGER`. -/
def MAX_SAFE_INTEGER : Int := 9007199254740991

/-- The integer a number is, when its text has no fraction and no exponent. -/
def integer? (n : JsonNumber) : Option Int :=
  match n.text.toList with
  | '-' :: cs => (digits? cs).map fun m => -m
  | cs => digits? cs

/-- `fields[key]`. -/
def property (fields : List (String × JsValue)) (key : String) : JsValue :=
  (fields.lookup key).getD .undefined

/-- `isContractRecord`: the fields of a record. -/
def contractRecord? : JsValue → Option (List (String × JsValue))
  | .object fields => some fields
  | _ => none

/-- `throw new Error(message)` unless the condition holds. -/
def ensure (condition : Bool) (message : String) : Except String Unit :=
  if condition then .ok () else .error message

/-- `requireExactKeys`: the required keys first, in their order, then the keys of the value. -/
def requireExactKeys (fields : List (String × JsValue)) (required optional : List String)
    (label : String) : Except String Unit := do
  required.forM fun key =>
    ensure ((fields.map Prod.fst).contains key) (label ++ "." ++ key ++ " is required")
  (fields.map Prod.fst).forM fun key =>
    ensure ((required ++ optional).contains key) (label ++ "." ++ key ++ " is not allowed")

/-- `requireString`. -/
def requireString (value : JsValue) (label : String) (min max : Nat) (pattern : String → Bool) :
    Except String String :=
  match value with
  | .string s =>
    if min ≤ jsLength s ∧ jsLength s ≤ max ∧ pattern s = true then .ok s
    else .error (label ++ " is invalid")
  | _ => .error (label ++ " is invalid")

/-- No `pattern` option. -/
def anyString : String → Bool := fun _ => true

/-- `requireInteger`. -/
def requireInteger (value : JsValue) (label : String) (min max : Int) : Except String Int :=
  match value with
  | .number n =>
    match integer? n with
    | some i =>
      if min ≤ i ∧ i ≤ max ∧ -MAX_SAFE_INTEGER ≤ i ∧ i ≤ MAX_SAFE_INTEGER then .ok i
      else .error (label ++ " is invalid")
    | none => .error (label ++ " is invalid")
  | _ => .error (label ++ " is invalid")

/-- `requireBoolean`. -/
def requireBoolean (value : JsValue) (label : String) : Except String Bool :=
  match value with
  | .boolean b => .ok b
  | _ => .error (label ++ " is invalid")

/-- `requireEnum`: `values` gives each text with what it stands for. -/
def requireEnum {α : Type} (value : JsValue) (values : List (String × α)) (label : String) :
    Except String α :=
  match value with
  | .string s =>
    match values.lookup s with
    | some a => .ok a
    | none => .error (label ++ " is invalid")
  | _ => .error (label ++ " is invalid")

/-- `requireIsoDate`: the instant of the text, which determines the text. -/
def requireIsoDate (value : JsValue) (label : String) : Except String Int := do
  let raw ← requireString value label 1 64 anyString
  match parseIso raw with
  | some timestamp => .ok timestamp
  | none => .error (label ++ " is invalid")

/-! ## What the checks admit -/

/-- A check that went through, and what follows it. -/
theorem bind_ok {ε α β : Type} {x : Except ε α} {f : α → Except ε β} {b : β} :
    (x >>= f) = .ok b ↔ ∃ a, x = .ok a ∧ f a = .ok b := by
  cases x <;> simp [bind, Except.bind]

section Sequence

variable {ε α β : Type} {x : Except ε α} {f : α → Except ε β} {v : α} {b : β} {P Q : Prop}

/-- A check with one result, which goes through under a condition, and what follows it. -/
theorem bind_when (h : ∀ a, x = .ok a ↔ v = a ∧ P) (hrest : f v = .ok b ↔ Q) :
    (x >>= f) = .ok b ↔ P ∧ Q := by
  rw [bind_ok, ← hrest]
  constructor
  · rintro ⟨a, ha, hb⟩
    obtain ⟨rfl, hp⟩ := (h a).mp ha
    exact ⟨hp, hb⟩
  · exact fun ⟨hp, hb⟩ => ⟨v, (h v).mpr ⟨rfl, hp⟩, hb⟩

/-- A check that goes through. -/
theorem bind_of_ok (h : x = .ok v) (hrest : f v = .ok b ↔ Q) : (x >>= f) = .ok b ↔ Q := by
  rw [h]
  exact hrest

/-- A check without a result. -/
theorem bind_unit {x : Except ε Unit} {f : Unit → Except ε β} (h : x = .ok () ↔ P)
    (hrest : f () = .ok b ↔ Q) : (x >>= f) = .ok b ↔ P ∧ Q :=
  bind_when (fun _ => h.trans (iff_and_self.mpr fun _ => rfl)) hrest

end Sequence

theorem property_cons {fields : List (String × JsValue)} {k key : String} {value : JsValue} :
    property ((k, value) :: fields) key = if key = k then value else property fields key := by
  by_cases h : key = k
  · simp [property, h]
  · have hne : (key == k) = false := beq_eq_false_iff_ne.mpr h
    simp [property, List.lookup_cons, hne, h]

@[simp] theorem ensure_ok {condition : Bool} {message : String} :
    ensure condition message = .ok () ↔ condition = true := by
  cases condition <;> simp [ensure]

variable {label : String}

theorem requireString_ok {value : JsValue} {min max : Nat} {pattern : String → Bool} {s : String}
    (h : requireString value label min max pattern = .ok s) :
    value = .string s ∧ min ≤ jsLength s ∧ jsLength s ≤ max ∧ pattern s = true := by
  unfold requireString at h
  split at h
  · split at h
    · rename_i hs
      cases h
      exact ⟨rfl, hs⟩
    · exact absurd h (by simp)
  · exact absurd h (by simp)

theorem requireInteger_ok {value : JsValue} {min max i : Int}
    (h : requireInteger value label min max = .ok i) :
    min ≤ i ∧ i ≤ max ∧ -MAX_SAFE_INTEGER ≤ i ∧ i ≤ MAX_SAFE_INTEGER := by
  unfold requireInteger at h
  split at h
  · split at h
    · split at h
      · rename_i hi
        cases h
        exact hi
      · exact absurd h (by simp)
    · exact absurd h (by simp)
  · exact absurd h (by simp)

/-! ## What the checks admit of a value that is what they ask for -/

theorem utf16_length (c : Char) : 1 ≤ (utf16 c).length ∧ (utf16 c).length ≤ 2 := by
  unfold utf16
  split <;> simp

/-- A character has one code unit or two. -/
theorem jsLength_bounds (s : String) :
    s.toList.length ≤ jsLength s ∧ jsLength s ≤ 2 * s.toList.length := by
  unfold jsLength
  induction s.toList with
  | nil => simp
  | cons c cs ih =>
    have hc := utf16_length c
    rw [List.flatMap_cons, List.length_append, List.length_cons]
    omega

/-- The length of a text of the basic plane is its number of characters. -/
theorem jsLength_of_basic {s : String} (h : ∀ c ∈ s.toList, c.toNat < 0x10000) :
    jsLength s = s.toList.length := by
  unfold jsLength
  generalize s.toList = cs at h
  induction cs with
  | nil => rfl
  | cons c cs ih =>
    have hc : (utf16 c).length = 1 := by
      rw [utf16, if_pos (h c List.mem_cons_self)]
      rfl
    rw [List.flatMap_cons, List.length_append, List.length_cons,
      ih fun d hd => h d (List.mem_cons_of_mem c hd), hc, Nat.add_comm]

theorem requireString_string {s t : String} {min max : Nat} {pattern : String → Bool} :
    requireString (.string s) label min max pattern = .ok t ↔
      s = t ∧ min ≤ jsLength s ∧ jsLength s ≤ max ∧ pattern s = true := by
  unfold requireString
  by_cases h : min ≤ jsLength s ∧ jsLength s ≤ max ∧ pattern s = true
  · simp [h]
  · simp [h]

theorem digits?_toDigits (n : Nat) : digits? (Nat.toDigits 10 n) = some (n : Int) := by
  have hdig : (Nat.toDigits 10 n).all Char.isDigit = true :=
    List.all_eq_true.mpr fun c hc => toDigits_isDigit c hc
  rw [digits?, if_pos ⟨Nat.toDigits_ne_nil, hdig⟩, Nat.ofDigitChars_ten_toDigits]

theorem integer?_ofInt (n : Int) : integer? (JsonNumber.ofInt n) = some n := by
  cases n with
  | ofNat m =>
    have hchs : (JsonNumber.ofInt (.ofNat m)).text.toList = Nat.toDigits 10 m :=
      String.toList_ofList
    rw [integer?, hchs]
    split
    · rename_i heq
      have hdigit := toDigits_isDigit '-' (heq ▸ List.mem_cons_self)
      exact absurd hdigit (by decide)
    · exact digits?_toDigits m
  | negSucc m =>
    have hchs : (JsonNumber.ofInt (.negSucc m)).text.toList = '-' :: Nat.toDigits 10 (m + 1) :=
      String.toList_ofList
    rw [integer?, hchs]
    simp only [digits?_toDigits, Option.map_some]
    rfl

theorem requireInteger_ofInt {n i min max : Int} :
    requireInteger (.number (JsonNumber.ofInt n)) label min max = .ok i ↔
      n = i ∧ min ≤ n ∧ n ≤ max ∧ -MAX_SAFE_INTEGER ≤ n ∧ n ≤ MAX_SAFE_INTEGER := by
  unfold requireInteger
  simp only [integer?_ofInt]
  by_cases h : min ≤ n ∧ n ≤ max ∧ -MAX_SAFE_INTEGER ≤ n ∧ n ≤ MAX_SAFE_INTEGER
  · simp [h]
  · simp [h]

/-- An integer between bounds that are safe themselves. -/
theorem requireInteger_natural {n i min max : Int} (hmin : 0 ≤ min)
    (hmax : max ≤ MAX_SAFE_INTEGER) :
    requireInteger (.number (JsonNumber.ofInt n)) label min max = .ok i ↔
      n = i ∧ min ≤ n ∧ n ≤ max := by
  have hsafe : (0 : Int) ≤ MAX_SAFE_INTEGER := by decide
  rw [requireInteger_ofInt]
  constructor
  · rintro ⟨rfl, hlo, hhi, -⟩
    exact ⟨rfl, hlo, hhi⟩
  · rintro ⟨rfl, hlo, hhi⟩
    exact ⟨rfl, hlo, hhi, by omega, by omega⟩

theorem requireIsoDate_toISOString {t u : Int} (ht : isInstant t = true) :
    requireIsoDate (.string (toISOString t)) label = .ok u ↔ t = u := by
  have hlen := jsLength_bounds (toISOString t)
  have hchs := toISOString_length t
  unfold requireIsoDate
  simp only [bind_ok, requireString_string, anyString]
  constructor
  · rintro ⟨_, ⟨rfl, -⟩, h⟩
    rw [parseIso_toISOString ht] at h
    exact Except.ok.inj h
  · rintro rfl
    refine ⟨_, ⟨rfl, by omega, by omega, trivial⟩, ?_⟩
    rw [parseIso_toISOString ht]

end Meowbox
