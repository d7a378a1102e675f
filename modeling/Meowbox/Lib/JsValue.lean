import Meowbox.Lib.Json

/-!
# JavaScript data values

`JsValue` is what a program can hold as plain data: an object is its own enumerable string keys
with their values, in insertion order. Finite numbers are their decimal texts; `NaN` and the two
infinities are `nonFinite`, which JSON cannot write.

`stringify` is `JSON.stringify`, `overWire` what arrives of a value sent as JSON; `trim` is
`String.prototype.trim`; `utf16Le` is the order of `Array.prototype.sort` on strings.
-/

namespace JsData

open JsonText

/-- A data value. -/
inductive JsValue
  | undefined
  | null
  | boolean (b : Bool)
  | number (n : JsonNumber)
  | nonFinite
  | string (s : String)
  | array (items : List JsValue)
  | object (fields : List (String × JsValue))

/-! ## `JSON.stringify` -/

mutual

/-- The JSON value `JSON.stringify` writes, `none` for `undefined`. -/
def toJson? : JsValue → Option Json
  | .undefined => none
  | .null => some .null
  | .boolean b => some (.boolean b)
  | .number n => some (.number n)
  | .nonFinite => some .null
  | .string s => some (.string s)
  | .array items => some (.array (toJsonItems items))
  | .object fields => some (.object (toJsonMembers fields))

/-- Inside an array `undefined` is written as `null`. -/
def toJsonItems : List JsValue → List Json
  | [] => []
  | v :: vs => (toJson? v).getD .null :: toJsonItems vs

/-- A key whose value is `undefined` is left out. -/
def toJsonMembers : List (String × JsValue) → List (String × Json)
  | [] => []
  | (k, v) :: fs =>
    match toJson? v with
    | some j => (k, j) :: toJsonMembers fs
    | none => toJsonMembers fs

end

/-- `JSON.stringify(value)`. -/
def stringify (v : JsValue) : Option String := (toJson? v).map fun j => String.ofList (render j)

/-! ## A value that was written and read -/

mutual

/-- The data value of a JSON value. -/
def ofJson : Json → JsValue
  | .null => .null
  | .boolean b => .boolean b
  | .number n => .number n
  | .string s => .string s
  | .array items => .array (ofJsonItems items)
  | .object members => .object (ofJsonMembers members)

def ofJsonItems : List Json → List JsValue
  | [] => []
  | j :: js => ofJson j :: ofJsonItems js

def ofJsonMembers : List (String × Json) → List (String × JsValue)
  | [] => []
  | (k, j) :: ms => (k, ofJson j) :: ofJsonMembers ms

end

theorem ofJsonItems_eq (js : List Json) : ofJsonItems js = js.map ofJson := by
  induction js with
  | nil => rfl
  | cons j js ih => rw [ofJsonItems, ih, List.map_cons]

theorem ofJsonMembers_eq (ms : List (String × Json)) :
    ofJsonMembers ms = ms.map fun kv => (kv.1, ofJson kv.2) := by
  induction ms with
  | nil => rfl
  | cons kv ms ih => rw [ofJsonMembers, ih, List.map_cons]

/-- `JSON.parse(JSON.stringify(value))`: what arrives of a value that is sent as JSON. -/
def overWire (v : JsValue) : JsValue := ((toJson? v).map ofJson).getD .undefined

mutual

theorem toJson?_ofJson : ∀ j : Json, toJson? (ofJson j) = some j
  | .null => rfl
  | .boolean _ => rfl
  | .number _ => rfl
  | .string _ => rfl
  | .array items => by rw [ofJson, toJson?, toJsonItems_ofJson items]
  | .object members => by rw [ofJson, toJson?, toJsonMembers_ofJson members]

theorem toJsonItems_ofJson : ∀ js : List Json, toJsonItems (ofJsonItems js) = js
  | [] => rfl
  | j :: js => by
    rw [ofJsonItems, toJsonItems, toJson?_ofJson j, toJsonItems_ofJson js, Option.getD_some]

theorem toJsonMembers_ofJson : ∀ ms : List (String × Json), toJsonMembers (ofJsonMembers ms) = ms
  | [] => rfl
  | (k, j) :: ms => by
    rw [ofJsonMembers, toJsonMembers, toJson?_ofJson j, toJsonMembers_ofJson ms]

end

/-- What arrives is written as what was sent. -/
theorem stringify_overWire (v : JsValue) : stringify (overWire v) = stringify v := by
  unfold stringify overWire
  cases h : toJson? v with
  | none => rfl
  | some j => rw [Option.map_some, Option.getD_some, toJson?_ofJson]

/-- A record whose fields can all be written arrives with all of them. -/
theorem overWire_object {fields : List (String × JsValue)}
    (h : ∀ kv ∈ fields, (toJson? kv.2).isSome = true) :
    overWire (.object fields) = .object (fields.map fun kv => (kv.1, overWire kv.2)) := by
  have hmems : ofJsonMembers (toJsonMembers fields) =
      fields.map fun kv => (kv.1, overWire kv.2) := by
    induction fields with
    | nil => rfl
    | cons kv fields ih =>
      obtain ⟨k, v⟩ := kv
      obtain ⟨j, hj⟩ := Option.isSome_iff_exists.mp (h (k, v) List.mem_cons_self)
      rw [toJsonMembers, hj, List.map_cons, overWire, hj,
        ← ih fun kv hkv => h kv (List.mem_cons_of_mem _ hkv)]
      rfl
  rw [← hmems]
  rfl

/-! ## Strings -/

/-- White space and line terminators, as `trim` removes them. -/
def isJsSpace (c : Char) : Bool :=
  (0x09 ≤ c.toNat && c.toNat ≤ 0x0d) || c.toNat == 0x20 || c.toNat == 0xa0 ||
    c.toNat == 0x1680 || (0x2000 ≤ c.toNat && c.toNat ≤ 0x200a) || c.toNat == 0x2028 ||
    c.toNat == 0x2029 || c.toNat == 0x202f || c.toNat == 0x205f || c.toNat == 0x3000 ||
    c.toNat == 0xfeff

/-- `s.trim()`. -/
def trim (s : String) : String :=
  String.ofList (((s.toList.dropWhile isJsSpace).reverse.dropWhile isJsSpace).reverse)

/-- Printable ASCII, the blank apart, is no white space. -/
theorem isJsSpace_of_graphic {c : Char} (hlo : 0x20 < c.toNat) (hhi : c.toNat < 0x7f) :
    isJsSpace c = false := by
  simp only [isJsSpace, Bool.or_eq_false_iff, Bool.and_eq_false_iff, decide_eq_false_iff_not,
    beq_eq_false_iff_ne]
  omega

theorem dropWhile_of_plain {l : List Char} (h : ∀ c ∈ l, isJsSpace c = false) :
    l.dropWhile isJsSpace = l := by
  cases l with
  | nil => rfl
  | cons c cs => exact List.dropWhile_cons_of_neg (by simp [h c List.mem_cons_self])

theorem trim_of_plain {s : String} (h : ∀ c ∈ s.toList, isJsSpace c = false) : trim s = s := by
  rw [trim, dropWhile_of_plain h, dropWhile_of_plain fun c hc => h c (List.mem_reverse.mp hc),
    List.reverse_reverse, String.ofList_toList]

/-- The UTF-16 code units of a character. -/
def utf16 (c : Char) : List Nat :=
  if c.toNat < 0x10000 then [c.toNat]
  else [0xd800 + (c.toNat - 0x10000) / 0x400, 0xdc00 + (c.toNat - 0x10000) % 0x400]

/-- The number of code units of a text: `s.length`. -/
def units (s : List Char) : Nat := (s.flatMap utf16).length

/-- The last characters that fit into `max` code units: `s.slice(-max)`. A character the cut falls
into is left out whole. -/
def keepLast (max : Nat) : List Char → List Char
  | [] => []
  | c :: cs => if units (c :: cs) ≤ max then c :: cs else keepLast max cs

theorem units_append (a b : List Char) : units (a ++ b) = units a + units b := by
  rw [units, List.flatMap_append, List.length_append]
  rfl

/-- Cutting before more is appended changes nothing. -/
theorem keepLast_append (max : Nat) (a b : List Char) :
    keepLast max (keepLast max a ++ b) = keepLast max (a ++ b) := by
  induction a with
  | nil => rfl
  | cons c cs ih =>
    by_cases hfit : units (c :: cs) ≤ max
    · rw [keepLast, if_pos hfit]
    · have hlong : ¬ units (c :: (cs ++ b)) ≤ max := by
        have happend := units_append (c :: cs) b
        rw [List.cons_append] at happend
        omega
      rw [keepLast, if_neg hfit, List.cons_append, keepLast, if_neg hlong, ih]

/-- The order of strings by code units. -/
def utf16Le (s t : String) : Prop := ¬ t.toList.flatMap utf16 < s.toList.flatMap utf16

instance (s t : String) : Decidable (utf16Le s t) := inferInstanceAs (Decidable (¬ _))

/-- A value a condition takes for true: the empty string counts as absent. -/
def truthy (s : Option String) : Option String := s.filter fun t => t != ""

/-! ## Reading a text by a character class -/

/-- `s` has between `lo` and `hi` characters, all of them in the class. -/
def allIn (cls : Char → Bool) (lo hi : Nat) (s : String) : Bool :=
  s.toList.all cls && decide (lo ≤ s.toList.length) && decide (s.toList.length ≤ hi)

/-- `[a-z]`. -/
def isLowerAscii (c : Char) : Bool := decide ('a' ≤ c) && decide (c ≤ 'z')

/-- `[0-9]`. -/
def isDigitAscii (c : Char) : Bool := decide ('0' ≤ c) && decide (c ≤ '9')

/-- `[A-Z]`. -/
def isUpperAscii (c : Char) : Bool := decide ('A' ≤ c) && decide (c ≤ 'Z')

end JsData
