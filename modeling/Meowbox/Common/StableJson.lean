import Meowbox.Lib.JsValue
import Mathlib.Data.List.Sort
import Mathlib.Algebra.GroupWithZero.Nat

/-!
# `stableJson` and the secret-field check

`stableJson` (`api/src/common/stable-json.ts`) writes a value with every object's keys sorted and
with `undefined` written as `null`. `canonical` is the JSON value that text denotes.

* **`stableJson_eq_iff`**: two values have one stable text iff their canonical values are equal.
  So a hash over the text separates two values exactly when they differ beyond the order of keys,
  `undefined` against `null`, and numbers JSON cannot write.

* `stableJson_overWire_size`: a value that arrives is stored in as many bytes as it was sent in.

`assertNoSecretFields` is `api/src/common/safe-persisted-json.ts`.
-/

namespace Meowbox

open JsData JsonText

instance : IsTrans String utf16Le := ⟨fun _ _ _ h h' => List.le_trans h h'⟩

instance : Std.Total utf16Le := ⟨fun _ _ => List.le_total _ _⟩

/-- `Object.keys(object).sort()`, each key with what stands under it. -/
def sortByKey {β : Type} (fields : List (String × β)) : List (String × β) :=
  fields.insertionSort fun a b => utf16Le a.1 b.1

mutual

/-- The characters of `stableJson(value)`. -/
def stableChars : JsValue → List Char
  | .undefined => "null".toList
  | .null => "null".toList
  | .boolean b => if b then "true".toList else "false".toList
  | .number n => n.text.toList
  | .nonFinite => "null".toList
  | .string s => quote s
  | .array items => '[' :: (joinComma (stableItems items) ++ [']'])
  | .object fields =>
    '{' :: (joinComma ((sortByKey (stableFields fields)).map fun kt => quote kt.1 ++ ':' :: kt.2)
      ++ ['}'])

def stableItems : List JsValue → List (List Char)
  | [] => []
  | v :: vs => stableChars v :: stableItems vs

def stableFields : List (String × JsValue) → List (String × List Char)
  | [] => []
  | (k, v) :: fs => (k, stableChars v) :: stableFields fs

end

/-- `stableJson(value)`. -/
def stableJson (v : JsValue) : String := String.ofList (stableChars v)

/-! ## What the stable text denotes -/

mutual

/-- The value with keys sorted, and `null` for what JSON cannot write. -/
def canonical : JsValue → Json
  | .undefined => .null
  | .null => .null
  | .boolean b => .boolean b
  | .number n => .number n
  | .nonFinite => .null
  | .string s => .string s
  | .array items => .array (canonicalItems items)
  | .object fields => .object (sortByKey (canonicalFields fields))

def canonicalItems : List JsValue → List Json
  | [] => []
  | v :: vs => canonical v :: canonicalItems vs

def canonicalFields : List (String × JsValue) → List (String × Json)
  | [] => []
  | (k, v) :: fs => (k, canonical v) :: canonicalFields fs

end

/-- Sorting by key does not look at the values. -/
theorem sortByKey_map {β γ : Type} (g : β → γ) (fields : List (String × β)) :
    (sortByKey fields).map (fun kb => (kb.1, g kb.2)) =
      sortByKey (fields.map fun kb => (kb.1, g kb.2)) :=
  List.map_insertionSort _ _ _ _ fun _ _ _ _ => Iff.rfl

mutual

/-- `stableJson` prints the canonical value. -/
theorem stableChars_eq : ∀ v : JsValue, stableChars v = render (canonical v)
  | .undefined => rfl
  | .null => rfl
  | .boolean true => rfl
  | .boolean false => rfl
  | .number n => rfl
  | .nonFinite => rfl
  | .string s => rfl
  | .array items => by
    rw [stableChars, canonical, render, stableItems_eq items]
  | .object fields => by
    rw [stableChars, canonical, render, stableFields_eq fields, ← sortByKey_map, renderMembers_eq,
      List.map_map]
    rfl

theorem stableItems_eq : ∀ vs : List JsValue, stableItems vs = renderItems (canonicalItems vs)
  | [] => rfl
  | v :: vs => by
    rw [stableItems, canonicalItems, renderItems, stableChars_eq v, stableItems_eq vs]

theorem stableFields_eq : ∀ fs : List (String × JsValue),
    stableFields fs = (canonicalFields fs).map fun kv => (kv.1, render kv.2)
  | [] => rfl
  | (k, v) :: fs => by
    rw [stableFields, canonicalFields, List.map_cons, stableChars_eq v, stableFields_eq fs]

end

/-- **The stable text determines the canonical value.** -/
theorem stableJson_eq_iff {v w : JsValue} :
    stableJson v = stableJson w ↔ canonical v = canonical w := by
  rw [stableJson, stableJson, stableChars_eq, stableChars_eq, String.ofList_inj]
  exact ⟨render_injective, congrArg render⟩

/-! ## The size of the stable text -/

/-- The bytes of some characters in UTF-8. -/
def byteSize (cs : List Char) : Nat := (cs.map Char.utf8Size).sum

theorem utf8ByteSize_ofList (cs : List Char) : (String.ofList cs).utf8ByteSize = byteSize cs := by
  induction cs with
  | nil => rfl
  | cons c cs ih =>
    rw [String.ofList_cons, String.utf8ByteSize_append, ih, byteSize, byteSize, List.map_cons,
      List.sum_cons]
    simp

theorem byteSize_append (cs ds : List Char) : byteSize (cs ++ ds) = byteSize cs + byteSize ds := by
  simp [byteSize]

theorem byteSize_cons (c : Char) (cs : List Char) :
    byteSize (c :: cs) = c.utf8Size + byteSize cs := by
  simp [byteSize]

/-- The size of joined texts does not depend on their order. -/
theorem byteSize_joinComma (ts : List (List Char)) :
    byteSize (joinComma ts) = (ts.map byteSize).sum + (ts.length - 1) := by
  cases ts with
  | nil => rfl
  | cons t ts =>
    have hrest : byteSize (ts.flatMap (',' :: ·)) = (ts.map byteSize).sum + ts.length := by
      induction ts with
      | nil => rfl
      | cons u us ih =>
        have hcomma : (',' : Char).utf8Size = 1 := by decide
        rw [List.flatMap_cons, byteSize_append, byteSize_cons, ih, hcomma, List.map_cons,
          List.sum_cons, List.length_cons]
        omega
    rw [joinComma, byteSize_append, hrest, List.map_cons, List.sum_cons, List.length_cons]
    omega

theorem byteSize_joinComma_congr {ts us : List (List Char)}
    (h : (ts.map byteSize).Perm (us.map byteSize)) :
    byteSize (joinComma ts) = byteSize (joinComma us) := by
  have hlen : ts.length = us.length := by simpa using h.length_eq
  rw [byteSize_joinComma, byteSize_joinComma, h.sum_nat, hlen]

mutual

/-- The stable text of what JSON says is as long as the text it was read from. -/
theorem byteSize_stableChars : ∀ j : Json, byteSize (stableChars (ofJson j)) = byteSize (render j)
  | .null => rfl
  | .boolean true => rfl
  | .boolean false => rfl
  | .number _ => rfl
  | .string _ => rfl
  | .array items => by
    rw [ofJson, stableChars, render, byteSize_cons, byteSize_cons, byteSize_append, byteSize_append,
      byteSize_joinComma_congr (.of_eq (byteSize_stableItems items))]
  | .object members => by
    have hsor : ((sortByKey (stableFields (ofJsonMembers members))).map fun kt =>
        quote kt.1 ++ ':' :: kt.2).Perm
          ((stableFields (ofJsonMembers members)).map fun kt => quote kt.1 ++ ':' :: kt.2) :=
      (List.perm_insertionSort _ _).map _
    have hsize := (hsor.map byteSize).trans (.of_eq (byteSize_stableFields members))
    rw [ofJson, stableChars, render, byteSize_cons, byteSize_cons, byteSize_append, byteSize_append,
      byteSize_joinComma_congr hsize]

theorem byteSize_stableItems : ∀ js : List Json,
    (stableItems (ofJsonItems js)).map byteSize = (renderItems js).map byteSize
  | [] => rfl
  | j :: js => by
    rw [ofJsonItems, stableItems, renderItems, List.map_cons, List.map_cons,
      byteSize_stableChars j, byteSize_stableItems js]

theorem byteSize_stableFields : ∀ ms : List (String × Json),
    ((stableFields (ofJsonMembers ms)).map fun kt => quote kt.1 ++ ':' :: kt.2).map byteSize =
      (renderMembers ms).map byteSize
  | [] => rfl
  | (k, j) :: ms => by
    rw [ofJsonMembers, stableFields, renderMembers, List.map_cons, List.map_cons, List.map_cons,
      byteSize_append, byteSize_append, byteSize_cons, byteSize_cons, byteSize_stableChars j,
      byteSize_stableFields ms]

end

/-- **What arrives is stored in as many bytes as it was sent in.** -/
theorem stableJson_overWire_size {v : JsValue} {encoded : String} (h : stringify v = some encoded) :
    (stableJson (overWire v)).utf8ByteSize = encoded.utf8ByteSize := by
  unfold stringify at h
  obtain ⟨j, hj, rfl⟩ := Option.map_eq_some_iff.mp h
  rw [overWire, hj, Option.map_some, Option.getD_some, stableJson, utf8ByteSize_ofList,
    utf8ByteSize_ofList, byteSize_stableChars]

/-! ## `assertNoSecretFields` -/

/-- Case-insensitive search of an ASCII word. -/
def containsWord (word : List Char) (s : List Char) : Bool :=
  s.tails.any fun t => (t.take word.length).map Char.toLower == word

/-- `private.?key`: the two words with at most one character between them. -/
def containsPrivateKey (s : List Char) : Bool :=
  containsWord "privatekey".toList s ||
    s.tails.any fun t =>
      (t.take 7).map Char.toLower == "private".toList &&
        (match t.drop 7 with
          | c :: rest =>
            !(c == '\n' || c == '\r' || c.toNat == 0x2028 || c.toNat == 0x2029) &&
              (rest.take 3).map Char.toLower == "key".toList
          | [] => false)

/-- `/(password|secret|token|credential|private.?key|envvars)/i`. -/
def isSecretKey (key : String) : Bool :=
  ["password", "secret", "token", "credential", "envvars"].any
    (fun w => containsWord w.toList key.toList) || containsPrivateKey key.toList

/-- `/^[a-z][a-z0-9.-]{1,255}$/`. -/
def isActionCatalogueKey (key : String) : Bool :=
  match key.toList with
  | c :: rest =>
    isLowerAscii c && rest.all (fun d => isLowerAscii d || isDigitAscii d || d == '.' || d == '-')
      && decide (1 ≤ rest.length) && decide (rest.length ≤ 255)
  | [] => false

mutual

/-- `assertNoSecretFields(value, path)`; the error is the message thrown. -/
def assertNoSecretFields (path : String) : JsValue → Except String Unit
  | .array items => assertNoSecretItems path 0 items
  | .object fields => assertNoSecretMembers path fields
  | _ => .ok ()

def assertNoSecretItems (path : String) (index : Nat) : List JsValue → Except String Unit
  | [] => .ok ()
  | v :: vs => do
    assertNoSecretFields (path ++ "[" ++ toString index ++ "]") v
    assertNoSecretItems path (index + 1) vs

def assertNoSecretMembers (path : String) : List (String × JsValue) → Except String Unit
  | [] => .ok ()
  | (key, nested) :: fs => do
    if isSecretKey key &&
        !(path.endsWith ".manifest.actions" && isActionCatalogueKey key) then
      .error (path ++ " contains forbidden secret field: " ++ path ++ "." ++ key)
    else
      assertNoSecretFields (path ++ "." ++ key) nested
      assertNoSecretMembers path fs

end

end Meowbox
