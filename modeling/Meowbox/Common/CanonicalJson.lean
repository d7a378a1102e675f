import Meowbox.Common.StableJson
import Meowbox.Lib.JsMap

/-!
# Canonical texts are faithful

`canonicalFederationJson` (`shared/src/federation.ts`) is written a second time, and takes
`undefined` as the language does: nothing in an array, its name under a key. `parse` is
`JSON.parse`: of two members with one key the later counts, in the place of the first.

* `Same`: equality up to the order of members, wherever they stand.
* `stableJson_eq_iff_same`: values have one text iff they are the same.
* `parse_render`: what JSON writes is read back.
-/

namespace JsonText

/-! ## Values up to the order of members -/

/-- Equality up to the order of the members of objects. -/
inductive Same : Json → Json → Prop
  | refl (v : Json) : Same v v
  | symm {v w : Json} : Same v w → Same w v
  | trans {u v w : Json} : Same u v → Same v w → Same u w
  | item {pre post : List Json} {v w : Json} :
    Same v w → Same (.array (pre ++ v :: post)) (.array (pre ++ w :: post))
  | member {pre post : List (String × Json)} {k : String} {v w : Json} :
    Same v w → Same (.object (pre ++ (k, v) :: post)) (.object (pre ++ (k, w) :: post))
  | order {ms ns : List (String × Json)} : ms.Perm ns → Same (.object ms) (.object ns)

section Same

variable {v w : Json} {vs : List Json} {ms : List (String × Json)} {P : Json → Prop}

theorem Same.items {f : Json → Json} (pre : List Json) (h : ∀ v ∈ vs, Same v (f v)) :
    Same (.array (pre ++ vs)) (.array (pre ++ vs.map f)) := by
  induction vs generalizing pre with
  | nil => exact .refl _
  | cons v vs ih =>
    rw [List.forall_mem_cons] at h
    have hrest := ih (pre ++ [f v]) h.2
    rw [List.append_assoc, List.append_assoc] at hrest
    exact (Same.item h.1).trans hrest

theorem Same.members {f : Json → Json} (front : List (String × Json)) (h : ∀ kv ∈ ms, Same kv.2 (f kv.2)) :
    Same (.object (front ++ ms)) (.object (front ++ ms.map fun kv => (kv.1, f kv.2))) := by
  induction ms generalizing front with
  | nil => exact .refl _
  | cons kv ms ih =>
    rw [List.forall_mem_cons] at h
    have hrest := ih (front ++ [(kv.1, f kv.2)]) h.2
    rw [List.append_assoc, List.append_assoc] at hrest
    exact (Same.member h.1).trans hrest

/-- A property that does not look behind the keys is kept. -/
theorem Same.all_iff (harray : ∀ vs ws, P (.array vs) → P (.array ws))
    (hobject : ∀ ms ns : List (String × Json), (ms.map Prod.fst).Perm (ns.map Prod.fst) →
      P (.object ms) → P (.object ns)) (h : Same v w) : v.All P ↔ w.All P := by
  induction h with
  | refl => exact Iff.rfl
  | symm _ ih => exact ih.symm
  | trans _ _ ih ih' => exact ih.trans ih'
  | item _ ih =>
    simp only [Json.All, allItems_iff, List.forall_mem_append, List.forall_mem_cons, ih]
    exact and_congr_left fun _ => ⟨harray _ _, harray _ _⟩
  | member _ ih =>
    simp only [Json.All, allMembers_iff, List.forall_mem_append, List.forall_mem_cons, ih]
    exact and_congr_left fun _ => ⟨hobject _ _ (by simp), hobject _ _ (by simp)⟩
  | order hperm =>
    simp only [Json.All, allMembers_iff]
    exact and_congr ⟨hobject _ _ (hperm.map _), hobject _ _ (hperm.symm.map _)⟩
      (forall_congr' fun kv => imp_congr_left hperm.mem_iff)

end Same

/-! ## `JSON.parse` -/

mutual

/-- The value with one member a key. -/
def Json.merge : Json → Json
  | .array items => .array (mergeItems items)
  | .object members => .object (mergeMembers [] members)
  | v => v

def mergeItems : List Json → List Json
  | [] => []
  | v :: vs => v.merge :: mergeItems vs

def mergeMembers (merged : List (String × Json)) : List (String × Json) → List (String × Json)
  | [] => merged
  | (k, v) :: ms => mergeMembers (JsMap.assign k v.merge merged) ms

end

/-- `JSON.parse(text)`, `none` for a `SyntaxError`. -/
def parse (N : NumberTexts) (text : String) : Option Json := do
  let (v, r) ← readValue N text.toList.length text.toList
  if skip r = [] then some v.merge else none

/-- What a value of the language is: its numbers are printed ones, its objects have a key once. -/
def Plain (N : NumberTexts) : Json → Prop
  | .number n => N.printed n
  | .object ms => (ms.map Prod.fst).Nodup
  | _ => True

/-- A JSON value of the language. -/
structure JsonValue (N : NumberTexts) where
  json : Json
  plain : json.All (Plain N)

theorem assign_new {k : String} {v : Json} {ms : List (String × Json)}
    (h : k ∉ ms.map Prod.fst) : JsMap.assign k v ms = ms ++ [(k, v)] := by
  induction ms with
  | nil => rfl
  | cons kv ms ih =>
    rw [List.map_cons, List.mem_cons, not_or] at h
    rw [JsMap.assign, if_neg (Ne.symm h.1), ih h.2, List.cons_append]

variable {N : NumberTexts}

theorem merge_plain {v : Json} (h : v.All (Plain N)) : v.merge = v := by
  induction v using Json.structural with
  | null | boolean | number | string => rfl
  | array vs ih =>
    have hits := allItems_iff.mp h.2
    rw [Json.merge]
    congr 1
    clear h
    induction vs with
    | nil => rfl
    | cons v vs ihvs =>
      rw [List.forall_mem_cons] at ih hits
      rw [mergeItems, ih.1 hits.1, ihvs ih.2 hits.2]
  | object ms ih =>
    have hmems := allMembers_iff.mp h.2
    have hmerge : ∀ merged : List (String × Json), (merged ++ ms |>.map Prod.fst).Nodup →
        mergeMembers merged ms = merged ++ ms := by
      clear h
      induction ms with
      | nil => exact fun merged _ => (List.append_nil merged).symm
      | cons kv ms ihms =>
        intro merged hnd
        rw [List.forall_mem_cons] at ih hmems
        have hnew : kv.1 ∉ merged.map Prod.fst := fun hmem => by
          rw [List.map_append, List.map_cons] at hnd
          exact List.disjoint_of_nodup_append hnd hmem List.mem_cons_self
        rw [List.append_cons] at hnd ⊢
        rw [mergeMembers, ih.1 hmems.1, assign_new hnew, ihms ih.2 hmems.2 _ hnd]
    rw [Json.merge, hmerge [] h.1, List.nil_append]

theorem Json.All.mono {P Q : Json → Prop} {v : Json} (hPQ : ∀ v, P v → Q v) (h : v.All P) :
    v.All Q := by
  induction v using Json.structural with
  | null | boolean | number | string => exact hPQ _ h
  | array vs ih => exact ⟨hPQ _ h.1, allItems_iff.mpr fun v hv => ih v hv (allItems_iff.mp h.2 v hv)⟩
  | object ms ih =>
    exact ⟨hPQ _ h.1, allMembers_iff.mpr fun kv hkv => ih kv hkv (allMembers_iff.mp h.2 kv hkv)⟩

/-- **What is written is read back.** -/
theorem parse_render {v : Json} (h : v.All (Plain N)) :
    parse N (String.ofList (render v)) = some v := by
  have hprinted : v.All (Printed N) := h.mono fun v hv => by cases v <;> trivial
  have hread := readValue_render (le_refl _) hprinted delimited_nil
  rw [List.append_nil] at hread
  rw [parse, String.toList_ofList, hread]
  show some v.merge = some v
  rw [merge_plain h]

end JsonText

namespace Meowbox

open JsData JsonText

/-! ## `canonicalFederationJson` -/

mutual

/-- The characters of `canonicalFederationJson(value)`, `none` for `undefined`. -/
def federationChars : JsValue → Option (List Char)
  | .undefined => none
  | .null => some "null".toList
  | .boolean b => some (if b then "true".toList else "false".toList)
  | .number n => some n.text.toList
  | .nonFinite => some "null".toList
  | .string s => some (quote s)
  | .array items => some ('[' :: (joinComma (federationItems items) ++ [']']))
  | .object fields =>
    some ('{' :: (joinComma ((sortByKey (federationFields fields)).map fun kt =>
      quote kt.1 ++ ':' :: kt.2) ++ ['}']))

/-- `join` writes nothing for `undefined`. -/
def federationItems : List JsValue → List (List Char)
  | [] => []
  | v :: vs => (federationChars v).getD [] :: federationItems vs

/-- A template literal writes its name. -/
def federationFields : List (String × JsValue) → List (String × List Char)
  | [] => []
  | (k, v) :: fs => (k, (federationChars v).getD "undefined".toList) :: federationFields fs

end

/-- `canonicalFederationJson(value)`. -/
def canonicalFederationJson (v : JsValue) : Option String := (federationChars v).map String.ofList

mutual

theorem federationChars_ofJson : ∀ j : Json, federationChars (ofJson j) = some (stableChars (ofJson j))
  | .null | .boolean _ | .number _ | .string _ => rfl
  | .array items => by rw [ofJson, federationChars, stableChars, federationItems_ofJson items]
  | .object members => by rw [ofJson, federationChars, stableChars, federationFields_ofJson members]

theorem federationItems_ofJson : ∀ js : List Json,
    federationItems (ofJsonItems js) = stableItems (ofJsonItems js)
  | [] => rfl
  | j :: js => by
    rw [ofJsonItems, federationItems, stableItems, federationChars_ofJson j,
      federationItems_ofJson js, Option.getD_some]

theorem federationFields_ofJson : ∀ ms : List (String × Json),
    federationFields (ofJsonMembers ms) = stableFields (ofJsonMembers ms)
  | [] => rfl
  | (k, j) :: ms => by
    rw [ofJsonMembers, federationFields, stableFields, federationChars_ofJson j,
      federationFields_ofJson ms, Option.getD_some]

end

/-- The two canonical texts of a JSON value are one. -/
theorem canonicalFederationJson_ofJson (j : Json) :
    canonicalFederationJson (ofJson j) = some (stableJson (ofJson j)) := by
  rw [canonicalFederationJson, federationChars_ofJson, Option.map_some, stableJson]

/-! ## The canonical value -/

theorem utf16_append {c d : Char} {r r' : List Nat} (h : utf16 c ++ r = utf16 d ++ r') :
    c = d ∧ r = r' := by
  have hc : c.toNat < 0xd800 ∨ 0xdfff < c.toNat ∧ c.toNat < 0x110000 := c.valid
  have hd : d.toNat < 0xd800 ∨ 0xdfff < d.toNat ∧ d.toNat < 0x110000 := d.valid
  unfold utf16 at h
  split at h <;> split at h <;>
    simp only [List.cons_append, List.nil_append, List.cons.injEq] at h
  -- the first unit of a pair is no character
  · exact ⟨Char.toNat_inj.mp h.1, h.2⟩
  · omega
  · omega
  · exact ⟨Char.toNat_inj.mp (by omega), h.2.2⟩

theorem utf16Le_antisymm {s t : String} (h : utf16Le s t) (h' : utf16Le t s) : s = t := by
  have hunits : s.toList.flatMap utf16 = t.toList.flatMap utf16 := List.le_antisymm h h'
  have hinj : ∀ cs ds : List Char, cs.flatMap utf16 = ds.flatMap utf16 → cs = ds := by
    have hne : ∀ (d : Char) r, [] ≠ utf16 d ++ r := fun d r => by unfold utf16; split <;> simp
    intro cs
    induction cs with
    | nil =>
      rintro (_ | ⟨d, ds⟩) heq
      · rfl
      · exact absurd heq (hne d _)
    | cons c cs ih =>
      rintro (_ | ⟨d, ds⟩) heq
      · exact absurd heq.symm (hne c _)
      · obtain ⟨rfl, hrest⟩ := utf16_append heq
        rw [ih ds hrest]
  exact String.toList_inj.mp (hinj _ _ hunits)

/-- Sorting by distinct keys forgets the order. -/
theorem sortByKey_perm {β : Type} {fs gs : List (String × β)} (h : fs.Perm gs)
    (hnd : (fs.map Prod.fst).Nodup) : sortByKey fs = sortByKey gs := by
  have : Std.Total fun a b : String × β => utf16Le a.1 b.1 := ⟨fun a b => total_of utf16Le a.1 b.1⟩
  have : IsTrans (String × β) fun a b => utf16Le a.1 b.1 :=
    ⟨fun a b c => trans_of utf16Le (a := a.1) (b := b.1) (c := c.1)⟩
  have hperm : (sortByKey fs).Perm (sortByKey gs) :=
    ((List.perm_insertionSort _ fs).trans h).trans (List.perm_insertionSort _ gs).symm
  refine List.Perm.eq_of_pairwise (fun a b ha hb hab hba => ?_)
    (List.pairwise_insertionSort _ fs) (List.pairwise_insertionSort _ gs) hperm
  refine List.inj_on_of_nodup_map hnd ?_ ?_ (utf16Le_antisymm hab hba)
  · exact (List.mem_insertionSort _).mp ha
  · exact h.mem_iff.mpr ((List.mem_insertionSort _).mp hb)

/-- The canonical value of a JSON value. -/
def sorted (v : Json) : Json := canonical (ofJson v)

theorem sorted_array (vs : List Json) : sorted (.array vs) = .array (vs.map sorted) := by
  rw [sorted, ofJson, canonical]
  congr 1
  induction vs with
  | nil => rfl
  | cons v vs ih => rw [ofJsonItems, canonicalItems, ih, List.map_cons, sorted]

theorem sorted_object (ms : List (String × Json)) :
    sorted (.object ms) = .object (sortByKey (ms.map fun kv => (kv.1, sorted kv.2))) := by
  rw [sorted, ofJson, canonical]
  congr 2
  induction ms with
  | nil => rfl
  | cons kv ms ih => rw [ofJsonMembers, canonicalFields, ih, List.map_cons, sorted]

theorem same_sorted (v : Json) : Same v (sorted v) := by
  induction v using Json.structural with
  | null | boolean | number | string => exact .refl _
  | array vs ih =>
    rw [sorted_array]
    exact Same.items [] ih
  | object ms ih =>
    rw [sorted_object]
    exact (Same.members [] ih).trans (.order (List.perm_insertionSort _ _).symm)

variable {N : NumberTexts} {v w : Json}

theorem plain_iff_of_same (h : Same v w) : v.All (Plain N) ↔ w.All (Plain N) :=
  h.all_iff (fun _ _ _ => trivial) fun _ _ hperm => hperm.nodup_iff.mp

/-- The order of members does not show in the canonical value. -/
theorem sorted_eq_of_same (h : Same v w) (hpl : v.All (Plain N)) : sorted v = sorted w := by
  induction h with
  | refl => rfl
  | symm h ih => exact (ih ((plain_iff_of_same h).mpr hpl)).symm
  | trans h _ ih ih' => exact (ih hpl).trans (ih' ((plain_iff_of_same h).mp hpl))
  | item _ ih =>
    have hall := List.forall_mem_append.mp (allItems_iff.mp hpl.2)
    rw [sorted_array, sorted_array, List.map_append, List.map_append, List.map_cons, List.map_cons,
      ih (hall.2 _ List.mem_cons_self)]
  | member _ ih =>
    have hall := List.forall_mem_append.mp (allMembers_iff.mp hpl.2)
    rw [sorted_object, sorted_object, List.map_append, List.map_append, List.map_cons,
      List.map_cons, ih (hall.2 _ List.mem_cons_self)]
  | order hperm =>
    rename_i ms ns
    have hkeys : ((ms.map fun kv => (kv.1, sorted kv.2)).map Prod.fst).Nodup := by
      rw [List.map_map]
      exact hpl.1
    rw [sorted_object, sorted_object, sortByKey_perm (hperm.map _) hkeys]

/-- **One text for equal values, up to the order of members, and for no others.** -/
theorem stableJson_eq_iff_same (hv : v.All (Plain N)) :
    stableJson (ofJson v) = stableJson (ofJson w) ↔ Same v w := by
  rw [stableJson_eq_iff]
  constructor
  · intro h
    have hw := same_sorted w
    rw [sorted, ← h] at hw
    exact (same_sorted v).trans hw.symm
  · exact fun h => sorted_eq_of_same h hv

/-- The canonical text is read back, its members in their order. -/
theorem parse_stableJson (hv : v.All (Plain N)) :
    parse N (stableJson (ofJson v)) = some (sorted v) := by
  rw [stableJson, stableChars_eq]
  exact parse_render ((plain_iff_of_same (same_sorted v)).mp hv)

end Meowbox
