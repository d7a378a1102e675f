import Mathlib.Data.List.Nodup
import Mathlib.Data.List.Count

/-!
# Tables with unique columns

A relational table as a list of rows in insertion order, together with the columns on which its
rows must differ. The uniqueness is a field of the structure, so a table that violates a unique
constraint cannot be built: `updateMany` asks that the update leave every unique column alone,
and `create?` / `createMany?` return `none` where a database would report a unique violation.

Results:
* `create?_eq_some`, `createMany?_rows`, `createMany?_fresh`: a creation appends its rows, and their
  unique values were free; `createMany?_of_free` is the converse.
* `modify?_rows`: an update that may touch the unique columns.
* `eq_of_key`: two rows with one value in a unique column are the same row; `find?_eq_some` and
  `count_key_le_one` are the lookups by key this gives.
* `countP_map_le` and `countP_map_le_add`: how many rows have a property after an update of the
  rows one by one.
-/

namespace Relational

variable {α κ : Type}

/-- Rows that differ in every column of `keys`. -/
structure Table (keys : List (α → κ)) where
  rows : List α
  unique : ∀ k ∈ keys, (rows.map k).Nodup

namespace Table

variable {keys : List (α → κ)} {t : Table keys}

theorem ext_rows {t' : Table keys} (h : t.rows = t'.rows) : t = t' := by
  cases t
  cases t'
  cases h
  rfl

/-- The table without rows. -/
def empty : Table keys := ⟨[], fun _ _ => List.nodup_nil⟩

instance : Membership α (Table keys) := ⟨fun t a => a ∈ t.rows⟩

variable {a : α}

theorem mem_def : a ∈ t ↔ a ∈ t.rows := Iff.rfl

instance (t : Table keys) (p : α → Prop) [DecidablePred p] : Decidable (∀ a ∈ t, p a) :=
  inferInstanceAs (Decidable (∀ a ∈ t.rows, p a))

instance (t : Table keys) (p : α → Prop) [DecidablePred p] : Decidable (∃ a ∈ t, p a) :=
  inferInstanceAs (Decidable (∃ a ∈ t.rows, p a))

@[simp] theorem not_mem_empty (a : α) : a ∉ (empty : Table keys) := List.not_mem_nil

/-- `findFirst` / `findUnique`: the first row with the property. -/
def find? (t : Table keys) (p : α → Bool) : Option α := t.rows.find? p

/-- `findMany`: the rows with the property, in table order. -/
def findMany (t : Table keys) (p : α → Bool) : List α := t.rows.filter p

/-- `count`: how many rows have the property. -/
def count (t : Table keys) (p : α → Bool) : Nat := t.rows.countP p

/-- The row an update of the rows with property `p` by `f` leaves. -/
def patch (p : α → Bool) (f : α → α) (a : α) : α := if p a then f a else a

variable {p : α → Bool}

theorem patch_pos {f : α → α} (h : p a = true) : patch p f a = f a :=
  if_pos h

theorem patch_neg {f : α → α} (h : ¬ p a = true) : patch p f a = a :=
  if_neg h

variable {k : α → κ}

theorem map_patch {f : α → α} (hf : ∀ a, k (f a) = k a) (p : α → Bool) (rows : List α) :
    (rows.map (patch p f)).map k = rows.map k := by
  rw [List.map_map]
  refine List.map_congr_left fun a _ => ?_
  simp only [Function.comp, patch]
  split
  · exact hf a
  · rfl

/-- `updateMany`: every row with property `p` becomes `f` of it. The update must leave the unique
columns alone. -/
def updateMany (t : Table keys) (p : α → Bool) (f : α → α)
    (hf : ∀ k ∈ keys, ∀ a, k (f a) = k a) : Table keys where
  rows := t.rows.map (patch p f)
  unique k hk := by
    rw [map_patch (hf k hk)]
    exact t.unique k hk

/-- An update leaves the unique columns as they are. -/
theorem updateMany_key {f : α → α} {hf : ∀ k ∈ keys, ∀ a, k (f a) = k a} (hk : k ∈ keys) :
    (t.updateMany p f hf).rows.map k = t.rows.map k :=
  map_patch (hf k hk) p t.rows

/-- An update that may touch the unique columns: `none` when two rows then share a value. -/
def modify? [DecidableEq κ] (t : Table keys) (p : α → Bool) (f : α → α) : Option (Table keys) :=
  if h : ∀ k ∈ keys, ((t.rows.map (patch p f)).map k).Nodup then some ⟨t.rows.map (patch p f), h⟩
  else none

theorem modify?_rows [DecidableEq κ] {t' : Table keys} {f : α → α} (h : t.modify? p f = some t') :
    t'.rows = t.rows.map (patch p f) := by
  unfold modify? at h
  split at h
  · cases h
    rfl
  · exact absurd h (by simp)

/-- Every row takes over what the list has at its place; the unique columns stay. -/
def absorb {β : Type} (t : Table keys) (f : α → β → α) (hf : ∀ k ∈ keys, ∀ a b, k (f a b) = k a)
    (bs : List β) : Table keys where
  rows := List.zipWith f t.rows bs
  unique k hk := by
    have hsub : ∀ (as : List α) (bs : List β), List.Sublist ((List.zipWith f as bs).map k)
        (as.map k) := by
      intro as
      induction as with
      | nil => exact fun bs => by simp
      | cons a as ih =>
        intro bs
        cases bs with
        | nil => simp
        | cons b bs =>
          rw [List.zipWith_cons_cons, List.map_cons, List.map_cons, hf k hk]
          exact (ih bs).cons_cons _
    exact (hsub t.rows bs).nodup (t.unique k hk)

/-- `deleteMany`: the rows without the property stay. -/
def deleteMany (t : Table keys) (p : α → Bool) : Table keys where
  rows := t.rows.filter fun a => !p a
  unique k hk := (List.filter_sublist.map k).nodup (t.unique k hk)

section Create

variable [DecidableEq κ]

/-- `create`: the row is appended, or `none` when a unique column already holds its value. -/
def create? (t : Table keys) (a : α) : Option (Table keys) :=
  if h : ∀ k ∈ keys, k a ∉ t.rows.map k then
    some {
      rows := t.rows ++ [a]
      unique := fun k hk => by
        rw [List.map_append, List.nodup_append]
        refine ⟨t.unique k hk, List.nodup_singleton _, fun x hx y hy => ?_⟩
        rintro rfl
        exact h k hk (by simpa [List.mem_singleton.mp hy] using hx) }
  else none

/-- `createMany`: the rows are appended in order, all or none. -/
def createMany? : Table keys → List α → Option (Table keys)
  | t, [] => some t
  | t, a :: as => (t.create? a).bind (createMany? · as)

theorem create?_eq_some {t' : Table keys} (h : t.create? a = some t') :
    t'.rows = t.rows ++ [a] ∧ ∀ k ∈ keys, k a ∉ t.rows.map k := by
  unfold create? at h
  split at h
  · rename_i hk
    cases h
    exact ⟨rfl, hk⟩
  · exact absurd h (by simp)

theorem createMany?_rows : ∀ {t t' : Table keys} {as : List α}, t.createMany? as = some t' →
    t'.rows = t.rows ++ as
  | t, t', [], h => by
    simp only [createMany?, Option.some.injEq] at h
    rw [h, List.append_nil]
  | t, t', a :: as, h => by
    simp only [createMany?, Option.bind_eq_some_iff] at h
    obtain ⟨u, hu, h⟩ := h
    rw [createMany?_rows h, (create?_eq_some hu).1, List.append_assoc, List.singleton_append]

/-- A created row's unique values were free. -/
theorem createMany?_fresh : ∀ {t t' : Table keys} {as : List α}, t.createMany? as = some t' →
    ∀ k ∈ keys, ∀ a ∈ as, k a ∉ t.rows.map k
  | t, t', b :: as, h, k, hk, a, ha => by
    simp only [createMany?, Option.bind_eq_some_iff] at h
    obtain ⟨u, hu, h⟩ := h
    obtain ⟨hrows, hfr⟩ := create?_eq_some hu
    rcases List.mem_cons.mp ha with rfl | ha
    · exact hfr k hk
    · have := createMany?_fresh h k hk a ha
      rw [hrows, List.map_append, List.mem_append, not_or] at this
      exact this.1

theorem create?_of_free (h : ∀ k ∈ keys, k a ∉ t.rows.map k) : ∃ t', t.create? a = some t' :=
  ⟨_, dif_pos h⟩

/-- Rows whose unique values are free and differ can be created. -/
theorem createMany?_of_free : ∀ {t : Table keys} {as : List α},
    (∀ k ∈ keys, (as.map k).Nodup ∧ ∀ a ∈ as, k a ∉ t.rows.map k) →
      ∃ t', t.createMany? as = some t'
  | t, [], _ => ⟨t, rfl⟩
  | t, a :: as, h => by
    obtain ⟨u, hu⟩ := create?_of_free fun k hk => (h k hk).2 a List.mem_cons_self
    have hrest : ∀ k ∈ keys, (as.map k).Nodup ∧ ∀ b ∈ as, k b ∉ u.rows.map k := by
      intro k hk
      obtain ⟨hnd, hfree⟩ := h k hk
      rw [List.map_cons, List.nodup_cons] at hnd
      refine ⟨hnd.2, fun b hb hmem => ?_⟩
      rw [(create?_eq_some hu).1, List.map_append, List.mem_append] at hmem
      rcases hmem with hmem | hmem
      · exact hfree b (List.mem_cons_of_mem a hb) hmem
      · exact hnd.1 (List.mem_map.mpr ⟨b, hb, List.mem_singleton.mp hmem⟩)
    obtain ⟨t', ht'⟩ := createMany?_of_free hrest
    exact ⟨t', by rw [createMany?, hu, Option.bind_some, ht']⟩

end Create

theorem mem_findMany :
    a ∈ t.findMany p ↔ a ∈ t ∧ p a = true := List.mem_filter

theorem mem_of_find? (h : t.find? p = some a) :
    a ∈ t ∧ p a = true := ⟨List.mem_of_find?_eq_some h, List.find?_some h⟩

theorem find?_eq_none :
    t.find? p = none ↔ ∀ a ∈ t, ¬ p a = true := List.find?_eq_none

theorem count_pos : 0 < t.count p ↔ ∃ a ∈ t, p a = true :=
  List.countP_pos_iff

/-- A column is a key when no two rows share its value. -/
theorem eq_of_key (hk : k ∈ keys) {b : α} (ha : a ∈ t) (hb : b ∈ t) (h : k a = k b) : a = b :=
  List.inj_on_of_nodup_map (t.unique k hk) ha hb h

/-- The lookup by key of a row of the table is that row. -/
theorem find?_eq_some (hk : k ∈ keys) (ha : a ∈ t) (hp : p a = true)
    (hkey : ∀ b, p b = true → k b = k a) :
    t.find? p = some a := by
  cases h : t.find? p with
  | none => exact absurd hp (find?_eq_none.mp h a ha)
  | some b =>
    obtain ⟨hb, hpb⟩ := mem_of_find? h
    exact congrArg some (eq_of_key hk hb ha (hkey b hpb))

theorem countP_key_le_one {rows : List α} (hn : (rows.map k).Nodup) {x : κ}
    (hkey : ∀ a ∈ rows, p a = true → k a = x) : rows.countP p ≤ 1 := by
  induction rows with
  | nil => exact Nat.zero_le 1
  | cons a rows ih =>
    rw [List.map_cons, List.nodup_cons] at hn
    have hrest := ih hn.2 fun b hb => hkey b (List.mem_cons_of_mem a hb)
    rw [List.countP_cons]
    split
    · rename_i ha
      have hka := hkey a List.mem_cons_self ha
      have hzero : rows.countP p = 0 := by
        rw [List.countP_eq_zero]
        intro b hb hpb
        refine hn.1 (List.mem_map.mpr ⟨b, hb, ?_⟩)
        rw [hka, hkey b (List.mem_cons_of_mem a hb) hpb]
      omega
    · omega

/-- At most one row has a property that fixes the value of a key. -/
theorem count_key_le_one (hk : k ∈ keys) {x : κ} (hkey : ∀ a ∈ t, p a = true → k a = x) :
    t.count p ≤ 1 :=
  countP_key_le_one (t.unique k hk) hkey

/-- Exactly one row has a property that a row has and that fixes the value of a key. -/
theorem count_eq_one (hk : k ∈ keys) (ha : a ∈ t) (hp : p a = true)
    (hkey : ∀ b ∈ t, p b = true → k b = k a) : t.count p = 1 := by
  have hpos : 0 < t.count p := count_pos.mpr ⟨a, ha, hp⟩
  have hle : t.count p ≤ 1 := count_key_le_one hk hkey
  omega

end Table

/-! ### Counting rows across an update -/

/-- An update that gives the property to no row leaves at most as many rows with it. -/
theorem countP_map_le {rows : List α} {g : α → α} {p q : α → Bool}
    (h : ∀ a ∈ rows, p (g a) = true → q a = true) :
    (rows.map g).countP p ≤ rows.countP q := by
  rw [List.countP_map]
  exact List.countP_mono_left fun a ha hp => h a ha hp

/-- An update that gives the property only to rows with `r` adds at most as many rows as have
`r`. -/
theorem countP_map_le_add {rows : List α} {g : α → α} {p q r : α → Bool}
    (h : ∀ a ∈ rows, p (g a) = true → q a = true ∨ r a = true) :
    (rows.map g).countP p ≤ rows.countP q + rows.countP r := by
  induction rows with
  | nil => simp
  | cons a rows ih =>
    have hrest := ih fun b hb => h b (List.mem_cons_of_mem a hb)
    have hhead := h a List.mem_cons_self
    simp only [List.map_cons, List.countP_cons]
    by_cases hp : p (g a) = true
    · rcases hhead hp with hq | hr
      · simp only [hp, hq, if_true]; omega
      · simp only [hp, hr, if_true]; omega
    · simp only [hp, if_false, Bool.false_eq_true]; omega

end Relational
