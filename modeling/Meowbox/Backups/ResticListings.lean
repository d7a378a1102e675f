import Mathlib.Data.List.Dedup
import Meowbox.Backups.ResticQueries

/-!
# What the restic queries list

* `listTopLevel_perm`: the listing has one item for each name below the root, with the size of all
  files in it and the type of its own line.
* `diffSnapshotWithLive_items`: a live diff is empty when both trees agree on every path;
  **`diffSnapshotWithLive_exact`**: what it says of each path; `relative_of_item`: its paths are
  relative.
-/

namespace Meowbox.Backups

open PosixPath

namespace ResticExecutor

/-! ## The listing of a root -/

section Listing

/-- What a line adds to the size of its entry. -/
def counted (l : LsLine) : Nat :=
  if l.isThisLevel then if typeHere l.type = .file then l.fileSize else 0
  else if l.type = some "file" then l.fileSize else 0

/-- The size of an entry: that of its files. -/
def totalSize (lines : List LsLine) (name : String) : Nat :=
  ((lines.filter fun l => l.top == name).map counted).sum

/-- The type of an entry: that of its own line, the last if there are several. -/
def ownType (lines : List LsLine) (name : String) : ItemType :=
  match (lines.filter fun l => l.top == name && l.isThisLevel).getLast? with
  | some l => typeHere l.type
  | none => .dir

/-- The entries below the root, in the order of their first lines. -/
def listing (lines : List LsLine) : List TreeItem :=
  (lines.map LsLine.top).dedup.map fun name => ⟨name, ownType lines name, totalSize lines name⟩

theorem totalSize_concat (lines : List LsLine) (l : LsLine) (name : String) :
    totalSize (lines ++ [l]) name =
      totalSize lines name + if name = l.top then counted l else 0 := by
  unfold totalSize
  rw [List.filter_append, List.map_append, List.sum_append]
  by_cases h : name = l.top
  · simp [h]
  · simp [h, Ne.symm h]

theorem ownType_concat (lines : List LsLine) (l : LsLine) (name : String) :
    ownType (lines ++ [l]) name =
      if name = l.top ∧ l.isThisLevel = true then typeHere l.type else ownType lines name := by
  unfold ownType
  rw [List.filter_append]
  by_cases h : name = l.top ∧ l.isThisLevel = true
  · simp [h]
  · have hskip : (l.top == name && l.isThisLevel) = false := by
      rw [Bool.and_eq_false_iff, beq_eq_false_iff_ne]
      by_cases htop : name = l.top
      · exact .inr (Bool.eq_false_iff.mpr fun hthis => h ⟨htop, hthis⟩)
      · exact .inl (Ne.symm htop)
    simp [h, hskip]

theorem get_onLine (byTop : JsMap String Entry) (l : LsLine) (name : String) :
    (onLine byTop l).get name =
      if name = l.top then
        some ⟨if l.isThisLevel = true then typeHere l.type
            else ((byTop.get l.top).map Entry.type).getD .dir,
          ((byTop.get l.top).map Entry.size).getD 0 + counted l⟩
      else byTop.get name := by
  unfold onLine counted
  by_cases hthis : l.isThisLevel = true
  · simp only [hthis, if_true, JsMap.get_set]
  · rw [Bool.not_eq_true] at hthis
    simp only [hthis, Bool.false_eq_true, if_false]
    cases hkn : byTop.get l.top with
    | none =>
      simp only [JsMap.get_set, Option.map_none, Option.getD_none, Nat.zero_add]
    | some existing =>
      by_cases hfile : l.type = some "file"
      · simp [hfile, JsMap.get_set]
      · by_cases hname : name = l.top
        · simp [hfile, hname, hkn]
        · simp [hfile, hname]

/-- Line by line, a name is listed with the type and the size of its lines so far. -/
theorem get_lines (lines : List LsLine) (name : String) :
    (lines.foldl onLine .empty).get name =
      if name ∈ lines.map LsLine.top then some ⟨ownType lines name, totalSize lines name⟩
      else none := by
  induction lines using List.reverseRecOn with
  | nil => rfl
  | append_singleton lines l ih =>
    have hnone : name ∉ lines.map LsLine.top →
        ownType lines name = .dir ∧ totalSize lines name = 0 := by
      intro hfree
      have hne : ∀ l ∈ lines, (l.top == name) = false := fun l hl =>
        beq_eq_false_iff_ne.mpr fun heq => hfree (heq ▸ List.mem_map_of_mem hl)
      have hlines : lines.filter (fun l => l.top == name) = [] :=
        List.filter_eq_nil_iff.mpr fun l hl => by simp [hne l hl]
      have hown : lines.filter (fun l => l.top == name && l.isThisLevel) = [] :=
        List.filter_eq_nil_iff.mpr fun l hl => by simp [hne l hl]
      exact ⟨by rw [ownType, hown]; rfl, by rw [totalSize, hlines]; rfl⟩
    rw [List.foldl_append, List.foldl_cons, List.foldl_nil, get_onLine, ownType_concat,
      totalSize_concat]
    by_cases hname : name = l.top
    · subst hname
      have hmem : l.top ∈ (lines ++ [l]).map LsLine.top := by simp
      rw [if_pos rfl, if_pos hmem, if_pos rfl, ih]
      by_cases hkn : l.top ∈ lines.map LsLine.top
      · rw [if_pos hkn]
        simp
      · rw [if_neg hkn, (hnone hkn).1, (hnone hkn).2]
        simp
    · have hmem : name ∈ (lines ++ [l]).map LsLine.top ↔ name ∈ lines.map LsLine.top := by
        simp [hname]
      rw [if_neg hname, ih, if_neg hname, if_neg (fun h : name = l.top ∧ _ => hname h.1),
        Nat.add_zero]
      simp only [hmem]

variable (localeCompare : String → String → Int) (rootPath : String) (nodes : List LsNode)

/-- The lines of a listing. -/
def linesBelow : List LsLine := nodes.filterMap (lsLine (withoutTrailingSlashes rootPath))

/-- **The listing** has one item for each name below the root. -/
theorem listTopLevel_perm :
    (listTopLevel localeCompare rootPath nodes).Perm (listing (linesBelow rootPath nodes)) := by
  refine (List.mergeSort_perm _ _).trans ?_
  have hentries : ((linesBelow rootPath nodes).foldl onLine .empty).entries.Perm
      ((linesBelow rootPath nodes).map LsLine.top |>.dedup.map fun name =>
        (name, Entry.mk (ownType (linesBelow rootPath nodes) name)
          (totalSize (linesBelow rootPath nodes) name))) := by
    refine JsMap.entries_perm ?_ fun name e => ?_
    · rw [List.map_map]
      exact (List.map_id _).symm ▸ List.nodup_dedup _
    · rw [get_lines, List.mem_map]
      constructor
      · rintro ⟨name', hname, heq⟩
        cases heq
        rw [if_pos (List.mem_dedup.mp hname)]
      · intro h
        split at h
        · rename_i hname
          cases h
          exact ⟨name, List.mem_dedup.mpr hname, rfl⟩
        · cases h
  have hits := hentries.map fun e => TreeItem.mk e.1 e.2.type e.2.size
  rw [List.map_map] at hits
  exact hits

end Listing

/-! ## The diff with the live tree -/

section Live

theorem get_assigned (es : List (String × Entry)) (rel : String) :
    (assigned es).get rel = es.reverse.lookup rel := by
  induction es using List.reverseRecOn with
  | nil => rfl
  | append_singleton es e ih =>
    have hset : assigned (es ++ [e]) = (assigned es).set e.1 e.2 := by
      rw [assigned, List.foldl_append]
      rfl
    obtain ⟨k, v⟩ := e
    rw [hset, JsMap.get_set, List.reverse_append, ih]
    by_cases h : rel = k
    · simp [h]
    · have hne : (rel == k) = false := beq_eq_false_iff_ne.mpr h
      simp [h, List.lookup_cons, hne]

/-- Both trees have the path with one type, files with one size, or neither has it. -/
def SameEntry : Option Entry → Option Entry → Prop
  | none, none => True
  | some s, some l => s.type = l.type ∧ (s.type = .file → s.size = l.size)
  | _, _ => False

theorem SameEntry.none_iff {s l : Option Entry} (h : SameEntry s l) : s = none ↔ l = none := by
  cases s <;> cases l <;> simp_all [SameEntry]

/-- What a diff says of a path, by what the snapshot and the live tree have there. -/
def modifierOf : Option Entry → Option Entry → Option String
  | none, none => none
  | some _, none => some "-"
  | none, some _ => some "+"
  | some s, some l =>
    if s.type ≠ l.type then some "T"
    else if s.type = .file ∧ s.size ≠ l.size then some "M"
    else none

theorem modifierOf_eq_none {s l : Option Entry} : modifierOf s l = none ↔ SameEntry s l := by
  cases s with
  | none => cases l <;> simp [modifierOf, SameEntry]
  | some s =>
    cases l with
    | none => simp [modifierOf, SameEntry]
    | some l => by_cases h : s.type = l.type <;> simp [modifierOf, SameEntry, h]

variable {snapMap liveMap : JsMap String Entry} {item : DiffItem}

theorem snapItem_eq (e : String × Entry) :
    snapItem liveMap e = (modifierOf (some e.2) (liveMap.get e.1)).map (DiffItem.mk e.1) := by
  unfold snapItem
  cases liveMap.get e.1 with
  | none => rfl
  | some l =>
    obtain ⟨rel, type, size⟩ := e
    obtain ⟨type', size'⟩ := l
    cases type <;> cases type' <;> simp [modifierOf, apply_ite]

/-- The items of both loops. -/
def unsorted (snapMap liveMap : JsMap String Entry) : List DiffItem :=
  snapMap.entries.filterMap (snapItem liveMap) ++ liveMap.entries.filterMap (liveItem snapMap)

/-- **What the items say.** -/
theorem mem_unsorted : item ∈ unsorted snapMap liveMap ↔
    modifierOf (snapMap.get item.path) (liveMap.get item.path) = some item.modifier := by
  obtain ⟨path, modifier⟩ := item
  simp only [unsorted, List.mem_append, List.mem_filterMap, Prod.exists, JsMap.mem_entries,
    snapItem_eq, liveItem, Option.map_eq_some_iff, DiffItem.mk.injEq]
  cases hs : snapMap.get path <;> cases hl : liveMap.get path <;> simp [modifierOf, hs, hl]

theorem unsorted_eq_nil (snapMap liveMap : JsMap String Entry) :
    unsorted snapMap liveMap = [] ↔ ∀ rel, SameEntry (snapMap.get rel) (liveMap.get rel) := by
  simp only [List.eq_nil_iff_forall_not_mem, mem_unsorted, ← modifierOf_eq_none]
  constructor
  · exact fun h rel => Option.eq_none_iff_forall_ne_some.mpr fun modifier => h ⟨rel, modifier⟩
  · intro h item hmod
    rw [h item.path] at hmod
    cases hmod

/-- The path of an item is that of an entry. -/
theorem path_of_unsorted (h : item ∈ unsorted snapMap liveMap) :
    ∃ e, snapMap.get item.path = some e ∨ liveMap.get item.path = some e := by
  have hmod := mem_unsorted.mp h
  cases hs : snapMap.get item.path with
  | some s => exact ⟨s, .inl rfl⟩
  | none =>
    rw [hs] at hmod
    cases hl : liveMap.get item.path with
    | some l => exact ⟨l, .inr rfl⟩
    | none =>
      rw [hl] at hmod
      cases hmod

/-- A path that is not empty and does not begin with a slash. -/
def Relative (rel : String) : Prop := ∃ c cs, rel.toList = c :: cs ∧ c ≠ '/'

theorem mem_of_lookup {es : List (String × Entry)} {rel : String} {e : Entry}
    (h : es.reverse.lookup rel = some e) : (rel, e) ∈ es := by
  obtain ⟨l₁, l₂, heq, -⟩ := List.lookup_eq_some_iff.mp h
  exact List.mem_reverse.mp (heq ▸ List.mem_append_right l₁ List.mem_cons_self)

theorem below_relative {root path rel : List Char} (hcln : ¬ ['/', '/'] <:+: path)
    (h : below root path = some rel) : ∃ c cs, rel = c :: cs ∧ c ≠ '/' := by
  unfold below at h
  split at h
  · rename_i hroot
    obtain ⟨rest, rfl⟩ := List.isPrefixOf_iff_prefix.mp hroot
    have hdrop : (root ++ ['/'] ++ rest).drop (root.length + 1) = rest := by
      have hlen : (root ++ ['/']).length = root.length + 1 := by simp
      rw [← hlen, List.drop_left]
    rw [hdrop] at h
    cases rest with
    | nil => cases h
    | cons c cs =>
      cases h
      refine ⟨c, cs, rfl, ?_⟩
      rintro rfl
      exact hcln ⟨root, cs, by simp⟩
  · cases h

theorem snapAssignment_relative {snapPrefix rel : String} {obj : LsNode} {e : Entry}
    (h : snapAssignment snapPrefix obj = some (rel, e)) : Relative rel := by
  unfold snapAssignment at h
  split at h
  · rename_i path hpath
    split at h
    · rename_i rel' hbel
      have hrel : rel = String.ofList rel' := by
        split at h
        · cases h
          rfl
        · split at h
          · cases h
            rfl
          · cases h
      have hcln := obj.clean path (Option.filter_eq_some_iff.mp hpath).1
      rw [hrel, Relative, String.toList_ofList]
      exact below_relative hcln hbel
    · cases h
  · cases h

mutual

theorem walkEntry_path : ∀ (t : LiveEntry) (rel : String), ∀ e ∈ walkEntry rel t,
    ∃ rest, e.1.toList = rel.toList ++ rest
  | .dir entries, rel, e, he => by
    rw [walkEntry] at he
    rcases List.mem_cons.mp he with rfl | he
    · exact ⟨[], (List.append_nil _).symm⟩
    · obtain ⟨name, rest, heq⟩ := walkEntries_path entries (rel ++ "/") e he
      exact ⟨'/' :: (name.text.toList ++ rest), by simp [heq]⟩
  | .file (some size), rel, e, he => by
    rw [walkEntry] at he
    rw [List.mem_singleton.mp he]
    exact ⟨[], (List.append_nil _).symm⟩
  | .file none, rel, e, he => by
    rw [walkEntry] at he
    cases he
  | .other, rel, e, he => by
    rw [walkEntry] at he
    cases he

theorem walkEntries_path : ∀ (es : List (FileName × LiveEntry)) (dir : String),
    ∀ e ∈ walkEntries dir es, ∃ (name : FileName) (rest : List Char),
      e.1.toList = dir.toList ++ (name.text.toList ++ rest)
  | [], dir, e, he => by
    rw [walkEntries] at he
    cases he
  | (name, t) :: es, dir, e, he => by
    rw [walkEntries] at he
    rcases List.mem_append.mp he with he | he
    · obtain ⟨rest, heq⟩ := walkEntry_path t (dir ++ name.text) e he
      exact ⟨name, rest, by simp [heq]⟩
    · exact walkEntries_path es dir e he

end

theorem walkEntries_relative {live : List (FileName × LiveEntry)} {rel : String} {e : Entry}
    (h : (rel, e) ∈ walkEntries "" live) : Relative rel := by
  obtain ⟨name, rest, heq⟩ := walkEntries_path live "" _ h
  cases hname : name.text.toList with
  | nil => exact absurd (String.toList_eq_nil_iff.mp hname) name.valid.1
  | cons c cs =>
    refine ⟨c, cs ++ rest, by simpa [hname] using heq, ?_⟩
    rintro rfl
    exact name.valid.2 (hname ▸ List.mem_cons_self)

variable (localeCompare : String → String → Int) (snapshotRoot : String) (nodes : List LsNode)
  (live : List (FileName × LiveEntry))

/-- What the snapshot has at a path below its root: its last line there. -/
def snapAt (rel : String) : Option Entry :=
  (nodes.filterMap (snapAssignment (withoutTrailingSlashes snapshotRoot))).reverse.lookup rel

/-- What the live tree has at a path. -/
def liveAt (rel : String) : Option Entry := (walkEntries "" live).reverse.lookup rel

theorem liveDiff_perm : (diffSnapshotWithLive localeCompare snapshotRoot nodes live).items.Perm
    (unsorted (assigned (nodes.filterMap (snapAssignment (withoutTrailingSlashes snapshotRoot))))
      (assigned (walkEntries "" live))) :=
  List.mergeSort_perm _ _

/-- **A live diff is empty** when both trees agree on every path. -/
theorem diffSnapshotWithLive_items :
    (diffSnapshotWithLive localeCompare snapshotRoot nodes live).items = [] ↔
      ∀ rel, SameEntry (snapAt snapshotRoot nodes rel) (liveAt live rel) := by
  have hperm := liveDiff_perm localeCompare snapshotRoot nodes live
  have hnil := unsorted_eq_nil
    (assigned (nodes.filterMap (snapAssignment (withoutTrailingSlashes snapshotRoot))))
    (assigned (walkEntries "" live))
  simp only [get_assigned] at hnil
  constructor
  · intro h
    rw [h] at hperm
    exact hnil.mp hperm.nil_eq.symm
  · intro h
    rw [hnil.mpr h] at hperm
    exact hperm.eq_nil

theorem relative_of_item
    (h : item ∈ (diffSnapshotWithLive localeCompare snapshotRoot nodes live).items) :
    Relative item.path := by
  obtain ⟨e, hget | hget⟩ :=
    path_of_unsorted ((liveDiff_perm localeCompare snapshotRoot nodes live).mem_iff.mp h)
  · rw [get_assigned] at hget
    obtain ⟨obj, -, hobj⟩ := List.mem_filterMap.mp (mem_of_lookup hget)
    exact snapAssignment_relative hobj
  · rw [get_assigned] at hget
    exact walkEntries_relative (mem_of_lookup hget)

/-- Trees that agree differ in no file. -/
theorem stats_of_same
    (h : (diffSnapshotWithLive localeCompare snapshotRoot nodes live).items = []) :
    (diffSnapshotWithLive localeCompare snapshotRoot nodes live).stats =
      [("changedFiles", 0), ("addedFiles", 0), ("removedFiles", 0)] := by
  have hperm := liveDiff_perm localeCompare snapshotRoot nodes live
  rw [h] at hperm
  have hsame := (unsorted_eq_nil _ _).mp hperm.nil_eq.symm
  have hcount (m m' : JsMap String Entry) (hnone : ∀ rel, m'.get rel = none → m.get rel = none) :
      (m.entries.countP fun e => (m'.get e.1).isNone && e.2.type == .file) = 0 := by
    refine List.countP_eq_zero.mpr fun e he hcnt => ?_
    rw [Bool.and_eq_true, Option.isNone_iff_eq_none] at hcnt
    have hget := hnone e.1 hcnt.1
    rw [JsMap.mem_entries.mp he] at hget
    cases hget
  rw [diffSnapshotWithLive, hcount _ _ fun rel => (hsame rel).none_iff.mp,
    hcount _ _ fun rel => (hsame rel).none_iff.mpr, (List.append_eq_nil_iff.mp hperm.nil_eq.symm).1]
  rfl

end Live

end ResticExecutor

end Meowbox.Backups
