import Mathlib.Data.List.DropRight

/-!
# POSIX paths of `node:path`

A path is its characters. `normalize`, `join` and `resolve` are `path.posix.normalize`, `join` and
`resolve`: a path is read segment by segment, empty segments and `.` are dropped and `..` takes the
segment before it, if there is one to take.

A list of segments is normal when it is names, after any `..` that a relative path begins with. A
path is canonical when its segments are, trailing slashes apart.

Results:
* `resolveSegments_eq_self_iff`: reading changes exactly the segments that are not normal.
-/

namespace PosixPath

/-- `..`. -/
def dotdot : List Char := ['.', '.']

def isAbsolute (path : List Char) : Bool := path.head? == some '/'

/-- One segment read; `kept` are the segments before it, the last first. -/
def pushSegment (allowAboveRoot : Bool) (kept : List (List Char)) (segment : List Char) :
    List (List Char) :=
  if segment = [] ∨ segment = ['.'] then kept
  else if segment = dotdot then
    if kept.head?.isSome ∧ kept.head? ≠ some dotdot then kept.tail
    else if allowAboveRoot then dotdot :: kept
    else kept
  else segment :: kept

/-- What reading the segments leaves of them. -/
def resolveSegments (allowAboveRoot : Bool) (segments : List (List Char)) : List (List Char) :=
  (segments.foldl (pushSegment allowAboveRoot) []).reverse

def normalizeString (path : List Char) (allowAboveRoot : Bool) : List Char :=
  ['/'].intercalate (resolveSegments allowAboveRoot (path.splitOn '/'))

def normalize (path : List Char) : List Char :=
  let trailing := path.getLast? == some '/'
  let body := normalizeString path (!isAbsolute path)
  if path = [] then ['.']
  else if body = [] then
    if isAbsolute path then ['/'] else if trailing then ['.', '/'] else ['.']
  else
    (if isAbsolute path then ['/'] else []) ++ body ++ if trailing then ['/'] else []

/-- `path.join(base, name)`. -/
def join (base name : List Char) : List Char :=
  if base = [] then normalize name
  else if name = [] then normalize base
  else normalize (base ++ '/' :: name)

/-- `path.resolve(path)` in the directory `cwd`. -/
def resolve (cwd path : List Char) : List Char :=
  '/' :: normalizeString (if isAbsolute path then path else cwd ++ '/' :: path) false

/-- `path.replace(/\/+$/, '')`. -/
def dropTrailingSlashes (path : List Char) : List Char := path.rdropWhile (· == '/')

/-- The segments of a path, without the empty one before the root and those of trailing slashes. -/
def segments (path : List Char) : List (List Char) :=
  if isAbsolute path then ((dropTrailingSlashes path).splitOn '/').tail
  else (dropTrailingSlashes path).splitOn '/'

/-- A segment that reading keeps. -/
def IsName (segment : List Char) : Prop := segment ≠ [] ∧ segment ≠ ['.'] ∧ segment ≠ dotdot

instance (segment : List Char) : Decidable (IsName segment) :=
  inferInstanceAs (Decidable (_ ∧ _))

/-- Names, after any `..` that a path may begin with. -/
def IsNormal (allowAboveRoot : Bool) (segments : List (List Char)) : Prop :=
  ∀ s ∈ if allowAboveRoot then segments.dropWhile (· == dotdot) else segments, IsName s

instance (allowAboveRoot : Bool) (segments : List (List Char)) :
    Decidable (IsNormal allowAboveRoot segments) :=
  inferInstanceAs (Decidable (∀ s ∈ _, IsName s))

/-- The path is normal, trailing slashes apart. -/
def Canonical (path : List Char) : Prop := IsNormal (!isAbsolute path) (segments path)

instance (path : List Char) : Decidable (Canonical path) :=
  inferInstanceAs (Decidable (IsNormal _ _))

/-! ### Reading segments -/

variable {above : Bool} {kept segs : List (List Char)} {name : List Char}

theorem pushSegment_nil : pushSegment above kept [] = kept := if_pos (.inl rfl)

theorem pushSegment_name (h : IsName name) : pushSegment above kept name = name :: kept := by
  rw [pushSegment, if_neg (not_or.mpr ⟨h.1, h.2.1⟩), if_neg h.2.2]

theorem foldl_pushSegment_names (h : ∀ s ∈ segs, IsName s) :
    segs.foldl (pushSegment above) kept = segs.reverse ++ kept := by
  induction segs generalizing kept with
  | nil => rfl
  | cons s segs ih =>
    rw [List.foldl_cons, pushSegment_name (h s List.mem_cons_self),
      ih fun t ht => h t (List.mem_cons_of_mem s ht), List.reverse_cons, List.append_assoc]
    rfl

/-- The shape of what has been kept: names on top of any `..`. -/
def Kept (above : Bool) (kept : List (List Char)) : Prop :=
  ∃ names k, kept = names ++ List.replicate k dotdot ∧ (∀ s ∈ names, IsName s) ∧
    (above = false → k = 0)

theorem kept_pushSegment (h : Kept above kept) (s : List Char) :
    Kept above (pushSegment above kept s) := by
  obtain ⟨names, k, rfl, hns, hk⟩ := h
  unfold pushSegment
  split
  · exact ⟨names, k, rfl, hns, hk⟩
  rename_i hs
  split
  · cases names with
    | cons last names =>
      refine ⟨names, k, ?_, fun t ht => hns t (List.mem_cons_of_mem _ ht), hk⟩
      have hlast := (hns last List.mem_cons_self).2.2
      rw [if_pos ⟨rfl, fun hh => hlast (Option.some.inj hh)⟩]
      rfl
    | nil =>
      have htop : ¬ ((List.replicate k dotdot).head?.isSome ∧
          (List.replicate k dotdot).head? ≠ some dotdot) := by
        cases k with
        | zero => exact fun hh => absurd hh.1 (by simp)
        | succ k => exact fun hh => hh.2 rfl
      rw [List.nil_append, if_neg htop]
      split
      · rename_i habove
        exact ⟨[], k + 1, rfl, fun _ ht => absurd ht (by simp), fun hf => absurd habove (by simp [hf])⟩
      · exact ⟨[], k, rfl, hns, hk⟩
  · rename_i hdd
    refine ⟨s :: names, k, rfl, fun t ht => ?_, hk⟩
    rcases List.mem_cons.mp ht with rfl | ht
    · exact ⟨fun hn => hs (.inl hn), fun hd => hs (.inr hd), hdd⟩
    · exact hns t ht

theorem kept_foldl (segs : List (List Char)) (h : Kept above kept) :
    Kept above (segs.foldl (pushSegment above) kept) := by
  induction segs generalizing kept with
  | nil => exact h
  | cons s segs ih => exact ih (kept_pushSegment h s)

theorem dropWhile_replicate_append {k : Nat} {names : List (List Char)}
    (h : ∀ s ∈ names, IsName s) :
    (List.replicate k dotdot ++ names).dropWhile (· == dotdot) = names := by
  induction k with
  | zero =>
    cases names with
    | nil => rfl
    | cons s names =>
      exact List.dropWhile_cons_of_neg (by simpa using (h s List.mem_cons_self).2.2)
  | succ k ih =>
    rw [List.replicate_succ, List.cons_append, List.dropWhile_cons_of_pos (by simp), ih]

theorem isNormal_resolveSegments (above : Bool) (segs : List (List Char)) :
    IsNormal above (resolveSegments above segs) := by
  have hnil : Kept above [] := ⟨[], 0, rfl, fun _ ht => absurd ht (by simp), fun _ => rfl⟩
  obtain ⟨names, k, hkept, hns, hk⟩ := kept_foldl segs hnil
  have hreverse : ∀ s ∈ names.reverse, IsName s := fun s hs => hns s (List.mem_reverse.mp hs)
  unfold IsNormal resolveSegments
  rw [hkept, List.reverse_append, List.reverse_replicate]
  cases above with
  | true => rwa [if_pos rfl, dropWhile_replicate_append hreverse]
  | false =>
    rw [hk rfl]
    simpa using hns

/-- The `..` that a relative path begins with are kept. -/
theorem foldl_pushSegment_dotdot (k n : Nat) :
    (List.replicate k dotdot).foldl (pushSegment true) (List.replicate n dotdot) =
      List.replicate (k + n) dotdot := by
  induction k generalizing n with
  | zero => rw [Nat.zero_add]; rfl
  | succ k ih =>
    have hpush : pushSegment true (List.replicate n dotdot) dotdot =
        List.replicate (n + 1) dotdot := by
      cases n with
      | zero => rfl
      | succ n => rfl
    rw [List.replicate_succ, List.foldl_cons, hpush, ih]
    congr 1
    omega

/-- **Reading keeps exactly the normal segments as they are.** -/
theorem resolveSegments_eq_self_iff : resolveSegments above segs = segs ↔ IsNormal above segs := by
  constructor
  · intro h
    exact h ▸ isNormal_resolveSegments above segs
  · intro h
    unfold IsNormal at h
    unfold resolveSegments
    cases above with
    | false =>
      rw [if_neg (by simp)] at h
      rw [foldl_pushSegment_names h, List.append_nil, List.reverse_reverse]
    | true =>
      rw [if_pos rfl] at h
      have hspl := List.takeWhile_append_dropWhile (p := (· == dotdot)) (l := segs)
      have hfirst : segs.takeWhile (· == dotdot) =
          List.replicate (segs.takeWhile (· == dotdot)).length dotdot :=
        List.eq_replicate_of_mem fun s hs => by
          simpa using List.mem_takeWhile_imp hs
      rw [← hspl, List.foldl_append, hfirst]
      have hread := foldl_pushSegment_dotdot (segs.takeWhile (· == dotdot)).length 0
      rw [List.replicate_zero, Nat.add_zero] at hread
      rw [hread, foldl_pushSegment_names h, List.reverse_append, List.reverse_reverse,
        List.reverse_replicate]

theorem resolveSegments_append_name (h : IsName name) :
    resolveSegments above (segs ++ [name]) = resolveSegments above segs ++ [name] := by
  rw [resolveSegments, List.foldl_append, List.foldl_cons, List.foldl_nil, pushSegment_name h,
    List.reverse_cons]
  rfl

theorem resolveSegments_append_nil : resolveSegments above (segs ++ [[]]) =
    resolveSegments above segs := by
  rw [resolveSegments, List.foldl_append, List.foldl_cons, List.foldl_nil, pushSegment_nil]
  rfl

theorem resolveSegments_nil_cons :
    resolveSegments above ([] :: segs) = resolveSegments above segs := by
  rw [resolveSegments, List.foldl_cons, pushSegment_nil]
  rfl

/-! ### Segments as text -/

theorem mem_foldl_pushSegment {t : List Char} (h : t ∈ segs.foldl (pushSegment above) kept) :
    t ∈ kept ∨ t ∈ segs := by
  induction segs generalizing kept with
  | nil => exact .inl h
  | cons s segs ih =>
    rcases ih h with hkept | hsegs
    · unfold pushSegment at hkept
      split_ifs at hkept with hskip hdd hpop habove
      · exact .inl hkept
      · exact .inl (List.mem_of_mem_tail hkept)
      · rcases List.mem_cons.mp hkept with rfl | hold
        · exact .inr (hdd ▸ List.mem_cons_self)
        · exact .inl hold
      · exact .inl hkept
      · rcases List.mem_cons.mp hkept with rfl | hold
        · exact .inr List.mem_cons_self
        · exact .inl hold
    · exact .inr (List.mem_cons_of_mem s hsegs)

theorem mem_resolveSegments {t : List Char} (h : t ∈ resolveSegments above segs) : t ∈ segs := by
  rcases mem_foldl_pushSegment (List.mem_reverse.mp h) with hkept | hsegs
  · exact absurd hkept (by simp)
  · exact hsegs

/-- No segment of a path has a slash in it. -/
theorem slash_notMem_splitOn {path : List Char} : ∀ s ∈ path.splitOn '/', '/' ∉ s := by
  induction path with
  | nil => simp
  | cons c path ih =>
    intro s hs
    rw [List.splitOn_cons_eq_if_modifyHead] at hs
    obtain ⟨first, rest, hspl⟩ := List.exists_cons_of_ne_nil (List.splitOn_ne_nil '/' path)
    rw [hspl] at hs ih
    split at hs
    · rcases List.mem_cons.mp hs with rfl | hs
      · exact List.not_mem_nil
      · exact ih s hs
    · rename_i hc
      rcases List.mem_cons.mp hs with rfl | hs
      · intro hmem
        rcases List.mem_cons.mp hmem with rfl | hmem
        · exact hc (beq_self_eq_true '/')
        · exact ih first List.mem_cons_self hmem
      · exact ih s (List.mem_cons_of_mem first hs)

theorem slash_notMem_segments {path : List Char} : ∀ s ∈ segments path, '/' ∉ s := by
  intro s hs
  unfold segments at hs
  split at hs
  · exact slash_notMem_splitOn s (List.mem_of_mem_tail hs)
  · exact slash_notMem_splitOn s hs

/-- The text of a list of segments determines it. -/
theorem intercalate_inj {as bs : List (List Char)} (has : ∀ s ∈ as, '/' ∉ s)
    (hbs : ∀ s ∈ bs, '/' ∉ s) (ha : as ≠ []) (hb : bs ≠ [])
    (h : ['/'].intercalate as = ['/'].intercalate bs) : as = bs := by
  rw [← List.splitOn_intercalate '/' has ha, h, List.splitOn_intercalate '/' hbs hb]

/-! ### Joining -/

/-- The root of a path. -/
def root (path : List Char) : List Char := if isAbsolute path then ['/'] else []

theorem resolveSegments_dropTrailingSlashes (path : List Char) :
    resolveSegments above ((dropTrailingSlashes path).splitOn '/') =
      resolveSegments above (path.splitOn '/') := by
  induction path using List.reverseRecOn with
  | nil => rfl
  | append_singleton path c ih =>
    unfold dropTrailingSlashes at ih ⊢
    by_cases hc : c = '/'
    · subst hc
      rw [List.rdropWhile_concat_pos _ _ _ (by simp), ih, List.splitOn_append_cons_self,
        List.splitOn_nil, resolveSegments_append_nil]
    · rw [List.rdropWhile_concat_neg _ _ _ (by simpa using hc)]

/-- Before the root of an absolute path there is an empty segment. -/
theorem splitOn_of_isAbsolute {path : List Char} (h : isAbsolute path = true) :
    (dropTrailingSlashes path).splitOn '/' = [] :: segments path := by
  rw [segments, if_pos h]
  cases hpath : dropTrailingSlashes path with
  | nil => rfl
  | cons c rest =>
    have hc : c = '/' := by
      obtain ⟨t, ht⟩ := List.rdropWhile_prefix (· == '/') path
      unfold dropTrailingSlashes at hpath
      rw [hpath] at ht
      rw [← ht] at h
      simpa [isAbsolute] using h
    rw [hc, List.splitOn_cons_eq_if_modifyHead, if_pos (beq_self_eq_true '/')]
    rfl

theorem resolveSegments_segments (path : List Char) :
    resolveSegments above (segments path) = resolveSegments above (path.splitOn '/') := by
  rw [← resolveSegments_dropTrailingSlashes]
  by_cases h : isAbsolute path = true
  · rw [splitOn_of_isAbsolute h, resolveSegments_nil_cons]
  · rw [segments, if_neg h]

theorem intercalate_concat (h : segs ≠ []) (name : List Char) :
    ['/'].intercalate (segs ++ [name]) = ['/'].intercalate segs ++ '/' :: name := by
  induction segs with
  | nil => exact absurd rfl h
  | cons s segs ih =>
    cases segs with
    | nil => simp [List.intercalate_cons_cons]
    | cons t segs =>
      rw [List.cons_append, List.cons_append, List.intercalate_cons_cons, ← List.cons_append,
        ih (by simp), List.intercalate_cons_cons]
      simp

/-- What appending a name to a path gives, as segments. -/
theorem append_name_eq {base : List Char} (hsl : '/' ∉ name) :
    dropTrailingSlashes base ++ '/' :: name =
      root base ++ ['/'].intercalate (segments base ++ [name]) := by
  have hspl : (dropTrailingSlashes base ++ '/' :: name).splitOn '/' =
      (dropTrailingSlashes base).splitOn '/' ++ [name] := by
    rw [List.splitOn_append_cons_self, List.splitOn_eq_singleton hsl]
  have htext : ['/'].intercalate ((dropTrailingSlashes base ++ '/' :: name).splitOn '/') =
      dropTrailingSlashes base ++ '/' :: name := List.intercalate_splitOn '/'
  rw [← htext, hspl]
  by_cases h : isAbsolute base = true
  · rw [splitOn_of_isAbsolute h, root, if_pos h, List.cons_append,
      List.intercalate_cons_of_ne_nil (by simp)]
    rfl
  · rw [root, if_neg h, segments, if_neg h]
    rfl

/-- What joining a path with a name gives, as segments. -/
theorem join_eq {base : List Char} (hbase : base ≠ []) (hname : IsName name) (hsl : '/' ∉ name) :
    join base name = root base ++
      ['/'].intercalate (resolveSegments (!isAbsolute base) (segments base) ++ [name]) := by
  have habsolute : isAbsolute (base ++ '/' :: name) = isAbsolute base := by
    obtain ⟨c, rest, rfl⟩ := List.exists_cons_of_ne_nil hbase
    rfl
  have htrailing : ((base ++ '/' :: name).getLast? == some '/') = false := by
    obtain ⟨init, last, rfl⟩ := (List.eq_nil_or_concat' name).resolve_left hname.1
    have hlast : last ≠ '/' := fun hl => hsl (by simp [hl])
    rw [← List.cons_append, ← List.append_assoc, List.getLast?_concat]
    simpa using hlast
  have hbody : normalizeString (base ++ '/' :: name) (!isAbsolute base) =
      ['/'].intercalate (resolveSegments (!isAbsolute base) (segments base) ++ [name]) := by
    rw [normalizeString, List.splitOn_append_cons_self, List.splitOn_eq_singleton hsl,
      resolveSegments_append_name hname, resolveSegments_segments]
  have hne : ['/'].intercalate (resolveSegments (!isAbsolute base) (segments base) ++ [name]) ≠
      [] := by
    by_cases hr : resolveSegments (!isAbsolute base) (segments base) = []
    · rw [hr, List.nil_append, List.intercalate_singleton]
      exact hname.1
    · rw [intercalate_concat hr]
      simp
  rw [join, if_neg hbase, if_neg hname.1, normalize, habsolute, htrailing, hbody,
    if_neg (by simp [hbase]), if_neg hne]
  simp [root]

/-- **Joining a path with a name only appends the name exactly when the path is canonical.** -/
theorem join_eq_append_iff {base : List Char} (hbase : base ≠ []) (hname : IsName name)
    (hsl : '/' ∉ name) :
    dropTrailingSlashes base ++ '/' :: name = join base name ↔ Canonical base := by
  rw [append_name_eq hsl, join_eq hbase hname hsl, List.append_cancel_left_eq]
  have hin : ∀ segs : List (List Char), (∀ s ∈ segs, '/' ∉ s) → ∀ s ∈ segs ++ [name], '/' ∉ s := by
    intro segs hsegs s hs
    rcases List.mem_append.mp hs with hs | hs
    · exact hsegs s hs
    · rwa [List.mem_singleton.mp hs]
  constructor
  · intro h
    have hsegs := intercalate_inj (hin _ slash_notMem_segments)
      (hin _ fun s hs => slash_notMem_segments s (mem_resolveSegments hs)) (by simp) (by simp) h
    exact resolveSegments_eq_self_iff.mp (List.append_cancel_right hsegs).symm
  · intro h
    rw [resolveSegments_eq_self_iff.mpr h]

/-- The segments of an absolute path given by names. -/
theorem segments_of_names (hns : ∀ s ∈ segs, IsName s) (hsl : ∀ s ∈ segs, '/' ∉ s) :
    segments ('/' :: ['/'].intercalate segs) = segs := by
  have habsolute : isAbsolute ('/' :: ['/'].intercalate segs) = true := rfl
  by_cases h : segs = []
  · subst h
    rfl
  · have hkeep : dropTrailingSlashes ('/' :: ['/'].intercalate segs) =
        '/' :: ['/'].intercalate segs := by
      obtain ⟨first, last, rfl⟩ := (List.eq_nil_or_concat' segs).resolve_left h
      have hlast := hns last (by simp)
      obtain ⟨init, c, rfl⟩ := (List.eq_nil_or_concat' last).resolve_left hlast.1
      have hc : ¬ ((c == '/') = true) := by
        have hmem := hsl (init ++ [c]) (by simp)
        intro heq
        exact hmem (by simp [eq_of_beq heq])
      obtain ⟨before, hbef⟩ : ∃ before, '/' :: ['/'].intercalate (first ++ [init ++ [c]]) =
          before ++ [c] := by
        by_cases hfirst : first = []
        · subst hfirst
          exact ⟨'/' :: init, by simp⟩
        · exact ⟨'/' :: (['/'].intercalate first ++ '/' :: init), by
            rw [intercalate_concat hfirst]
            simp⟩
      rw [hbef]
      exact List.rdropWhile_concat_neg (· == '/') before c hc
    rw [segments, if_pos habsolute, hkeep, List.splitOn_cons_eq_if_modifyHead,
      if_pos (beq_self_eq_true '/'), List.tail_cons, List.splitOn_intercalate '/' hsl h]

end PosixPath
