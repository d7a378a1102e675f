import Mathlib.Data.List.TakeWhile
import Meowbox.Lib.JsNumber
import Meowbox.Lib.JsValue
import Meowbox.Lib.ThreeWay

/-!
# Release versions

Model of `shared/src/semver.ts`. The regular expression is read from the outside in: what is behind
the first `+` is the build, what is behind the first `-` the prerelease, and the parts lie between
the dots. A numeric part is the double it denotes.

A `SemVer` is a version of SemVer 2.0 with its exact numbers. `precedence` is the comparison of its
ranks: major, minor and patch, then the identifiers of the prerelease, where no prerelease is above
them all; numeric identifiers are numbers and below all others, which are ordered by their
characters, and a list is above its beginnings.

* `compareReleases_eq`: `compareReleaseSemver` compares the ranks of what it has read.
* `parse_denotes`: of a version it reads that version, with its numbers as doubles.
* **`release_ordering`**: it is a total preorder of what it accepts, and agrees with the precedence
  about a version exactly when the numbers of the version keep their doubles to themselves.
-/

namespace Meowbox.Semver

open JsData ThreeWay

/-! ## `parseReleaseSemver` -/

/-- A part of a prerelease: a number, or a text. -/
inductive PrereleasePart
  | number (n : Nat)
  | text (chars : List Char)
deriving DecidableEq

structure ReleaseSemver where
  major : Nat
  minor : Nat
  patch : Nat
  prerelease : List PrereleasePart
deriving DecidableEq

/-- `0|[1-9]\d*`. -/
def isNumeric (cs : List Char) : Bool :=
  !cs.isEmpty && cs.all isDigitAscii && (cs.head? != some '0' || cs == ['0'])

/-- `[0-9A-Za-z-]`. -/
def isIdentifierChar (c : Char) : Bool :=
  isDigitAscii c || isUpperAscii c || isLowerAscii c || c == '-'

/-- `[0-9A-Za-z-]+`. -/
def isIdentifier (cs : List Char) : Bool := !cs.isEmpty && cs.all isIdentifierChar

/-- What is in front of the first `c`, and what is behind it, if there is one. -/
def cut (c : Char) (cs : List Char) : List Char × Option (List Char) :=
  match cs.dropWhile (· != c) with
  | _ :: rest => (cs.takeWhile (· != c), some rest)
  | [] => (cs, none)

/-- `/^(0|[1-9]\d*)$/.test(part) ? Number(part) : part`. -/
def readPart (part : List Char) : PrereleasePart :=
  if isNumeric part then .number (toNumber (Nat.ofDigitChars 10 part 0)) else .text part

/-- `Number(match[i])`. -/
def readNumber (digits : List Char) : Nat := toNumber (Nat.ofDigitChars 10 digits 0)

def parseReleaseSemver (value : String) : Option ReleaseSemver :=
  let text := (trim value).toList
  let unprefixed := if text.head? == some 'v' then text.tail else text
  let (version, build) := cut '+' unprefixed
  let (core, prerelease) := cut '-' version
  match core.splitOn '.' with
  | [major, minor, patch] =>
    let parts := (prerelease.map (·.splitOn '.')).getD []
    if isNumeric major && isNumeric minor && isNumeric patch && parts.all isIdentifier &&
        ((build.map (·.splitOn '.')).getD []).all isIdentifier then
      some ⟨readNumber major, readNumber minor, readNumber patch, parts.map readPart⟩
    else none
  | _ => none

def isReleaseSemver (value : String) : Bool := (parseReleaseSemver value).isSome

/-! ## `compareReleaseSemver` -/

/-- `<` of two texts of ASCII characters. -/
def textLt : List Char → List Char → Bool
  | _, [] => false
  | [], _ :: _ => true
  | c :: cs, d :: ds => if c = d then textLt cs ds else decide (c < d)

/-- The loop over the parts. -/
def compareParts : List PrereleasePart → List PrereleasePart → Int
  | [], [] => 0
  | [], _ :: _ => -1
  | _ :: _, [] => 1
  | left :: ls, right :: rs =>
    if left = right then compareParts ls rs
    else
      match left, right with
      | .number _, .text _ => -1
      | .text _, .number _ => 1
      | .number m, .number n => if m < n then -1 else 1
      | .text s, .text t => if textLt s t then -1 else 1

def compareReleases (left right : ReleaseSemver) : Int :=
  if left.major ≠ right.major then if left.major < right.major then -1 else 1
  else if left.minor ≠ right.minor then if left.minor < right.minor then -1 else 1
  else if left.patch ≠ right.patch then if left.patch < right.patch then -1 else 1
  else if left.prerelease.isEmpty || right.prerelease.isEmpty then
    if left.prerelease.length = right.prerelease.length then 0
    else if left.prerelease.isEmpty then 1
    else -1
  else compareParts left.prerelease right.prerelease

/-- `compareReleaseSemver`; the error is the message of the `TypeError`. -/
def compareReleaseSemver (left right : String) : Except String Int :=
  match parseReleaseSemver left, parseReleaseSemver right with
  | some l, some r => .ok (compareReleases l r)
  | _, _ => .error "Invalid release semver"

/-! ## Ranks -/

/-- Numbers are below texts. -/
abbrev PartRank := ℕ ⊕ₗ List Char

/-- The numbers of a version, and its prerelease; without one a version is above those that have
one. -/
abbrev Rank := ℕ ×ₗ ℕ ×ₗ ℕ ×ₗ WithTop (List PartRank)

def PrereleasePart.rank : PrereleasePart → PartRank
  | .number n => Sum.inlₗ n
  | .text cs => Sum.inrₗ cs

def prereleaseRank (parts : List PrereleasePart) : WithTop (List PartRank) :=
  if parts.isEmpty then ⊤ else ((parts.map PrereleasePart.rank : List PartRank) : WithTop _)

def ReleaseSemver.rank (v : ReleaseSemver) : Rank :=
  toLex (v.major, toLex (v.minor, toLex (v.patch, prereleaseRank v.prerelease)))

theorem textLt_iff {s t : List Char} : textLt s t = true ↔ s < t := by
  induction s generalizing t with
  | nil =>
    cases t with
    | nil => simp [textLt]
    | cons d ds => simp [textLt]
  | cons c cs ih =>
    cases t with
    | nil => simp [textLt]
    | cons d ds =>
      unfold textLt
      by_cases h : c = d
      · subst h
        rw [if_pos rfl, ih, List.cons_lt_cons_iff]
        simp
      · rw [if_neg h, decide_eq_true_iff, List.cons_lt_cons_iff]
        simp [h]

theorem PrereleasePart.rank_injective : Function.Injective PrereleasePart.rank := by
  intro p q h
  cases p with
  | number m =>
    cases q with
    | number n => exact congrArg number (Sum.inl_injective h)
    | text t => cases h
  | text s =>
    cases q with
    | number n => cases h
    | text t => exact congrArg text (Sum.inr_injective h)

/-- What is different is less or greater. -/
theorem signOf_of_ne {α : Type} [LinearOrder α] {a b : α} (h : a ≠ b) :
    signOf a b = if a < b then -1 else 1 := by
  by_cases hlt : a < b
  · rw [signOf_of_lt hlt, if_pos hlt]
  · rw [signOf_of_gt (lt_of_le_of_ne (not_lt.mp hlt) h.symm), if_neg hlt]

theorem compareParts_eq (ls rs : List PrereleasePart) :
    compareParts ls rs = signOf (ls.map PrereleasePart.rank) (rs.map PrereleasePart.rank) := by
  induction ls generalizing rs with
  | nil =>
    cases rs with
    | nil => rw [compareParts, signOf_self]
    | cons r rs => rw [compareParts, List.map_nil, List.map_cons, signOf_nil_cons]
  | cons l ls ih =>
    cases rs with
    | nil => rw [compareParts, List.map_nil, List.map_cons, signOf_cons_nil]
    | cons r rs =>
      rw [compareParts.eq_def, List.map_cons, List.map_cons, signOf_cons]
      dsimp only
      by_cases h : l = r
      · subst h
        rw [if_pos rfl, if_pos rfl, ih]
      · rw [if_neg h, if_neg fun heq => h (PrereleasePart.rank_injective heq)]
        cases l with
        | number m =>
          cases r with
          | number n =>
            have hne : m ≠ n := fun heq => h (congrArg _ heq)
            exact ((signOf_inl m n).trans (signOf_of_ne hne)).symm
          | text t => exact (signOf_inl_inr m t).symm
        | text s =>
          cases r with
          | number n => exact (signOf_inr_inl n s).symm
          | text t =>
            have hne : s ≠ t := fun heq => h (congrArg _ heq)
            have hsign : signOf (Sum.inrₗ s : PartRank) (Sum.inrₗ t) = _ :=
              (signOf_inr s t).trans (signOf_of_ne hne)
            by_cases hlt : s < t
            · rw [if_pos hlt] at hsign
              exact (if_pos (textLt_iff.mpr hlt)).trans hsign.symm
            · rw [if_neg hlt] at hsign
              exact (if_neg fun h => hlt (textLt_iff.mp h)).trans hsign.symm

/-- **The comparison is that of the ranks.** -/
theorem compareReleases_eq (l r : ReleaseSemver) :
    compareReleases l r = signOf l.rank r.rank := by
  unfold compareReleases ReleaseSemver.rank
  rw [signOf_pair, signOf_pair, signOf_pair]
  by_cases hmajor : l.major = r.major
  · by_cases hminor : l.minor = r.minor
    · by_cases hpat : l.patch = r.patch
      · rw [if_neg (not_not_intro hmajor), if_neg (not_not_intro hminor),
          if_neg (not_not_intro hpat), if_pos hmajor, if_pos hminor, if_pos hpat]
        unfold prereleaseRank
        cases hl : l.prerelease with
        | nil =>
          cases hr : r.prerelease with
          | nil => simp [signOf_self]
          | cons q qs => simp [signOf_top_coe]
        | cons p ps =>
          cases hr : r.prerelease with
          | nil => simp [signOf_coe_top]
          | cons q qs => simp [signOf_coe, compareParts_eq]
      · rw [if_neg (not_not_intro hmajor), if_neg (not_not_intro hminor), if_pos hpat,
          if_pos hmajor, if_pos hminor, if_neg hpat, signOf_of_ne hpat]
    · rw [if_neg (not_not_intro hmajor), if_pos hminor, if_pos hmajor, if_neg hminor,
        signOf_of_ne hminor]
  · rw [if_pos hmajor, if_neg hmajor, signOf_of_ne hmajor]

theorem prereleaseRank_injective : Function.Injective prereleaseRank := by
  intro ps qs h
  unfold prereleaseRank at h
  cases ps with
  | nil =>
    cases qs with
    | nil => rfl
    | cons q qs => simp at h
  | cons p ps =>
    cases qs with
    | nil => simp at h
    | cons q qs =>
      have hcoe := WithTop.coe_injective h
      exact PrereleasePart.rank_injective.list_map hcoe

theorem ReleaseSemver.rank_injective : Function.Injective ReleaseSemver.rank := by
  intro v w h
  have h₁ := Prod.mk.inj (toLex.injective h)
  have h₂ := Prod.mk.inj (toLex.injective h₁.2)
  have h₃ := Prod.mk.inj (toLex.injective h₂.2)
  have h₄ := prereleaseRank_injective h₃.2
  cases v
  cases w
  simp only [ReleaseSemver.mk.injEq]
  exact ⟨h₁.1, h₂.1, h₃.1, h₄⟩

/-! ## SemVer 2.0 -/

/-- An identifier of a prerelease: a number, or a text that is not all digits. -/
inductive SemVerIdentifier
  | numeric (n : Nat)
  | alphanumeric (chars : List Char) (valid : isIdentifier chars = true)
      (nondigit : chars.all isDigitAscii = false)

/-- A version. -/
structure SemVer where
  major : Nat
  minor : Nat
  patch : Nat
  prerelease : List SemVerIdentifier
  build : List { cs : List Char // isIdentifier cs = true }

def SemVerIdentifier.chars : SemVerIdentifier → List Char
  | .numeric n => Nat.toDigits 10 n
  | .alphanumeric cs _ _ => cs

def dotted (parts : List (List Char)) : List Char := ['.'].intercalate parts

/-- What stands behind a sign, if there is anything. -/
def behind (sign : Char) (parts : List (List Char)) : List Char :=
  if parts.isEmpty then [] else sign :: dotted parts

/-- Major, minor and patch. -/
def SemVer.core (v : SemVer) : List (List Char) :=
  [Nat.toDigits 10 v.major, Nat.toDigits 10 v.minor, Nat.toDigits 10 v.patch]

/-- How a version is written. -/
def SemVer.text (v : SemVer) : List Char :=
  dotted v.core ++ behind '-' (v.prerelease.map SemVerIdentifier.chars) ++
    behind '+' (v.build.map Subtype.val)

/-- A text denotes a version: the white space around it and a `v` in front of it do not count. -/
def Denotes (s : String) (v : SemVer) : Prop :=
  (trim s).toList = v.text ∨ (trim s).toList = 'v' :: v.text

def SemVerIdentifier.part (number : Nat → Nat) : SemVerIdentifier → PrereleasePart
  | .numeric n => .number (number n)
  | .alphanumeric cs _ _ => .text cs

/-- The version with its numbers behind a function. -/
def SemVer.release (v : SemVer) (number : Nat → Nat) : ReleaseSemver :=
  ⟨number v.major, number v.minor, number v.patch, v.prerelease.map (·.part number)⟩

/-- **The precedence of SemVer 2.0**: -1, 0 or 1. -/
def SemVer.precedence (v w : SemVer) : Int := signOf (v.release id).rank (w.release id).rank

def SemVerIdentifier.number? : SemVerIdentifier → Option Nat
  | .numeric n => some n
  | .alphanumeric _ _ _ => none

/-- The numbers of a version. -/
def SemVer.numbers (v : SemVer) : List Nat :=
  v.major :: v.minor :: v.patch :: v.prerelease.filterMap SemVerIdentifier.number?

/-! ### Doubles for numbers -/

/-- A rank with its number behind a function. -/
def numberRank (number : Nat → Nat) (r : PartRank) : PartRank :=
  toLex (Sum.map number (fun cs => cs) (ofLex r))

theorem part_rank (number : Nat → Nat) (i : SemVerIdentifier) :
    (i.part number).rank = numberRank number (i.part id).rank := by
  cases i <;> rfl

theorem prereleaseRank_part (number : Nat → Nat) (ids : List SemVerIdentifier) :
    prereleaseRank (ids.map (·.part number)) =
      WithTop.map (List.map (numberRank number)) (prereleaseRank (ids.map (·.part id))) := by
  unfold prereleaseRank
  cases ids with
  | nil => rfl
  | cons i ids =>
    simp only [List.map_cons, List.isEmpty_cons, Bool.false_eq_true, if_false, WithTop.map_coe,
      List.map_map, part_rank number, Function.comp_def]

/-- A number that keeps its double to itself compares as its double does. -/
theorem faithful_toNumber {n : Nat} (h : Alone n) : Faithful toNumber n :=
  .of_mono (fun _ _ => toNumber_mono) h

theorem faithful_rank {i : SemVerIdentifier} (h : ∀ n ∈ i.number?, Alone n) :
    Faithful (numberRank toNumber) (i.part id).rank := by
  cases i with
  | numeric n => exact (faithful_toNumber (h n rfl)).inl
  | alphanumeric cs _ _ => exact (Faithful.id cs).inr

theorem faithful_prerelease {ids : List SemVerIdentifier}
    (h : ∀ n ∈ ids.filterMap SemVerIdentifier.number?, Alone n) :
    Faithful (WithTop.map (List.map (numberRank toNumber)))
      (prereleaseRank (ids.map (·.part id))) := by
  unfold prereleaseRank
  split
  · exact Faithful.top _
  · refine (Faithful.list fun r hr => ?_).coe
    obtain ⟨p, hp, rfl⟩ := List.mem_map.mp hr
    obtain ⟨i, hi, rfl⟩ := List.mem_map.mp hp
    exact faithful_rank fun n hn => h n (List.mem_filterMap.mpr ⟨i, hi, hn⟩)

/-- **Where every number keeps its double, nothing is compared differently.** -/
theorem compare_faithful {v : SemVer} (h : ∀ n ∈ v.numbers, Alone n) (w : SemVer) :
    compareReleases (v.release toNumber) (w.release toNumber) = v.precedence w := by
  obtain ⟨hmajor, hrest⟩ := List.forall_mem_cons.mp h
  obtain ⟨hminor, hrest⟩ := List.forall_mem_cons.mp hrest
  obtain ⟨hpat, hprerelease⟩ := List.forall_mem_cons.mp hrest
  have hids := faithful_prerelease hprerelease (prereleaseRank (w.prerelease.map (·.part id)))
  rw [compareReleases_eq]
  unfold SemVer.precedence ReleaseSemver.rank SemVer.release
  dsimp only
  rw [prereleaseRank_part toNumber v.prerelease, prereleaseRank_part toNumber w.prerelease]
  simp only [signOf_pair, id_eq, hids, (faithful_toNumber hmajor).eq_iff,
    (faithful_toNumber hminor).eq_iff, (faithful_toNumber hpat).eq_iff,
    faithful_toNumber hmajor w.major, faithful_toNumber hminor w.minor,
    faithful_toNumber hpat w.patch]

/-- A number that does not, can be replaced by another without being noticed. -/
theorem exists_collision {v : SemVer} {m n : Nat} (hn : n ∈ v.numbers)
    (hm : toNumber m = toNumber n) (hne : m ≠ n) :
    ∃ w : SemVer, w.release toNumber = v.release toNumber ∧ w.release id ≠ v.release id := by
  obtain rfl | hn := List.mem_cons.mp hn
  · refine ⟨{ v with major := m }, ?_, fun h => hne (ReleaseSemver.mk.inj h).1⟩
    simp only [SemVer.release, hm]
  obtain rfl | hn := List.mem_cons.mp hn
  · refine ⟨{ v with minor := m }, ?_, fun h => hne (ReleaseSemver.mk.inj h).2.1⟩
    simp only [SemVer.release, hm]
  obtain rfl | hn := List.mem_cons.mp hn
  · refine ⟨{ v with patch := m }, ?_, fun h => hne (ReleaseSemver.mk.inj h).2.2.1⟩
    simp only [SemVer.release, hm]
  obtain ⟨i, hi, hnumber⟩ := List.mem_filterMap.mp hn
  obtain rfl : i = .numeric n := by
    cases i with
    | numeric k => exact congrArg _ (Option.some.inj hnumber)
    | alphanumeric cs _ _ => cases hnumber
  obtain ⟨as, bs, hids⟩ := List.append_of_mem hi
  refine ⟨{ v with prerelease := as ++ .numeric m :: bs }, ?_, fun h => hne ?_⟩
  · simp only [SemVer.release, hids, List.map_append, List.map_cons, SemVerIdentifier.part, hm]
  · have hpts := (ReleaseSemver.mk.inj h).2.2.2
    rw [hids, List.map_append, List.map_append] at hpts
    have hhead := (List.cons.inj (List.append_cancel_left hpts)).1
    exact PrereleasePart.number.inj hhead

/-! ### How a version is read -/

section Reading

variable {c : Char} {cs front : List Char} {parts : List (List Char)}

theorem cut_of_notMem (h : c ∉ cs) : cut c cs = (cs, none) := by
  have hdrop : cs.dropWhile (· != c) = [] := by
    rw [List.dropWhile_eq_nil_iff]
    intro d hd
    exact bne_iff_ne.mpr fun heq => h (heq ▸ hd)
  simp only [cut, hdrop]

theorem cut_append (h : c ∉ front) : cut c (front ++ c :: cs) = (front, some cs) := by
  have hfro : ∀ d ∈ front, (d != c) = true := fun d hd =>
    bne_iff_ne.mpr fun heq => h (heq ▸ hd)
  have hdrop : (front ++ c :: cs).dropWhile (· != c) = c :: cs := by
    rw [List.dropWhile_append_of_pos hfro, List.dropWhile_cons_of_neg (by simp)]
  have htake : (front ++ c :: cs).takeWhile (· != c) = front := by
    rw [List.takeWhile_append_of_pos hfro, List.takeWhile_cons_of_neg (by simp),
      List.append_nil]
  simp only [cut, hdrop, htake]

/-- What stands behind a sign is found there. -/
theorem cut_behind (h : c ∉ front) :
    cut c (front ++ behind c parts) =
      (front, if parts.isEmpty then none else some (dotted parts)) := by
  unfold behind
  by_cases hnil : parts.isEmpty = true
  · rw [if_pos hnil, if_pos hnil, List.append_nil, cut_of_notMem h]
  · rw [if_neg hnil, if_neg hnil, cut_append h]

theorem splitOn_dotted (h : ∀ p ∈ parts, '.' ∉ p) (hne : parts ≠ []) :
    (dotted parts).splitOn '.' = parts := List.splitOn_intercalate '.' h hne

/-- The parts that were written are read. -/
theorem split_behind (h : ∀ p ∈ parts, '.' ∉ p) :
    ((if parts.isEmpty then none else some (dotted parts)).map
      (·.splitOn '.')).getD [] = parts := by
  by_cases hnil : parts = []
  · subst hnil
    rfl
  · rw [if_neg (by rwa [List.isEmpty_iff]), Option.map_some, Option.getD_some,
      splitOn_dotted h hnil]

/-- The characters of the parts, and the dots between them. -/
theorem dotted_all {p : Char → Bool} (hdot : p '.' = true) (h : ∀ q ∈ parts, q.all p = true) :
    (dotted parts).all p = true := by
  induction parts with
  | nil => rfl
  | cons q qs ih =>
    have hq := h q List.mem_cons_self
    have hqs := ih fun r hr => h r (List.mem_cons_of_mem q hr)
    cases qs with
    | nil =>
      rw [dotted, List.intercalate_singleton]
      exact hq
    | cons r rs =>
      rw [dotted, List.intercalate_cons_cons, List.all_append, List.all_append, hq,
        List.all_cons, hdot]
      exact hqs

theorem behind_all {p : Char → Bool} (hsign : p c = true) (hdot : p '.' = true)
    (h : ∀ q ∈ parts, q.all p = true) : (behind c parts).all p = true := by
  unfold behind
  split
  · rfl
  · rw [List.all_cons, hsign, dotted_all hdot h]
    rfl

end Reading

theorem digits_all (n : Nat) : (Nat.toDigits 10 n).all isDigitAscii = true :=
  List.all_eq_true.mpr fun _ hc => Nat.isDigit_of_mem_toDigits (by decide) (by decide) hc

/-- A number that is not zero begins with another digit. -/
theorem toDigits_head (n : Nat) (h : 0 < n) : (Nat.toDigits 10 n).head? ≠ some '0' := by
  induction n using Nat.strongRecOn with
  | _ n ih =>
    by_cases hlt : n < 10
    · rw [Nat.toDigits_of_lt_base hlt, List.head?_cons]
      intro heq
      exact Nat.pos_iff_ne_zero.mp h (Nat.digitChar_eq_zero.mp (Option.some.inj heq))
    · have hpos : 0 < n / 10 := by omega
      have hspl := Nat.toDigits_append_toDigits (b := 10) (d := n % 10) (by decide) hpos
        (Nat.mod_lt n (by decide))
      rw [Nat.div_add_mod] at hspl
      rw [← hspl, List.head?_append_of_ne_nil _ Nat.toDigits_ne_nil]
      exact ih (n / 10) (by omega) hpos

theorem isNumeric_toDigits (n : Nat) : isNumeric (Nat.toDigits 10 n) = true := by
  have hne : (Nat.toDigits 10 n).isEmpty = false :=
    List.isEmpty_eq_false_iff.mpr Nat.toDigits_ne_nil
  unfold isNumeric
  rw [hne, digits_all]
  by_cases h : n = 0
  · subst h
    rfl
  · simp [toDigits_head n (Nat.pos_of_ne_zero h)]

theorem readNumber_toDigits (n : Nat) : readNumber (Nat.toDigits 10 n) = toNumber n := by
  rw [readNumber, Nat.ofDigitChars_ten_toDigits]

theorem identifier_of_digits {cs : List Char} (hne : cs ≠ [])
    (h : cs.all isDigitAscii = true) : isIdentifier cs = true := by
  unfold isIdentifier
  rw [List.isEmpty_eq_false_iff.mpr hne, Bool.not_false, Bool.true_and, List.all_eq_true]
  intro c hc
  rw [isIdentifierChar, List.all_eq_true.mp h c hc]
  rfl

theorem SemVerIdentifier.isIdentifier_chars (i : SemVerIdentifier) :
    isIdentifier i.chars = true := by
  cases i with
  | numeric n => exact identifier_of_digits Nat.toDigits_ne_nil (digits_all n)
  | alphanumeric cs valid _ => exact valid

/-- An identifier is read as what it is. -/
theorem readPart_chars (i : SemVerIdentifier) : readPart i.chars = i.part toNumber := by
  cases i with
  | numeric n =>
    unfold readPart SemVerIdentifier.chars
    dsimp only
    rw [if_pos (isNumeric_toDigits n), Nat.ofDigitChars_ten_toDigits]
    rfl
  | alphanumeric cs valid nondigit =>
    have hno : isNumeric cs = false := by
      rw [isNumeric, nondigit, Bool.and_false, Bool.false_and]
    unfold readPart SemVerIdentifier.chars
    dsimp only
    rw [hno, if_neg Bool.false_ne_true]
    rfl

theorem identifier_all {cs : List Char} (h : isIdentifier cs = true) :
    cs.all isIdentifierChar = true := (Bool.and_eq_true_iff.mp h).2

/-- No identifier has a character in it that identifiers do not have. -/
theorem notMem_identifier {c : Char} (hc : isIdentifierChar c = false) {cs : List Char}
    (h : isIdentifier cs = true) : c ∉ cs := by
  intro hmem
  have htrue := List.all_eq_true.mp (identifier_all h) c hmem
  rw [hc] at htrue
  exact absurd htrue Bool.false_ne_true

section Version

variable (v : SemVer)

theorem core_identifiers : ∀ q ∈ v.core, isIdentifier q = true := by
  intro q hq
  simp only [SemVer.core, List.mem_cons, List.not_mem_nil, or_false] at hq
  rcases hq with rfl | rfl | rfl
  all_goals exact identifier_of_digits Nat.toDigits_ne_nil (digits_all _)

theorem prerelease_identifiers :
    ∀ q ∈ v.prerelease.map SemVerIdentifier.chars, isIdentifier q = true := by
  intro q hq
  obtain ⟨i, -, rfl⟩ := List.mem_map.mp hq
  exact i.isIdentifier_chars

theorem build_identifiers : ∀ q ∈ v.build.map Subtype.val, isIdentifier q = true := by
  intro q hq
  obtain ⟨b, -, rfl⟩ := List.mem_map.mp hq
  exact b.2

/-- A character of a version. -/
def isVersionChar (c : Char) : Bool := isIdentifierChar c || c == '.' || c == '+'

theorem text_chars : v.text.all isVersionChar = true := by
  have hident : ∀ {parts : List (List Char)}, (∀ q ∈ parts, isIdentifier q = true) →
      ∀ q ∈ parts, q.all isVersionChar = true := by
    intro parts h q hq
    rw [List.all_eq_true]
    intro c hc
    rw [isVersionChar, List.all_eq_true.mp (identifier_all (h q hq)) c hc]
    rfl
  have hdot : isVersionChar '.' = true := by decide
  rw [SemVer.text, List.all_append, List.all_append, dotted_all hdot (hident (core_identifiers v)),
    behind_all (by decide) hdot (hident (prerelease_identifiers v)),
    behind_all (by decide) hdot (hident (build_identifiers v))]
  rfl

/-- A version begins with a digit. -/
theorem text_head : v.text.head? ≠ some 'v' := by
  have hdig := digits_all v.major
  obtain ⟨d, ds, hd⟩ := List.exists_cons_of_ne_nil (Nat.toDigits_ne_nil (b := 10) (n := v.major))
  rw [hd, List.all_cons, Bool.and_eq_true] at hdig
  have hhead : v.text.head? = some d := by
    rw [SemVer.text, SemVer.core, dotted, List.intercalate_cons_cons, hd]
    rfl
  rw [hhead]
  rintro ⟨⟩
  exact absurd hdig.1 (by decide)

/-- In front of the build there is no plus sign. -/
theorem plus_notMem :
    '+' ∉ dotted v.core ++ behind '-' (v.prerelease.map SemVerIdentifier.chars) := by
  have hident : ∀ {parts : List (List Char)}, (∀ q ∈ parts, isIdentifier q = true) →
      ∀ q ∈ parts, q.all (· != '+') = true := by
    intro parts h q hq
    rw [List.all_eq_true]
    intro c hc
    rw [bne_iff_ne]
    rintro rfl
    exact notMem_identifier (by decide) (h q hq) hc
  have hall : (dotted v.core ++ behind '-' (v.prerelease.map SemVerIdentifier.chars)).all
      (· != '+') = true := by
    rw [List.all_append, dotted_all (by decide) (hident (core_identifiers v)),
      behind_all (by decide) (by decide) (hident (prerelease_identifiers v))]
    rfl
  intro hmem
  exact absurd (List.all_eq_true.mp hall _ hmem) (by decide)

/-- In front of the prerelease there is no dash. -/
theorem dash_notMem : '-' ∉ dotted v.core := by
  have hall : (dotted v.core).all (· != '-') = true := by
    refine dotted_all (by decide) fun q hq => ?_
    simp only [SemVer.core, List.mem_cons, List.not_mem_nil, or_false] at hq
    have hdig : q.all isDigitAscii = true := by
      rcases hq with rfl | rfl | rfl
      all_goals exact digits_all _
    rw [List.all_eq_true]
    intro c hc
    rw [bne_iff_ne]
    rintro rfl
    exact absurd (List.all_eq_true.mp hdig _ hc) (by decide)
  intro hmem
  exact absurd (List.all_eq_true.mp hall _ hmem) (by decide)

end Version

/-- **Of a text that denotes a version, the version is read.** -/
theorem parse_denotes {s : String} {v : SemVer} (h : Denotes s v) :
    parseReleaseSemver s = some (v.release toNumber) := by
  have hbare : (if (trim s).toList.head? == some 'v' then (trim s).toList.tail
      else (trim s).toList) = v.text := by
    rcases h with h | h
    · rw [h, if_neg (by simpa using text_head v)]
    · rw [h]
      rfl
  have hdotless : ∀ {parts : List (List Char)}, (∀ q ∈ parts, isIdentifier q = true) →
      ∀ q ∈ parts, '.' ∉ q := fun h q hq => notMem_identifier (by decide) (h q hq)
  have hpts := split_behind (hdotless (prerelease_identifiers v))
  have hbuild := split_behind (hdotless (build_identifiers v))
  have hcore : (dotted v.core).splitOn '.' = v.core :=
    splitOn_dotted (hdotless (core_identifiers v)) (List.cons_ne_nil _ _)
  have hids : (v.prerelease.map SemVerIdentifier.chars).all isIdentifier = true :=
    List.all_eq_true.mpr (prerelease_identifiers v)
  have hbuilds : (v.build.map Subtype.val).all isIdentifier = true :=
    List.all_eq_true.mpr (build_identifiers v)
  unfold parseReleaseSemver
  dsimp only
  rw [hbare, SemVer.text, cut_behind (plus_notMem v), cut_behind (dash_notMem v)]
  dsimp only
  rw [hcore]
  dsimp only [SemVer.core]
  rw [hpts, hbuild, hids, hbuilds, isNumeric_toDigits, isNumeric_toDigits, isNumeric_toDigits]
  simp only [Bool.and_self, if_true, readNumber_toDigits, List.map_map]
  unfold SemVer.release
  refine congrArg some (congrArg (ReleaseSemver.mk _ _ _) (List.map_congr_left fun i _ => ?_))
  exact readPart_chars i

/-- A version denotes itself. -/
theorem denotes_text (v : SemVer) : Denotes (String.ofList v.text) v := by
  have hpl : ∀ c ∈ (String.ofList v.text).toList, isJsSpace c = false := by
    intro c hc
    rw [String.toList_ofList] at hc
    have hchar := List.all_eq_true.mp (text_chars v) c hc
    simp only [isVersionChar, isIdentifierChar, isDigitAscii, isUpperAscii, isLowerAscii,
      Bool.or_eq_true, Bool.and_eq_true, decide_eq_true_eq, beq_iff_eq, Char.le_def,
      UInt32.le_iff_toNat_le] at hchar
    rcases hchar with ((((⟨hlo, hhi⟩ | ⟨hlo, hhi⟩) | ⟨hlo, hhi⟩) | rfl) | rfl) | rfl
    · exact isJsSpace_of_graphic (Nat.lt_of_lt_of_le (by decide) hlo)
        (Nat.lt_of_le_of_lt hhi (by decide))
    · exact isJsSpace_of_graphic (Nat.lt_of_lt_of_le (by decide) hlo)
        (Nat.lt_of_le_of_lt hhi (by decide))
    · exact isJsSpace_of_graphic (Nat.lt_of_lt_of_le (by decide) hlo)
        (Nat.lt_of_le_of_lt hhi (by decide))
    all_goals decide
  exact .inl (by rw [trim_of_plain hpl, String.toList_ofList])

/-! ## Release ordering -/

/-- The left version is not above the right one. -/
def NotAbove (left right : String) : Prop := ∃ k ≤ 0, compareReleaseSemver left right = .ok k

theorem compare_ok {s t : String} {v w : ReleaseSemver} (hs : parseReleaseSemver s = some v)
    (ht : parseReleaseSemver t = some w) :
    compareReleaseSemver s t = .ok (signOf v.rank w.rank) := by
  rw [← compareReleases_eq]
  unfold compareReleaseSemver
  rw [hs, ht]

theorem compare_ok_iff {s t : String} {k : Int} : compareReleaseSemver s t = .ok k ↔
    ∃ v w, parseReleaseSemver s = some v ∧ parseReleaseSemver t = some w ∧
      k = signOf v.rank w.rank := by
  constructor
  · intro h
    unfold compareReleaseSemver at h
    split at h
    · rename_i v w hs ht
      exact ⟨v, w, hs, ht, by rw [← Except.ok.inj h, compareReleases_eq]⟩
    · cases h
  · rintro ⟨v, w, hs, ht, rfl⟩
    exact compare_ok hs ht

theorem notAbove_trans {s t u : String} (hst : NotAbove s t) (htu : NotAbove t u) :
    NotAbove s u := by
  obtain ⟨k, hk, hst⟩ := hst
  obtain ⟨l, hl, htu⟩ := htu
  obtain ⟨v, w, hs, ht, rfl⟩ := compare_ok_iff.mp hst
  obtain ⟨w', x, ht', hu, rfl⟩ := compare_ok_iff.mp htu
  obtain rfl := Option.some.inj (ht.symm.trans ht')
  refine ⟨_, ?_, compare_ok hs hu⟩
  exact signOf_nonpos.mpr ((signOf_nonpos.mp hk).trans (signOf_nonpos.mp hl))

/-- The precedence about a version is met if and only if its numbers keep their doubles. -/
theorem agrees_iff {s : String} {v : SemVer} (hs : Denotes s v) :
    (∀ t w, Denotes t w → compareReleaseSemver s t = .ok (v.precedence w)) ↔
      ∀ n ∈ v.numbers, Alone n := by
  constructor
  · intro h n hn m hm
    by_contra hne
    obtain ⟨w, hsame, hdiffers⟩ := exists_collision hn hm hne
    have hcompare := h _ w (denotes_text w)
    rw [compare_ok (parse_denotes hs) (parse_denotes (denotes_text w)), hsame, signOf_self]
      at hcompare
    have hzero := Except.ok.inj hcompare
    exact hdiffers (ReleaseSemver.rank_injective (signOf_eq_zero.mp hzero.symm)).symm
  · intro h t w ht
    rw [compare_ok (parse_denotes hs) (parse_denotes ht), ← compareReleases_eq,
      compare_faithful h w]

/-- **Release ordering**: what `compareReleaseSemver` accepts it orders by a total preorder, and
about a version of SemVer 2.0 it agrees with the precedence exactly when each number of the version
is below 2^53, or even and no multiple of four below 2^54. -/
theorem release_ordering (s : String) :
    (isReleaseSemver s = true → compareReleaseSemver s s = .ok 0) ∧
    (∀ t, isReleaseSemver s = true → isReleaseSemver t = true →
      ∃ k, compareReleaseSemver s t = .ok k ∧ compareReleaseSemver t s = .ok (-k)) ∧
    (∀ t u, NotAbove s t → NotAbove t u → NotAbove s u) ∧
    ∀ v, Denotes s v →
      ((∀ t w, Denotes t w → compareReleaseSemver s t = .ok (v.precedence w)) ↔
        ∀ n ∈ v.numbers, n < 2 ^ 53 ∨ n < 2 ^ 54 ∧ n % 4 = 2) := by
  refine ⟨fun hs => ?_, fun t hs ht => ?_, fun _ _ => notAbove_trans, fun v hs => ?_⟩
  · obtain ⟨v, hv⟩ := Option.isSome_iff_exists.mp hs
    rw [compare_ok hv hv, signOf_self]
  · obtain ⟨v, hv⟩ := Option.isSome_iff_exists.mp hs
    obtain ⟨w, hw⟩ := Option.isSome_iff_exists.mp ht
    exact ⟨_, compare_ok hv hw, by rw [compare_ok hw hv, signOf_swap]⟩
  · rw [agrees_iff hs]
    exact forall₂_congr fun n _ => alone_iff

/-- **Two versions, one above the other, that compare as equal.** -/
theorem large_versions_equal : ∃ s t v w, Denotes s v ∧ Denotes t w ∧ v.precedence w = -1 ∧
    compareReleaseSemver s t = .ok 0 := by
  refine ⟨_, _, ⟨9007199254740992, 0, 0, [], []⟩, ⟨9007199254740993, 0, 0, [], []⟩,
    denotes_text _, denotes_text _, ?_, ?_⟩
  · refine signOf_of_lt ?_
    simp only [SemVer.release, ReleaseSemver.rank, Prod.Lex.toLex_lt_toLex]
    exact .inl (by decide)
  · rw [compare_ok (parse_denotes (denotes_text _)) (parse_denotes (denotes_text _))]
    have hsame : toNumber 9007199254740993 = toNumber 9007199254740992 := by decide
    simp only [SemVer.release, hsame, signOf_self]

end Meowbox.Semver
