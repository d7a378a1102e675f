import Meowbox.Lib.JsNumber
import Meowbox.Transfers.Artifacts

/-!
# The ranges of a download

Model of `parseSingleRange` and `download` of `api/src/transfers/transfer-artifact.service.ts`,
behind `requireArtifact`: the file has the length of its session. Above it stand the single byte
ranges of the HTTP specification: how they are written, and which bytes of a file they select.

* **`range_parsing`**: a range is served exactly when it is written in one of the three forms, its
  numbers are safe integers and it selects a byte, and then it is the one that is served.
-/

namespace Meowbox.Transfers

open JsData

/-! ## Byte ranges -/

/-- `ByteRange`; `last` is the source's `end`. -/
structure ByteRange where
  start : Nat
  last : Nat
deriving DecidableEq

/-- A single byte range: from a position, up to another if it is named, or so many last bytes. -/
inductive ByteRangeSpec
  | from_ (first : Nat) (last : Option Nat)
  | suffix (length : Nat)
deriving DecidableEq

/-- The digits of a number. -/
structure Decimal (digits : List Char) (n : Nat) : Prop where
  ne : digits ≠ []
  digit : digits.all isDigitAscii = true
  value : Nat.ofDigitChars 10 digits 0 = n

/-- How a single byte range is written. -/
inductive Written : String → ByteRangeSpec → Prop
  | range {first last : List Char} {n m : Nat} : Decimal first n → Decimal last m →
      Written (String.ofList ("bytes=".toList ++ first ++ '-' :: last)) (.from_ n (some m))
  | rest {first : List Char} {n : Nat} : Decimal first n →
      Written (String.ofList ("bytes=".toList ++ first ++ ['-'])) (.from_ n none)
  | suffix {last : List Char} {n : Nat} : Decimal last n →
      Written (String.ofList ("bytes=".toList ++ '-' :: last)) (.suffix n)

/-- The bytes a range selects of so many, if it selects one. -/
def ByteRangeSpec.select (length : Nat) : ByteRangeSpec → Option ByteRange
  | .from_ first none => if first < length then some ⟨first, length - 1⟩ else none
  | .from_ first (some last) =>
    if first ≤ last ∧ first < length then some ⟨first, min last (length - 1)⟩ else none
  | .suffix n => if 0 < n ∧ 0 < length then some ⟨length - n, length - 1⟩ else none

/-- The numbers of a range are safe integers. -/
def ByteRangeSpec.Safe : ByteRangeSpec → Prop
  | .from_ first last => isSafeInteger first = true ∧ ∀ m ∈ last, isSafeInteger m = true
  | .suffix n => isSafeInteger n = true

/-- What is selected lies inside. -/
theorem ByteRangeSpec.select_inside {spec : ByteRangeSpec} {length : Nat} {range : ByteRange}
    (h : spec.select length = some range) : range.start ≤ range.last ∧ range.last < length := by
  unfold select at h
  split at h
  · split at h
    · obtain rfl := Option.some.inj h
      dsimp only
      omega
    · exact absurd h (by simp)
  · split at h
    · obtain rfl := Option.some.inj h
      dsimp only
      omega
    · exact absurd h (by simp)
  · split at h
    · obtain rfl := Option.some.inj h
      dsimp only
      omega
    · exact absurd h (by simp)

/-! ## `parseSingleRange` -/

/-- `HttpException`. -/
structure HttpException where
  message : String
  status : Nat
deriving DecidableEq

/-- `HttpStatus.REQUESTED_RANGE_NOT_SATISFIABLE`. -/
def REQUESTED_RANGE_NOT_SATISFIABLE : Nat := 416

def invalidRange : HttpException :=
  ⟨"Invalid or multiple Range header", REQUESTED_RANGE_NOT_SATISFIABLE⟩

def unsatisfiable : HttpException :=
  ⟨"Range is not satisfiable", REQUESTED_RANGE_NOT_SATISFIABLE⟩

/-- What `/^bytes=[^,]+$/` finds behind the unit. -/
def singleRange? (header : String) : Option (List Char) :=
  ("bytes=".toList.isPrefixOf? header.toList).filter fun spec =>
    !spec.isEmpty && !spec.contains ','

/-- What `/^bytes=(\d*)-(\d*)$/` finds behind the unit. -/
def splitRange (spec : List Char) : Option (List Char × List Char) :=
  match spec.dropWhile isDigitAscii with
  | '-' :: last =>
    if last.all isDigitAscii then some (spec.takeWhile isDigitAscii, last) else none
  | _ => none

/-- `Number(digits)`. -/
def numberOf (digits : List Char) : Nat := toNumber (Nat.ofDigitChars 10 digits 0)

def parseSingleRange (header : String) (length : Nat) : Except HttpException ByteRange :=
  if !isSafeInteger length then .error invalidRange
  else
    match singleRange? header with
    | none => .error invalidRange
    | some spec =>
      match splitRange spec with
      | none => .error unsatisfiable
      | some (first, last) =>
        if (first.isEmpty && last.isEmpty) || length == 0 then .error unsatisfiable
        else if first.isEmpty then
          let suffix := numberOf last
          if !isSafeInteger suffix || suffix == 0 then .error unsatisfiable
          else .ok ⟨length - suffix, length - 1⟩
        else
          let start := numberOf first
          let end_ := if last.isEmpty then length - 1 else numberOf last
          if !isSafeInteger start || !isSafeInteger end_ || decide (end_ < start) ||
              decide (length ≤ start) then
            .error unsatisfiable
          else .ok ⟨start, min end_ (length - 1)⟩

/-! ## `download` -/

/-- What is answered to a download: the status, the headers that depend on the range, and the
bytes. -/
structure FileResponse where
  statusCode : Nat
  contentRange : Option String
  contentLength : Option Nat
  body : Content
deriving DecidableEq

/-- `etag`. -/
def etag (checksum : String) : String := "\"sha256-" ++ checksum ++ "\""

/-- `createReadStream(file, { start, end })`. -/
def readRange (file : Content) (range : ByteRange) : Content :=
  (file.take (range.last + 1)).drop range.start

/-- `if (rangeHeader && (!ifRangeHeader || ifRangeHeader.trim() === etag))`. -/
def effectiveHeader (sha256 : String) (rangeHeader ifRangeHeader : Option String) : Option String :=
  (truthy rangeHeader).filter fun _ =>
    (truthy ifRangeHeader).all fun condition => trim condition == etag sha256

/-- `download`, of the file that `requireArtifact` has found. -/
def download (file : Content) (sha256 : String) (rangeHeader ifRangeHeader : Option String) :
    FileResponse :=
  let length := toNumber file.length
  match effectiveHeader sha256 rangeHeader ifRangeHeader with
  | none => ⟨200, none, some length, file⟩
  | some header =>
    match parseSingleRange (trim header) length with
    | .error e => ⟨e.status, some ("bytes */" ++ toString length), none, []⟩
    | .ok range =>
      ⟨206,
        some ("bytes " ++ toString range.start ++ "-" ++ toString range.last ++ "/" ++
          toString length),
        some (range.last - range.start + 1), readRange file range⟩

/-! ## How a range is read -/

section Reading

variable {spec first last : List Char} {n length : Nat} {header : String} {range : ByteRange}

/-- **The numbers of a range are found in one way.** -/
theorem splitRange_eq : splitRange spec = some (first, last) ↔
    spec = first ++ '-' :: last ∧ first.all isDigitAscii = true ∧ last.all isDigitAscii = true := by
  have hdash : isDigitAscii '-' = false := by decide
  constructor
  · intro h
    unfold splitRange at h
    split at h
    · rename_i rest hrest
      split at h
      · rename_i hlast
        obtain ⟨rfl, rfl⟩ := Prod.mk.inj (Option.some.inj h)
        refine ⟨?_, List.all_takeWhile, hlast⟩
        rw [← hrest, List.takeWhile_append_dropWhile]
      · exact absurd h (by simp)
    · exact absurd h (by simp)
  · rintro ⟨rfl, hfirst, hlast⟩
    have hdrop : (first ++ '-' :: last).dropWhile isDigitAscii = '-' :: last := by
      rw [List.dropWhile_append_of_pos (List.all_eq_true.mp hfirst),
        List.dropWhile_cons_of_neg (by simp [hdash])]
    have htake : (first ++ '-' :: last).takeWhile isDigitAscii = first := by
      rw [List.takeWhile_append_of_pos (List.all_eq_true.mp hfirst),
        List.takeWhile_cons_of_neg (by simp [hdash]), List.append_nil]
    simp only [splitRange, hdrop, htake, hlast, if_true]

theorem singleRange?_eq : singleRange? header = some spec ↔
    header.toList = "bytes=".toList ++ spec ∧ spec ≠ [] ∧ ',' ∉ spec := by
  unfold singleRange?
  rw [Option.filter_eq_some_iff, List.isPrefixOf?_eq_some_iff_append_eq]
  refine and_congr eq_comm ?_
  rw [Bool.and_eq_true, Bool.not_eq_true', List.isEmpty_eq_false_iff, Bool.not_eq_true',
    List.contains_eq_mem, decide_eq_false_iff_not]

/-- Digits and the dash between them are no list of ranges. -/
theorem comma_notMem (hfirst : first.all isDigitAscii = true)
    (hlast : last.all isDigitAscii = true) : ',' ∉ first ++ '-' :: last := by
  have hdig : ∀ {digits : List Char}, digits.all isDigitAscii = true → ',' ∉ digits :=
    fun h hmem => absurd (List.all_eq_true.mp h _ hmem) (by decide)
  rw [List.mem_append, List.mem_cons]
  rintro (h | h | h)
  · exact hdig hfirst h
  · exact absurd h (by decide)
  · exact hdig hlast h

/-- What the two patterns find in a header. -/
def Parts (header : String) (first last : List Char) : Prop :=
  header.toList = "bytes=".toList ++ first ++ '-' :: last ∧
    first.all isDigitAscii = true ∧ last.all isDigitAscii = true

/-- **The two patterns.** -/
theorem parts_iff : (∃ spec, singleRange? header = some spec ∧
    splitRange spec = some (first, last)) ↔ Parts header first last := by
  constructor
  · rintro ⟨spec, hspec, hspl⟩
    obtain ⟨rfl, hfirst, hlast⟩ := splitRange_eq.mp hspl
    refine ⟨?_, hfirst, hlast⟩
    rw [(singleRange?_eq.mp hspec).1, List.append_assoc]
  · rintro ⟨hhdr, hfirst, hlast⟩
    refine ⟨first ++ '-' :: last, singleRange?_eq.mpr ⟨?_, ?_, comma_notMem hfirst hlast⟩,
      splitRange_eq.mpr ⟨rfl, hfirst, hlast⟩⟩
    · rw [hhdr, List.append_assoc]
    · exact List.append_ne_nil_of_right_ne_nil _ (List.cons_ne_nil _ _)

/-- A header in one of the three forms has its parts. -/
theorem Written.parts {spec : ByteRangeSpec} (h : Written header spec) :
    ∃ first last, Parts header first last := by
  have hnil : ([] : List Char).all isDigitAscii = true := rfl
  cases h with
  | @range first last _ _ hfirst hlast =>
    exact ⟨first, last, String.toList_ofList, hfirst.digit, hlast.digit⟩
  | @rest first _ hfirst => exact ⟨first, [], String.toList_ofList, hfirst.digit, hnil⟩
  | @suffix last _ hlast =>
    refine ⟨[], last, ?_, hnil, hlast.digit⟩
    rw [String.toList_ofList, List.append_nil]

/-- The form a header with these parts is written in. -/
theorem Parts.written (h : Parts header first last) (spec : ByteRangeSpec) :
    Written header spec ↔
      (first ≠ [] ∧ last ≠ [] ∧
        spec = .from_ (Nat.ofDigitChars 10 first 0) (some (Nat.ofDigitChars 10 last 0))) ∨
      (first ≠ [] ∧ last = [] ∧ spec = .from_ (Nat.ofDigitChars 10 first 0) none) ∨
      (first = [] ∧ last ≠ [] ∧ spec = .suffix (Nat.ofDigitChars 10 last 0)) := by
  obtain ⟨hhdr, hfirst, hlast⟩ := h
  have hunique : ∀ {f l : List Char}, f.all isDigitAscii = true → l.all isDigitAscii = true →
      header.toList = "bytes=".toList ++ f ++ '-' :: l → f = first ∧ l = last := by
    intro f l hf hl heq
    have hsame : f ++ '-' :: l = first ++ '-' :: last := by
      rw [hhdr, List.append_assoc, List.append_assoc] at heq
      exact (List.append_cancel_left heq).symm
    have hone : splitRange (first ++ '-' :: last) = some (f, l) :=
      splitRange_eq.mpr ⟨hsame.symm, hf, hl⟩
    rw [splitRange_eq.mpr ⟨rfl, hfirst, hlast⟩] at hone
    obtain ⟨rfl, rfl⟩ := Prod.mk.inj (Option.some.inj hone)
    exact ⟨rfl, rfl⟩
  have hnil : ([] : List Char).all isDigitAscii = true := rfl
  constructor
  · intro hwr
    cases hwr with
    | range hf hl =>
      obtain ⟨rfl, rfl⟩ := hunique hf.digit hl.digit String.toList_ofList
      obtain ⟨hfne, -, rfl⟩ := hf
      obtain ⟨hlne, -, rfl⟩ := hl
      exact .inl ⟨hfne, hlne, rfl⟩
    | rest hf =>
      obtain ⟨rfl, rfl⟩ := hunique hf.digit hnil String.toList_ofList
      obtain ⟨hfne, -, rfl⟩ := hf
      exact .inr (.inl ⟨hfne, rfl, rfl⟩)
    | suffix hl =>
      obtain ⟨rfl, rfl⟩ := hunique hnil hl.digit (by
        rw [String.toList_ofList, List.append_nil])
      obtain ⟨hlne, -, rfl⟩ := hl
      exact .inr (.inr ⟨rfl, hlne, rfl⟩)
  · have htext : header = String.ofList ("bytes=".toList ++ first ++ '-' :: last) := by
      rw [← hhdr, String.ofList_toList]
    rintro (⟨hf, hl, rfl⟩ | ⟨hf, rfl, rfl⟩ | ⟨rfl, hl, rfl⟩)
    · rw [htext]
      exact .range ⟨hf, hfirst, rfl⟩ ⟨hl, hlast, rfl⟩
    · rw [htext]
      exact .rest ⟨hf, hfirst, rfl⟩
    · rw [htext, List.append_nil]
      exact .suffix ⟨hl, hlast, rfl⟩

/-! ## What `parseSingleRange` returns -/

/-- The texts of a refusal. -/
def Refused (header : String) (length : Nat) : Prop :=
  parseSingleRange header length = .error invalidRange ∨
    parseSingleRange header length = .error unsatisfiable

/-- A header without the parts of a range is refused. -/
theorem refused_of_no_parts (length : Nat) (h : ∀ first last, ¬ Parts header first last) :
    Refused header length := by
  unfold Refused parseSingleRange
  split
  · exact .inl rfl
  · cases hspec : singleRange? header with
    | none => exact .inl rfl
    | some spec =>
      cases hspl : splitRange spec with
      | none => exact .inr (by simp only [hspl])
      | some parts => exact absurd (parts_iff.mp ⟨spec, hspec, hspl⟩) (h parts.1 parts.2)

/-- `parseSingleRange`, once the header has been read. -/
theorem parse_parts (h : Parts header first last) (hlen : isSafeInteger length = true) :
    parseSingleRange header length =
      if (first.isEmpty && last.isEmpty) || length == 0 then .error unsatisfiable
      else if first.isEmpty then
        if !isSafeInteger (numberOf last) || numberOf last == 0 then .error unsatisfiable
        else .ok ⟨length - numberOf last, length - 1⟩
      else
        if !isSafeInteger (numberOf first) ||
            !isSafeInteger (if last.isEmpty then length - 1 else numberOf last) ||
            decide ((if last.isEmpty then length - 1 else numberOf last) < numberOf first) ||
            decide (length ≤ numberOf first) then
          .error unsatisfiable
        else .ok ⟨numberOf first, min (if last.isEmpty then length - 1 else numberOf last)
          (length - 1)⟩ := by
  obtain ⟨spec, hspec, hspl⟩ := parts_iff.mpr h
  unfold parseSingleRange
  simp only [hlen, hspec, hspl, Bool.not_true, Bool.false_eq_true,
    if_false]

/-- The digits of a safe integer denote it, and no others denote one. -/
theorem numberOf_safe {digits : List Char}
    (h : isSafeInteger (Nat.ofDigitChars 10 digits 0) = true) :
    numberOf digits = Nat.ofDigitChars 10 digits 0 := toNumber_of_lt (of_decide_eq_true h)

theorem isSafeInteger_numberOf (digits : List Char) :
    isSafeInteger (numberOf digits) = isSafeInteger (Nat.ofDigitChars 10 digits 0) := by
  unfold isSafeInteger numberOf
  rw [decide_eq_decide]
  exact toNumber_lt_iff

/-- **A range from one position to another.** -/
theorem parse_range (h : Parts header first last) (hlen : isSafeInteger length = true)
    (hf : first ≠ []) (hl : last ≠ []) : parseSingleRange header length = .ok range ↔
      (ByteRangeSpec.from_ (Nat.ofDigitChars 10 first 0)
        (some (Nat.ofDigitChars 10 last 0))).Safe ∧
      (ByteRangeSpec.from_ (Nat.ofDigitChars 10 first 0)
        (some (Nat.ofDigitChars 10 last 0))).select length = some range := by
  have hfe : first.isEmpty = false := List.isEmpty_eq_false_iff.mpr hf
  have hle : last.isEmpty = false := List.isEmpty_eq_false_iff.mpr hl
  rw [parse_parts h hlen]
  simp only [hfe, hle, Bool.false_and, Bool.false_or, Bool.false_eq_true, if_false,
    isSafeInteger_numberOf]
  unfold ByteRangeSpec.Safe ByteRangeSpec.select
  by_cases hfs : isSafeInteger (Nat.ofDigitChars 10 first 0) = true
  · by_cases hls : isSafeInteger (Nat.ofDigitChars 10 last 0) = true
    · rw [numberOf_safe hfs, numberOf_safe hls]
      by_cases hsat : Nat.ofDigitChars 10 first 0 ≤ Nat.ofDigitChars 10 last 0 ∧
          Nat.ofDigitChars 10 first 0 < length
      · have hpos : (length == 0) = false := by
          rw [beq_eq_false_iff_ne]
          omega
        have hlt : ¬ Nat.ofDigitChars 10 last 0 < Nat.ofDigitChars 10 first 0 := by omega
        have hge : ¬ length ≤ Nat.ofDigitChars 10 first 0 := by omega
        simp [hpos, hfs, hls, hsat, hlt, hge]
      · have hno : Nat.ofDigitChars 10 last 0 < Nat.ofDigitChars 10 first 0 ∨
            length ≤ Nat.ofDigitChars 10 first 0 := by omega
        simp [hfs, hls, hsat, hno]
    · simp [hls]
  · simp [hfs]

/-- **A range from a position on.** -/
theorem parse_rest (h : Parts header first []) (hlen : isSafeInteger length = true)
    (hf : first ≠ []) : parseSingleRange header length = .ok range ↔
      (ByteRangeSpec.from_ (Nat.ofDigitChars 10 first 0) none).Safe ∧
      (ByteRangeSpec.from_ (Nat.ofDigitChars 10 first 0) none).select length = some range := by
  have hfe : first.isEmpty = false := List.isEmpty_eq_false_iff.mpr hf
  have hlast : isSafeInteger (length - 1) = true := by
    have hlt := of_decide_eq_true hlen
    exact decide_eq_true (by omega)
  rw [parse_parts h hlen]
  simp only [hfe, List.isEmpty_nil, Bool.false_and, Bool.false_or, Bool.false_eq_true, if_false,
    if_true, hlast, Nat.min_self, isSafeInteger_numberOf]
  unfold ByteRangeSpec.Safe ByteRangeSpec.select
  by_cases hfs : isSafeInteger (Nat.ofDigitChars 10 first 0) = true
  · rw [numberOf_safe hfs]
    by_cases hsat : Nat.ofDigitChars 10 first 0 < length
    · have hpos : (length == 0) = false := by
        rw [beq_eq_false_iff_ne]
        omega
      have hlt : ¬ length - 1 < Nat.ofDigitChars 10 first 0 := by omega
      have hge : ¬ length ≤ Nat.ofDigitChars 10 first 0 := by omega
      simp [hpos, hfs, hsat, hlt, hge]
    · simp [hfs, hsat, Nat.le_of_not_lt hsat]
  · simp [hfs]

/-- **So many last bytes.** -/
theorem parse_suffix (h : Parts header [] last) (hlen : isSafeInteger length = true)
    (hl : last ≠ []) : parseSingleRange header length = .ok range ↔
      (ByteRangeSpec.suffix (Nat.ofDigitChars 10 last 0)).Safe ∧
      (ByteRangeSpec.suffix (Nat.ofDigitChars 10 last 0)).select length = some range := by
  have hle : last.isEmpty = false := List.isEmpty_eq_false_iff.mpr hl
  rw [parse_parts h hlen]
  simp only [hle, List.isEmpty_nil, Bool.and_false, Bool.false_or, if_true,
    isSafeInteger_numberOf]
  unfold ByteRangeSpec.Safe ByteRangeSpec.select
  by_cases hls : isSafeInteger (Nat.ofDigitChars 10 last 0) = true
  · rw [numberOf_safe hls]
    by_cases hsat : 0 < Nat.ofDigitChars 10 last 0 ∧ 0 < length
    · have hpos : (length == 0) = false := by
        rw [beq_eq_false_iff_ne]
        omega
      have hzero : (Nat.ofDigitChars 10 last 0 == 0) = false := by
        rw [beq_eq_false_iff_ne]
        omega
      simp [hpos, hls, hsat, hzero]
    · by_cases hzero : length = 0
      · simp [hzero]
      · have hsuffix : Nat.ofDigitChars 10 last 0 = 0 := by omega
        simp [hsuffix]
  · simp [hls]

/-- **Which headers give a range.** -/
theorem parse_iff : parseSingleRange header length = .ok range ↔
    isSafeInteger length = true ∧ ∃ spec, Written header spec ∧ spec.Safe ∧
      spec.select length = some range := by
  by_cases hpts : ∃ first last, Parts header first last
  · obtain ⟨first, last, h⟩ := hpts
    by_cases hlen : isSafeInteger length = true
    · have hwr := h.written
      by_cases hf : first = []
      · subst hf
        by_cases hl : last = []
        · subst hl
          simp [parse_parts h hlen, hwr]
        · simp [parse_suffix h hlen hl, hwr, hl, hlen]
      · by_cases hl : last = []
        · subst hl
          simp [parse_rest h hlen hf, hwr, hf, hlen]
        · simp [parse_range h hlen hf hl, hwr, hf, hl, hlen]
    · simp [parseSingleRange, hlen]
  · have hno : ∀ first last, ¬ Parts header first last := fun first last h =>
      hpts ⟨first, last, h⟩
    constructor
    · intro hok
      rcases refused_of_no_parts length hno with herr | herr
      · rw [herr] at hok
        cases hok
      · rw [herr] at hok
        cases hok
    · rintro ⟨-, spec, hwr, -⟩
      obtain ⟨first, last, h⟩ := hwr.parts
      exact absurd h (hno first last)

/-- Whatever is not a range is refused. -/
theorem refused_or_ok (header : String) (length : Nat) :
    Refused header length ∨ ∃ range, parseSingleRange header length = .ok range := by
  unfold Refused
  cases hprs : parseSingleRange header length with
  | ok range => exact .inr ⟨range, rfl⟩
  | error e =>
    refine .inl ?_
    unfold parseSingleRange at hprs
    dsimp only at hprs
    split at hprs
    · exact .inl hprs.symm
    · split at hprs
      · exact .inl hprs.symm
      · split at hprs
        · exact .inr hprs.symm
        · repeat' split at hprs
          all_goals first | exact .inr hprs.symm | cases hprs

/-- A range that is written well and selects nothing is unsatisfiable. -/
theorem unsatisfiable_of_written {spec : ByteRangeSpec} (hwr : Written header spec)
    (hlen : isSafeInteger length = true) (hno : ∀ range, parseSingleRange header length ≠ .ok range) :
    parseSingleRange header length = .error unsatisfiable := by
  obtain ⟨first, last, h⟩ := hwr.parts
  have hprs := parse_parts h hlen
  rcases refused_or_ok header length with (herr | herr) | ⟨range, hok⟩
  · rw [herr] at hprs
    have hne : ∀ r : ByteRange, Except.error invalidRange ≠ Except.ok r := fun r hr => by cases hr
    have htext : invalidRange ≠ unsatisfiable := by decide
    repeat' split at hprs
    all_goals first | exact absurd (Except.error.inj hprs) htext | cases hprs
  · exact herr
  · exact absurd hok (hno range)

end Reading

/-! ## What is served -/

/-- Which answers there are to a download: the file, one of its ranges, or a refusal. -/
inductive Served (file : Content) (header : Option String) : FileResponse → Prop
  | whole : header = none →
      Served file header ⟨200, none, some (toNumber file.length), file⟩
  | range {text : String} {range : ByteRange} {contentRange : String} : header = some text →
      parseSingleRange (trim text) (toNumber file.length) = .ok range → range.start ≤ range.last →
      range.last < file.length →
      Served file header
        ⟨206, some contentRange, some (range.last - range.start + 1), readRange file range⟩
  | refused {text : String} {contentRange : String} : header = some text →
      Refused (trim text) (toNumber file.length) →
      Served file header ⟨416, some contentRange, none, []⟩

theorem download_served (file : Content) (sha256 : String) (rangeHeader ifRange : Option String) :
    Served file (effectiveHeader sha256 rangeHeader ifRange)
      (download file sha256 rangeHeader ifRange) := by
  unfold download
  dsimp only
  cases hhdr : effectiveHeader sha256 rangeHeader ifRange with
  | none => exact .whole rfl
  | some text =>
    rcases refused_or_ok (trim text) (toNumber file.length) with herr | ⟨range, hok⟩
    · rcases id herr with h | h
      · simp only [h]
        exact .refused rfl herr
      · simp only [h]
        exact .refused rfl herr
    · simp only [hok]
      obtain ⟨hlen, spec, -, -, hselect⟩ := parse_iff.mp hok
      obtain ⟨hle, hlt⟩ := spec.select_inside hselect
      rw [toNumber_of_lt (toNumber_lt_iff.mp (of_decide_eq_true hlen))] at hlt
      exact .range rfl hok hle hlt

/-- **Ranges**: a range is returned exactly for a header in one of the three forms, with numbers
that are safe integers, that selects a byte of a file of a safe length, and it is the range the
header selects. Everything else is refused, a header in one of the forms as unsatisfiable. A
download serves the whole file, the bytes of the range, or none. -/
theorem range_parsing (header : String) (length : Nat) :
    (∀ range, parseSingleRange header length = .ok range ↔
      isSafeInteger length = true ∧ ∃ spec, Written header spec ∧ spec.Safe ∧
        spec.select length = some range) ∧
    (∀ range, parseSingleRange header length = .ok range →
      range.start ≤ range.last ∧ range.last < length) ∧
    ((∀ range, parseSingleRange header length ≠ .ok range) →
      parseSingleRange header length = .error invalidRange ∨
        parseSingleRange header length = .error unsatisfiable) ∧
    (∀ spec, Written header spec → isSafeInteger length = true →
      (∀ range, parseSingleRange header length ≠ .ok range) →
      parseSingleRange header length = .error unsatisfiable) ∧
    ∀ file sha256 rangeHeader ifRange,
      Served file (effectiveHeader sha256 rangeHeader ifRange)
        (download file sha256 rangeHeader ifRange) := by
  refine ⟨fun range => parse_iff, ?_, ?_, ?_, download_served⟩
  · intro range hok
    obtain ⟨-, spec, -, -, hselect⟩ := parse_iff.mp hok
    exact spec.select_inside hselect
  · intro hno
    rcases refused_or_ok header length with herr | ⟨range, hok⟩
    · exact herr
    · exact absurd hok (hno range)
  · intro spec hwr hlen hno
    exact unsatisfiable_of_written hwr hlen hno

/-- **A range that ends beyond the safe integers is refused**, though it selects the whole file. -/
theorem large_range_refused : ¬ ∀ (header : String) (length : Nat) (range : ByteRange),
    parseSingleRange header length = .ok range ↔
      ∃ spec, Written header spec ∧ spec.select length = some range := by
  intro h
  have hfirst : Decimal "0".toList 0 := ⟨by decide, by decide, by decide⟩
  have hlast : Decimal "9007199254740992".toList 9007199254740992 :=
    ⟨by decide, by decide, by decide⟩
  have hserved := (h _ 10 ⟨0, 9⟩).mpr ⟨_, .range hfirst hlast, by decide⟩
  have hsafe := (parse_iff.mp hserved).2
  obtain ⟨spec, hwr, hspec, -⟩ := hsafe
  have hpts : Parts (String.ofList ("bytes=".toList ++ "0".toList ++
      '-' :: "9007199254740992".toList)) "0".toList "9007199254740992".toList :=
    ⟨String.toList_ofList, hfirst.digit, hlast.digit⟩
  rcases (hpts.written _).mp hwr with ⟨-, -, rfl⟩ | ⟨-, hl, -⟩ | ⟨hf, -⟩
  · exact absurd (hspec.2 _ rfl) (by decide)
  · exact absurd hl (by decide)
  · exact absurd hf (by decide)

end Meowbox.Transfers
