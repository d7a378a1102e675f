import Mathlib.Algebra.Group.Int.Defs
import Mathlib.Algebra.Group.Nat.Defs
import Mathlib.Data.Int.Basic
import Mathlib.Data.List.Basic

/-!
# Dates as JavaScript writes them

An instant is a number of milliseconds since the epoch, negative before it. `toISOString` is
`Date.prototype.toISOString`; `parseIso` reads the texts it writes. A text that is no such text has
no reading here: a caller that compares `new Date(Date.parse(raw)).toISOString()` with `raw`
refuses it whatever `Date.parse` makes of it.

* `parseIso_toISOString`: every instant is read back from its text.
-/

namespace JsData

/-- The instants a `Date` can hold: 100 000 000 days on either side of the epoch. -/
def isInstant (t : Int) : Bool :=
  decide (-8640000000000000 ≤ t) && decide (t ≤ 8640000000000000)

/-- Days from the epoch to a day of the proleptic Gregorian calendar. Years are counted from March,
so that a leap day is the last of its year. -/
def daysFromCivil (year month day : Int) : Int :=
  let y := if month ≤ 2 then year - 1 else year
  let era := y / 400
  let yearOfEra := y % 400
  let dayOfYear := (153 * (if 2 < month then month - 3 else month + 9) + 2) / 5 + day - 1
  era * 146097 + (yearOfEra * 365 + yearOfEra / 4 - yearOfEra / 100 + dayOfYear) - 719468

/-- The year, month and day of a number of days since the epoch. -/
def civilFromDays (days : Int) : Int × Int × Int :=
  let z := days + 719468
  let era := z / 146097
  let dayOfEra := z % 146097
  let yearOfEra := (dayOfEra - dayOfEra / 1460 + dayOfEra / 36524 - dayOfEra / 146096) / 365
  let dayOfYear := dayOfEra - (365 * yearOfEra + yearOfEra / 4 - yearOfEra / 100)
  let monthFromMarch := (5 * dayOfYear + 2) / 153
  let month := if monthFromMarch < 10 then monthFromMarch + 3 else monthFromMarch - 9
  let year := yearOfEra + era * 400
  (if month ≤ 2 then year + 1 else year, month, dayOfYear - (153 * monthFromMarch + 2) / 5 + 1)

/-- The last `width` decimal digits of a number. -/
def padded (width : Nat) (n : Int) : List Char :=
  (List.range width).reverse.map fun i => Nat.digitChar (n.toNat / 10 ^ i % 10)

/-- A year: four digits, or a sign and six digits. -/
def isoYear (year : Int) : List Char :=
  if year < 0 then '-' :: padded 6 (-year)
  else if year ≤ 9999 then padded 4 year
  else '+' :: padded 6 year

/-- `toISOString`. -/
def toISOString (t : Int) : String :=
  let civil := civilFromDays (t / 86400000)
  let ms := t % 86400000
  String.ofList (isoYear civil.1 ++ '-' :: padded 2 civil.2.1 ++ '-' :: padded 2 civil.2.2 ++
    'T' :: padded 2 (ms / 3600000) ++ ':' :: padded 2 (ms / 60000 % 60) ++
    ':' :: padded 2 (ms / 1000 % 60) ++ '.' :: padded 3 (ms % 1000) ++ ['Z'])

/-- The number some decimal digits stand for. -/
def digits? (cs : List Char) : Option Int :=
  if cs ≠ [] ∧ cs.all Char.isDigit then some (Nat.ofDigitChars 10 cs 0) else none

/-- The year in front, and the rest of the text. -/
def parseYear : List Char → Option (Int × List Char)
  | '-' :: cs => (digits? (cs.take 6)).map fun y => (-y, cs.drop 6)
  | '+' :: cs => (digits? (cs.take 6)).map fun y => (y, cs.drop 6)
  | cs => (digits? (cs.take 4)).map fun y => (y, cs.drop 4)

/-- The number of `width` digits behind a separator, and the rest of the text. -/
def parsePart (separator : Char) (width : Nat) : List Char → Option (Int × List Char)
  | c :: cs =>
    if c = separator then (digits? (cs.take width)).map fun n => (n, cs.drop width) else none
  | [] => none

/-- The instant of a text `toISOString` writes. -/
def parseIso (raw : String) : Option Int := do
  let (year, cs) ← parseYear raw.toList
  let (month, cs) ← parsePart '-' 2 cs
  let (day, cs) ← parsePart '-' 2 cs
  let (hours, cs) ← parsePart 'T' 2 cs
  let (minutes, cs) ← parsePart ':' 2 cs
  let (seconds, cs) ← parsePart ':' 2 cs
  let (milliseconds, _) ← parsePart '.' 3 cs
  let t := daysFromCivil year month day * 86400000 + hours * 3600000 + minutes * 60000 +
    seconds * 1000 + milliseconds
  if isInstant t && toISOString t == raw then some t else none

/-! ## What is written is read back -/

variable (width : Nat)

theorem padded_succ (n : Int) :
    padded (width + 1) n = Nat.digitChar (n.toNat / 10 ^ width % 10) :: padded width n := by
  simp only [padded, List.range_succ, List.reverse_append, List.reverse_cons, List.reverse_nil,
    List.nil_append, List.singleton_append, List.map_cons]

theorem padded_length (n : Int) : (padded width n).length = width := by
  simp [padded]

theorem padded_isDigit (n : Int) : (padded width n).all Char.isDigit = true := by
  induction width with
  | zero => rfl
  | succ width ih =>
    rw [padded_succ, List.all_cons, ih, Bool.and_true, Nat.isDigit_digitChar, decide_eq_true_eq]
    exact Nat.mod_lt _ (by decide)

theorem ofDigitChars_padded (n : Int) :
    Nat.ofDigitChars 10 (padded width n) 0 = n.toNat % 10 ^ width := by
  induction width with
  | zero => simp [padded, Nat.mod_one]
  | succ width ih =>
    rw [padded_succ, Nat.ofDigitChars_cons_digitChar_of_lt_ten (Nat.mod_lt _ (by decide)),
      Nat.ofDigitChars_eq_ofDigitChars_zero, padded_length, ih, Nat.mul_zero, Nat.zero_add,
      Nat.pow_succ, Nat.mod_mul]
    exact Nat.add_comm _ _

theorem digits?_padded {width : Nat} (hwidth : 0 < width) {n : Int} (h0 : 0 ≤ n)
    (hn : n < 10 ^ width) : digits? (padded width n) = some n := by
  have hne : padded width n ≠ [] := by
    intro hnil
    have hlen := padded_length width n
    rw [hnil] at hlen
    exact absurd hlen.symm (by simp; omega)
  have hfits : n.toNat < 10 ^ width := by
    have : ((10 ^ width : Nat) : Int) = 10 ^ width := by simp
    omega
  rw [digits?, if_pos ⟨hne, padded_isDigit width n⟩, ofDigitChars_padded,
    Nat.mod_eq_of_lt hfits, Int.toNat_of_nonneg h0]

theorem take_padded (n : Int) (cs : List Char) :
    (padded width n ++ cs).take width = padded width n ∧
      (padded width n ++ cs).drop width = cs := by
  constructor
  · exact List.take_left' (padded_length width n)
  · exact List.drop_left' (padded_length width n)

theorem parsePart_padded (separator : Char) {width : Nat} (hwidth : 0 < width) {n : Int}
    (h0 : 0 ≤ n) (hn : n < 10 ^ width) (cs : List Char) :
    parsePart separator width (separator :: (padded width n ++ cs)) = some (n, cs) := by
  obtain ⟨htake, hdrop⟩ := take_padded width n cs
  rw [parsePart, if_pos rfl, htake, hdrop, digits?_padded hwidth h0 hn, Option.map_some]

theorem parseYear_isoYear {year : Int} (hlo : -1000000 < year) (hhi : year < 1000000)
    (cs : List Char) : parseYear (isoYear year ++ cs) = some (year, cs) := by
  unfold isoYear
  split
  · obtain ⟨htake, hdrop⟩ := take_padded 6 (-year) cs
    rw [List.cons_append, parseYear, htake, hdrop,
      digits?_padded (by decide) (by omega) (by omega), Option.map_some, Int.neg_neg]
  · split
    · obtain ⟨htake, hdrop⟩ := take_padded 4 year cs
      have hdig : digits? (padded 4 year) = some year :=
        digits?_padded (by decide) (by omega) (by omega)
      unfold parseYear
      split
      · rename_i heq
        rw [padded_succ, List.cons_append] at heq
        exact absurd (List.cons.inj heq).1 (Nat.digitChar_ne _ (by decide))
      · rename_i heq
        rw [padded_succ, List.cons_append] at heq
        exact absurd (List.cons.inj heq).1 (Nat.digitChar_ne _ (by decide))
      · rw [htake, hdrop, hdig, Option.map_some]
    · obtain ⟨htake, hdrop⟩ := take_padded 6 year cs
      rw [List.cons_append, parseYear, htake, hdrop,
        digits?_padded (by decide) (by omega) (by omega), Option.map_some]

/-- Where a year counted within its era begins. -/
theorem yearOfEra_bounds {d : Int} (h0 : 0 ≤ d) (h1 : d ≤ 146096) {y : Int}
    (hy : y = (d - d / 1460 + d / 36524 - d / 146096) / 365) :
    0 ≤ y ∧ y ≤ 399 ∧ 365 * y + y / 4 - y / 100 ≤ d ∧ d ≤ 365 * y + y / 4 - y / 100 + 365 := by
  rcases Int.lt_or_eq_of_le h1 with hlt | rfl
  · have hlast : d / 146096 = 0 := by omega
    obtain ⟨q, hq⟩ : ∃ q, q = d / 1460 := ⟨_, rfl⟩
    obtain ⟨k, hk⟩ : ∃ k, k = d / 36524 := ⟨_, rfl⟩
    rw [hlast, ← hq, ← hk] at hy
    -- leap days and centuries that have passed
    have hkq : 25 * k ≤ q ∧ q ≤ 25 * k + 25 := by omega
    have hk3 : 0 ≤ k ∧ k ≤ 3 := by omega
    have hcentury : y / 100 = k := by omega
    obtain ⟨e, he⟩ : ∃ e, e = y / 4 := ⟨_, rfl⟩
    have he0 : 0 ≤ e ∧ e ≤ 99 := by omega
    rw [hcentury, ← he]
    refine ⟨by omega, by omega, by omega, by omega⟩
  · subst hy
    decide

/-- The month and day of a day of the year counted from March, and back. -/
theorem monthDay_bounds {day : Int} (h0 : 0 ≤ day) (h1 : day ≤ 365) {m : Int}
    (hm : m = (5 * day + 2) / 153) :
    0 ≤ m ∧ m ≤ 11 ∧ 1 ≤ day - (153 * m + 2) / 5 + 1 ∧ day - (153 * m + 2) / 5 + 1 ≤ 31 := by
  omega

/-- **The calendar**: the day a date names is the one it was written for, and the date has a month,
a day, and, within the instants, a year of six digits. -/
theorem daysFromCivil_civilFromDays (days : Int) :
    daysFromCivil (civilFromDays days).1 (civilFromDays days).2.1 (civilFromDays days).2.2 = days ∧
      (1 ≤ (civilFromDays days).2.1 ∧ (civilFromDays days).2.1 ≤ 12) ∧
      (1 ≤ (civilFromDays days).2.2 ∧ (civilFromDays days).2.2 ≤ 31) ∧
      (-100000000 ≤ days → days ≤ 100000000 →
        -1000000 < (civilFromDays days).1 ∧ (civilFromDays days).1 < 1000000) := by
  obtain ⟨era, hera⟩ : ∃ era, era = (days + 719468) / 146097 := ⟨_, rfl⟩
  obtain ⟨d, hd⟩ : ∃ d, d = (days + 719468) % 146097 := ⟨_, rfl⟩
  obtain ⟨y, hy⟩ : ∃ y, y = (d - d / 1460 + d / 36524 - d / 146096) / 365 := ⟨_, rfl⟩
  obtain ⟨hy0, hy1, hfirst, hlast⟩ := yearOfEra_bounds (by omega) (by omega) hy
  obtain ⟨day, hday⟩ : ∃ day, day = d - (365 * y + y / 4 - y / 100) := ⟨_, rfl⟩
  obtain ⟨m, hm⟩ : ∃ m, m = (5 * day + 2) / 153 := ⟨_, rfl⟩
  obtain ⟨hm0, hm1, hday0, hday1⟩ := monthDay_bounds (by omega) (by omega) hm
  simp only [civilFromDays, ← hera, ← hd, ← hy, ← hday, ← hm, daysFromCivil]
  by_cases hspring : m < 10
  · have hmarch : ¬ m + 3 ≤ 2 := by omega
    have haft : 2 < m + 3 := by omega
    simp only [hspring, hmarch, haft, if_true, if_false]
    have hyear : (y + era * 400) / 400 = era ∧ (y + era * 400) % 400 = y := by omega
    rw [hyear.1, hyear.2, Int.add_sub_cancel]
    refine ⟨by omega, by omega, by omega, by omega⟩
  · have hjanuary : m - 9 ≤ 2 := by omega
    have haft : ¬ 2 < m - 9 := by omega
    simp only [hspring, hjanuary, haft, if_true, if_false]
    have hyear : (y + era * 400 + 1 - 1) / 400 = era ∧ (y + era * 400 + 1 - 1) % 400 = y := by
      omega
    rw [hyear.1, hyear.2, Int.sub_add_cancel]
    refine ⟨by omega, by omega, by omega, by omega⟩

/-- **An instant is read back from its text.** -/
theorem parseIso_toISOString {t : Int} (ht : isInstant t = true) :
    parseIso (toISOString t) = some t := by
  obtain ⟨hdays, hmonth, hday, hyear⟩ := daysFromCivil_civilFromDays (t / 86400000)
  have hrange : -8640000000000000 ≤ t ∧ t ≤ 8640000000000000 := by
    simpa [isInstant] using ht
  obtain ⟨hyear0, hyear1⟩ := hyear (by omega) (by omega)
  obtain ⟨days, hdef⟩ : ∃ days, days = t / 86400000 := ⟨_, rfl⟩
  obtain ⟨ms, hms⟩ : ∃ ms, ms = t % 86400000 := ⟨_, rfl⟩
  have hms0 : 0 ≤ ms ∧ ms < 86400000 := by omega
  rw [← hdef] at hdays hmonth hday hyear0 hyear1
  have hchs : (toISOString t).toList = isoYear (civilFromDays days).1 ++
      '-' :: (padded 2 (civilFromDays days).2.1 ++ '-' :: (padded 2 (civilFromDays days).2.2 ++
        'T' :: (padded 2 (ms / 3600000) ++ ':' :: (padded 2 (ms / 60000 % 60) ++
          ':' :: (padded 2 (ms / 1000 % 60) ++ '.' :: (padded 3 (ms % 1000) ++ ['Z'])))))) := by
    simp only [toISOString, ← hdef, ← hms, String.toList_ofList, List.append_assoc,
      List.cons_append]
  unfold parseIso
  rw [hchs, parseYear_isoYear hyear0 hyear1]
  simp only [Option.bind_eq_bind, Option.bind_some]
  rw [parsePart_padded '-' (by decide) (by omega) (by omega)]
  simp only [Option.bind_some]
  rw [parsePart_padded '-' (by decide) (by omega) (by omega)]
  simp only [Option.bind_some]
  rw [parsePart_padded 'T' (by decide) (by omega) (by omega)]
  simp only [Option.bind_some]
  rw [parsePart_padded ':' (by decide) (by omega) (by omega)]
  simp only [Option.bind_some]
  rw [parsePart_padded ':' (by decide) (by omega) (by omega)]
  simp only [Option.bind_some]
  rw [parsePart_padded '.' (by decide) (by omega) (by omega)]
  simp only [Option.bind_some]
  have hback : daysFromCivil (civilFromDays days).1 (civilFromDays days).2.1
      (civilFromDays days).2.2 * 86400000 + ms / 3600000 * 3600000 + ms / 60000 % 60 * 60000 +
        ms / 1000 % 60 * 1000 + ms % 1000 = t := by
    rw [hdays]
    omega
  rw [hback, ht, if_pos (by simp)]

/-- A year has at most seven characters. -/
theorem isoYear_length (year : Int) : (isoYear year).length ≤ 7 := by
  unfold isoYear
  split
  · simp [padded_length]
  · split
    · simp [padded_length]
    · simp [padded_length]

theorem toISOString_length (t : Int) :
    1 ≤ (toISOString t).toList.length ∧ (toISOString t).toList.length ≤ 27 := by
  have hyear := isoYear_length (civilFromDays (t / 86400000)).1
  simp only [toISOString, String.toList_ofList, List.length_append, List.length_cons,
    List.length_nil, padded_length]
  omega

example : toISOString 951782399999 = "2000-02-28T23:59:59.999Z" := by decide

example : parseIso "2000-02-29T00:00:00.000Z" = some 951782400000 := by decide

example : parseIso "2001-02-29T00:00:00.000Z" = none := by decide

end JsData
