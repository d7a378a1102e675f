import Meowbox.Lib.JsValue
import Meowbox.Lib.Lines

/-!
# The address lists of blocked countries

Model of `refreshDatabase`, `ensureCountryDataset`, `downloadDataset` and `parseZoneBody` of
`agent/src/country-block/country-block.manager.ts`. What a request comes to is a parameter
(`Answers`), by the place of its source; files are written in full, and texts are lists of
characters.

A list is degraded by a body that has no line of an address, by a line that only looks like one
(`looksLike`), and by a failed request for IPv6: no other source is asked, and the list is emptied.
`lists_kept`: otherwise lists are kept or replaced by good ones.
-/

namespace Meowbox.CountryBlock

open JsData

inductive Family
  | v4
  | v6
deriving DecidableEq

inductive CountrySource
  | ipdeny
  | githubHerrbisch
deriving DecidableEq

/-- `urlsFor`. -/
def urlsFor (lcc : String) : CountrySource → Family → String
  | .ipdeny, .v4 =>
    "https://www.ipdeny.com/ipblocks/data/aggregated/" ++ lcc ++ "-aggregated.zone"
  | .ipdeny, .v6 =>
    "https://www.ipdeny.com/ipv6/ipaddresses/aggregated/" ++ lcc ++ "-aggregated.zone"
  | .githubHerrbisch, .v4 =>
    "https://raw.githubusercontent.com/herrbischoff/country-ip-blocks/master/ipv4/" ++ lcc ++ ".cidr"
  | .githubHerrbisch, .v6 =>
    "https://raw.githubusercontent.com/herrbischoff/country-ip-blocks/master/ipv6/" ++ lcc ++ ".cidr"

/-! ## Lines of a list -/

/-- `\d{1,most}`. -/
def digits (most : Nat) (s : List Char) : Bool :=
  s.all isDigitAscii && decide (s ≠ []) && decide (s.length ≤ most)

def isHex (c : Char) : Bool :=
  isDigitAscii c || isLowerAscii c && decide (c ≤ 'f') || isUpperAscii c && decide (c ≤ 'F')

/-- An address, and the length of a prefix behind a slash or nothing. -/
def network (address bits : List Char → Bool) (line : List Char) : Bool :=
  match line.splitOn '/' with
  | [a] => address a
  | [a, n] => address a && bits n
  | _ => false

def dotted (part : List Char → Bool) (a : List Char) : Bool :=
  decide ((a.splitOn '.').length = 4) && (a.splitOn '.').all part

/-- The expressions of `parseZoneBody`: `/^(\d{1,3}\.){3}\d{1,3}(\/\d{1,2})?$/` and
`/^[0-9a-fA-F:]+(\/\d{1,3})?$/`. -/
def looksLike : Family → List Char → Bool
  | .v4 => network (dotted (digits 3)) (digits 2)
  | .v6 => network (fun a => decide (a ≠ []) && a.all fun c => isHex c || c == ':') (digits 3)

def hextets (s : List Char) : List (List Char) := if s = [] then [] else s.splitOn ':'

/-- Eight groups of hexadecimal digits, or fewer around one `::`. -/
def isIpv6 (a : List Char) : Bool :=
  let group (s : List Char) : Bool := s.all isHex && decide (s ≠ []) && decide (s.length ≤ 4)
  (decide ((hextets a).length = 8) && (hextets a).all group) ||
    (List.range a.length).any fun i => decide ((a.drop i).take 2 = [':', ':']) &&
      let groups := hextets (a.take i) ++ hextets (a.drop (i + 2))
      decide (groups.length ≤ 7) && groups.all group

def upTo (most : Nat) (s : List Char) : Bool := decide (Nat.ofDigitChars 10 s 0 ≤ most)

/-- What a line of a list has to be. -/
def isCidr : Family → List Char → Bool
  | .v4 => network (dotted fun s => digits 3 s && upTo 255 s) fun s => digits 2 s && upTo 32 s
  | .v6 => network isIpv6 fun s => digits 3 s && upTo 128 s

/-- The lines of a body; a carriage return in front of a line feed goes with the blanks. -/
def bodyLines (body : List Char) : List (List Char) :=
  (Lines.lines body).map fun l => (trim (String.ofList l)).toList

/-- The lines that `parseZoneBody` takes. -/
def zoneLines (family : Family) (body : List Char) : List (List Char) :=
  (bodyLines body).filter fun line =>
    decide (line ≠ []) && decide (line.head? ≠ some '#') && looksLike family line

def parseZoneBody (family : Family) (body : List Char) : List Char :=
  Lines.unlines (zoneLines family body) ++ ['\n']

/-! ## Downloads -/

/-- What the request for a URL of the source at a place comes to. -/
abbrev Answers := Nat → String → Except String (List Char)

/-- The zone files, by the code of the country in capitals. -/
abbrev Zones := String → Family → Option (List Char)

def Zones.write (zones : Zones) (cc : String) (family : Family) (text : List Char) : Zones :=
  fun c f => if c = cc ∧ f = family then some text else zones c f

/-- The variables of the loop; `asked` records the requests. -/
structure Bodies where
  body : Family → Option (List Char)
  lastError : String
  asked : List (Nat × Family)

def Bodies.got (b : Bodies) (k : Nat) (family : Family) (text : List Char) : Bodies :=
  { b with
    body := fun f => if f = family then some text else b.body f
    asked := (k, family) :: b.asked }

/-- What the loop takes from an answer; of IPv4 it takes no errors. -/
def taken (family : Family) : Except String (List Char) → List Char
  | .ok body => parseZoneBody family body
  | .error _ => []

section Download

variable (answers : Answers) (zones : Zones) (cc : String) (sources : List CountrySource)
  (need : Family → Bool)

/-- The loop of `downloadDataset`, from the source at place `k` on. -/
def fetch : List CountrySource → Nat → Bodies → Bodies
  | [], _, b => b
  | src :: rest, k, b =>
    let get (family : Family) := answers k (urlsFor cc.toLower src family)
    match need .v4 && (b.body .v4).isNone, get .v4 with
    | true, .error e => fetch rest (k + 1) { b with lastError := e, asked := (k, .v4) :: b.asked }
    | asks, answer =>
      let b := if asks then b.got k .v4 (taken .v4 answer) else b
      let b := if need .v6 && (b.body .v6).isNone then b.got k .v6 (taken .v6 (get .v6)) else b
      if (!need .v4 || (b.body .v4).isSome) && (!need .v6 || (b.body .v6).isSome) then b
      else fetch rest (k + 1) b

structure Download where
  result : Except String Unit
  zones : Zones
  asked : List (Nat × Family)

/-- `downloadDataset`, from where it knows what it needs. -/
def downloadNeeded : Download :=
  if !need .v4 && !need .v6 then ⟨.ok (), zones, []⟩
  else
    let b := fetch answers cc need sources 0 ⟨fun _ => none, "", []⟩
    if need .v4 && (b.body .v4).isNone then
      ⟨.error ("Не удалось загрузить IPv4 базу страны " ++ cc ++ ": " ++ b.lastError), zones, b.asked⟩
    else
      let zones := if need .v4 then zones.write cc .v4 ((b.body .v4).getD []) else zones
      let zones := if need .v6 then zones.write cc .v6 ((b.body .v6).getD []) else zones
      ⟨.ok (), zones, b.asked⟩

/-- The lists that are downloaded. -/
def needs (force : Bool) (family : Family) : Bool := force || (zones cc family).isNone

def downloadDataset (force : Bool) : Download :=
  downloadNeeded answers zones cc sources (needs zones cc force)

def ensureCountryDataset : Download :=
  if (zones cc .v4).isNone || (zones cc .v6).isNone then
    downloadDataset answers zones cc sources false
  else ⟨.ok (), zones, []⟩

end Download

structure CountryBlockRefreshResult where
  zones : Zones
  updated : List String
  errors : List (String × String)

/-- One turn of `refreshDatabase`: a country, with the answers to its requests. -/
def refreshCountry (sources : List CountrySource) (r : CountryBlockRefreshResult)
    (c : String × Answers) : CountryBlockRefreshResult :=
  let d := downloadDataset c.2 r.zones c.1 sources true
  match d.result with
  | .ok () => { r with zones := d.zones, updated := r.updated ++ [c.1] }
  | .error e => { r with zones := d.zones, errors := r.errors ++ [(c.1, e)] }

/-- The countries that are refreshed. -/
def accepted (countryCodes : List String) (toUpperCase : String → String)
    (countries : List (String × Answers)) : List (String × Answers) :=
  (countries.map fun c => (toUpperCase c.1, c.2)).filter fun c =>
    allIn isUpperAscii 2 2 c.1 && countryCodes.contains c.1

def refreshDatabase (countryCodes : List String) (toUpperCase : String → String) (zones : Zones)
    (countries : List (String × Answers)) (sources : List CountrySource) :
    CountryBlockRefreshResult :=
  (accepted countryCodes toUpperCase countries).foldl (refreshCountry sources) ⟨zones, [], []⟩

/-! ## The properties -/

section Lists

variable (answers : Answers) (zones : Zones) (cc : String) (sources : List CountrySource)
  (need : Family → Bool)

/-- The text is a list of addresses that one of the sources has answered with. -/
def FromSource (family : Family) (text : Option (List Char)) : Prop :=
  ∃ k src body, sources[k]? = some src ∧ answers k (urlsFor cc.toLower src family) = .ok body ∧
    ∃ ls, ls ≠ [] ∧ (∀ line ∈ ls, isCidr family line = true ∧ line ∈ bodyLines body) ∧
      text = some (Lines.unlines ls ++ ['\n'])

/-- Each list of the country is kept or replaced, and after an error of a source the next one is
asked. -/
structure Kept (reports : Prop) (d : Download) : Prop where
  lists : ∀ family, d.zones cc family = zones cc family ∨
    FromSource answers cc sources family (d.zones cc family)
  others : ∀ other ≠ cc, d.zones other = zones other
  fallback : ∀ k family src e, (k, family) ∈ d.asked → sources[k]? = some src →
    answers k (urlsFor cc.toLower src family) = .error e → k + 1 < sources.length →
      (k + 1, family) ∈ d.asked
  /-- A country that is reported has new lists. -/
  reported : reports → d.result = .ok () →
    ∀ family, FromSource answers cc sources family (d.zones cc family)

/-- The body of an answer is not empty, and all that is taken of it are addresses. -/
def Clean (family : Family) (answer : Except String (List Char)) : Prop :=
  ∃ body, answer = .ok body ∧ zoneLines family body ≠ [] ∧
    ∀ line ∈ zoneLines family body, isCidr family line = true

/-- The source that answers for IPv4 first, of those from place `k` on, or the first of them. -/
def chosen : List CountrySource → Nat → Option (CountrySource × Nat)
  | [], _ => none
  | src :: rest, k =>
    if need .v4 && !(answers k (urlsFor cc.toLower src .v4)).isOk then chosen rest (k + 1)
    else some (src, k)

/-- No source answers for IPv4, or the first one that does has all lists that are needed. -/
def Usable : Prop :=
  match chosen answers cc need sources 0 with
  | none => need .v4 = true ∨ need .v6 = false
  | some (src, k) => ∀ family, need family = true →
      Clean family (answers k (urlsFor cc.toLower src family))

end Lists

variable {answers : Answers} {zones : Zones} {cc : String} {sources : List CountrySource}
  {need : Family → Bool} {k : Nat} {family : Family}

/-! ## The loop -/

/-- **The loop stops at the chosen source.** -/
theorem fetch_spec (e : String) (asked : List (Nat × Family)) (hneed : need .v4 || need .v6) :
    let b := fetch answers cc need sources k ⟨fun _ => none, e, asked⟩
    match chosen answers cc need sources k with
    | none => b.body = (fun _ => none) ∧ ∀ i f, (i, f) ∈ b.asked ↔
        (i, f) ∈ asked ∨ f = .v4 ∧ k ≤ i ∧ i < k + sources.length
    | some (src, j) => k ≤ j ∧ sources[j - k]? = some src ∧
        (∀ f, b.body f = if need f then some (taken f (answers j (urlsFor cc.toLower src f)))
          else none) ∧
        (need .v4 = true → (answers j (urlsFor cc.toLower src .v4)).isOk = true) ∧
        ∀ i f, (i, f) ∈ b.asked ↔ (i, f) ∈ asked ∨
          need f = true ∧ i ≤ j ∧ if f = .v4 then k ≤ i else i = j := by
  induction sources generalizing k e asked with
  | nil =>
    refine ⟨rfl, fun i f => ⟨.inl, ?_⟩⟩
    rintro (hmem | ⟨-, hle, hlt⟩)
    · exact hmem
    · rw [List.length_nil] at hlt
      omega
  | cons src rest ih =>
    by_cases hfails : (need .v4 && !(answers k (urlsFor cc.toLower src .v4)).isOk) = true
    · rw [chosen, if_pos hfails]
      obtain ⟨h4, hbad⟩ := Bool.and_eq_true_iff.mp hfails
      obtain ⟨e', he'⟩ : ∃ e', answers k (urlsFor cc.toLower src .v4) = .error e' := by
        cases hv4 : answers k (urlsFor cc.toLower src .v4) with
        | error e' => exact ⟨e', rfl⟩
        | ok body =>
          rw [hv4] at hbad
          cases hbad
      have hturn : fetch answers cc need (src :: rest) k ⟨fun _ => none, e, asked⟩ =
          fetch answers cc need rest (k + 1) ⟨fun _ => none, e', (k, .v4) :: asked⟩ := by
        simp only [fetch, h4, he', Option.isNone_none, Bool.and_self]
      have hrest := ih (k := k + 1) e' ((k, .v4) :: asked)
      rw [hturn]
      cases hchosen : chosen answers cc need rest (k + 1) with
      | none =>
        rw [hchosen] at hrest
        refine ⟨hrest.1, fun i f => ?_⟩
        rw [hrest.2, List.mem_cons, Prod.mk.injEq, List.length_cons]
        grind
      | some found =>
        rw [hchosen] at hrest
        obtain ⟨hle, hget, hbody, hok, hasked⟩ := hrest
        refine ⟨by omega, ?_, hbody, hok, fun i f => ?_⟩
        · rw [show found.2 - k = found.2 - (k + 1) + 1 by omega]
          exact hget
        · rw [hasked, List.mem_cons, Prod.mk.injEq]
          grind
    · rw [chosen, if_neg hfails]
      have hok : need .v4 = true → (answers k (urlsFor cc.toLower src .v4)).isOk = true := by
        simpa using hfails
      have hturn : fetch answers cc need (src :: rest) k ⟨fun _ => none, e, asked⟩ =
          ⟨fun f => if need f then some (taken f (answers k (urlsFor cc.toLower src f))) else none, e,
            (if need .v6 then [(k, .v6)] else []) ++ (if need .v4 then [(k, .v4)] else []) ++ asked⟩ := by
        cases h4 : need .v4 with
        | true =>
          cases hv4 : answers k (urlsFor cc.toLower src .v4) with
          | error e' =>
            rw [hv4] at hok
            cases hok h4
          | ok body =>
            cases h6 : need .v6 with
            | true =>
              simp [fetch, h4, h6, hv4, Bodies.got]
              funext f
              cases f <;> simp [h4, h6, hv4]
            | false =>
              simp [fetch, h4, h6, hv4, Bodies.got]
              funext f
              cases f <;> simp [h4, h6, hv4]
        | false =>
          have h6 : need .v6 = true := by simpa [h4] using hneed
          simp [fetch, h4, h6, Bodies.got]
          funext f
          cases f <;> simp [h4, h6]
      rw [hturn]
      refine ⟨Nat.le_refl k, by simp, fun f => rfl, hok, fun i f => ?_⟩
      cases f <;> cases need .v4 <;> cases need .v6 <;> grind

/-! ## Lists that are written -/

theorem newline_not_mem {body line : List Char} (h : line ∈ bodyLines body) : '\n' ∉ line := by
  obtain ⟨l, hl, rfl⟩ := List.mem_map.mp h
  intro hmem
  simp only [trim, String.toList_ofList, List.mem_reverse] at hmem
  have hmem := (List.dropWhile_sublist _).mem hmem
  exact Lines.not_mem_of_mem_lines hl ((List.dropWhile_sublist _).mem (List.mem_reverse.mp hmem))

theorem isCidr_ne_nil {line : List Char} (h : isCidr family line = true) : line ≠ [] := by
  rintro rfl
  cases family <;> cases h

/-- **What is taken of a clean answer comes from its source**, and of no other answer. -/
theorem fromSource_taken_iff {src : CountrySource} (hsrc : sources[k]? = some src) :
    FromSource answers cc sources family
        (some (taken family (answers k (urlsFor cc.toLower src family)))) ↔
      Clean family (answers k (urlsFor cc.toLower src family)) := by
  constructor
  · rintro ⟨k', src', body', -, -, ls, hne, hls, htext⟩
    have hplain : ∀ line ∈ ls, '\n' ∉ line := fun line hline => newline_not_mem (hls line hline).2
    cases hanswer : answers k (urlsFor cc.toLower src family) with
    | error e =>
      rw [hanswer] at htext
      simp [taken] at htext
    | ok body =>
      rw [hanswer] at htext
      have hjoin : Lines.unlines (zoneLines family body) = Lines.unlines ls :=
        List.append_cancel_right (Option.some.inj htext)
      have hcut := congrArg Lines.lines hjoin
      rw [Lines.lines_unlines hplain hne] at hcut
      have hzone : zoneLines family body ≠ [] := by
        intro hempty
        rw [hempty] at hcut
        exact isCidr_ne_nil (hls [] (hcut ▸ List.mem_singleton.mpr rfl)).1 rfl
      have hcuts : ∀ line ∈ zoneLines family body, '\n' ∉ line :=
        fun line hline => newline_not_mem (List.mem_filter.mp hline).1
      rw [Lines.lines_unlines hcuts hzone] at hcut
      exact ⟨body, rfl, hzone, hcut ▸ fun line hline => (hls line hline).1⟩
  · rintro ⟨body, hanswer, hne, hcidr⟩
    refine ⟨k, src, body, hsrc, hanswer, _, hne, fun line hline => ?_, by rw [hanswer]; rfl⟩
    exact ⟨hcidr line hline, (List.mem_filter.mp hline).1⟩

/-- **A download**: its lists are those of the chosen source. -/
theorem downloadNeeded_spec (hneed : need .v4 || need .v6) :
    let d := downloadNeeded answers zones cc sources need
    match chosen answers cc need sources 0 with
    | none => (need .v4 = true → (∃ e, d.result = .error e) ∧ d.zones = zones ∧
          ∀ i f, (i, f) ∈ d.asked ↔ f = .v4 ∧ i < sources.length) ∧
        (need .v4 = false → d.result = .ok () ∧ d.zones cc .v6 = some [])
    | some (src, j) => d.result = .ok () ∧ sources[j]? = some src ∧
        (∀ c f, d.zones c f = if c = cc ∧ need f = true then
          some (taken f (answers j (urlsFor cc.toLower src f))) else zones c f) ∧
        (need .v4 = true → (answers j (urlsFor cc.toLower src .v4)).isOk = true) ∧
        ∀ i f, (i, f) ∈ d.asked ↔ need f = true ∧ i ≤ j ∧ (f = .v6 → i = j) := by
  intro d
  have hfetch := @fetch_spec answers cc sources need 0 "" [] hneed
  have hany : ¬(!need .v4 && !need .v6) = true := by
    rw [← Bool.not_or, hneed]
    simp
  cases hchosen : chosen answers cc need sources 0 with
  | none =>
    rw [hchosen] at hfetch
    obtain ⟨hbody, hasked⟩ := hfetch
    refine ⟨fun h4 => ?_, fun h4 => ?_⟩
    · have hd : d = _ := (if_neg hany).trans (if_pos (by rw [h4, hbody]; rfl))
      rw [hd]
      exact ⟨⟨_, rfl⟩, rfl, fun i f => by simpa using hasked i f⟩
    · have hd : d = _ := (if_neg hany).trans (if_neg (by rw [h4]; simp))
      have h6 : need .v6 = true := by simpa [h4] using hneed
      rw [hd]
      exact ⟨rfl, by simp [h6, hbody, Zones.write]⟩
  | some found =>
    rw [hchosen] at hfetch
    obtain ⟨-, hsrc, hbody, hok, hasked⟩ := hfetch
    have hd : d = _ := (if_neg hany).trans (if_neg (by rw [hbody]; cases need .v4 <;> simp))
    rw [hd]
    refine ⟨rfl, hsrc, fun c f => ?_, hok, fun i f => ?_⟩
    · by_cases hc : c = cc
      · cases f <;> cases h4 : need .v4 <;> cases h6 : need .v6 <;>
          simp [hbody, Zones.write, hc, h4, h6]
      · cases need .v4 <;> cases need .v6 <;> simp [Zones.write, hc]
    · rw [hasked]
      cases f <;> simp

theorem not_fromSource_nil : ¬FromSource answers cc sources family (some []) := by
  rintro ⟨_, _, _, _, _, ls, _, _, htext⟩
  simp at htext

/-- **When a download keeps the lists**, in the two uses of it: each list that is written was not
there, or all are and the country is reported. -/
theorem kept_iff {reports : Prop} (hall : reports → ∀ f, need f = true)
    (hnew : ∀ f, need f = true → zones cc f = none ∨ reports) :
    Kept answers zones cc sources reports (downloadNeeded answers zones cc sources need) ↔
      Usable answers cc sources need := by
  by_cases hneed : (need .v4 || need .v6) = true
  swap
  · have hno : need .v4 = false ∧ need .v6 = false := by simpa using hneed
    have hidle : ¬reports := fun hreports => by simp [hall hreports] at hneed
    have hd : downloadNeeded answers zones cc sources need = ⟨.ok (), zones, []⟩ :=
      if_pos (by simp [hno])
    rw [hd]
    refine ⟨fun _ => ?_, fun _ => ⟨fun f => .inl rfl, fun c _ => rfl, ?_, fun h => absurd h hidle⟩⟩
    · unfold Usable
      split
      · exact .inr hno.2
      · intro f hf
        cases f <;> simp [hno] at hf
    · intro k f src e hk
      cases hk
  have hspec := @downloadNeeded_spec answers zones cc sources need hneed
  generalize downloadNeeded answers zones cc sources need = d at hspec ⊢
  -- A list that was written is not the one that was there.
  have hfresh : Kept answers zones cc sources reports d → d.result = .ok () → ∀ f, need f = true →
      (d.zones cc f).isSome = true → FromSource answers cc sources f (d.zones cc f) := by
    intro h hdone f hf hsome
    rcases hnew f hf with hnone | hreports
    · refine (h.lists f).resolve_left fun hsame => ?_
      rw [hsame, hnone] at hsome
      cases hsome
    · exact h.reported hreports hdone f
  unfold Usable
  cases hchosen : chosen answers cc need sources 0 with
  | none =>
    rw [hchosen] at hspec
    cases h4 : need .v4 with
    | true =>
      obtain ⟨⟨e, he⟩, hzones, hasked⟩ := hspec.1 h4
      refine ⟨fun _ => .inl rfl, fun _ => ⟨fun f => ?_, fun c _ => ?_, ?_, fun _ hdone => ?_⟩⟩
      · exact .inl (by rw [hzones])
      · rw [hzones]
      · intro k f src e hk _ _ hnext
        exact (hasked _ _).mpr ⟨((hasked _ _).mp hk).1, hnext⟩
      · rw [he] at hdone
        cases hdone
    | false =>
      obtain ⟨hdone, hempty⟩ := hspec.2 h4
      have h6 : need .v6 = true := by simpa [h4] using hneed
      refine ⟨fun h => absurd (hfresh h hdone .v6 h6 (by rw [hempty]; rfl)) ?_, fun h => ?_⟩
      · rw [hempty]
        exact not_fromSource_nil
      · simp [h6] at h
  | some found =>
    rw [hchosen] at hspec
    obtain ⟨hdone, hsrc, hzones, hok, hasked⟩ := hspec
    have hwritten : ∀ f, need f = true → d.zones cc f =
        some (taken f (answers found.2 (urlsFor cc.toLower found.1 f))) := fun f hf => by
      rw [hzones, if_pos ⟨rfl, hf⟩]
    constructor
    · intro h f hf
      have hfrom := hfresh h hdone f hf (by rw [hwritten f hf]; rfl)
      rw [hwritten f hf] at hfrom
      exact (fromSource_taken_iff hsrc).mp hfrom
    · intro hclean
      have hfrom : ∀ f, need f = true → FromSource answers cc sources f (d.zones cc f) := by
        intro f hf
        rw [hwritten f hf]
        exact (fromSource_taken_iff hsrc).mpr (hclean f hf)
      refine ⟨fun f => ?_, fun c hc => ?_, ?_, fun hreports _ f => hfrom f (hall hreports f)⟩
      · cases hf : need f with
        | true => exact .inr (hfrom f hf)
        | false => exact .inl ((hzones cc f).trans (if_neg (by simp [hf])))
      · funext f
        exact (hzones c f).trans (if_neg fun h => hc h.1)
      · intro k f src e hk hget herror _
        obtain ⟨hf, hle, hlast⟩ := (hasked k f).mp hk
        rcases Nat.lt_or_eq_of_le hle with hlt | rfl
        · cases f with
          | v4 => exact (hasked _ _).mpr ⟨hf, hlt, fun h => by cases h⟩
          | v6 => exact absurd (hlast rfl) (Nat.ne_of_lt hlt)
        · obtain ⟨body, hbody, -⟩ := hclean f hf
          rw [hsrc] at hget
          cases hget
          rw [hbody] at herror
          cases herror

/-- **A refresh**: a list behind it is the one before it, or comes from a source of one of its
downloads, as those of a reported country do. -/
theorem refresh_lists (l : List (String × Answers))
    (h : ∀ c ∈ l, Usable c.2 c.1 sources fun _ => true) (cc : String) (f : Family) :
    let r := l.foldl (refreshCountry sources) ⟨zones, [], []⟩
    r.zones cc f = zones cc f ∧ cc ∉ r.updated ∨
      ∃ answers, (cc, answers) ∈ l ∧ FromSource answers cc sources f (r.zones cc f) := by
  induction l using List.reverseRecOn with
  | nil => exact .inl ⟨rfl, List.not_mem_nil⟩
  | append_singleton l c ih =>
    obtain ⟨cc', answers⟩ := c
    have hbefore := ih fun c hc => h c (List.mem_append_left _ hc)
    have husable : Usable answers cc' sources fun _ => true := h (cc', answers) (by simp)
    simp only [List.foldl_append, List.foldl_cons, List.foldl_nil]
    generalize l.foldl (refreshCountry sources) ⟨zones, [], []⟩ = r at hbefore
    have hkept : Kept answers r.zones cc' sources True
        (downloadNeeded answers r.zones cc' sources fun _ => true) :=
      (kept_iff (fun _ _ => rfl) fun _ _ => .inr trivial).mpr husable
    have hold : r.zones cc f = zones cc f ∧ cc ∉ r.updated ∨
        ∃ answers', (cc, answers') ∈ l ++ [(cc', answers)] ∧
          FromSource answers' cc sources f (r.zones cc f) :=
      hbefore.imp_right fun ⟨a, ha, hfrom⟩ => ⟨a, List.mem_append_left _ ha, hfrom⟩
    have hd : downloadDataset answers r.zones cc' sources true =
      downloadNeeded answers r.zones cc' sources fun _ => true := rfl
    unfold refreshCountry
    simp only [hd]
    by_cases hcc : cc = cc'
    · subst hcc
      split
      · rename_i hdone
        exact .inr ⟨answers, by simp, hkept.reported trivial hdone f⟩
      · dsimp only
        rcases hkept.lists f with hsame | hfrom
        · rw [hsame]
          exact hold
        · exact .inr ⟨answers, by simp, hfrom⟩
    · rw [← hkept.others cc hcc] at hold
      split
      · exact hold.imp_left fun hs => ⟨hs.1, by simpa [hcc] using hs.2⟩
      · exact hold

/-- **Lists are never degraded** by a download whose chosen source has answered well, and by no
other. -/
theorem lists_kept (answers : Answers) (zones : Zones) (cc : String) (sources : List CountrySource)
    (countryCodes : List String) (toUpperCase : String → String)
    (countries : List (String × Answers)) :
    (Kept answers zones cc sources False (ensureCountryDataset answers zones cc sources) ↔
        Usable answers cc sources (needs zones cc false)) ∧
      (Kept answers zones cc sources True (downloadDataset answers zones cc sources true) ↔
        Usable answers cc sources fun _ => true) ∧
      ((∀ c ∈ accepted countryCodes toUpperCase countries, Usable c.2 c.1 sources fun _ => true) →
        ∀ cc f, let r := refreshDatabase countryCodes toUpperCase zones countries sources
          r.zones cc f = zones cc f ∧ cc ∉ r.updated ∨
            ∃ answers, (cc, answers) ∈ accepted countryCodes toUpperCase countries ∧
              FromSource answers cc sources f (r.zones cc f)) := by
  refine ⟨?_, kept_iff (fun _ _ => rfl) fun _ _ => .inr trivial, refresh_lists _⟩
  have hensure : ensureCountryDataset answers zones cc sources =
      downloadNeeded answers zones cc sources (needs zones cc false) := by
    unfold ensureCountryDataset
    split
    · rfl
    · rename_i h
      exact (if_pos (by simpa [needs, Option.isSome_iff_ne_none] using h)).symm
  rw [hensure]
  exact kept_iff False.elim fun f hf => .inl (by simpa [needs] using hf)

/-- An empty body empties a list, and the country is reported. -/
theorem list_emptied : ∃ answers zones,
    zones "RU" .v4 = some "5.8.0.0/16\n".toList ∧
      (refreshDatabase ["RU"] id zones [("RU", answers)] [.ipdeny]).zones "RU" .v4 = some ['\n'] ∧
        ¬Kept answers zones "RU" [.ipdeny] True
          (downloadDataset answers zones "RU" [.ipdeny] true) := by
  refine ⟨fun _ _ => .ok [], fun _ _ => some "5.8.0.0/16\n".toList, rfl, rfl, fun h => ?_⟩
  have hfrom := h.reported trivial rfl .v4
  have hsrc : [CountrySource.ipdeny][0]? = some .ipdeny := rfl
  obtain ⟨body, hbody, hne, -⟩ := (fromSource_taken_iff hsrc).mp hfrom
  cases hbody
  exact hne rfl

end Meowbox.CountryBlock
