import Meowbox.Common.StableJson
import Meowbox.Federation.Actions
import Meowbox.Federation.Replay
import Meowbox.Lib.Except
import Meowbox.Lib.PosixPath
import Mathlib.Data.List.Infix

/-!
# The exact request target

Model of `api/src/federation/exact-request-target.ts`: the target of a request as the master reads
it behind `/api/proxy/<server>/`, and as the target reads what the master forwards. What
`new URL(…)` makes of a path and a query is a function of the platform, the same on both.

* **`target_agreement`**: what the master accepts, the target accepts, and it reads the same path
  and query.
-/

namespace Meowbox.RequestTarget

open JsData Actions Federation

/-! ## The model -/

/-- `ExactRequestTargetLimits`. -/
structure ExactRequestTargetLimits where
  maxPathBytes : Option Nat
  maxQueryBytes : Option Nat
  maxTargetBytes : Option Nat

inductive ExactRequestTargetCode
  | invalidServerId
  | invalidRequestTarget
  | requestTargetTooLarge
  | requestTargetMismatch
  | unsafePath
deriving DecidableEq

structure ExactRequestTargetError where
  code : ExactRequestTargetCode
  message : String
deriving DecidableEq

structure ExactFederationTarget where
  serverId : String
  inboundTarget : List Char
  rawSuffix : List Char
  rawPath : List Char
  rawQuery : Option (List Char)
  targetPathAndQuery : List Char
deriving DecidableEq

structure ExactTargetApiRequest where
  inboundTarget : List Char
  rawPath : List Char
  rawQuery : Option (List Char)
  targetPathAndQuery : List Char
deriving DecidableEq

def reject {α : Type} (code : ExactRequestTargetCode) (message : String) :
    Except ExactRequestTargetError α := .error ⟨code, message⟩

/-- `[0-9a-fA-F]`. -/
def isHexDigit (c : Char) : Bool := (hexValue? c).isSome

/-- `value.replace(/%[0-9a-fA-F]{2}/g, '')`. -/
def withoutEscapes : List Char → List Char
  | [] => []
  | [c] => [c]
  | [c, d] => [c, d]
  | c :: d :: e :: rest =>
    if c == '%' && isHexDigit d && isHexDigit e then withoutEscapes rest
    else c :: withoutEscapes (d :: e :: rest)

def assertValidEscapes (value : List Char) : Except ExactRequestTargetError Unit :=
  if (withoutEscapes value).contains '%' then
    reject .invalidRequestTarget "Request target contains an invalid percent escape"
  else .ok ()

/-- `/%(?:2f|5c)/i`. -/
def hasEncodedSeparator (value : List Char) : Bool :=
  containsWord "%2f".toList value || containsWord "%5c".toList value

/-- One segment of the loop. -/
def assertSafeSegment (segment : List Char) : Except ExactRequestTargetError Unit :=
  match decodeURIComponent segment with
  | none => reject .invalidRequestTarget "Request path contains invalid UTF-8 escapes"
  | some decoded =>
    if decoded == ['.'] || decoded == ['.', '.'] then
      reject .unsafePath "Request path contains a dot segment"
    else if decoded.any isControl then
      reject .unsafePath "Request path contains an encoded control character"
    else .ok ()

def assertSafePath (rawPath : List Char) : Except ExactRequestTargetError Unit :=
  if includes "//".toList rawPath || rawPath.contains '\\' || hasEncodedSeparator rawPath then
    reject .unsafePath "Request path contains an encoded or ambiguous separator"
  else (rawPath.splitOn '/').forM assertSafeSegment

/-- `[\x21-\x7e]`. -/
def isGraphicAscii (c : Char) : Bool := decide ('!' ≤ c) && decide (c ≤ '~')

def assertBoundedRequestTarget (inboundTarget : List Char) (limits : ExactRequestTargetLimits) :
    Except ExactRequestTargetError Unit :=
  if inboundTarget.isEmpty || !inboundTarget.all isGraphicAscii || inboundTarget.contains '#' ||
      inboundTarget.getLast? == some '?' then
    reject .invalidRequestTarget
      "Request target must be printable ASCII without fragments or a bare query marker"
  else if limits.maxTargetBytes.getD 8192 < inboundTarget.length then
    reject .requestTargetTooLarge "Request target exceeds the federation limit"
  else assertValidEscapes inboundTarget

def pathOf (targetPathAndQuery : List Char) : List Char := targetPathAndQuery.takeWhile (· != '?')

def queryOf (targetPathAndQuery : List Char) : Option (List Char) :=
  match targetPathAndQuery.dropWhile (· != '?') with
  | [] => none
  | _ :: query => some query

section Parsers

/- The path and the query of `new URL(target, 'https://federation.invalid')`. -/
variable (serialized : List Char → List Char)

def parseTargetPathAndQuery (targetPathAndQuery : List Char) (limits : ExactRequestTargetLimits) :
    Except ExactRequestTargetError (List Char × Option (List Char)) :=
  let rawPath := pathOf targetPathAndQuery
  let rawQuery := queryOf targetPathAndQuery
  if !"/api/".toList.isPrefixOf rawPath || rawPath == "/api/".toList then
    reject .invalidRequestTarget "Federation request requires a concrete API path"
  else if limits.maxPathBytes.getD 4096 < rawPath.length ||
      rawQuery.any (fun query => limits.maxQueryBytes.getD 4096 < query.length) then
    reject .requestTargetTooLarge "Federation path or query exceeds its limit"
  else do
    assertSafePath rawPath
    if serialized targetPathAndQuery ≠ targetPathAndQuery then
      reject .invalidRequestTarget "Request target changes during URL serialization"
    else .ok (rawPath, rawQuery)

def parseExactTargetApiRequest (inboundTarget : List Char) (limits : ExactRequestTargetLimits) :
    Except ExactRequestTargetError ExactTargetApiRequest := do
  assertBoundedRequestTarget inboundTarget limits
  let parsed ← parseTargetPathAndQuery serialized inboundTarget limits
  return ⟨inboundTarget, parsed.1, parsed.2, inboundTarget⟩

def proxyPrefix (serverId : String) : List Char :=
  "/api/proxy/".toList ++ serverId.toList ++ ['/']

def parseExactFederationTarget (inboundTarget : List Char) (serverId : String)
    (limits : ExactRequestTargetLimits) : Except ExactRequestTargetError ExactFederationTarget :=
  if !isCanonicalUuid serverId then
    reject .invalidServerId "Federation server ID must be a canonical UUID"
  else do
    assertBoundedRequestTarget inboundTarget limits
    if !(proxyPrefix serverId).isPrefixOf inboundTarget then
      reject .requestTargetMismatch "Request target does not match the selected server"
    else
      let rawSuffix := inboundTarget.drop (proxyPrefix serverId).length
      let targetPathAndQuery := "/api/".toList ++ rawSuffix
      let parsed ← parseTargetPathAndQuery serialized targetPathAndQuery limits
      return ⟨serverId, inboundTarget, rawSuffix, parsed.1, parsed.2, targetPathAndQuery⟩

end Parsers

/-! ## Safe paths -/

section SafePath

variable {rawPath segment : List Char}

theorem mem_forM_ok {α ε : Type} {f : α → Except ε Unit} : ∀ {l : List α},
    l.forM f = .ok () → ∀ a ∈ l, f a = .ok ()
  | [], _, _, h => absurd h List.not_mem_nil
  | b :: l, h, a, ha => by
    obtain ⟨⟨⟩, hb, hl⟩ := bind_ok.mp (List.forM_cons.symm.trans h)
    rcases List.mem_cons.mp ha with rfl | ha
    · exact hb
    · exact mem_forM_ok hl a ha

theorem assertSafePath_ok (h : assertSafePath rawPath = .ok ()) :
    '\\' ∉ rawPath ∧ hasEncodedSeparator rawPath = false ∧
      ∀ segment ∈ rawPath.splitOn '/', assertSafeSegment segment = .ok () := by
  unfold assertSafePath at h
  split at h
  · exact absurd h (by simp [reject])
  · rename_i hpl
    simp only [Bool.or_eq_true, not_or, Bool.not_eq_true] at hpl
    exact ⟨by simpa using hpl.1.2, hpl.2, mem_forM_ok h⟩

theorem assertSafeSegment_ok (h : assertSafeSegment segment = .ok ()) :
    ∃ decoded, decodeURIComponent segment = some decoded ∧ decoded ≠ ['.'] ∧ decoded ≠ ['.', '.'] ∧
      decoded.any isControl = false := by
  unfold assertSafeSegment at h
  cases hdec : decodeURIComponent segment with
  | none =>
    rw [hdec] at h
    exact absurd h (by simp [reject])
  | some decoded =>
    rw [hdec] at h
    dsimp only at h
    split at h
    · exact absurd h (by simp [reject])
    · rename_i hdot
      split at h
      · exact absurd h (by simp [reject])
      · rename_i hctl
        simp only [Bool.or_eq_true, beq_iff_eq, not_or] at hdot
        exact ⟨decoded, rfl, hdot.1, hdot.2, Bool.eq_false_iff.mpr hctl⟩

theorem within_intercalate {sep : List Char} : ∀ {parts : List (List Char)} {part : List Char},
    part ∈ parts → part <:+: sep.intercalate parts
  | [p], part, h => by
    obtain rfl := List.mem_singleton.mp h
    rw [List.intercalate_singleton]
  | p :: q :: parts, part, h => by
    rw [List.intercalate_cons_cons]
    rcases List.mem_cons.mp h with rfl | h
    · exact (List.prefix_append _ _).isInfix.trans (List.prefix_append _ _).isInfix
    · exact (within_intercalate h).trans (List.suffix_append _ _).isInfix

theorem segment_within (h : segment ∈ rawPath.splitOn '/') : segment <:+: rawPath := by
  have hwi := @within_intercalate ['/'] _ _ h
  rwa [List.intercalate_splitOn] at hwi

theorem containsWord_of_append {word found : List Char} (front back : List Char)
    (h : found.map Char.toLower = word) : containsWord word (front ++ found ++ back) = true := by
  unfold containsWord
  refine List.any_eq_true.mpr ⟨found ++ back, ?_, ?_⟩
  · refine (List.mem_tails _ _).mpr ?_
    rw [List.append_assoc]
    exact List.suffix_append _ _
  · rw [← h, List.length_map, List.take_left, beq_self_eq_true]

/-- The escape of a separator is one that the path was searched for. -/
theorem encodedSeparator_of_escape {text : List Char}
    (h : HasEscape text 0x2f ∨ HasEscape text 0x5c) : hasEncodedSeparator text = true := by
  have hasc : ∀ {c d : Char}, c.toNat = d.toNat → c = d := fun h => Char.toNat_inj.mp h
  unfold hasEncodedSeparator
  rcases h with ⟨front, high, low, back, x, y, rfl, hx, hy, hbyte⟩ |
    ⟨front, high, low, back, x, y, rfl, hx, hy, hbyte⟩
  · have hxr := hexValue?_some hx
    have hyr := hexValue?_some hy
    obtain rfl : high = '2' := hasc (show high.toNat = 50 by omega)
    have hlow : low = 'f' ∨ low = 'F' := by
      have hor : low.toNat = 102 ∨ low.toNat = 70 := by omega
      exact hor.imp (fun h => hasc h) fun h => hasc h
    have hword : ['%', '2', low].map Char.toLower = "%2f".toList := by
      rcases hlow with rfl | rfl
      · decide
      · decide
    have hfnd := containsWord_of_append front back hword
    rw [List.append_assoc] at hfnd
    exact Bool.or_eq_true_iff.mpr (.inl hfnd)
  · have hxr := hexValue?_some hx
    have hyr := hexValue?_some hy
    obtain rfl : high = '5' := hasc (show high.toNat = 53 by omega)
    have hlow : low = 'c' ∨ low = 'C' := by
      have hor : low.toNat = 99 ∨ low.toNat = 67 := by omega
      exact hor.imp (fun h => hasc h) fun h => hasc h
    have hword : ['%', '5', low].map Char.toLower = "%5c".toList := by
      rcases hlow with rfl | rfl
      · decide
      · decide
    have hfnd := containsWord_of_append front back hword
    rw [List.append_assoc] at hfnd
    exact Bool.or_eq_true_iff.mpr (.inr hfnd)

theorem escape_within {text : List Char} {byte : Nat} (h : HasEscape segment byte)
    (hwi : segment <:+: text) : HasEscape text byte := by
  obtain ⟨front, high, low, back, x, y, rfl, hx, hy, hbyte⟩ := h
  obtain ⟨before, behind, rfl⟩ := hwi
  exact ⟨before ++ front, high, low, back ++ behind, x, y, by simp, hx, hy, hbyte⟩

/-- What a segment of an accepted path denotes. -/
structure SafeSegment (segment decoded : List Char) : Prop where
  decodes : decodeURIComponent segment = some decoded
  notDot : decoded ≠ ['.']
  notDotDot : decoded ≠ ['.', '.']
  noSlash : '/' ∉ decoded
  noBackslash : '\\' ∉ decoded
  noControl : ∀ c ∈ decoded, isControl c = false

/-- **No segment of a safe path denotes a dot segment, a separator or a control character.** -/
theorem safePath_segments (hasc : rawPath.all isGraphicAscii = true)
    (h : assertSafePath rawPath = .ok ()) (hmem : segment ∈ rawPath.splitOn '/') :
    ∃ decoded, SafeSegment segment decoded := by
  obtain ⟨hbackslash, hesc, hsegments⟩ := assertSafePath_ok h
  obtain ⟨decoded, hdec, hdot, hdots, hctl⟩ := assertSafeSegment_ok (hsegments segment hmem)
  have hwi := segment_within hmem
  have hlow : ∀ c ∈ segment, c.toNat < 0x80 := by
    intro c hc
    have hgraphic := List.all_eq_true.mp hasc c (hwi.subset hc)
    simp only [isGraphicAscii, Bool.and_eq_true, decide_eq_true_eq, Char.le_def,
      UInt32.le_iff_toNat_le] at hgraphic
    exact Nat.lt_of_le_of_lt hgraphic.2 (by decide)
  have hsl : '/' ∉ segment := PosixPath.slash_notMem_splitOn segment hmem
  refine ⟨decoded, hdec, hdot, hdots, fun hc => ?_, fun hc => ?_, ?_⟩
  · rcases mem_decodeURIComponent hlow hdec hc (by decide) with hraw | hescape
    · exact hsl hraw
    · rw [encodedSeparator_of_escape (.inl (escape_within hescape hwi))] at hesc
      exact absurd hesc (by decide)
  · rcases mem_decodeURIComponent hlow hdec hc (by decide) with hraw | hescape
    · exact hbackslash (hwi.subset hraw)
    · rw [encodedSeparator_of_escape (.inr (escape_within hescape hwi))] at hesc
      exact absurd hesc (by decide)
  · intro c hc
    exact Bool.eq_false_iff.mpr (List.any_eq_false.mp hctl c hc)

end SafePath

/-! ## The two parsers -/

section Agreement

variable {serialized : List Char → List Char} {limits : ExactRequestTargetLimits}
  {inboundTarget : List Char} {serverId : String}

/-- What a bounded target is. -/
structure Bounded (limits : ExactRequestTargetLimits) (target : List Char) : Prop where
  ne : target ≠ []
  graphic : target.all isGraphicAscii = true
  noFragment : '#' ∉ target
  noBareQuery : target.getLast? ≠ some '?'
  short : target.length ≤ limits.maxTargetBytes.getD 8192
  escaped : '%' ∉ withoutEscapes target

theorem assertBoundedRequestTarget_ok {target : List Char} :
    assertBoundedRequestTarget target limits = .ok () ↔ Bounded limits target := by
  unfold assertBoundedRequestTarget assertValidEscapes reject
  constructor
  · intro h
    obtain ⟨hshape, h⟩ := Failing.unless_ok h
    obtain ⟨hlen, h⟩ := Failing.unless_ok h
    obtain ⟨hescapes, h⟩ := Failing.unless_ok h
    simp only [Bool.or_eq_true, not_or, Bool.not_eq_true, List.isEmpty_eq_false_iff,
      Bool.not_eq_false', beq_eq_false_iff_ne] at hshape
    exact ⟨hshape.1.1.1, hshape.1.1.2, by simpa using hshape.1.2, hshape.2, by omega,
      by simpa using hescapes⟩
  · intro h
    rw [if_neg, if_neg, if_neg]
    · simpa using h.escaped
    · have hsho := h.short
      omega
    · simp [h.ne, h.graphic, h.noFragment, h.noBareQuery]

theorem withoutEscapes_cons {c : Char} {rest : List Char} (hc : c ≠ '%') :
    withoutEscapes (c :: rest) = c :: withoutEscapes rest := by
  cases rest with
  | nil => rfl
  | cons d rest =>
    cases rest with
    | nil => rfl
    | cons e rest => rw [withoutEscapes, if_neg (by simp [hc])]

theorem withoutEscapes_append {front back : List Char} (h : '%' ∉ front) :
    withoutEscapes (front ++ back) = front ++ withoutEscapes back := by
  induction front with
  | nil => rfl
  | cons c front ih =>
    rw [List.mem_cons, not_or] at h
    rw [List.cons_append, withoutEscapes_cons (Ne.symm h.1), ih h.2, List.cons_append]

theorem percent_notMem_proxy (h : isCanonicalUuid serverId = true) :
    '%' ∉ proxyPrefix serverId := by
  unfold proxyPrefix
  intro hmem
  rcases List.mem_append.mp hmem with hmem | hmem
  · rcases List.mem_append.mp hmem with hmem | hmem
    · exact absurd hmem (by decide)
    · exact absurd (isCanonicalUuid_chars h '%' hmem) (by decide)
  · exact absurd hmem (by decide)

theorem length_proxyPrefix (serverId : String) :
    (proxyPrefix serverId).length = 12 + serverId.toList.length := by
  have hproxy : "/api/proxy/".toList.length = 11 := by decide
  have hsum : ∀ n, 11 + n + 1 = 12 + n := by
    intro n
    omega
  unfold proxyPrefix
  rw [List.length_append, List.length_append, hproxy, List.length_singleton]
  exact hsum _

/-- What the master forwards is bounded, as what it received is. -/
theorem bounded_forwarded {suffix : List Char} (hid : isCanonicalUuid serverId = true)
    (h : Bounded limits (proxyPrefix serverId ++ suffix)) :
    Bounded limits ("/api/".toList ++ suffix) := by
  have hgraphic := h.graphic
  rw [List.all_append, Bool.and_eq_true] at hgraphic
  refine ⟨by simp, ?_, ?_, ?_, ?_, ?_⟩
  · rw [List.all_append, hgraphic.2]
    decide
  · intro hmem
    rcases List.mem_append.mp hmem with hmem | hmem
    · exact absurd hmem (by decide)
    · exact h.noFragment (List.mem_append_right _ hmem)
  · have hlast := h.noBareQuery
    cases hsuffix : suffix.getLast? with
    | none =>
      rw [List.getLast?_eq_none_iff.mp hsuffix]
      decide
    | some c =>
      rw [List.getLast?_append, hsuffix, Option.some_or] at hlast ⊢
      exact hlast
  · have hsho := h.short
    rw [List.length_append] at hsho ⊢
    rw [length_proxyPrefix] at hsho
    have hapi : "/api/".toList.length = 5 := by decide
    have hless : ∀ {n k max : Nat}, 12 + n + k ≤ max → 5 + k ≤ max := by
      intro n k max h
      omega
    rw [hapi]
    exact hless hsho
  · have hesc := h.escaped
    rw [withoutEscapes_append (percent_notMem_proxy hid)] at hesc
    rw [withoutEscapes_append (by decide)]
    intro hmem
    rcases List.mem_append.mp hmem with hmem | hmem
    · exact absurd hmem (by decide)
    · exact hesc (List.mem_append_right _ hmem)

theorem parseTargetPathAndQuery_ok {target : List Char}
    {parsed : List Char × Option (List Char)}
    (h : parseTargetPathAndQuery serialized target limits = .ok parsed) :
    parsed = (pathOf target, queryOf target) ∧ assertSafePath (pathOf target) = .ok () := by
  unfold parseTargetPathAndQuery reject at h
  dsimp only at h
  obtain ⟨-, h⟩ := Failing.unless_ok h
  obtain ⟨-, h⟩ := Failing.unless_ok h
  obtain ⟨⟨⟩, hsafe, h⟩ := bind_ok.mp h
  obtain ⟨-, h⟩ := Failing.unless_ok h
  exact ⟨(Except.ok.inj h).symm, hsafe⟩

/-- What a target accepts is made of its path and its query, and the path is safe. -/
theorem parseExactTargetApiRequest_ok {parsed : ExactTargetApiRequest}
    (h : parseExactTargetApiRequest serialized inboundTarget limits = .ok parsed) :
    ∀ segment ∈ parsed.rawPath.splitOn '/', ∃ decoded, SafeSegment segment decoded := by
  unfold parseExactTargetApiRequest at h
  obtain ⟨⟨⟩, hbd, h⟩ := bind_ok.mp h
  obtain ⟨pair, hpair, h⟩ := bind_ok.mp h
  obtain rfl := Except.ok.inj h
  obtain ⟨rfl, hsafe⟩ := parseTargetPathAndQuery_ok hpair
  intro segment hsegment
  refine safePath_segments ?_ hsafe hsegment
  have hgraphic := (assertBoundedRequestTarget_ok.mp hbd).graphic
  exact List.all_eq_true.mpr fun c hc =>
    List.all_eq_true.mp hgraphic c ((List.takeWhile_sublist _).subset hc)

theorem accepted_forwarded {parsed : ExactFederationTarget}
    (h : parseExactFederationTarget serialized inboundTarget serverId limits = .ok parsed) :
    parseExactTargetApiRequest serialized parsed.targetPathAndQuery limits =
      .ok ⟨parsed.targetPathAndQuery, parsed.rawPath, parsed.rawQuery,
        parsed.targetPathAndQuery⟩ := by
  unfold parseExactFederationTarget at h
  split at h
  · exact absurd h (by simp [reject])
  · rename_i hid
    obtain ⟨⟨⟩, hbd, h⟩ := bind_ok.mp h
    split at h
    · exact absurd h (by simp [reject])
    · rename_i hbegins
      obtain ⟨pair, hpair, h⟩ := bind_ok.mp h
      obtain rfl := Except.ok.inj h
      rw [Bool.not_eq_true, Bool.not_eq_false'] at hid hbegins
      obtain ⟨suffix, rfl⟩ := List.isPrefixOf_iff_prefix.mp hbegins
      rw [List.drop_left] at hpair ⊢
      have hforwarded := bounded_forwarded hid (assertBoundedRequestTarget_ok.mp hbd)
      exact bind_ok.mpr ⟨(), assertBoundedRequestTarget_ok.mpr hforwarded,
        bind_ok.mpr ⟨pair, hpair, rfl⟩⟩

/-- **The target accepts what the master forwards, and reads the path and the query that the master
read; and no segment of a path that either accepts denotes a dot segment, a separator or a control
character.** -/
theorem target_agreement (serialized : List Char → List Char) (limits : ExactRequestTargetLimits)
    (inboundTarget : List Char) :
    (∀ serverId parsed,
      parseExactFederationTarget serialized inboundTarget serverId limits = .ok parsed →
        parseExactTargetApiRequest serialized parsed.targetPathAndQuery limits =
          .ok ⟨parsed.targetPathAndQuery, parsed.rawPath, parsed.rawQuery,
            parsed.targetPathAndQuery⟩ ∧
        ∀ segment ∈ parsed.rawPath.splitOn '/', ∃ decoded, SafeSegment segment decoded) ∧
      ∀ parsed, parseExactTargetApiRequest serialized inboundTarget limits = .ok parsed →
        ∀ segment ∈ parsed.rawPath.splitOn '/', ∃ decoded, SafeSegment segment decoded := by
  refine ⟨fun serverId parsed h => ?_, fun parsed h => parseExactTargetApiRequest_ok h⟩
  have hacc := accepted_forwarded h
  exact ⟨hacc, parseExactTargetApiRequest_ok hacc⟩

end Agreement

/-! ## A page of the sites -/

namespace SampleTarget

def serverId : String := "00000000-0000-4000-8000-000000000002"

def inbound : List Char :=
  "/api/proxy/00000000-0000-4000-8000-000000000002/sites/a%20b?page=2".toList

def noLimits : ExactRequestTargetLimits := ⟨none, none, none⟩

end SampleTarget

open SampleTarget in
theorem target_agreement_sites :
    ∃ parsed, parseExactFederationTarget id inbound serverId noLimits = .ok parsed ∧
      parseExactTargetApiRequest id parsed.targetPathAndQuery noLimits =
        .ok ⟨parsed.targetPathAndQuery, parsed.rawPath, parsed.rawQuery,
          parsed.targetPathAndQuery⟩ := by
  have hsome :
      (parseExactFederationTarget id inbound serverId noLimits).toOption.isSome = true := by
    decide +kernel
  cases hprs : parseExactFederationTarget id inbound serverId noLimits with
  | error e =>
    rw [hprs] at hsome
    exact absurd hsome (by simp [Except.toOption])
  | ok parsed =>
    exact ⟨parsed, rfl, ((target_agreement id noLimits inbound).1 serverId parsed hprs).1⟩

end Meowbox.RequestTarget
