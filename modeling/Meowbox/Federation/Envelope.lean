import Meowbox.Common.ContractValidation
import Meowbox.Common.StableJson
import Meowbox.Federation.Replay
import Meowbox.Lib.Base64Url
import Mathlib.Data.List.TakeWhile

/-!
# What a delegation signature covers

Model of `assertBinding` and `buildDelegationPayload` of
`api/src/federation/delegation-envelope.ts`: the bytes that a delegation assertion is signed over.
They are lines, each a name and a value; the headers are base64url of canonical JSON.

* `lines_eq`: the lines of a payload are found again, whatever the address has in it.
* `joined_inj`, `identifier_inj`, `headers_inj`: what stands behind a line is determined by it.
* **`payload_injective`**: two pairs of claims and a binding with one payload are equal.
-/

namespace Meowbox.Federation

open JsData JsonText

/-! ## `assertBinding` -/

def METHODS : List String := ["DELETE", "GET", "HEAD", "OPTIONS", "PATCH", "POST", "PUT"]

/-- `[\x21-\x7e]`. -/
def isGraphic (c : Char) : Bool := decide ('!' ≤ c) && decide (c ≤ '~')

/-- `[\x20-\x7e]`. -/
def isPrintable (c : Char) : Bool := decide (' ' ≤ c) && decide (c ≤ '~')

/-- `[a-z0-9-]`. -/
def isHeaderNameChar (c : Char) : Bool := isLowerAscii c || isDigitAscii c || c == '-'

/-- One or more characters of a class. -/
def allOf (cls : Char → Bool) (s : String) : Bool := !s.toList.isEmpty && s.toList.all cls

/-- A header with a canonical name and value. -/
def isCanonicalHeader (header : String × String) : Bool :=
  allOf isHeaderNameChar header.1 && allOf isPrintable header.2

/-- What `assertBinding` asks of the request, its headers apart. -/
def isRequest (b : DelegationRequestBinding) : Bool :=
  METHODS.contains b.method && "/api/".toList.isPrefixOf b.targetPathAndQuery.toList &&
    allOf isGraphic b.targetPathAndQuery && allIn isHexLower 64 64 b.bodySha256

/-- The headers are canonical, and in the order of their names. -/
def areCanonicalHeaders (headers : List (String × String)) : Bool :=
  headers.all isCanonicalHeader && sortedUnique (headers.map Prod.fst)

def assertBinding (b : DelegationRequestBinding) : Except FederationError Unit :=
  if !isRequest b then fail .invalidClaims "Delegation request binding is invalid"
  else if !areCanonicalHeaders b.headers then
    fail .invalidClaims "Delegation headers are not canonical"
  else .ok ()

/-! ## `buildDelegationPayload` -/

/-- `CanonicalFederationHeader`, as it is written. -/
def headerValue (header : String × String) : JsValue :=
  .object [("name", .string header.1), ("value", .string header.2)]

/-- `Buffer.from(text, 'utf8')`. -/
def utf8 (text : String) : List UInt8 := text.toByteArray.data.toList

/-- `Buffer.from(canonicalJson(headers), 'utf8').toString('base64url')`. -/
def canonicalHeaders (headers : List (String × String)) : List Char :=
  Base64Url.encode (utf8 (stableJson (.array (headers.map headerValue))))

/-- `${value}` of an integer. -/
def integerText (n : Int) : List Char := (JsonNumber.ofInt n).text.toList

/-- `value ?? '-'`. -/
def orDash (value : Option String) : List Char := (value.getD "-").toList

/-- The lines in front of the address, each with its name. -/
def frontFields (c : DelegationClaims) : List (String × List Char) :=
  [("MEOWBOX-EDDSA-V1", []),
    ("key-id:", c.keyId.toList),
    ("issued-at:", integerText c.issuedAt),
    ("expires-at:", integerText c.expiresAt),
    ("nonce:", c.nonce.toList),
    ("request-id:", c.requestId.toList),
    ("target-installation-id:", c.targetInstallationId.toList),
    ("action-id:", c.actionId.toList),
    ("actor-kind:", c.actorKind.toList),
    ("issuer-installation-id:", c.issuerInstallationId.toList),
    ("subject:", c.subject.toList)]

/-- The lines behind it. -/
def backFields (c : DelegationClaims) (b : DelegationRequestBinding) :
    List (String × List Char) :=
  [("role:", c.role.toList),
    ("permissions:", [','].intercalate (c.permissions.map String.toList)),
    ("principal-version:", integerText c.principalVersion),
    ("operation-id:", orDash c.operationId),
    ("idempotency-id:", orDash c.idempotencyId),
    ("method:", b.method.toList),
    ("target:", b.targetPathAndQuery.toList),
    ("headers:", canonicalHeaders b.headers),
    ("body-sha256:", b.bodySha256.toList)]

def payloadFields (c : DelegationClaims) (b : DelegationRequestBinding) :
    List (String × List Char) :=
  frontFields c ++ ("browser-ip:", c.browserIp.toList) :: backFields c b

/-- A line. -/
def line (field : String × List Char) : List Char := field.1.toList ++ field.2

/-- `` `${fields.join('\n')}\n` ``. -/
def payloadText (c : DelegationClaims) (b : DelegationRequestBinding) : List Char :=
  ['\n'].intercalate ((payloadFields c b).map line) ++ ['\n']

def buildDelegationPayload (H : VerifierHost) (c : DelegationClaims)
    (b : DelegationRequestBinding) : Except FederationError (List UInt8) :=
  if !assertDelegationClaims H c then
    fail .invalidClaims "Delegation assertion contains invalid claims"
  else (assertBinding b).map fun _ => utf8 (String.ofList (payloadText c b))

/-- A payload is built exactly of valid claims and a valid binding. -/
theorem buildDelegationPayload_ok {H : VerifierHost} {c : DelegationClaims}
    {b : DelegationRequestBinding} {payload : List UInt8} :
    buildDelegationPayload H c b = .ok payload ↔
      assertDelegationClaims H c = true ∧ isRequest b = true ∧
        areCanonicalHeaders b.headers = true ∧
        payload = utf8 (String.ofList (payloadText c b)) := by
  unfold buildDelegationPayload assertBinding fail
  cases assertDelegationClaims H c with
  | false => simp
  | true =>
    cases isRequest b with
    | false => simp [Except.map]
    | true =>
      cases areCanonicalHeaders b.headers with
      | false => simp [Except.map]
      | true => simp [Except.map, eq_comm]

/-! ## Lines -/

section Lines

variable {lines front front' back back' : List (List Char)}

theorem splitOn_lines (hne : lines ≠ []) :
    (['\n'].intercalate lines).splitOn '\n' = lines.flatMap (·.splitOn '\n') := by
  induction lines with
  | nil => exact absurd rfl hne
  | cons l lines ih =>
    cases lines with
    | nil => simp [List.intercalate_singleton]
    | cons k lines =>
      rw [List.intercalate_cons_cons, List.append_assoc, List.singleton_append,
        List.splitOn_append_cons_self, ih (List.cons_ne_nil _ _), ← List.flatMap_cons]

theorem flatMap_splitOn_of_clean (h : ∀ l ∈ lines, '\n' ∉ l) :
    lines.flatMap (·.splitOn '\n') = lines := by
  induction lines with
  | nil => rfl
  | cons l lines ih =>
    rw [List.flatMap_cons, List.splitOn_eq_singleton (h l List.mem_cons_self),
      ih fun k hk => h k (List.mem_cons_of_mem l hk)]
    rfl

/-- **The lines around a text with line ends of its own are found again, and so is the text.** -/
theorem lines_eq {ip ip' : List Char} (hfro : ∀ l ∈ front, '\n' ∉ l)
    (hfro' : ∀ l ∈ front', '\n' ∉ l) (hback : ∀ l ∈ back, '\n' ∉ l)
    (hback' : ∀ l ∈ back', '\n' ∉ l) (hlf : front.length = front'.length)
    (hlb : back.length = back'.length)
    (h : ['\n'].intercalate (front ++ ip :: back) = ['\n'].intercalate (front' ++ ip' :: back')) :
    front = front' ∧ ip = ip' ∧ back = back' := by
  have hspl := congrArg (·.splitOn '\n') h
  rw [splitOn_lines (by simp), splitOn_lines (by simp), List.flatMap_append, List.flatMap_append,
    List.flatMap_cons, List.flatMap_cons, flatMap_splitOn_of_clean hfro,
    flatMap_splitOn_of_clean hfro', flatMap_splitOn_of_clean hback,
    flatMap_splitOn_of_clean hback'] at hspl
  obtain ⟨hf, hrest⟩ := List.append_inj hspl hlf
  obtain ⟨hip, hb⟩ := List.append_inj' hrest hlb
  refine ⟨hf, ?_, hb⟩
  calc ip = ['\n'].intercalate (ip.splitOn '\n') := (List.intercalate_splitOn _).symm
    _ = ['\n'].intercalate (ip'.splitOn '\n') := by rw [hip]
    _ = ip' := List.intercalate_splitOn _

end Lines

/-! ## What the values are made of -/

section Values

variable {s : String} {cls : Char → Bool}

/-- No line ends. -/
def Clean (s : String) : Prop := '\n' ∉ s.toList

instance (s : String) : Decidable (Clean s) := inferInstanceAs (Decidable ('\n' ∉ s.toList))

theorem clean_of_all (hcls : cls '\n' = false) (h : s.toList.all cls = true) : Clean s := by
  intro hmem
  have htrue := List.all_eq_true.mp h _ hmem
  rw [hcls] at htrue
  exact absurd htrue Bool.false_ne_true

theorem clean_of_allIn {lo hi : Nat} (hcls : cls '\n' = false) (h : allIn cls lo hi s = true) :
    Clean s := by
  rw [allIn, Bool.and_eq_true, Bool.and_eq_true] at h
  exact clean_of_all hcls h.1.1

theorem clean_of_contains {l : List String} (hl : ∀ t ∈ l, Clean t) (h : l.contains s = true) :
    Clean s := hl s (List.contains_iff_mem.mp h)

theorem clean_isKeyId (h : isKeyId s = true) : Clean s := by
  rw [isKeyId, Bool.and_eq_true, Bool.and_eq_true, beq_iff_eq] at h
  obtain ⟨⟨hhead, -⟩, hrest⟩ := h
  intro hmem
  rw [← List.take_append_drop 8 s.toList, List.mem_append, hhead] at hmem
  rcases hmem with hmem | hmem
  · exact absurd hmem (by decide)
  · exact absurd (List.all_eq_true.mp hrest _ hmem) (by decide)

theorem clean_isCanonicalUuid (h : isCanonicalUuid s = true) : Clean s := fun hmem =>
  absurd (isCanonicalUuid_chars h '\n' hmem) (by decide)

theorem mem_isGrouped {separator inner : Char → Bool} : ∀ {cs : List Char} {started : Bool},
    isGrouped separator inner started cs = true →
      ∀ c ∈ cs, separator c = true ∨ inner c = true := by
  intro cs
  induction cs with
  | nil => exact fun _ c hc => absurd hc List.not_mem_nil
  | cons d ds ih =>
    intro started h c hc
    unfold isGrouped at h
    split at h
    · rename_i hseparator
      rcases List.mem_cons.mp hc with rfl | hc
      · exact .inl hseparator
      · exact ih (Bool.and_eq_true_iff.mp h).2 c hc
    · rcases List.mem_cons.mp hc with rfl | hc
      · exact .inr (Bool.and_eq_true_iff.mp h).1
      · exact ih (Bool.and_eq_true_iff.mp h).2 c hc

theorem clean_isActionId (h : isActionId s = true) : Clean s := by
  unfold isActionId at h
  intro hmem
  split at h
  · rename_i hnil
    rw [hnil] at hmem
    exact absurd hmem List.not_mem_nil
  · rename_i c rest hcons
    simp only [Bool.and_eq_true, beq_iff_eq] at h
    obtain ⟨⟨hc, hdot⟩, hgroups⟩ := h
    rw [hcons] at hmem
    rcases List.mem_cons.mp hmem with rfl | hmem
    · exact absurd hc (by decide)
    · rw [← List.takeWhile_append_dropWhile (p := fun d => isLowerAscii d || isDigitAscii d)
        (l := rest), List.mem_append] at hmem
      rcases hmem with hmem | hmem
      · have hname := List.mem_takeWhile_imp (p := fun d => isLowerAscii d || isDigitAscii d) hmem
        exact absurd hname (by decide)
      · obtain ⟨tail, htail⟩ := List.head?_eq_some_iff.mp hdot
        rw [htail, List.tail_cons] at hgroups
        rw [htail] at hmem
        rcases List.mem_cons.mp hmem with heq | hmem
        · exact absurd heq (by decide)
        · exact absurd (mem_isGrouped hgroups _ hmem) (by decide)

/-- A permission is not empty, and has neither line ends nor commas. -/
theorem isPermission_chars (h : isPermission s = true) :
    s.toList ≠ [] ∧ Clean s ∧ ',' ∉ s.toList := by
  unfold isPermission at h
  split at h
  · exact absurd h (by decide)
  · rename_i c rest hcons
    obtain ⟨hc, hgroups⟩ := Bool.and_eq_true_iff.mp h
    unfold Clean
    rw [hcons]
    refine ⟨List.cons_ne_nil _ _, ?_, ?_⟩
    · intro hmem
      rcases List.mem_cons.mp hmem with rfl | hmem
      · exact absurd hc (by decide)
      · exact absurd (mem_isGrouped hgroups _ hmem) (by decide)
    · intro hmem
      rcases List.mem_cons.mp hmem with rfl | hmem
      · exact absurd hc (by decide)
      · exact absurd (mem_isGrouped hgroups _ hmem) (by decide)

theorem clean_integerText (n : Int) : '\n' ∉ integerText n := fun hmem =>
  absurd ((JsonNumber.ofInt n).numeric.2 _ hmem) (by decide)

theorem integerText_inj {m n : Int} (h : integerText m = integerText n) : m = n := by
  have htext : JsonNumber.ofInt m = JsonNumber.ofInt n := by
    have hsame := String.toList_inj.mp h
    cases hm : JsonNumber.ofInt m
    cases hn : JsonNumber.ofInt n
    rw [hm, hn] at hsame
    cases hsame
    rfl
  have hread := congrArg integer? htext
  rw [integer?_ofInt, integer?_ofInt] at hread
  exact Option.some.inj hread

/-- The text of an optional identifier is not that of its absence. -/
theorem identifier_inj {i j : Option String} (hi : i.all isOptionalId = true)
    (hj : j.all isOptionalId = true) (h : orDash i = orDash j) : i = j := by
  have hdash : isOptionalId "-" = false := by decide
  have hsame := String.toList_inj.mp h
  cases i with
  | none =>
    cases j with
    | none => rfl
    | some t =>
      have ht : t = "-" := hsame.symm
      subst ht
      exact absurd hj (by rw [Option.all_some, hdash]; decide)
  | some s =>
    cases j with
    | none =>
      have hs : s = "-" := hsame
      subst hs
      exact absurd hi (by rw [Option.all_some, hdash]; decide)
    | some t => exact congrArg some hsame

theorem joined_inj {ps qs : List String} (hp : ps.all isPermission = true)
    (hq : qs.all isPermission = true)
    (h : [','].intercalate (ps.map String.toList) = [','].intercalate (qs.map String.toList)) :
    ps = qs := by
  have hspl : ∀ {rs : List String}, rs.all isPermission = true → rs ≠ [] →
      ([','].intercalate (rs.map String.toList)).splitOn ',' = rs.map String.toList := by
    intro rs hrs hne
    refine List.splitOn_intercalate ',' ?_ (by rwa [ne_eq, List.map_eq_nil_iff])
    intro l hl
    obtain ⟨r, hr, rfl⟩ := List.mem_map.mp hl
    exact (isPermission_chars (List.all_eq_true.mp hrs r hr)).2.2
  -- A list with a permission is not written as the empty one.
  have hnil : ∀ {rs : List String}, rs.all isPermission = true →
      [','].intercalate (rs.map String.toList) = [] → rs = [] := by
    intro rs hrs hempty
    by_contra hne
    have hself := hspl hrs hne
    rw [hempty, List.splitOn_nil] at hself
    obtain ⟨r, hr, hchs⟩ := List.mem_map.mp (hself ▸ List.mem_singleton_self [])
    exact (isPermission_chars (List.all_eq_true.mp hrs r hr)).1 hchs
  by_cases hps : ps = []
  · subst hps
    exact (hnil hq h.symm).symm
  · by_cases hqs : qs = []
    · subst hqs
      exact hnil hp h
    · have hmaps : ps.map String.toList = qs.map String.toList := by
        rw [← hspl hp hps, h, hspl hq hqs]
      exact List.map_injective_iff.mpr (fun _ _ => String.toList_inj.mp) hmaps

theorem clean_joined {ps : List String} (hp : ps.all isPermission = true) :
    '\n' ∉ [','].intercalate (ps.map String.toList) := by
  induction ps with
  | nil => decide
  | cons p ps ih =>
    obtain ⟨hhead, htail⟩ := Bool.and_eq_true_iff.mp hp
    have hcln := (isPermission_chars hhead).2.1
    cases ps with
    | nil => rwa [List.map_singleton, List.intercalate_singleton]
    | cons q qs =>
      rw [List.map_cons, List.map_cons, List.intercalate_cons_cons]
      intro hmem
      rcases List.mem_append.mp hmem with hmem | hmem
      · rcases List.mem_append.mp hmem with hmem | hmem
        · exact hcln hmem
        · exact absurd hmem (by decide)
      · exact ih htail hmem

theorem utf8_inj {s t : String} (h : utf8 s = utf8 t) : s = t :=
  String.toByteArray_inj.mp (ByteArray.ext (Array.toList_inj.mp h))

theorem canonical_headerValue (header : String × String) :
    canonical (headerValue header) =
      .object [("name", .string header.1), ("value", .string header.2)] := by
  have hle : utf16Le "name" "value" = true := by decide
  simp [headerValue, canonical, canonicalFields, sortByKey, hle]

theorem canonicalItems_headers : ∀ {hs ks : List (String × String)},
    canonicalItems (hs.map headerValue) = canonicalItems (ks.map headerValue) → hs = ks := by
  intro hs
  induction hs with
  | nil =>
    intro ks h
    cases ks with
    | nil => rfl
    | cons k ks => exact absurd h (by simp [canonicalItems])
  | cons header hs ih =>
    intro ks h
    cases ks with
    | nil => exact absurd h (by simp [canonicalItems])
    | cons k ks =>
      simp only [List.map_cons, canonicalItems, canonical_headerValue] at h
      obtain ⟨hobject, hrest⟩ := List.cons.inj h
      have hmems := Json.object.inj hobject
      simp only [List.cons.injEq, Prod.mk.injEq, Json.string.injEq, true_and, and_true] at hmems
      rw [ih hrest, Prod.ext hmems.1 hmems.2]

theorem headers_inj {hs ks : List (String × String)}
    (h : canonicalHeaders hs = canonicalHeaders ks) : hs = ks := by
  have htext := utf8_inj (Base64Url.encode_injective h)
  exact canonicalItems_headers (Json.array.inj (stableJson_eq_iff.mp htext))

theorem clean_canonicalHeaders (headers : List (String × String)) :
    '\n' ∉ canonicalHeaders headers := fun hmem =>
  absurd (Base64Url.mem_encode hmem) (by decide)

theorem clean_orDash {i : Option String} (hi : i.all isOptionalId = true) : '\n' ∉ orDash i := by
  cases i with
  | none => decide
  | some s => exact clean_of_allIn (by decide) hi

end Values

/-! ## The payload -/

/-- What valid claims have in their lines, the address apart. -/
structure Delegable (c : DelegationClaims) : Prop where
  keyId : isKeyId c.keyId = true
  requestId : isCanonicalUuid c.requestId = true
  target : isCanonicalUuid c.targetInstallationId = true
  issuer : isCanonicalUuid c.issuerInstallationId = true
  nonce : isNonce c.nonce = true
  subject : isSubject c.subject = true
  actorKind : operatorKinds.contains c.actorKind = true
  role : operatorRoles.contains c.role = true
  actionId : isActionId c.actionId = true
  permissions : c.permissions.all isPermission = true
  operationId : c.operationId.all isOptionalId = true
  idempotencyId : c.idempotencyId.all isOptionalId = true

theorem assertDelegationClaims_delegable {H : VerifierHost} {c : DelegationClaims}
    (h : assertDelegationClaims H c = true) : Delegable c := by
  simp only [assertDelegationClaims, sharedClaimsHold, Bool.and_eq_true] at h
  grind [Delegable]

section Payload

variable {c c' : DelegationClaims} {b b' : DelegationRequestBinding}

theorem clean_line {name : String} {value : List Char} (hname : Clean name)
    (hval : '\n' ∉ value) : '\n' ∉ line (name, value) := by
  intro hmem
  rcases List.mem_append.mp hmem with hmem | hmem
  · exact hname hmem
  · exact hval hmem

theorem clean_front (hc : Delegable c) : ∀ l ∈ (frontFields c).map line, '\n' ∉ l := by
  have hkinds : ∀ t ∈ operatorKinds, Clean t := by decide
  intro l hl
  simp only [frontFields, List.map_cons, List.map_nil, List.mem_cons, List.not_mem_nil,
    or_false] at hl
  rcases hl with rfl | rfl | rfl | rfl | rfl | rfl | rfl | rfl | rfl | rfl | rfl
  · exact clean_line (by decide) List.not_mem_nil
  · exact clean_line (by decide) (clean_isKeyId hc.keyId)
  · exact clean_line (by decide) (clean_integerText _)
  · exact clean_line (by decide) (clean_integerText _)
  · exact clean_line (by decide) (clean_of_allIn (by decide) hc.nonce)
  · exact clean_line (by decide) (clean_isCanonicalUuid hc.requestId)
  · exact clean_line (by decide) (clean_isCanonicalUuid hc.target)
  · exact clean_line (by decide) (clean_isActionId hc.actionId)
  · exact clean_line (by decide) (clean_of_contains hkinds hc.actorKind)
  · exact clean_line (by decide) (clean_isCanonicalUuid hc.issuer)
  · exact clean_line (by decide) (clean_of_allIn (by decide) hc.subject)

theorem clean_back (hc : Delegable c) (hb : isRequest b = true) :
    ∀ l ∈ (backFields c b).map line, '\n' ∉ l := by
  have hroles : ∀ t ∈ operatorRoles, Clean t := by decide
  have hmethods : ∀ t ∈ METHODS, Clean t := by decide
  simp only [isRequest, allOf, Bool.and_eq_true] at hb
  obtain ⟨⟨⟨hmeth, -⟩, htgt⟩, hbody⟩ := hb
  intro l hl
  simp only [backFields, List.map_cons, List.map_nil, List.mem_cons, List.not_mem_nil,
    or_false] at hl
  rcases hl with rfl | rfl | rfl | rfl | rfl | rfl | rfl | rfl | rfl
  · exact clean_line (by decide) (clean_of_contains hroles hc.role)
  · exact clean_line (by decide) (clean_joined hc.permissions)
  · exact clean_line (by decide) (clean_integerText _)
  · exact clean_line (by decide) (clean_orDash hc.operationId)
  · exact clean_line (by decide) (clean_orDash hc.idempotencyId)
  · exact clean_line (by decide) (clean_of_contains hmethods hmeth)
  · exact clean_line (by decide) (clean_of_all (by decide) htgt.2)
  · exact clean_line (by decide) (clean_canonicalHeaders _)
  · exact clean_line (by decide) (clean_of_allIn (by decide) hbody)

theorem line_inj {name : String} {value value' : List Char}
    (h : line (name, value) = line (name, value')) : value = value' := by
  unfold line at h
  exact List.append_cancel_left h

theorem frontFields_inj (h : (frontFields c).map line = (frontFields c').map line) :
    c.keyId = c'.keyId ∧ c.issuedAt = c'.issuedAt ∧ c.expiresAt = c'.expiresAt ∧
      c.nonce = c'.nonce ∧ c.requestId = c'.requestId ∧
      c.targetInstallationId = c'.targetInstallationId ∧ c.actionId = c'.actionId ∧
      c.actorKind = c'.actorKind ∧ c.issuerInstallationId = c'.issuerInstallationId ∧
      c.subject = c'.subject := by
  simp only [frontFields, List.map_cons, List.map_nil, List.cons.injEq, true_and, and_true] at h
  obtain ⟨h₁, h₂, h₃, h₄, h₅, h₆, h₇, h₈, h₉, h₁₀⟩ := h
  exact ⟨String.toList_inj.mp (line_inj h₁), integerText_inj (line_inj h₂),
    integerText_inj (line_inj h₃), String.toList_inj.mp (line_inj h₄),
    String.toList_inj.mp (line_inj h₅), String.toList_inj.mp (line_inj h₆),
    String.toList_inj.mp (line_inj h₇), String.toList_inj.mp (line_inj h₈),
    String.toList_inj.mp (line_inj h₉), String.toList_inj.mp (line_inj h₁₀)⟩

theorem backFields_inj (hc : Delegable c) (hc' : Delegable c')
    (h : (backFields c b).map line = (backFields c' b').map line) :
    (c.role = c'.role ∧ c.permissions = c'.permissions ∧
      c.principalVersion = c'.principalVersion ∧ c.operationId = c'.operationId ∧
      c.idempotencyId = c'.idempotencyId) ∧ b = b' := by
  simp only [backFields, List.map_cons, List.map_nil, List.cons.injEq, and_true] at h
  obtain ⟨h₁, h₂, h₃, h₄, h₅, h₆, h₇, h₈, h₉⟩ := h
  refine ⟨⟨String.toList_inj.mp (line_inj h₁),
    joined_inj hc.permissions hc'.permissions (line_inj h₂), integerText_inj (line_inj h₃), identifier_inj hc.operationId hc'.operationId (line_inj h₄),
    identifier_inj hc.idempotencyId hc'.idempotencyId (line_inj h₅)⟩, ?_⟩
  have hmeth := String.toList_inj.mp (line_inj h₆)
  have htgt := String.toList_inj.mp (line_inj h₇)
  have hhdr := headers_inj (line_inj h₈)
  have hbody := String.toList_inj.mp (line_inj h₉)
  cases b
  cases b'
  simp_all

/-- **Claims and a binding are determined by the bytes they are signed as.** -/
theorem payload_injective (H : VerifierHost) {payload : List UInt8}
    (h : buildDelegationPayload H c b = .ok payload)
    (h' : buildDelegationPayload H c' b' = .ok payload) : c = c' ∧ b = b' := by
  obtain ⟨hclaims, hreq, -, htext⟩ := buildDelegationPayload_ok.mp h
  obtain ⟨hcls', hreq', -, htext'⟩ := buildDelegationPayload_ok.mp h'
  have hc := assertDelegationClaims_delegable hclaims
  have hc' := assertDelegationClaims_delegable hcls'
  have hsame : payloadText c b = payloadText c' b' :=
    String.ofList_inj.mp (utf8_inj (htext.symm.trans htext'))
  have hlines := List.append_cancel_right hsame
  simp only [payloadFields, List.map_append, List.map_cons] at hlines
  obtain ⟨hfro, hip, hback⟩ := lines_eq (clean_front hc) (clean_front hc')
    (clean_back hc hreq) (clean_back hc' hreq') (by simp [frontFields])
    (by simp [backFields]) hlines
  have haddress := String.toList_inj.mp (line_inj hip)
  obtain ⟨hrest, hbinding⟩ := backFields_inj hc hc' hback
  refine ⟨?_, hbinding⟩
  have hfirst := frontFields_inj hfro
  cases c
  cases c'
  simp_all

end Payload

/-! ## A request for the list of sites -/

namespace SampleEnvelope

/-- A target that knows one address. -/
def host : VerifierHost where
  isIP address := address == "203.0.113.7"
  parseDelegationClaims _ := none
  delegationBytes _ := ""
  delegationSigned _ _ _ _ := .ok false
  parseChannelClaims _ := none
  channelBytes _ := ""
  channelSigned _ _ _ := false
  actionPolicy _ _ _ := .error ⟨.refused, ""⟩
  channelPolicy _ _ _ := .error ⟨.refused, ""⟩

def claims : DelegationClaims where
  keyId := "ed25519-AAAAAAAAAAAAAAAAAAAAAA"
  issuedAt := 1700000000
  expiresAt := 1700000060
  nonce := "BBBBBBBBBBBBBBBBBBBBBBBBBBBBBBBB"
  requestId := "00000000-0000-4000-8000-000000000001"
  targetInstallationId := "00000000-0000-4000-8000-000000000002"
  actionId := "sites.list"
  actorKind := "OPERATOR"
  issuerInstallationId := "00000000-0000-4000-8000-000000000003"
  subject := "operator-1"
  browserIp := "203.0.113.7"
  role := "ADMIN"
  permissions := ["sites.read", "sites.write"]
  principalVersion := 1
  operationId := none
  idempotencyId := some "request-1"

def binding : DelegationRequestBinding where
  method := "GET"
  targetPathAndQuery := "/api/sites?page=2"
  headers := [("accept", "application/json"), ("content-type", "application/json")]
  bodySha256 := "e3b0c44298fc1c149afbf4c8996fb92427ae41e4649b934ca495991b7852b855"

end SampleEnvelope

open SampleEnvelope in
theorem payload_injective_sites :
    ∃ payload, buildDelegationPayload host claims binding = .ok payload ∧
      ∀ c b, buildDelegationPayload host c b = .ok payload → claims = c ∧ binding = b := by
  have hbuilt : buildDelegationPayload host claims binding =
      .ok (utf8 (String.ofList (payloadText claims binding))) :=
    buildDelegationPayload_ok.mpr
      ⟨by decide +kernel, by decide +kernel, by decide +kernel, rfl⟩
  exact ⟨_, hbuilt, fun c b h => payload_injective host hbuilt h⟩

end Meowbox.Federation
