import Meowbox.Sites.Store

/-!
# Hostnames

`canonicalizeHostname` of `api/src/sites/domain-validation.ts` and the claims of
`api/src/sites/hostname-registry.ts`: one `CANONICAL` claim for a domain and one `ALIAS` claim for
each of its aliases. `Host` is what the services use of Node; `Host.Lawful` says of it what the
results need: lower-casing leaves host characters alone, `domainToASCII` leaves its results alone, and
`randomUUID` does not repeat itself.

* `canonicalizeHostname_idem`: a canonical hostname is its own canonical form.
-/

namespace Meowbox.Sites

open JsData Operations

/-- What the services use of their host: of Node, of the cipher and of the texts in `shared`. -/
structure Host where
  toLowerCase : String → String
  domainToASCII : String → String
  /-- The values of `randomUUID`, in the order in which they are drawn. -/
  uuid : Nat → String
  /-- A value of `randomBytes`, likewise. -/
  secret : Nat → String
  sha256 : String → String
  hashPassword : String → String
  encrypt : String → String
  decrypt : String → Option String
  redactSensitiveText : String → Nat → String
  initialCustomConfigFor : Preset → String

/-- `[a-z0-9]`. -/
def isAlphanumeric (c : Char) : Bool := isLowerAscii c || isDigitAscii c

/-- `[a-z0-9-]`. -/
def isLabelChar (c : Char) : Bool := isAlphanumeric c || c == '-'

/-- What the host is relied on for. -/
structure Host.Lawful (H : Host) : Prop where
  lower : ∀ s : String, (∀ c ∈ s.toList, isLabelChar c = true ∨ c = '.') → H.toLowerCase s = s
  ascii : ∀ s, H.domainToASCII (H.domainToASCII s) = H.domainToASCII s
  fresh : Function.Injective H.uuid

/-- A host for plain lower-case text. -/
def plainHost : Host where
  toLowerCase s := String.ofList (s.toList.map Char.toLower)
  domainToASCII s := s
  uuid n := String.ofList (List.replicate n '0')
  secret _ := "secret"
  sha256 s := s
  hashPassword s := s
  encrypt s := s
  decrypt s := some s
  initialCustomConfigFor _ := ""
  redactSensitiveText s maxLength := String.ofList (s.toList.take (max 1 maxLength))

theorem toLower_hostChar {c : Char} (h : isLabelChar c = true ∨ c = '.') : c.toLower = c := by
  refine dif_neg fun hupper => ?_
  rcases h with hlabel | rfl
  · simp only [isLabelChar, isAlphanumeric, isLowerAscii, isDigitAscii, Bool.or_eq_true,
      Bool.and_eq_true, decide_eq_true_eq, beq_iff_eq, Char.le_def, UInt32.le_iff_toNat_le]
      at hlabel
    simp only [ge_iff_le, UInt32.le_iff_toNat_le] at hupper
    have hA : 'A'.val.toNat = 65 := rfl
    have hZ : 'Z'.val.toNat = 90 := rfl
    have ha : 'a'.val.toNat = 97 := rfl
    have h9 : '9'.val.toNat = 57 := rfl
    rcases hlabel with (hletter | hdig) | rfl
    · omega
    · omega
    · revert hupper
      decide
  · revert hupper
    decide

theorem plainHost_lawful : plainHost.Lawful where
  lower s h := by
    have hmap : s.toList.map Char.toLower = s.toList :=
      (List.map_congr_left fun c hc => toLower_hostChar (h c hc)).trans (List.map_id _)
    simp only [plainHost, hmap, String.ofList_toList]
  ascii _ := rfl
  fresh m n h := by
    have hlen := congrArg List.length (String.ofList_injective h)
    simpa using hlen

/-! ## `canonicalizeHostname` -/

def HOSTNAME_MAX_LENGTH : Nat := 253
def LABEL_MAX_LENGTH : Nat := 63

/-- `s.replace(/\.$/, '')`. -/
def dropFinalDot (s : List Char) : List Char := if s.getLast? = some '.' then s.dropLast else s

/-- `[\u0000-\u001f\u007f]`. -/
def isControl (c : Char) : Bool := decide (c.toNat ≤ 0x1f) || c.toNat == 0x7f

/-- A label: 1 to 63 characters of `[a-z0-9-]`, the first and the last of `[a-z0-9]`. -/
def isLabel (label : List Char) : Bool :=
  label.all isLabelChar && label.head?.any isAlphanumeric && label.getLast?.any isAlphanumeric &&
    decide (label.length ≤ LABEL_MAX_LENGTH)

/-- The checks on the name `domainToASCII` returns. -/
def isHostname (ascii : List Char) : Bool :=
  decide (ascii.length ≤ HOSTNAME_MAX_LENGTH) && decide (2 ≤ (ascii.splitOn '.').length) &&
    (ascii.splitOn '.').all isLabel

/-- `canonicalizeHostname`; `none` for `Invalid hostname`. -/
def canonicalizeHostname (H : Host) (input : String) : Option String :=
  let trimmed := dropFinalDot (H.toLowerCase (trim input)).toList
  if trimmed = [] ∨ trimmed.any (fun c => isControl c || c == '*') = true then none
  else
    let ascii := H.domainToASCII (String.ofList trimmed)
    if isHostname ascii.toList then some ascii else none

/-! ### Canonical hostnames -/

/-- A character of a hostname. -/
def isHostChar (c : Char) : Bool := isLabelChar c || c == '.'

theorem mem_splitOn {l : List Char} {c : Char} (h : c ∈ l) :
    c = '.' ∨ ∃ label ∈ l.splitOn '.', c ∈ label := by
  induction l with
  | nil => exact absurd h List.not_mem_nil
  | cons x xs ih =>
    rw [List.splitOn_cons_eq_if_modifyHead]
    obtain ⟨first, rest, hspl⟩ := List.exists_cons_of_ne_nil (List.splitOn_ne_nil '.' xs)
    rw [hspl] at ih ⊢
    by_cases hx : x = '.'
    · rcases List.mem_cons.mp h with rfl | hc
      · exact .inl hx
      · rcases ih hc with hdot | ⟨label, hlabel, hmem⟩
        · exact .inl hdot
        · refine .inr ⟨label, ?_, hmem⟩
          rw [if_pos (by simpa using hx)]
          exact List.mem_cons_of_mem _ hlabel
    · rw [if_neg (by simpa using hx), List.modifyHead_cons]
      rcases List.mem_cons.mp h with rfl | hc
      · exact .inr ⟨_, List.mem_cons_self, List.mem_cons_self⟩
      · rcases ih hc with hdot | ⟨label, hlabel, hmem⟩
        · exact .inl hdot
        · rcases List.mem_cons.mp hlabel with rfl | hrest
          · exact .inr ⟨_, List.mem_cons_self, List.mem_cons_of_mem x hmem⟩
          · exact .inr ⟨label, List.mem_cons_of_mem _ hrest, hmem⟩

theorem isHostname_chars {l : List Char} (h : isHostname l = true) :
    ∀ c ∈ l, isHostChar c = true := by
  intro c hc
  rw [isHostname, Bool.and_eq_true, List.all_eq_true] at h
  rcases mem_splitOn hc with rfl | ⟨label, hlabel, hmem⟩
  · decide
  · have hall := h.2 label hlabel
    simp only [isLabel, Bool.and_eq_true, List.all_eq_true] at hall
    rw [isHostChar, Bool.or_eq_true]
    exact .inl (hall.1.1.1 c hmem)

/-- The last label of a hostname is not empty. -/
theorem isHostname_final {l : List Char} (h : isHostname l = true) : dropFinalDot l = l := by
  refine if_neg fun hlast => ?_
  obtain ⟨front, rfl⟩ := List.getLast?_eq_some_iff.mp hlast
  rw [isHostname, Bool.and_eq_true, List.all_eq_true, List.splitOn_append_cons_self] at h
  have hempty := h.2 [] (List.mem_append_right _ (by simp))
  exact absurd hempty (by decide)

theorem isHostname_ne_nil {l : List Char} (h : isHostname l = true) : l ≠ [] := by
  rintro rfl
  exact absurd h (by decide)

theorem isHostChar_plain {c : Char} (h : isHostChar c = true) :
    isJsSpace c = false ∧ (isControl c || c == '*') = false := by
  have hrange : c = '-' ∨ c = '.' ∨ (0x30 ≤ c.toNat ∧ c.toNat ≤ 0x39) ∨
      (0x61 ≤ c.toNat ∧ c.toNat ≤ 0x7a) := by
    simp only [isHostChar, isLabelChar, isAlphanumeric, isLowerAscii, isDigitAscii, Bool.or_eq_true,
      Bool.and_eq_true, decide_eq_true_eq, beq_iff_eq, Char.le_def, UInt32.le_iff_toNat_le] at h
    rcases h with ((⟨hlo, hhi⟩ | ⟨hlo, hhi⟩) | hdash) | hdot
    · exact .inr (.inr (.inr ⟨hlo, hhi⟩))
    · exact .inr (.inr (.inl ⟨hlo, hhi⟩))
    · exact .inl hdash
    · exact .inr (.inl hdot)
  rcases hrange with rfl | rfl | ⟨hlo, hhi⟩ | ⟨hlo, hhi⟩
  · decide
  · decide
  · have hstar : c ≠ '*' := by
      rintro rfl
      exact absurd hlo (by decide)
    simp only [isJsSpace, isControl, Bool.or_eq_false_iff, Bool.and_eq_false_iff,
      decide_eq_false_iff_not, beq_eq_false_iff_ne]
    exact ⟨by omega, by omega, hstar⟩
  · have hstar : c ≠ '*' := by
      rintro rfl
      exact absurd hlo (by decide)
    simp only [isJsSpace, isControl, Bool.or_eq_false_iff, Bool.and_eq_false_iff,
      decide_eq_false_iff_not, beq_eq_false_iff_ne]
    exact ⟨by omega, by omega, hstar⟩

variable {H : Host}

/-- **A canonical hostname is its own canonical form.** -/
theorem canonicalizeHostname_idem (hH : H.Lawful) {input hostname : String}
    (h : canonicalizeHostname H input = some hostname) :
    canonicalizeHostname H hostname = some hostname := by
  simp only [canonicalizeHostname] at h
  split at h
  · exact absurd h (by simp)
  · split at h
    · rename_i hval
      have hasc := Option.some.inj h
      rw [hasc] at hval
      have hchs := isHostname_chars hval
      have hpl : ∀ c ∈ hostname.toList, isJsSpace c = false := fun c hc =>
        (isHostChar_plain (hchs c hc)).1
      have hlower : H.toLowerCase hostname = hostname := by
        refine hH.lower hostname fun c hc => ?_
        simpa [isHostChar] using hchs c hc
      have hfix : H.domainToASCII hostname = hostname := by
        rw [← hasc, hH.ascii]
      have hok : ¬ (hostname.toList = [] ∨
          hostname.toList.any (fun c => isControl c || c == '*') = true) := by
        rintro (hnil | hany)
        · exact isHostname_ne_nil hval hnil
        · obtain ⟨c, hc, hbad⟩ := List.any_eq_true.mp hany
          rw [(isHostChar_plain (hchs c hc)).2] at hbad
          exact absurd hbad (by simp)
      simp only [canonicalizeHostname, trim_of_plain hpl, hlower, isHostname_final hval,
        if_neg hok, String.ofList_toList, hfix, if_pos hval]
    · exact absurd h (by simp)

/-! ## The registry -/

def HOSTNAME_REGISTRY_LOCK : String := "hostname-registry"

/-- `Error('Invalid hostname')`. -/
def invalidHostname : Fault := .error "Invalid hostname"

structure HostnameClaimInput where
  siteDomainId : String
  domain : String
  aliases : List SiteAlias

/-- The hostnames of the aliases behind those taken already. -/
def aliasHostnames (H : Host) (domain : String) :
    List String → List SiteAlias → Except Fault (List String)
  | _, [] => .ok []
  | taken, a :: rest =>
    match canonicalizeHostname H a.domain with
    | none => .error invalidHostname
    | some hostname =>
      if hostname = domain then
        .error (.conflict ("Hostname \"" ++ hostname ++
          "\" cannot be both a canonical domain and an alias") none)
      else if hostname ∈ taken then
        .error (.conflict ("Duplicate hostname \"" ++ hostname ++ "\"") none)
      else (aliasHostnames H domain (hostname :: taken) rest).map fun hostnames =>
        hostname :: hostnames

/-- `hostnameClaims`. -/
def hostnameClaims (H : Host) (input : HostnameClaimInput) : Except Fault (List HostnameClaim) :=
  match canonicalizeHostname H input.domain with
  | none => .error invalidHostname
  | some domain => (aliasHostnames H domain [] input.aliases).map fun hostnames =>
    ⟨domain, input.siteDomainId, .canonical⟩ ::
      hostnames.map fun hostname => ⟨hostname, input.siteDomainId, .alias⟩

/-- A domain name and aliases in canonical form. -/
def CanonicalNames (H : Host) (domain : String) (aliases : List SiteAlias) : Prop :=
  canonicalizeHostname H domain = some domain ∧
    ∀ a ∈ aliases, canonicalizeHostname H a.domain = some a.domain

end Meowbox.Sites
