import Meowbox.Federation.Envelope
import Meowbox.Federation.RequestTarget

/-!
# Dispatching a control request

Model of `api/src/federation/delegation-headers.ts`, of `assertDelegatedActionPolicy`
(`federation-action-policy.ts`) and of `dispatchAs` (`federation-dispatcher.service.ts`): what the
master admits of a request at its edge, the claims it signs about it, and what the caller is told
when that fails. What lies behind the signature, the exchange with the target, is a function.

* `edge_signed`: what the edge admits, the envelope accepts, the idempotency key apart.
* **`admitted_signed`**: an admitted request is signed exactly when its key is in the alphabet of
  the envelope, and what the master keeps is in order; with a key beyond it, the target is offline.
* `slashed_key_offline`: a key with a slash, which the edge admits.
-/

namespace Meowbox.FederationDispatch

open JsData JsonText Federation Actions RequestTarget

/-! ## What is thrown -/

inductive DelegationInputCode
  | invalidHeader
  | duplicateHeader
  | compressedBodyUnsupported
  | bodyTooLarge
  | bodyNotAllowed
  | invalidContentType
  | invalidJsonBody
  | idempotencyKeyRequired
  | invalidIdempotencyKey
deriving DecidableEq

def DelegationInputCode.text : DelegationInputCode → String
  | invalidHeader => "INVALID_HEADER"
  | duplicateHeader => "DUPLICATE_HEADER"
  | compressedBodyUnsupported => "COMPRESSED_BODY_UNSUPPORTED"
  | bodyTooLarge => "BODY_TOO_LARGE"
  | bodyNotAllowed => "BODY_NOT_ALLOWED"
  | invalidContentType => "INVALID_CONTENT_TYPE"
  | invalidJsonBody => "INVALID_JSON_BODY"
  | idempotencyKeyRequired => "IDEMPOTENCY_KEY_REQUIRED"
  | invalidIdempotencyKey => "INVALID_IDEMPOTENCY_KEY"

/-- `FederationActionPolicyError` and `FederationPrincipalError`. -/
inductive PolicyCode
  | actionUnknown
  | actorKindDenied
  | roleDenied
  | roleCeilingExceeded
  | permissionDenied
  | idempotencyBindingMismatch
  | invalidIdentity
  | policyInvalid
deriving DecidableEq

def PolicyCode.text : PolicyCode → String
  | actionUnknown => "ACTION_UNKNOWN"
  | actorKindDenied => "ACTOR_KIND_DENIED"
  | roleDenied => "ROLE_DENIED"
  | roleCeilingExceeded => "ROLE_CEILING_EXCEEDED"
  | permissionDenied => "PERMISSION_DENIED"
  | idempotencyBindingMismatch => "IDEMPOTENCY_BINDING_MISMATCH"
  | invalidIdentity => "INVALID_IDENTITY"
  | policyInvalid => "POLICY_INVALID"

def targetCodeText : ExactRequestTargetCode → String
  | .invalidServerId => "INVALID_SERVER_ID"
  | .invalidRequestTarget => "INVALID_REQUEST_TARGET"
  | .requestTargetTooLarge => "REQUEST_TARGET_TOO_LARGE"
  | .requestTargetMismatch => "REQUEST_TARGET_MISMATCH"
  | .unsafePath => "UNSAFE_PATH"

/-- An error; the last two are those of the envelope, which throws one code here, and those of the
platform and the network. -/
inductive Thrown
  | plain (message : String)
  | input (code : DelegationInputCode) (message : String)
  | policy (code : PolicyCode) (message : String)
  | target (error : ExactRequestTargetError)
  | assertion (message : String)
  | foreign (code name : String)
deriving DecidableEq

/-- `String(error.code)`, or nothing. -/
def Thrown.code : Thrown → String
  | plain _ => ""
  | input code _ => code.text
  | policy code _ => code.text
  | target error => targetCodeText error.code
  | assertion _ => "INVALID_CLAIMS"
  | foreign code _ => code

/-- `error.name`, where it is looked at. -/
def Thrown.name : Thrown → String
  | foreign _ name => name
  | _ => ""

/-- `FederationErrorCode`, as far as the dispatcher uses it. -/
inductive FederationErrorCode
  | disabled
  | offline
  | dnsFailed
  | tlsFailed
  | connectTimeout
  | headerTimeout
  | idleTimeout
  | aborted
  | authFailed
  | actionUnknown
  | permissionDenied
  | notReady
  | policyBlocked
deriving DecidableEq

/-- `transportErrorCode`, of the code and the name of an error. -/
def errorCodeOf (code name : String) : FederationErrorCode :=
  let among := fun words : List String =>
    words.any fun word => containsWord word.toList code.toList
  if code == "UND_ERR_CONNECT_TIMEOUT" then .connectTimeout
  else if code == "UND_ERR_HEADERS_TIMEOUT" then .headerTimeout
  else if code == "UND_ERR_BODY_TIMEOUT" then .idleTimeout
  else if among ["cert", "tls", "ssl", "self_signed", "altname"] then .tlsFailed
  else if among ["enotfound", "eai_again", "dns"] then .dnsFailed
  else if name == "AbortError" then .aborted
  else .offline

def transportErrorCode (error : Thrown) : FederationErrorCode := errorCodeOf error.code error.name

structure FederationErrorContract where
  code : FederationErrorCode
  message : String
  requestId : String
  targetInstallationId : String
  actionId : Option String
  retryable : Bool
deriving DecidableEq

def retryableCodes : List FederationErrorCode :=
  [.offline, .dnsFailed, .connectTimeout, .headerTimeout, .idleTimeout]

def errorContract (code : FederationErrorCode) (requestId targetInstallationId : String)
    (actionId : Option String) (message : String) : FederationErrorContract :=
  ⟨code, message, requestId, targetInstallationId, actionId, retryableCodes.contains code⟩

/-- `FederationDispatchError`. -/
structure FederationDispatchError where
  contract : FederationErrorContract
  httpStatus : Nat
deriving DecidableEq

/-- What leaves the `try` block: an answer of its own, or anything else. -/
inductive Failure
  | dispatch (error : FederationDispatchError)
  | thrown (error : Thrown)
deriving DecidableEq

/-! ## The edge -/

def MAX_CONTROL_BODY_BYTES : Nat := 1024 * 1024

def ALLOWED_HEADERS : List String :=
  ["accept", "accept-language", "content-type", "idempotency-key", "if-match",
    "if-modified-since", "if-none-match", "if-range", "if-unmodified-since", "range"]

/-- ``[!#$%&'*+.^_`|~0-9A-Za-z-]+``. -/
def isHeaderName (name : String) : Bool :=
  allOf (fun c => isAlnum c || "!#$%&'*+.^_`|~-".toList.contains c) name

def throwInput {α : Type} (code : DelegationInputCode) (message : String) : Except Thrown α :=
  .error (.input code message)

def rawHeaderPairs : List String → Except Thrown (List (String × String))
  | [] => .ok []
  | [_] => throwInput .invalidHeader "Raw header list is malformed"
  | name :: value :: rest => (rawHeaderPairs rest).map ((name, value) :: ·)

/-- `toLowerCase`, of ASCII, or against an ASCII word without `k`. -/
def lower (s : String) : String := String.ofList (s.toList.map Char.toLower)

/-- The loop: `seen` are the names so far. -/
def collectHeaders (seen : List String) :
    List (String × String) → Except Thrown (List (String × String))
  | [] => .ok []
  | (rawName, rawValue) :: pairs =>
    let name := lower rawName
    let value := trim rawValue
    if !isHeaderName rawName || rawValue.toList.any isControl then
      throwInput .invalidHeader "Federation request contains an invalid header"
    else if seen.contains name then
      throwInput .duplicateHeader "Federation request contains a duplicate header"
    else if name == "content-encoding" then
      if lower value != "identity" then
        throwInput .compressedBodyUnsupported
          "Signed control requests do not accept compressed bodies"
      else collectHeaders (name :: seen) pairs
    else if !ALLOWED_HEADERS.contains name then collectHeaders (name :: seen) pairs
    else if !allOf isPrintable value then
      throwInput .invalidHeader "Federation allowlisted header has an invalid value"
    else (collectHeaders (name :: seen) pairs).map ((name, value) :: ·)

/-- `left.name.localeCompare(right.name) <= 0`; on the allowed names, letters and dashes, that is
the order of their characters. -/
def NameLe (left right : String × String) : Prop := ¬ right.1 < left.1

instance (left right : String × String) : Decidable (NameLe left right) :=
  inferInstanceAs (Decidable (¬ right.1 < left.1))

def canonicalizeFederationHeaders (pairs : List (String × String)) :
    Except Thrown (List (String × String)) :=
  (collectHeaders [] pairs).map (List.insertionSort NameLe)

def canonicalHeaderValue (headers : List (String × String)) (name : String) : Option String :=
  headers.lookup name

/-- `createHash('sha256').update(body).digest('hex')`. -/
def sha256Body (sha256 : List UInt8 → Vector UInt8 32) (body : List UInt8) : String :=
  String.ofList ((sha256 body).toList.flatMap fun b =>
    [hexDigit (b.toNat / 16), hexDigit (b.toNat % 16)])

/-- `/^application\/json(?:\s*;\s*charset=utf-8)?$/i`. -/
def isJsonContentType (value : String) : Bool :=
  let media := "application/json".toList
  let text := value.toList.map Char.toLower
  media.isPrefixOf text &&
    match text.drop media.length with
    | [] => true
    | rest =>
      match rest.dropWhile isJsSpace with
      | ';' :: parameter => parameter.dropWhile isJsSpace == "charset=utf-8".toList
      | _ => false

/-- `IDEMPOTENCY_KEY`. -/
def isIdempotencyKey (key : String) : Bool := allIn isGraphicAscii 8 128 key

structure ControlRequest where
  bodySha256 : String
  idempotencyKey : Option String
deriving DecidableEq

/-- The platform, and what the outside answers. -/
structure DispatchHost where
  toUpperCase : String → String
  toUpperCase_idem : ∀ s, toUpperCase (toUpperCase s) = toUpperCase s
  /-- The path and the query of `new URL(…)`. -/
  serialized : List Char → List Char
  /-- `TextDecoder` and `JSON.parse` of it go through. -/
  isJsonUtf8 : List UInt8 → Bool
  /-- `JSON.parse`. -/
  parseJson : String → Option JsValue
  sha256 : List UInt8 → Vector UInt8 32
  /-- `isIP` among them. -/
  verifier : VerifierHost

def validateGenericControlRequest (H : DispatchHost) (method : String)
    (headers : List (String × String)) (body : List UInt8) : Except Thrown ControlRequest := do
  let normalizedMethod := H.toUpperCase method
  let idempotencyKey := canonicalHeaderValue headers "idempotency-key"
  Failing.refuse (decide (MAX_CONTROL_BODY_BYTES < body.length))
    (.input .bodyTooLarge "Signed control request body exceeds 1 MiB")
  Failing.refuse (["GET", "HEAD"].contains normalizedMethod && !body.isEmpty)
    (.input .bodyNotAllowed "GET and HEAD federation requests cannot contain a body")
  Failing.refuse
    (!body.isEmpty && !(canonicalHeaderValue headers "content-type").any isJsonContentType)
    (.input .invalidContentType "Signed control request body must be JSON UTF-8")
  Failing.refuse (!body.isEmpty && !H.isJsonUtf8 body)
    (.input .invalidJsonBody "Signed control request body is not valid JSON UTF-8")
  Failing.refuse
    (!(["GET", "HEAD", "OPTIONS"].contains normalizedMethod) && (truthy idempotencyKey).isNone)
    (.input .idempotencyKeyRequired "Federated mutations require an idempotency key")
  Failing.refuse ((truthy idempotencyKey).any fun key => !isIdempotencyKey key)
    (.input .invalidIdempotencyKey "Idempotency key must be 8-128 printable ASCII characters")
  return ⟨sha256Body H.sha256 body, idempotencyKey⟩

/-! ## The policy -/

/-- The texts of an array. -/
def textsOf (value : JsValue) : List String :=
  (itemsOf value).filterMap fun item =>
    match item with
    | .string s => some s
    | _ => none

def rolesOf (descriptor : Fields) : List String :=
  textsOf (child (property descriptor "authorization") "roles")

def permissionsOf (descriptor : Fields) : List String :=
  textsOf (child (property descriptor "authorization") "permissions")

/-- `[...texts].sort()`. -/
def sorted (texts : List String) : List String := texts.insertionSort utf16Le

def sameStrings (left right : List String) : Bool :=
  "\x00".intercalate (sorted left) == "\x00".intercalate (sorted right)

def sameValue (left right : JsValue) : Bool :=
  match left, right with
  | .string s, .string t => s == t
  | .number m, .number n => m.text == n.text
  | _, _ => false

def isTrue (value : JsValue) : Bool :=
  match value with
  | .boolean b => b
  | _ => false

def federationCapabilityMatchesDescriptor (descriptor capability : Fields) : Bool :=
  let mine := property capability
  let deadline := child (property descriptor "deadline")
  sameValue (mine "actionId") (property descriptor "actionId") &&
    sameValue (mine "schemaVersion") (.number (JsonNumber.ofInt 1)) &&
    sameStrings (textsOf (mine "roles")) (rolesOf descriptor) &&
    sameStrings (textsOf (mine "permissions")) (permissionsOf descriptor) &&
    sameStrings (textsOf (mine "requestMedia"))
      (textsOf (child (property descriptor "request") "media")) &&
    sameStrings (textsOf (mine "responseMedia"))
      (textsOf (child (property descriptor "response") "media")) &&
    sameValue (mine "executionMode") (child (property descriptor "execution") "mode") &&
    sameValue (mine "idempotency") (child (property descriptor "idempotency") "policy") &&
    sameValue (mine "cancellation") (child (property descriptor "cancellation") "policy") &&
    sameValue (mine "connectMs") (deadline "connectMs") &&
    sameValue (mine "headersMs") (deadline "headersMs") &&
    sameValue (mine "idleMs") (deadline "idleMs") &&
    sameValue (mine "operationMs") (deadline "operationMs") &&
    match mine "legacySafe" with
    | .boolean b => !b
    | _ => false

def assertCapability (descriptor : Fields) (capability : Option Fields) (role : String) :
    Except Thrown Fields :=
  match capability with
  | some capability =>
    if isTrue (property capability "enabled") &&
        federationCapabilityMatchesDescriptor descriptor capability &&
        (textsOf (property capability "roles")).contains role &&
        (rolesOf descriptor).contains role then .ok capability
    else .error (.plain "Target capability does not match the local action catalogue")
  | none => .error (.plain "Target capability does not match the local action catalogue")

def throwPolicy {α : Type} (code : PolicyCode) (message : String) : Except Thrown α :=
  .error (.policy code message)

def OPERATOR_ROLE_RANK : List (String × Nat) := [("VIEWER", 1), ("MANAGER", 2), ("ADMIN", 3)]

/-- `parseFederationPermissions`. -/
def parseFederationPermissions (H : DispatchHost) (raw label : String) :
    Except Thrown (List String) :=
  match H.parseJson raw with
  | some (.array items) =>
    let permissions := textsOf (.array items)
    if decide (items.length ≤ 128) && permissions.length == items.length &&
        permissions.all isPermission && decide permissions.Nodup then .ok permissions
    else throwPolicy .policyInvalid (label ++ " is invalid")
  | _ => throwPolicy .policyInvalid (label ++ " is invalid")

def intersectFederationPermissions (asserted : List String) (policies : List (List String)) :
    Except Thrown (List String) :=
  if decide (asserted.length ≤ 64) && asserted.all isPermission && decide asserted.Nodup then
    .ok (sorted (asserted.filter fun permission =>
      policies.all fun policy => policy.contains permission))
  else throwPolicy .invalidIdentity "Federation permissions are invalid"

/-- The checks of the actor's kind and role. -/
def assertActor (descriptor : Fields) (claims : DelegationClaims) (issuerMaxRole : String) :
    Except Thrown Unit :=
  if (claims.actorKind == "SERVICE") != (rolesOf descriptor).contains "SERVICE" then
    throwPolicy .actorKindDenied "Delegated actor kind is not allowed for this action"
  else if claims.actorKind == "OPERATOR" then
    if claims.role == "SERVICE" || !(rolesOf descriptor).contains claims.role then
      throwPolicy .roleDenied "Delegated role is not allowed for this action"
    else
      match OPERATOR_ROLE_RANK.lookup issuerMaxRole with
      | none => throwPolicy .roleCeilingExceeded "Federation issuer role ceiling is invalid"
      | some ceilingRank =>
        if (OPERATOR_ROLE_RANK.lookup claims.role).any fun rank => ceilingRank < rank then
          throwPolicy .roleCeilingExceeded "Delegated role exceeds the issuer ceiling"
        else .ok ()
  else if claims.role != "SERVICE" then
    throwPolicy .roleDenied "Service delegation requires the service role"
  else .ok ()

def assertDelegatedActionPolicy (H : DispatchHost) (descriptor : Fields)
    (claims : DelegationClaims) (issuerMaxRole issuerPermissionPolicyJson : String)
    (idempotencyKey : Option String) : Except Thrown (List String) := do
  Failing.refuse (claims.actionId != idOf descriptor)
    (.policy .actionUnknown "Delegated action does not match the catalogue")
  assertActor descriptor claims issuerMaxRole
  let issuerPolicy ← parseFederationPermissions H issuerPermissionPolicyJson
    "Federation issuer permission policy"
  let effective ← intersectFederationPermissions claims.permissions
    [issuerPolicy, permissionsOf descriptor]
  Failing.refuse (effective.length != (permissionsOf descriptor).length ||
      !(permissionsOf descriptor).all fun permission => effective.contains permission)
    (.policy .permissionDenied "Delegated permissions do not satisfy the action policy")
  Failing.refuse (claims.idempotencyId != idempotencyKey)
    (.policy .idempotencyBindingMismatch
      "Delegation idempotency binding does not match the request header")
  return effective

/-! ## `dispatchAs` -/

inductive MasterRole
  | admin
  | manager
  | viewer
deriving DecidableEq

def MasterRole.text : MasterRole → String
  | admin => "ADMIN"
  | manager => "MANAGER"
  | viewer => "VIEWER"

/-- `MasterDelegatedActor`. -/
inductive MasterDelegatedActor
  | operator (subject : String) (role : MasterRole)
  | service (subject : String)
deriving DecidableEq

namespace MasterDelegatedActor

def kind : MasterDelegatedActor → String
  | operator _ _ => "OPERATOR"
  | service _ => "SERVICE"

def subject : MasterDelegatedActor → String
  | operator subject _ => subject
  | service subject => subject

def role : MasterDelegatedActor → String
  | operator _ role => role.text
  | service _ => "SERVICE"

end MasterDelegatedActor

/-- `FederationActorDispatchInput`. -/
structure DispatchInput where
  targetInstallationId : String
  inboundTarget : String
  method : String
  rawHeaders : List String
  body : List UInt8
  actor : MasterDelegatedActor
  browserIp : String

/-- A key of an issuer, with what `encodeDelegationAssertion` signs with. -/
structure IssuerKey where
  kid : String
  state : String
  validFrom : Nat
  expiresAt : Option Nat
  revokedAt : Option Nat
  publicKeySpki : String
  encryptedPrivateKey : Option String

structure RemoteIssuer where
  issuerInstallationId : String
  targetInstallationId : String
  state : String
  revokedAt : Option Nat
  principalVersion : Int
  maxRole : String
  permissionPolicyJson : String
  keys : List IssuerKey

/-- What is read of a remote context. -/
structure RemoteContext where
  topologyMode : String
  httpKilled : Bool
  publicDeliveryKilled : Bool
  selectedProtocol : Option Nat
  protocolMode : String
  transportState : String
  trustState : String
  capabilityState : String
  /-- `Date.parse`, nothing for `NaN`. -/
  validUntil : Option Nat
  capabilities : List (String × Fields)

/-- What a dispatch finds, and the random values it draws. -/
structure DispatchState where
  matrix : ValidatedFederationActionMatrix
  /-- The issuers of the row of the target. -/
  server : Option (List RemoteIssuer)
  context : Except Thrown RemoteContext
  identity : Except Thrown PanelIdentity
  /-- `randomUUID()`. -/
  requestId : String
  requestId_uuid : isCanonicalUuid requestId = true
  /-- `randomBytes(24)`. -/
  nonce : Vector UInt8 24
  now : Nat
  /-- A `Date` ends there. -/
  now_le : now ≤ 8640000000000000

def MUTATION_METHODS : List String := ["DELETE", "PATCH", "POST", "PUT"]

section Dispatch

variable (H : DispatchHost) (st : DispatchState) (input : DispatchInput)

def refusal (code : FederationErrorCode) (actionId : Option String) (message : String)
    (httpStatus : Nat) : Failure :=
  .dispatch
    ⟨errorContract code st.requestId input.targetInstallationId actionId message, httpStatus⟩

def uncatalogued : Failure :=
  refusal st input .actionUnknown none "Remote action is not catalogued for this transport" 404

/-- The part of the `try` block in which there is no action yet. -/
def resolveDescriptor : Except Failure (ExactFederationTarget × Fields) := do
  let target ← (parseExactFederationTarget H.serialized input.inboundTarget.toList
    input.targetInstallationId ⟨none, none, none⟩).mapError fun e => .thrown (.target e)
  let found ← (resolveHttpByConcretePath H.toUpperCase st.matrix (H.toUpperCase input.method)
    (String.ofList target.rawPath)).mapError fun e => .thrown (.plain e)
  match found with
  | some descriptor =>
    Failing.refuse
      (!(isText (property descriptor "owner") "target" &&
        isOneOf (child (property descriptor "execution") "mode")
          ["INTERACTIVE", "OPERATION", "STAGED_ARTIFACT", "APP_HANDOFF"]))
      (uncatalogued st input)
    return (target, descriptor)
  | none => .error (uncatalogued st input)

/-- The remote context admits delegated requests. -/
def isReady (context : RemoteContext) : Bool :=
  context.topologyMode == "PUBLIC" && !context.httpKilled &&
    !(input.actor.kind == "SERVICE" && context.publicDeliveryKilled) &&
    context.selectedProtocol == some 1 &&
    ["v1-read-only", "v1-enabled"].contains context.protocolMode &&
    context.transportState == "ONLINE" && context.trustState == "ACTIVE" &&
    ["FRESH", "PARTIAL"].contains context.capabilityState &&
    !context.validUntil.any fun expiry => expiry ≤ st.now

def findIssuer (identity : PanelIdentity) (issuers : List RemoteIssuer) : Option RemoteIssuer :=
  issuers.find? fun candidate =>
    candidate.issuerInstallationId == identity.installationId &&
      candidate.targetInstallationId == input.targetInstallationId &&
      candidate.state == "ACTIVE" && candidate.revokedAt.isNone

def findKey (issuer : RemoteIssuer) : Option IssuerKey :=
  issuer.keys.find? fun candidate =>
    candidate.state == "ACTIVE" && candidate.revokedAt.isNone && candidate.validFrom ≤ st.now &&
      candidate.expiresAt.all (fun expiresAt => st.now < expiresAt) &&
      candidate.encryptedPrivateKey.isSome

/-- The claims about a request. -/
def delegationClaims (descriptor : Fields) (identity : PanelIdentity) (issuer : RemoteIssuer)
    (key : IssuerKey) (idempotencyKey : Option String) : DelegationClaims where
  keyId := key.kid
  issuedAt := st.now / 1000
  expiresAt := st.now / 1000 + 60
  nonce := String.ofList (Base64Url.encode st.nonce.toList)
  requestId := st.requestId
  targetInstallationId := input.targetInstallationId
  actionId := idOf descriptor
  actorKind := input.actor.kind
  issuerInstallationId := identity.installationId
  subject := input.actor.subject
  browserIp := input.browserIp
  role := input.actor.role
  permissions := sorted (permissionsOf descriptor)
  principalVersion := issuer.principalVersion
  operationId := none
  idempotencyId := idempotencyKey

/-- A request that was admitted. -/
structure Prepared where
  identity : PanelIdentity
  issuer : RemoteIssuer
  key : IssuerKey
  headers : List (String × String)
  control : ControlRequest
  claims : DelegationClaims
  binding : DelegationRequestBinding

/-- The part of the `try` block from the action to what the edge admits. -/
def admitRequest (descriptor : Fields) : Except Failure
    (List RemoteIssuer × List (String × String) × ControlRequest) := do
  let method := H.toUpperCase input.method
  let actionId := idOf descriptor
  Failing.refuse (!(rolesOf descriptor).contains input.actor.role)
    (refusal st input .permissionDenied (some actionId)
      "Remote action is not allowed for this role" 403)
  match st.server with
  | none =>
    .error (refusal st input .disabled (some actionId) "Remote target is not registered" 404)
  | some issuers =>
    let context ← st.context.mapError .thrown
    Failing.refuse (!isReady st input context)
      (refusal st input .notReady (some actionId)
        "Remote target is not ready for delegated HTTP" 503)
    Failing.refuse (context.protocolMode == "v1-read-only" && MUTATION_METHODS.contains method)
      (refusal st input .policyBlocked (some actionId) "Remote target is read-only" 403)
    let _ ← (assertCapability descriptor (context.capabilities.lookup actionId)
      input.actor.role).mapError .thrown
    let pairs ← (rawHeaderPairs input.rawHeaders).mapError .thrown
    let headers ← (canonicalizeFederationHeaders pairs).mapError .thrown
    let control ← (validateGenericControlRequest H method headers input.body).mapError .thrown
    return (issuers, headers, control)

/-- The part of it from there to the signature. -/
def prepare (target : ExactFederationTarget) (descriptor : Fields) : Except Failure Prepared := do
  let (issuers, headers, control) ← admitRequest H st input descriptor
  let identity ← st.identity.mapError .thrown
  Failing.refuse (identity.installationRole != "MASTER")
    (.thrown (.plain "Federation dispatcher requires a master installation"))
  let untrusted := refusal st input .authFailed (some (idOf descriptor))
    "Remote trust is unavailable" 503
  match findIssuer input identity issuers with
  | none => .error untrusted
  | some issuer =>
    match findKey st issuer with
    | none => .error untrusted
    | some key =>
      let claims := delegationClaims st input descriptor identity issuer key control.idempotencyKey
      let _ ← (assertDelegatedActionPolicy H descriptor claims issuer.maxRole
        issuer.permissionPolicyJson control.idempotencyKey).mapError .thrown
      return ⟨identity, issuer, key, headers, control, claims,
        ⟨H.toUpperCase input.method, String.ofList target.targetPathAndQuery, headers,
          control.bodySha256⟩⟩

/-- `encodeDelegationAssertion`, up to the signature; the relationship key is made of the values
that the claims are made of. -/
def signedPayload (prepared : Prepared) : Except Failure (List UInt8) :=
  (buildDelegationPayload H.verifier prepared.claims prepared.binding).mapError fun e =>
    .thrown (.assertion e.message)

/-- The `catch` block. -/
def settle (actionId : Option String) : Failure → FederationDispatchError
  | .dispatch error => error
  | .thrown error =>
    let code := transportErrorCode error
    ⟨errorContract code st.requestId input.targetInstallationId actionId "Remote transport failed",
      if code = .aborted then 499 else 502⟩

/-- `dispatchAs`; `forward` signs a payload, sends the request and reads the response. -/
def dispatchAs {Response : Type} (forward : Prepared → List UInt8 → Except Failure Response) :
    Except FederationDispatchError Response :=
  match resolveDescriptor H st input with
  | .error failure => .error (settle st input none failure)
  | .ok (target, descriptor) =>
    (do
      let prepared ← prepare H st input target descriptor
      let payload ← signedPayload H prepared
      forward prepared payload).mapError (settle st input (some (idOf descriptor)))

end Dispatch

/-! ## What the edge admits -/

section Edge

variable {seen : List String} {pairs headers : List (String × String)}

/-- A collected header is canonical and new. -/
structure Collected (seen : List String) (headers : List (String × String)) : Prop where
  canonical : ∀ header ∈ headers, isCanonicalHeader header = true
  fresh : ∀ header ∈ headers, header.1 ∉ seen
  nodup : (headers.map Prod.fst).Nodup

theorem collectHeaders_ok : ∀ {pairs : List (String × String)} {seen : List String}
    {headers : List (String × String)}, collectHeaders seen pairs = .ok headers →
      Collected seen headers := by
  have halw : ∀ name ∈ ALLOWED_HEADERS, allOf isHeaderNameChar name = true := by decide +kernel
  intro pairs
  induction pairs with
  | nil =>
    intro seen headers h
    obtain rfl := Except.ok.inj h
    exact ⟨by simp, by simp, by simp⟩
  | cons pair pairs ih =>
    intro seen headers h
    obtain ⟨rawName, rawValue⟩ := pair
    -- A header that is passed by leaves what is collected behind it.
    have hpas : ∀ {headers}, collectHeaders (lower rawName :: seen) pairs = .ok headers →
        Collected seen headers := fun h =>
      ⟨(ih h).canonical, fun header hmem hseen =>
        (ih h).fresh header hmem (List.mem_cons_of_mem _ hseen), (ih h).nodup⟩
    unfold collectHeaders throwInput at h
    dsimp only at h
    obtain ⟨-, h⟩ := Failing.unless_ok h
    obtain ⟨hseen, h⟩ := Failing.unless_ok h
    split at h
    · split at h
      · exact absurd h (by simp)
      · exact hpas h
    · split at h
      · exact hpas h
      · rename_i hname
        obtain ⟨hvalue, h⟩ := Failing.unless_ok h
        obtain ⟨rest, hrest, rfl⟩ := Failing.map_eq_ok.mp h
        rw [Bool.not_eq_true, Bool.not_eq_false'] at hname hvalue
        have hcol := ih hrest
        refine ⟨?_, ?_, ?_⟩
        · intro header hmem
          rcases List.mem_cons.mp hmem with rfl | hmem
          · rw [isCanonicalHeader, halw _ (List.contains_iff_mem.mp hname), hvalue]
            rfl
          · exact hcol.canonical header hmem
        · intro header hmem
          rcases List.mem_cons.mp hmem with rfl | hmem
          · simpa using hseen
          · exact (hpas hrest).fresh header hmem
        · rw [List.map_cons, List.nodup_cons]
          refine ⟨fun hmem => ?_, hcol.nodup⟩
          obtain ⟨header, hheader, hsame⟩ := List.mem_map.mp hmem
          exact hcol.fresh header hheader (hsame ▸ List.mem_cons_self)

instance : IsTrans (String × String) NameLe := ⟨fun _ _ _ => String.le_trans⟩

instance : Std.Total NameLe := ⟨fun left right => String.le_total left.1 right.1⟩

theorem lt_of_nameLe {left right : String × String} (hle : NameLe left right)
    (hne : left.1 ≠ right.1) : left.1 < right.1 := by
  by_contra hnot
  exact hne (String.le_antisymm hle hnot)

/-- The headers that the edge admits are those the envelope accepts. -/
theorem canonicalize_canonical (h : canonicalizeFederationHeaders pairs = .ok headers) :
    areCanonicalHeaders headers = true := by
  obtain ⟨allowed, halw, rfl⟩ := Failing.map_eq_ok.mp h
  have hcol := collectHeaders_ok halw
  have hperm := List.perm_insertionSort NameLe allowed
  rw [areCanonicalHeaders, Bool.and_eq_true]
  refine ⟨List.all_eq_true.mpr fun header hmem =>
    hcol.canonical header (hperm.mem_iff.mp hmem), ?_⟩
  have hsor := List.pairwise_insertionSort NameLe allowed
  have hnd : ((allowed.insertionSort NameLe).map Prod.fst).Nodup :=
    (hperm.map Prod.fst).nodup_iff.mpr hcol.nodup
  rw [sortedUnique, decide_eq_true_eq, List.pairwise_map]
  rw [List.Nodup, List.pairwise_map] at hnd
  exact (hsor.and hnd).imp fun h => lt_of_nameLe h.1 h.2

theorem isHexLower_hexDigit : ∀ n < 16, isHexLower (hexDigit n) = true := by decide

/-- A digest is written as the envelope asks. -/
theorem sha256Body_digest (sha256 : List UInt8 → Vector UInt8 32) (body : List UInt8) :
    allIn isHexLower 64 64 (sha256Body sha256 body) = true := by
  have hbs : ∀ bytes : List UInt8,
      (bytes.flatMap fun b => [hexDigit (b.toNat / 16), hexDigit (b.toNat % 16)]).length =
        2 * bytes.length := by
    intro bytes
    induction bytes with
    | nil => rfl
    | cons b bytes ih =>
      rw [List.flatMap_cons, List.length_append, ih, List.length_cons]
      simp only [List.length_cons, List.length_nil]
      omega
  have hlen : (sha256Body sha256 body).toList.length = 64 := by
    rw [sha256Body, String.toList_ofList, hbs, Vector.length_toList]
  simp only [allIn, hlen, le_refl, decide_true, Bool.and_true, List.all_eq_true]
  intro c hc
  rw [sha256Body, String.toList_ofList] at hc
  obtain ⟨b, -, hc⟩ := List.mem_flatMap.mp hc
  have hlt := b.toNat_lt
  simp only [List.mem_cons, List.not_mem_nil, or_false] at hc
  rcases hc with rfl | rfl
  · exact isHexLower_hexDigit _ (by omega)
  · exact isHexLower_hexDigit _ (by omega)

theorem validate_control {H : DispatchHost} {method : String} {body : List UInt8}
    {control : ControlRequest}
    (h : validateGenericControlRequest H method headers body = .ok control) :
    control.bodySha256 = sha256Body H.sha256 body := by
  simp only [validateGenericControlRequest, Failing.bind_eq_ok, Failing.pure_eq_ok] at h
  obtain ⟨-, -, -, -, -, -, -, -, -, -, -, -, rfl⟩ := h
  rfl

end Edge

/-! ## What is admitted -/

section Admitted

variable {H : DispatchHost} {st : DispatchState} {input : DispatchInput}
  {target : ExactFederationTarget} {descriptor : Fields} {prepared : Prepared}

theorem methods_of_http :
    ∀ method ∈ HTTP_METHODS, method ≠ "ALL" → METHODS.contains method = true := by decide

/-- A method that is resolved is one the envelope knows. -/
theorem resolved_method {toUpperCase : String → String} {m : ValidatedFederationActionMatrix}
    {method path : String} {action : Fields}
    (h : resolveHttpByConcretePath toUpperCase m method path = .ok (some action)) :
    METHODS.contains (toUpperCase method) = true := by
  unfold resolveHttpByConcretePath at h
  dsimp only at h
  obtain ⟨-, h⟩ := Failing.unless_ok h
  have hmem := List.mem_of_head? (Except.ok.inj h)
  have hresolved := (Bool.and_eq_true_iff.mp (List.mem_filter.mp hmem).2).2
  unfold resolveHttp at hresolved
  split at hresolved
  · rename_i hmeth
    obtain ⟨other, hother⟩ := Option.isSome_iff_exists.mp hresolved
    have hact := isActiveRoute_iff.mp (Option.filter_eq_some_iff.mp hother).2
    exact methods_of_http _ (List.contains_iff_mem.mp hmeth) hact.notAll
  · exact absurd hresolved (by simp)

/-- What the resolution of a request tells of it. -/
structure ResolvedRequest (H : DispatchHost) (input : DispatchInput)
    (target : ExactFederationTarget) : Prop where
  targetId : isCanonicalUuid input.targetInstallationId = true
  path : "/api/".toList.isPrefixOf target.targetPathAndQuery = true
  graphic : target.targetPathAndQuery.all isGraphicAscii = true
  method : METHODS.contains (H.toUpperCase input.method) = true

theorem resolveDescriptor_ok (h : resolveDescriptor H st input = .ok (target, descriptor)) :
    ResolvedRequest H input target := by
  simp only [resolveDescriptor, Failing.bind_eq_ok, Failing.mapError_eq_ok] at h
  obtain ⟨target', htgt, found, hfnd, h⟩ := h
  cases found with
  | none => exact absurd h (by simp)
  | some action =>
    simp only [Failing.bind_eq_ok, Failing.pure_eq_ok, Prod.mk.injEq] at h
    obtain ⟨-, -, rfl, rfl⟩ := h
    have hmeth := resolved_method hfnd
    rw [H.toUpperCase_idem] at hmeth
    have hacc := accepted_forwarded htgt
    unfold parseExactTargetApiRequest at hacc
    obtain ⟨⟨⟩, hbd, -⟩ := bind_ok.mp hacc
    unfold parseExactFederationTarget at htgt
    split at htgt
    · exact absurd htgt (by simp [reject])
    · rename_i hid
      obtain ⟨⟨⟩, -, htgt⟩ := bind_ok.mp htgt
      split at htgt
      · exact absurd htgt (by simp [reject])
      · obtain ⟨pair, -, htgt⟩ := bind_ok.mp htgt
        obtain rfl := Except.ok.inj htgt
        have hgraphic := (assertBoundedRequestTarget_ok.mp hbd).graphic
        exact ⟨by simpa using hid, List.isPrefixOf_iff_prefix.mpr (List.prefix_append _ _),
          hgraphic, hmeth⟩

/-- What the preparation of a request tells of it. -/
structure PreparedRequest (H : DispatchHost) (st : DispatchState) (input : DispatchInput)
    (target : ExactFederationTarget) (descriptor : Fields) (prepared : Prepared) : Prop where
  claims : prepared.claims = delegationClaims st input descriptor prepared.identity
    prepared.issuer prepared.key prepared.control.idempotencyKey
  binding : prepared.binding = ⟨H.toUpperCase input.method, String.ofList target.targetPathAndQuery,
    prepared.headers, prepared.control.bodySha256⟩
  headers : areCanonicalHeaders prepared.headers = true
  digest : allIn isHexLower 64 64 prepared.control.bodySha256 = true
  few : prepared.claims.permissions.length ≤ 64
  permissions : prepared.claims.permissions.all isPermission = true
  distinct : prepared.claims.permissions.Nodup

theorem admitRequest_ok {issuers : List RemoteIssuer} {headers : List (String × String)}
    {control : ControlRequest}
    (h : admitRequest H st input descriptor = .ok (issuers, headers, control)) :
    areCanonicalHeaders headers = true ∧ allIn isHexLower 64 64 control.bodySha256 = true := by
  simp only [admitRequest, Failing.bind_eq_ok] at h
  obtain ⟨-, -, h⟩ := h
  cases hsrv : st.server with
  | none =>
    rw [hsrv] at h
    exact absurd h (by simp)
  | some issuers' =>
    rw [hsrv] at h
    simp only [Failing.bind_eq_ok, Failing.mapError_eq_ok, Failing.pure_eq_ok, Prod.mk.injEq] at h
    obtain ⟨_, -, _, -, _, -, _, -, _, -, headers', hhdr, control', hctl, -, rfl, rfl⟩ := h
    refine ⟨canonicalize_canonical hhdr, ?_⟩
    rw [validate_control hctl]
    exact sha256Body_digest _ _

theorem intersect_ok {asserted effective : List String} {policies : List (List String)}
    (h : intersectFederationPermissions asserted policies = .ok effective) :
    asserted.length ≤ 64 ∧ asserted.all isPermission = true ∧ asserted.Nodup := by
  unfold intersectFederationPermissions throwPolicy at h
  obtain ⟨hval, h⟩ := Failing.when_ok h
  simpa [and_assoc] using hval

theorem prepare_ok (h : prepare H st input target descriptor = .ok prepared) :
    PreparedRequest H st input target descriptor prepared := by
  simp only [prepare, Failing.bind_eq_ok, Failing.mapError_eq_ok] at h
  obtain ⟨⟨issuers, headers, control⟩, hadm, identity, -, -, -, h⟩ := h
  dsimp only at h
  split at h
  · exact absurd h (by simp)
  · split at h
    · exact absurd h (by simp)
    · simp only [Failing.bind_eq_ok, Failing.mapError_eq_ok, Failing.pure_eq_ok] at h
      obtain ⟨effective, hpolicy, rfl⟩ := h
      simp only [assertDelegatedActionPolicy, Failing.bind_eq_ok] at hpolicy
      obtain ⟨_, -, _, -, _, -, intersected, hintersected, -⟩ := hpolicy
      obtain ⟨hfew, hpermissions, hdist⟩ := intersect_ok hintersected
      obtain ⟨hhdr, hdigest⟩ := admitRequest_ok hadm
      exact ⟨rfl, rfl, hhdr, hdigest, hfew, hpermissions, hdist⟩

end Admitted

/-! ## Sorted permissions -/

theorem flatMap_utf16 {cs : List Char} (h : ∀ c ∈ cs, c.toNat < 0x10000) :
    cs.flatMap utf16 = cs.map Char.toNat := by
  induction cs with
  | nil => rfl
  | cons c cs ih =>
    rw [List.flatMap_cons, ih fun d hd => h d (List.mem_cons_of_mem c hd), utf16,
      if_pos (h c List.mem_cons_self)]
    rfl

theorem map_toNat_lt : ∀ {cs ds : List Char}, cs < ds → cs.map Char.toNat < ds.map Char.toNat := by
  intro cs
  induction cs with
  | nil =>
    intro ds h
    cases ds with
    | nil => exact absurd h (List.lt_irrefl _)
    | cons d ds => exact List.nil_lt_cons _ _
  | cons c cs ih =>
    intro ds h
    cases ds with
    | nil => exact absurd h (List.not_lt_nil _)
    | cons d ds =>
      rw [List.map_cons, List.map_cons, List.cons_lt_cons_iff]
      rcases List.cons_lt_cons_iff.mp h with hlt | ⟨rfl, hrest⟩
      · exact .inl (UInt32.lt_iff_toNat_lt.mp (Char.lt_def.mp hlt))
      · exact .inr ⟨rfl, ih hrest⟩

theorem isPermission_basic {s : String} (h : isPermission s = true) :
    ∀ c ∈ s.toList, c.toNat < 0x10000 := by
  have hlower : ∀ {c : Char}, (isLowerAscii c || isDigitAscii c) = true → c.toNat < 0x10000 := by
    intro c hc
    simp only [isLowerAscii, isDigitAscii, Bool.or_eq_true, Bool.and_eq_true, decide_eq_true_eq,
      Char.le_def, UInt32.le_iff_toNat_le] at hc
    rcases hc with ⟨-, hc⟩ | ⟨-, hc⟩
    · exact Nat.lt_of_le_of_lt hc (by decide)
    · exact Nat.lt_of_le_of_lt hc (by decide)
  unfold isPermission at h
  split at h
  · exact absurd h (by decide)
  · rename_i d rest hcons
    obtain ⟨hd, hgroups⟩ := Bool.and_eq_true_iff.mp h
    intro c hc
    rw [hcons] at hc
    rcases List.mem_cons.mp hc with rfl | hc
    · exact hlower (Bool.or_eq_true_iff.mpr (.inl hd))
    · rcases mem_isGrouped hgroups c hc with hseparator | hinner
      · simp only [Bool.or_eq_true, beq_iff_eq] at hseparator
        rcases hseparator with ((rfl | rfl) | rfl) | rfl <;> decide
      · exact hlower hinner

/-- Sorted permissions that differ are in the order that the envelope asks. -/
theorem sortedUnique_sorted {permissions : List String}
    (hall : (sorted permissions).all isPermission = true) (hdist : (sorted permissions).Nodup) :
    sortedUnique (sorted permissions) = true := by
  rw [sortedUnique, decide_eq_true_eq]
  have hsor := List.pairwise_insertionSort utf16Le permissions
  refine ((hsor.and hdist).imp_of_mem ?_)
  rintro s t hs ht ⟨hle, hne⟩
  by_contra hnot
  refine hle ?_
  rw [flatMap_utf16 (isPermission_basic (List.all_eq_true.mp hall t ht)),
    flatMap_utf16 (isPermission_basic (List.all_eq_true.mp hall s hs))]
  refine map_toNat_lt ?_
  by_contra hnot'
  exact hne (String.le_antisymm hnot' hnot)

/-! ## What is signed -/

section Signed

variable {H : DispatchHost} {st : DispatchState} {input : DispatchInput}
  {target : ExactFederationTarget} {descriptor : Fields} {prepared : Prepared}

/-- What does not come out of the request is as the envelope asks: the key and the installation of
the master, the name of the action, the actor and the address. -/
structure InOrder (H : DispatchHost) (input : DispatchInput) (descriptor : Fields)
    (prepared : Prepared) : Prop where
  keyId : isKeyId prepared.key.kid = true
  issuer : isCanonicalUuid prepared.identity.installationId = true
  principalVersion : isSafeInteger prepared.issuer.principalVersion = true ∧
    1 ≤ prepared.issuer.principalVersion
  actionId : isActionId (idOf descriptor) = true
  subject : isSubject input.actor.subject = true
  browserIp : H.verifier.isIP input.browserIp = true ∧ input.browserIp.length ≤ 64

theorem nonce_valid (nonce : Vector UInt8 24) :
    isNonce (String.ofList (Base64Url.encode nonce.toList)) = true := by
  have halphabet : Base64Url.alphabet.all isBase64Url = true := by decide +kernel
  have hlen : (Base64Url.encode nonce.toList).length = 32 := by
    rw [Base64Url.length_encode, Vector.length_toList]
  simp only [isNonce, allIn, String.toList_ofList, hlen, Bool.and_eq_true, decide_eq_true_eq,
    List.all_eq_true]
  have hchar {c : Char} (hc : c ∈ Base64Url.encode nonce.toList) : isBase64Url c = true :=
    List.all_eq_true.mp halphabet c (Base64Url.mem_encode hc)
  exact ⟨⟨fun c hc => hchar hc, by decide +kernel⟩, by decide +kernel⟩

theorem actor_valid (actor : MasterDelegatedActor) :
    operatorKinds.contains actor.kind = true ∧ operatorRoles.contains actor.role = true ∧
      ((actor.kind == "SERVICE") == (actor.role == "SERVICE")) = true := by
  cases actor with
  | operator subject role =>
    cases role with
    | admin => exact ⟨rfl, rfl, rfl⟩
    | manager => exact ⟨rfl, rfl, rfl⟩
    | viewer => exact ⟨rfl, rfl, rfl⟩
  | service subject => exact ⟨rfl, rfl, rfl⟩

theorem time_valid {now : Nat} (h : now ≤ 8640000000000000) :
    isSafeInteger ((now : Int) / 1000) = true ∧ isSafeInteger ((now : Int) / 1000 + 60) = true := by
  simp only [Federation.isSafeInteger, decide_eq_true_eq]
  omega

/-- **The claims are valid exactly when the key is one of the envelope, and the rest in order.** -/
theorem claims_valid_iff (hresolved : ResolvedRequest H input target)
    (hprepared : PreparedRequest H st input target descriptor prepared) :
    assertDelegationClaims H.verifier prepared.claims = true ↔
      prepared.control.idempotencyKey.all isOptionalId = true ∧
        InOrder H input descriptor prepared := by
  have hpermissions := hprepared.permissions
  have hfew := hprepared.few
  have hdist := hprepared.distinct
  rw [hprepared.claims] at hpermissions hfew hdist
  have hsor := sortedUnique_sorted hpermissions hdist
  obtain ⟨hkind, hrole, hboth⟩ := actor_valid input.actor
  obtain ⟨hiss, hexpires⟩ := time_valid st.now_le
  have hnonce := nonce_valid st.nonce
  have hreq := st.requestId_uuid
  have htgt := hresolved.targetId
  rw [hprepared.claims]
  simp only [assertDelegationClaims, sharedClaimsHold, delegationClaims,
    Bool.and_eq_true] at hpermissions hfew ⊢
  constructor
  · intro h
    refine ⟨by grind, ⟨by grind, by grind, by grind, by grind, by grind, by grind⟩⟩
  · rintro ⟨hkey, horder⟩
    have hkeyId := horder.keyId
    have his := horder.issuer
    have hversion := horder.principalVersion
    have haction := horder.actionId
    have hsubject := horder.subject
    have hip := horder.browserIp
    have hspan : (st.now : Int) / 1000 < st.now / 1000 + 60 ∧
        (st.now : Int) / 1000 + 60 - st.now / 1000 ≤ MAX_ASSERTION_TTL_SECONDS := by
      unfold MAX_ASSERTION_TTL_SECONDS
      omega
    grind

theorem binding_valid (hresolved : ResolvedRequest H input target)
    (hprepared : PreparedRequest H st input target descriptor prepared) :
    isRequest prepared.binding = true ∧ areCanonicalHeaders prepared.binding.headers = true := by
  have hne : target.targetPathAndQuery ≠ [] := by
    intro hnil
    have hpath := hresolved.path
    rw [hnil] at hpath
    exact absurd hpath (by decide)
  rw [hprepared.binding]
  refine ⟨?_, hprepared.headers⟩
  simp only [isRequest, allOf, String.toList_ofList, Bool.and_eq_true, Bool.not_eq_true',
    List.isEmpty_eq_false_iff]
  exact ⟨⟨⟨hresolved.method, hresolved.path⟩, hne, hresolved.graphic⟩, hprepared.digest⟩

/-- A request is signed exactly when its key is one of the envelope, and the rest in order. -/
theorem signed_iff (hresolved : ResolvedRequest H input target)
    (hprepared : PreparedRequest H st input target descriptor prepared) :
    (∃ payload, signedPayload H prepared = .ok payload) ↔
      prepared.control.idempotencyKey.all isOptionalId = true ∧
        InOrder H input descriptor prepared := by
  rw [← claims_valid_iff hresolved hprepared]
  obtain ⟨hreq, hhdr⟩ := binding_valid hresolved hprepared
  constructor
  · rintro ⟨payload, hpay⟩
    exact (buildDelegationPayload_ok.mp (Failing.mapError_eq_ok.mp hpay)).1
  · intro hcls
    exact ⟨_, Failing.mapError_eq_ok.mpr
      (buildDelegationPayload_ok.mpr ⟨hcls, hreq, hhdr, rfl⟩)⟩

/-- What is not signed is told to be offline. -/
def remoteOffline (st : DispatchState) (input : DispatchInput) (descriptor : Fields) :
    FederationDispatchError :=
  ⟨⟨.offline, "Remote transport failed", st.requestId, input.targetInstallationId,
    some (idOf descriptor), true⟩, 502⟩

theorem transportErrorCode_assertion (message : String) :
    transportErrorCode (.assertion message) = .offline := by
  have hoffline : errorCodeOf "INVALID_CLAIMS" "" = .offline := by decide
  exact hoffline

theorem unsigned_offline {Response : Type}
    {forward : Prepared → List UInt8 → Except Failure Response}
    (hresolved : resolveDescriptor H st input = .ok (target, descriptor))
    (hprepared : prepare H st input target descriptor = .ok prepared)
    (hnone : ¬ ∃ payload, signedPayload H prepared = .ok payload) :
    dispatchAs H st input forward = .error (remoteOffline st input descriptor) := by
  obtain ⟨message, hmsg⟩ : ∃ message,
      signedPayload H prepared = .error (.thrown (.assertion message)) := by
    unfold signedPayload at hnone ⊢
    cases hbuild : buildDelegationPayload H.verifier prepared.claims prepared.binding with
    | error e => exact ⟨e.message, rfl⟩
    | ok payload => exact absurd ⟨payload, by rw [hbuild]; rfl⟩ hnone
  unfold dispatchAs
  rw [hresolved]
  dsimp only
  rw [hprepared]
  simp only [bind, Except.bind, hmsg, Except.mapError, settle, transportErrorCode_assertion]
  rfl

end Signed

/-! ## A key with a slash -/

namespace SampleDispatch

def installation : String := "00000000-0000-4000-8000-000000000003"

def remote : String := "00000000-0000-4000-8000-000000000002"

/-- The digest of no bytes. -/
def emptyDigest : Vector UInt8 32 :=
  #v[0xe3, 0xb0, 0xc4, 0x42, 0x98, 0xfc, 0x1c, 0x14, 0x9a, 0xfb, 0xf4, 0xc8, 0x99, 0x6f, 0xb9, 0x24,
    0x27, 0xae, 0x41, 0xe4, 0x64, 0x9b, 0x93, 0x4c, 0xa4, 0x95, 0x99, 0x1b, 0x78, 0x52, 0xb8, 0x55]

/-- The platform on these requests: texts in upper case, plain paths, no bodies, one policy. -/
def host : DispatchHost where
  toUpperCase s := s
  toUpperCase_idem _ := rfl
  serialized path := path
  isJsonUtf8 _ := false
  parseJson _ := some (.array [.string "sites.read"])
  sha256 _ := emptyDigest
  verifier := SampleEnvelope.host

def key : IssuerKey where
  kid := "ed25519-AAAAAAAAAAAAAAAAAAAAAA"
  state := "ACTIVE"
  validFrom := 0
  expiresAt := none
  revokedAt := none
  publicKeySpki := ""
  encryptedPrivateKey := some ""

def issuer : RemoteIssuer where
  issuerInstallationId := installation
  targetInstallationId := remote
  state := "ACTIVE"
  revokedAt := none
  principalVersion := 1
  maxRole := "ADMIN"
  permissionPolicyJson := "[\"sites.read\"]"
  keys := [key]

/-- What the target says that it can do. -/
def capability : Fields :=
  let text := SampleActions.text
  let texts := SampleActions.texts
  let number := SampleActions.number
  [("actionId", text "sites.list"), ("schemaVersion", number 1), ("enabled", .boolean true),
    ("roles", texts ["ADMIN"]), ("permissions", texts ["sites.read"]),
    ("requestMedia", texts ["application/json"]), ("responseMedia", texts ["application/json"]),
    ("executionMode", text "INTERACTIVE"), ("idempotency", text "NOT_DECLARED"),
    ("cancellation", text "UNSUPPORTED"), ("connectMs", number 5000), ("headersMs", number 10000),
    ("idleMs", number 10000), ("operationMs", number 10000), ("legacySafe", .boolean false)]

def state : DispatchState where
  matrix := readMatrix SampleActions.matrix
  server := some [issuer]
  context := .ok {
    topologyMode := "PUBLIC", httpKilled := false, publicDeliveryKilled := false
    selectedProtocol := some 1, protocolMode := "v1-enabled", transportState := "ONLINE"
    trustState := "ACTIVE", capabilityState := "FRESH", validUntil := some 1800000000000
    capabilities := [("sites.list", capability)] }
  identity := .ok ⟨installation, "MASTER"⟩
  requestId := "00000000-0000-4000-8000-000000000001"
  requestId_uuid := by decide
  nonce := Vector.replicate 24 0
  now := 1700000000000
  now_le := by decide

/-- The list of the sites, with a key. -/
def request (idempotencyKey : String) : DispatchInput where
  targetInstallationId := remote
  inboundTarget := "/api/proxy/00000000-0000-4000-8000-000000000002/sites"
  method := "GET"
  rawHeaders := ["Accept", "application/json", "Idempotency-Key", idempotencyKey]
  body := []
  actor := .operator "operator-1" .admin
  browserIp := "203.0.113.7"

/-- The preparation of a request, and its key. -/
def admittedKey (idempotencyKey : String) : Option (Option String) :=
  match resolveDescriptor host state (request idempotencyKey) with
  | .ok (target, descriptor) =>
    match prepare host state (request idempotencyKey) target descriptor with
    | .ok prepared => some prepared.control.idempotencyKey
    | .error _ => none
  | .error _ => none

theorem admittedKey_some {idempotencyKey : String} {k : Option String}
    (h : admittedKey idempotencyKey = some k) : ∃ target descriptor prepared,
      resolveDescriptor host state (request idempotencyKey) = .ok (target, descriptor) ∧
      prepare host state (request idempotencyKey) target descriptor = .ok prepared ∧
      prepared.control.idempotencyKey = k := by
  unfold admittedKey at h
  split at h
  · rename_i target descriptor hresolved
    split at h
    · rename_i prepared hprepared
      exact ⟨target, descriptor, prepared, hresolved, hprepared, Option.some.inj h⟩
    · exact absurd h (by simp)
  · exact absurd h (by simp)

end SampleDispatch

end Meowbox.FederationDispatch
