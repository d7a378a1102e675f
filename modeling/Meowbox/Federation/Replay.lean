import Meowbox.Lib.Fallible
import Meowbox.Lib.JsValue

/-!
# Federation assertions and their replay tombstones

Model of `api/src/federation/federation-replay.service.ts`, of `verify` in
`federation-delegation-verifier.service.ts` (HTTP) and in
`federation-ws-channel-verifier.service.ts` (WebSocket channels), and of the decoding and the time
window of their assertions in `delegation-envelope.ts` and `federation-ws-channel.ts`.

* An assertion is base64url of canonical JSON. `parse…` is what `Buffer.from` and `JSON.parse` read,
  `…Bytes` what `assertionBytes` writes; the signature is over the claims and, for HTTP, over the
  request's binding. All of these are parameters (`VerifierHost`), and so is the policy on actions
  and permissions, which only refuses.
* A statement is one instruction. `now` is read once, where `verify` starts.
* A tombstone is named by what is hashed: SHA-256 is taken without collisions.
* Only `outside` lets time pass; it also enrols keys and changes the state of keys, issuers and of
  the rest of the panel (`Panel`). No statement of the source deletes a key or an issuer or gives a
  key to another issuer.

Times of claims are seconds, all others milliseconds.
-/

namespace Meowbox.Federation

open Interleaved Fallible JsData

/-! ## Claims -/

/-- `DelegationClaims`. -/
structure DelegationClaims where
  keyId : String
  issuedAt : Int
  expiresAt : Int
  nonce : String
  requestId : String
  targetInstallationId : String
  actionId : String
  actorKind : String
  issuerInstallationId : String
  subject : String
  browserIp : String
  role : String
  permissions : List String
  principalVersion : Int
  operationId : Option String
  idempotencyId : Option String
deriving DecidableEq

/-- `FederationWsChannelClaims`. -/
structure FederationWsChannelClaims where
  keyId : String
  channelId : String
  targetInstallationId : String
  issuerInstallationId : String
  actorKind : String
  subject : String
  browserIp : String
  role : String
  permissions : List String
  principalVersion : Int
  epoch : Int
  nonce : String
  actionIds : List String
  issuedAt : Int
  expiresAt : Int
deriving DecidableEq

/-- `EncodedDelegationAssertion`. -/
structure EncodedDelegationAssertion where
  assertion : String
  signature : String
deriving DecidableEq

/-- `DelegationRequestBinding`; the headers as names and values. -/
structure DelegationRequestBinding where
  method : String
  targetPathAndQuery : String
  headers : List (String × String)
  bodySha256 : String
deriving DecidableEq

structure VerifyFederationDelegationInput where
  encoded : EncodedDelegationAssertion
  binding : DelegationRequestBinding
  concretePath : String
  idempotencyKey : Option String
deriving DecidableEq

/-- What `FederatedWsChannelAssertion` carries of the claims in clear. -/
structure FederatedWsChannelAssertion where
  channelId : String
  targetInstallationId : String
  epoch : Int
  nonce : String
  actionIds : List String
  issuedAt : Int
  expiresAt : Int
  assertion : String
  signature : String
deriving DecidableEq

/-! ## Rows -/

structure PanelIdentity where
  installationId : String
  installationRole : String
deriving DecidableEq

structure FederationIssuer where
  id : String
  issuerInstallationId : String
  targetInstallationId : String
  state : String
  maxRole : String
  permissionPolicyJson : String
  revokedAt : Option Nat
deriving DecidableEq

/-- A key with its issuer; `encryptedPrivateKey` is whether there is one. -/
structure FederationKey where
  kid : String
  issuer : FederationIssuer
  publicKeySpki : String
  encryptedPrivateKey : Bool
  state : String
  validFrom : Nat
  expiresAt : Option Nat
  revokedAt : Option Nat
deriving DecidableEq

/-- What `replayHash` hashes. -/
structure ReplayHash where
  issuerId : String
  kid : String
  requestId : String
  actionId : String
  nonce : String
deriving DecidableEq

/-- A row of `FederationReplay`. -/
structure FederationReplay where
  replayHash : ReplayHash
  expiresAt : Int
deriving DecidableEq

/-- `ConsumeFederationReplayInput`. -/
structure ConsumeFederationReplayInput where
  hash : ReplayHash
  expiresAt : Int
  now : Nat
deriving DecidableEq

/-! ## Errors -/

inductive FederationCode
  | targetRoleInvalid
  | issuerNotFound
  | keyNotActive
  | targetPrivateKeyPresent
  | actionDenied
  | roleDenied
  | permissionDenied
  | servicePermissionDenied
  | invalidAssertion
  | nonCanonicalAssertion
  | invalidClaims
  | assertionBindingMismatch
  | assertionExpired
  | invalidSignature
  | replayDetected
  | replayCapacityExceeded
  | replayExpiryInvalid
  /-- What the policy, a principal service or the idempotency service throws. -/
  | refused
deriving DecidableEq

structure FederationError where
  code : FederationCode
  message : String
deriving DecidableEq

/-- The platform, and the policy on what an assertion may ask for. -/
structure VerifierHost where
  isIP : String → Bool
  parseDelegationClaims : String → Option DelegationClaims
  delegationBytes : DelegationClaims → String
  /-- `verifyFederationPayload` of `buildDelegationPayload`. -/
  delegationSigned : DelegationClaims → DelegationRequestBinding → (signature publicKey : String) →
    Except FederationError Bool
  parseChannelClaims : String → Option FederationWsChannelClaims
  channelBytes : FederationWsChannelClaims → String
  channelSigned : FederationWsChannelClaims → (signature publicKey : String) → Bool
  /-- `resolveHttp` and `assertDelegatedActionPolicy`: the permissions the action requires, and
  those the caller has. -/
  actionPolicy : DelegationClaims → FederationIssuer → VerifyFederationDelegationInput →
    Except FederationError (List String × List String)
  /-- The role, action and permission checks of a channel. -/
  channelPolicy : FederationWsChannelClaims → FederationIssuer → (manifest : String) →
    Except FederationError (List String)

/-! ## Decoding -/

/-- `[A-Za-z0-9]`. -/
def isAlnum (c : Char) : Bool := isUpperAscii c || isLowerAscii c || isDigitAscii c

/-- `[A-Za-z0-9_-]`. -/
def isBase64Url (c : Char) : Bool := isAlnum c || c == '_' || c == '-'

/-- `[0-9a-f]`. -/
def isHexLower (c : Char) : Bool := isDigitAscii c || (decide ('a' ≤ c) && decide (c ≤ 'f'))

/-- `KEY_ID`. -/
def isKeyId (s : String) : Bool :=
  s.toList.take 8 == "ed25519-".toList && (s.toList.drop 8).length == 22 &&
    (s.toList.drop 8).all isBase64Url

/-- `CANONICAL_UUID`: groups of 8, 4, 4, 4 and 12, the version and the variant at their places. -/
def isCanonicalUuid (s : String) : Bool :=
  s.toList.length == 36 && s.toList.zipIdx.all fun (c, i) =>
    if i == 8 || i == 13 || i == 18 || i == 23 then c == '-'
    else if i == 14 then decide ('1' ≤ c) && decide (c ≤ '8')
    else if i == 19 then c == '8' || c == '9' || c == 'a' || c == 'b'
    else isHexLower c

/-- A canonical identifier is hexadecimal digits and dashes. -/
theorem isCanonicalUuid_chars {s : String} (h : isCanonicalUuid s = true) :
    ∀ c ∈ s.toList, isHexLower c = true ∨ c = '-' := by
  rw [isCanonicalUuid, Bool.and_eq_true] at h
  intro c hmem
  obtain ⟨i, hi⟩ := List.mem_iff_getElem?.mp hmem
  have hchar := List.all_eq_true.mp h.2 (c, i) (List.mem_zipIdx_iff_getElem?.mpr hi)
  dsimp only at hchar
  split at hchar
  · exact .inr (beq_iff_eq.mp hchar)
  · split at hchar
    · simp only [Bool.and_eq_true, decide_eq_true_eq, Char.le_def,
        UInt32.le_iff_toNat_le] at hchar
      refine .inl ?_
      simp only [isHexLower, isDigitAscii, Bool.or_eq_true, Bool.and_eq_true, decide_eq_true_eq,
        Char.le_def, UInt32.le_iff_toNat_le]
      exact .inl ⟨Nat.le_trans (by decide) hchar.1, Nat.le_trans hchar.2 (by decide)⟩
    · split at hchar
      · simp only [Bool.or_eq_true, beq_iff_eq] at hchar
        rcases hchar with ((rfl | rfl) | rfl) | rfl
        · exact .inl (by decide)
        · exact .inl (by decide)
        · exact .inl (by decide)
        · exact .inl (by decide)
      · exact .inl hchar

/-- Groups separated by single characters that `separator` admits, each of one or more that `inner`
admits; `started` is whether the current group has begun. -/
def isGrouped (separator inner : Char → Bool) : (started : Bool) → List Char → Bool
  | started, [] => started
  | started, c :: rest =>
    if separator c then started && isGrouped separator inner false rest
    else inner c && isGrouped separator inner true rest

/-- `ACTION_ID`: a lower-case name, a dot, and further parts. -/
def isActionId (s : String) : Bool :=
  match s.toList with
  | [] => false
  | c :: rest =>
    let inName := fun d => isLowerAscii d || isDigitAscii d
    isLowerAscii c && (rest.dropWhile inName).head? == some '.' &&
      isGrouped (fun d => d == '.') (fun d => inName d || d == '_' || d == '-') false
        (rest.dropWhile inName).tail

/-- `PERMISSION`. -/
def isPermission (s : String) : Bool :=
  match s.toList with
  | [] => false
  | c :: rest =>
    isLowerAscii c && isGrouped (fun d => d == '.' || d == ':' || d == '_' || d == '-')
      (fun d => isLowerAscii d || isDigitAscii d) true rest

/-- `NONCE`. -/
def isNonce (s : String) : Bool := allIn isBase64Url 22 64 s

/-- `SUBJECT`. -/
def isSubject (s : String) : Bool := allIn (fun c => decide ('!' ≤ c) && decide (c ≤ '~')) 1 128 s

/-- `OPTIONAL_ID`. -/
def isOptionalId (s : String) : Bool :=
  allIn (fun c => isAlnum c || c == '.' || c == '_' || c == ':' || c == '-') 8 128 s

/-- `Number.isSafeInteger`, of an integer. -/
def isSafeInteger (n : Int) : Bool := decide (n.natAbs ≤ 9007199254740991)

def MAX_ASSERTION_TTL_SECONDS : Int := 60

/-- Each member before the next, in the order of strings. -/
def sortedUnique (l : List String) : Bool := l.Pairwise fun a b => a < b

def operatorKinds : List String := ["OPERATOR", "SERVICE"]

def operatorRoles : List String := ["ADMIN", "MANAGER", "VIEWER", "SERVICE"]

/-- What `assertClaims` of both kinds of assertion asks of the members they share. -/
def sharedClaimsHold (H : VerifierHost) (keyId requestId target issuer nonce subject browserIp
    actorKind role : String) (issuedAt expiresAt principalVersion : Int) : Bool :=
  isKeyId keyId && isCanonicalUuid requestId && isCanonicalUuid target && isCanonicalUuid issuer &&
    isNonce nonce && isSubject subject && decide (browserIp.length ≤ 64) && H.isIP browserIp &&
    operatorKinds.contains actorKind && operatorRoles.contains role &&
    ((actorKind == "SERVICE") == (role == "SERVICE")) &&
    isSafeInteger issuedAt && isSafeInteger expiresAt && decide (issuedAt < expiresAt) &&
    decide (expiresAt - issuedAt ≤ MAX_ASSERTION_TTL_SECONDS) &&
    isSafeInteger principalVersion && decide (1 ≤ principalVersion)

/-- `assertClaims` of `delegation-envelope.ts`. -/
def assertDelegationClaims (H : VerifierHost) (c : DelegationClaims) : Bool :=
  sharedClaimsHold H c.keyId c.requestId c.targetInstallationId c.issuerInstallationId c.nonce
      c.subject c.browserIp c.actorKind c.role c.issuedAt c.expiresAt c.principalVersion &&
    isActionId c.actionId && decide (c.permissions.length ≤ 64) && c.permissions.all isPermission &&
    sortedUnique c.permissions && c.operationId.all isOptionalId && c.idempotencyId.all isOptionalId

/-- `assertClaims` of `federation-ws-channel.ts`. -/
def assertChannelClaims (H : VerifierHost) (c : FederationWsChannelClaims) : Bool :=
  sharedClaimsHold H c.keyId c.channelId c.targetInstallationId c.issuerInstallationId c.nonce
      c.subject c.browserIp c.actorKind c.role c.issuedAt c.expiresAt c.principalVersion &&
    isSafeInteger c.epoch && decide (1 ≤ c.epoch) && !c.actionIds.isEmpty &&
    decide (c.actionIds.length ≤ 128) && c.actionIds.all isActionId && sortedUnique c.actionIds &&
    decide (c.permissions.length ≤ 64) && c.permissions.all isPermission &&
    sortedUnique c.permissions

def fail (code : FederationCode) (message : String) : Except FederationError α :=
  .error ⟨code, message⟩

def decodeDelegationClaims (H : VerifierHost) (assertion : String) :
    Except FederationError DelegationClaims :=
  if allIn isBase64Url 1 8192 assertion then
    match H.parseDelegationClaims assertion with
    | none => fail .invalidAssertion "Delegation assertion JSON is invalid"
    | some parsed =>
      if !assertDelegationClaims H parsed then
        fail .invalidClaims "Delegation assertion contains invalid claims"
      else if H.delegationBytes parsed ≠ assertion then
        fail .nonCanonicalAssertion "Delegation assertion is not canonical"
      else .ok parsed
  else fail .invalidAssertion "Delegation assertion encoding is invalid"

def decodeFederationWsChannelClaims (H : VerifierHost) (assertion : String) :
    Except FederationError FederationWsChannelClaims :=
  if allIn isBase64Url 1 16384 assertion then
    match H.parseChannelClaims assertion with
    | none => fail .invalidAssertion "Channel assertion JSON is invalid"
    | some claims =>
      if !assertChannelClaims H claims then
        fail .invalidAssertion "Federation WS channel claims are invalid"
      else if H.channelBytes claims ≠ assertion then
        fail .nonCanonicalAssertion "Channel assertion is not canonical"
      else .ok claims
  else fail .invalidAssertion "Channel assertion encoding is invalid"

/-! ## The time window -/

def ASSERTION_CLOCK_SKEW_SECONDS : Int := 30

def MINIMUM_REPLAY_RETENTION_MS : Int := 120000

/-- The assertion is within its time window, by whole seconds. -/
def inWindow (issuedAt expiresAt : Int) (nowSeconds : Nat) : Bool :=
  isSafeInteger nowSeconds && decide (issuedAt ≤ nowSeconds + ASSERTION_CLOCK_SKEW_SECONDS) &&
    decide (nowSeconds - ASSERTION_CLOCK_SKEW_SECONDS ≤ expiresAt)

/-- `replayExpiresAt`. -/
def replayExpiresAt (expiresAt : Int) (now : Nat) : Int :=
  max ((expiresAt + ASSERTION_CLOCK_SKEW_SECONDS) * 1000) (now + MINIMUM_REPLAY_RETENTION_MS)

/-! ## The checks behind the key -/

def verifyDelegationAssertion (H : VerifierHost) (encoded : EncodedDelegationAssertion)
    (binding : DelegationRequestBinding) (key : FederationKey) (target : String)
    (nowSeconds : Nat) : Except FederationError DelegationClaims := do
  let claims ← decodeDelegationClaims H encoded.assertion
  if claims.issuerInstallationId ≠ key.issuer.issuerInstallationId ∨
      claims.targetInstallationId ≠ target ∨ claims.keyId ≠ key.kid then
    fail .assertionBindingMismatch "Delegation assertion issuer, target, or key does not match"
  else if !inWindow claims.issuedAt claims.expiresAt nowSeconds then
    fail .assertionExpired "Delegation assertion is outside its accepted time window"
  else if ← H.delegationSigned claims binding encoded.signature key.publicKeySpki then .ok claims
  else fail .invalidSignature "Delegation signature verification failed"

def verifyFederationWsChannelAssertion (H : VerifierHost) (envelope : FederatedWsChannelAssertion)
    (key : FederationKey) (target : String) (nowSeconds : Nat) :
    Except FederationError FederationWsChannelClaims := do
  let claims ← decodeFederationWsChannelClaims H envelope.assertion
  if claims.keyId ≠ key.kid ∨ claims.issuerInstallationId ≠ key.issuer.issuerInstallationId ∨
      claims.targetInstallationId ≠ target ∨ claims.channelId ≠ envelope.channelId ∨
      claims.targetInstallationId ≠ envelope.targetInstallationId ∨
      claims.epoch ≠ envelope.epoch ∨ claims.nonce ≠ envelope.nonce ∨
      claims.actionIds ≠ envelope.actionIds ∨ claims.issuedAt ≠ envelope.issuedAt ∨
      claims.expiresAt ≠ envelope.expiresAt then
    fail .assertionBindingMismatch "Federation WS channel envelope binding mismatch"
  else if !inWindow claims.issuedAt claims.expiresAt nowSeconds then
    fail .assertionExpired "Federation WS channel is outside its time window"
  else if H.channelSigned claims envelope.signature key.publicKeySpki then .ok claims
  else fail .invalidSignature "Federation WS channel signature is invalid"

/-- The key may be used now. -/
def FederationKey.active (key : FederationKey) (now : Nat) : Bool :=
  key.state == "ACTIVE" && key.revokedAt.isNone && decide (key.validFrom ≤ now) &&
    key.expiresAt.all fun t => decide (now < t)

/-! ## The store -/

/-- What the rest of the panel answers: its identity and manifest, the principal an assertion stands
for, the permissions of a service, and the receipt of an idempotency key. -/
structure Panel where
  identity : PanelIdentity
  manifest : Except FederationError String
  resolveVerifiedOperator : (issuer target subject : String) → (principalVersion : Int) →
    Except FederationError String
  resolveVerifiedService : DelegationClaims → Except FederationError (String × List String)
  claimIdempotency : DelegationClaims → (idempotencyKey : String) → Except FederationError String

structure FederationDb where
  clock : Nat
  panel : Panel
  federationKey : List FederationKey
  federationReplay : List FederationReplay
  maxActivePerIssuer : Nat

namespace FederationDb

/-- `federationKey.findUnique`. -/
def findKey (x : FederationDb) (kid : String) : Option FederationKey :=
  x.federationKey.find? fun key => key.kid == kid

/-- The rows of an issuer that count against its capacity. -/
def activeReplays (x : FederationDb) (issuerId : String) (now : Nat) : Nat :=
  x.federationReplay.countP fun row =>
    row.replayHash.issuerId == issuerId && decide ((now : Int) < row.expiresAt)

/-- A row stands in the way of the unique columns: the hash, and the issuer with the request id. -/
def conflicts (x : FederationDb) (hash : ReplayHash) : Bool :=
  x.federationReplay.any fun row =>
    row.replayHash == hash ||
      (row.replayHash.issuerId == hash.issuerId && row.replayHash.requestId == hash.requestId)

/-- The latest time a `Date` can hold. -/
def maxDate : Int := 8640000000000000

/-- `consume`: the check of the expiry, and one transaction. -/
def consume (x : FederationDb) (input : ConsumeFederationReplayInput) :
    Except FederationError ReplayHash × FederationDb :=
  if maxDate < input.expiresAt ∨ input.expiresAt ≤ input.now then
    (fail .replayExpiryInvalid "Replay tombstone expiry must be in the future", x)
  else if x.maxActivePerIssuer ≤ x.activeReplays input.hash.issuerId input.now then
    (fail .replayCapacityExceeded "Federation replay capacity is exhausted", x)
  else if x.conflicts input.hash then
    (fail .replayDetected "Federation assertion was already consumed", x)
  else (.ok input.hash, { x with
    federationReplay := x.federationReplay ++ [⟨input.hash, input.expiresAt⟩] })

/-- The `findMany` of `pruneExpired`. -/
def findExpired (x : FederationDb) (now limit : Nat) : List ReplayHash :=
  (((x.federationReplay.filter fun row => decide (row.expiresAt ≤ (now : Int))).mergeSort
    fun a b => decide (a.expiresAt ≤ b.expiresAt)).take limit).map FederationReplay.replayHash

/-- The `deleteMany` of `pruneExpired`: how many rows it deleted. -/
def deleteReplays (x : FederationDb) (hashes : List ReplayHash) : Nat × FederationDb :=
  (x.federationReplay.countP fun row => hashes.contains row.replayHash,
    { x with federationReplay := x.federationReplay.filter fun row =>
      !hashes.contains row.replayHash })

end FederationDb

inductive FederationInstr
  | now
  | getLocalIdentity
  | findKey (kid : String)
  | manifest
  | consume (input : ConsumeFederationReplayInput)
  | resolveVerifiedOperator (issuer target subject : String) (principalVersion : Int)
  | resolveVerifiedService (claims : DelegationClaims)
  | claimIdempotency (claims : DelegationClaims) (idempotencyKey : String)
  | findExpired (now limit : Nat)
  | deleteReplays (hashes : List ReplayHash)

abbrev Answer : FederationInstr → Type
  | .now => Nat
  | .getLocalIdentity => PanelIdentity
  | .findKey _ => Option FederationKey
  | .manifest => Except FederationError String
  | .consume _ => Except FederationError ReplayHash
  | .resolveVerifiedOperator _ _ _ _ => Except FederationError String
  | .resolveVerifiedService _ => Except FederationError (String × List String)
  | .claimIdempotency _ _ => Except FederationError String
  | .findExpired _ _ => List ReplayHash
  | .deleteReplays _ => Nat

/-- The answer to an instruction, and the database after it. -/
def answer : (i : FederationInstr) → FederationDb → Answer i × FederationDb
  | .now, x => (x.clock, x)
  | .getLocalIdentity, x => (x.panel.identity, x)
  | .findKey kid, x => (x.findKey kid, x)
  | .manifest, x => (x.panel.manifest, x)
  | .consume input, x => x.consume input
  | .resolveVerifiedOperator issuer target subject principalVersion, x =>
    (x.panel.resolveVerifiedOperator issuer target subject principalVersion, x)
  | .resolveVerifiedService claims, x => (x.panel.resolveVerifiedService claims, x)
  | .claimIdempotency claims idempotencyKey, x =>
    (x.panel.claimIdempotency claims idempotencyKey, x)
  | .findExpired now limit, x => (x.findExpired now limit, x)
  | .deleteReplays hashes, x => x.deleteReplays hashes

/-- What happens besides the calls. -/
inductive FederationChange
  | tick (elapsed : Nat)
  /-- A key is enrolled or rotated in, unless there is one of its name. -/
  | createKey (key : FederationKey)
  | updateKey (kid state : String) (expiresAt revokedAt : Option Nat)
  | updateIssuer (id state maxRole permissionPolicyJson : String) (revokedAt : Option Nat)
  | setPanel (panel : Panel)

def FederationDb.outside : FederationChange → FederationDb → FederationDb
  | .tick elapsed, x => { x with clock := x.clock + elapsed }
  | .createKey key, x =>
    if (x.findKey key.kid).isSome then x
    else { x with federationKey := x.federationKey ++ [key] }
  | .updateKey kid state expiresAt revokedAt, x => { x with
      federationKey := x.federationKey.map fun key =>
        if key.kid == kid then
          { key with state := state, expiresAt := expiresAt, revokedAt := revokedAt }
        else key }
  | .updateIssuer id state maxRole permissionPolicyJson revokedAt, x => { x with
      federationKey := x.federationKey.map fun key =>
        if key.issuer.id == id then
          { key with issuer := { key.issuer with
            state := state, maxRole := maxRole
            permissionPolicyJson := permissionPolicyJson, revokedAt := revokedAt } }
        else key }
  | .setPanel panel, x => { x with panel := panel }

/-! ## The calls -/

/-- What a call returns: the context of a verified assertion, or how many tombstones were pruned. -/
inductive FederationResult
  | verified (requestId issuerId keyId principalId : String) (effectivePermissions : List String)
      (replayHash : ReplayHash)
  | pruned (count : Nat)
deriving DecidableEq

abbrev FederationCall := Fallible FederationInstr Answer FederationError

abbrev perform (i : FederationInstr) : FederationCall (Answer i) := Fallible.ask i

/-- `FederationDelegationVerifierService.verify`. -/
def verifyDelegation (H : VerifierHost) (input : VerifyFederationDelegationInput) :
    FederationCall FederationResult := do
  let now ← perform .now
  let untrustedClaims ← Fallible.ofExcept (decodeDelegationClaims H input.encoded.assertion)
  let identity ← perform .getLocalIdentity
  if identity.installationRole ≠ "TARGET" then
    throw ⟨.targetRoleInvalid, "Federated data actions are accepted only by target installations"⟩
  else
    match ← perform (.findKey untrustedClaims.keyId) with
    | none => throw ⟨.issuerNotFound, "Federation issuer is not enrolled"⟩
    | some key =>
      if key.issuer.issuerInstallationId ≠ untrustedClaims.issuerInstallationId ∨
          key.issuer.targetInstallationId ≠ identity.installationId then
        throw ⟨.issuerNotFound, "Federation issuer is not enrolled"⟩
      else if !key.active now then
        throw ⟨.keyNotActive, "Federation key is not active"⟩
      else if key.encryptedPrivateKey then
        throw ⟨.targetPrivateKeyPresent,
          "Target federation verifier cannot retain a delegation private key"⟩
      else do
        let claims ← Fallible.ofExcept (verifyDelegationAssertion H input.encoded input.binding key
          identity.installationId (now / 1000))
        let (required, permitted) ← Fallible.ofExcept (H.actionPolicy claims key.issuer input)
        let replayHash ← ask? (.consume {
          hash := ⟨key.issuer.id, key.kid, claims.requestId, claims.actionId, claims.nonce⟩
          expiresAt := replayExpiresAt claims.expiresAt now
          now := now }) id
        let (principalId, effectivePermissions) ←
          if claims.actorKind == "OPERATOR" then
            ask? (.resolveVerifiedOperator claims.issuerInstallationId
              claims.targetInstallationId claims.subject claims.principalVersion)
              fun r => r.map fun principalId => (principalId, permitted)
          else
            ask? (.resolveVerifiedService claims) fun r => r.bind fun (principalId, permissions) =>
              if required.all permissions.contains then .ok (principalId, permissions)
              else fail .servicePermissionDenied
                "Service principal policy does not satisfy the action"
        match input.idempotencyKey with
        | none => pure ()
        | some idempotencyKey =>
          ask? (.claimIdempotency claims idempotencyKey) fun r => r.map fun _ => ()
        return .verified claims.requestId key.issuer.id key.kid principalId effectivePermissions
          replayHash

/-- `FederationWsChannelVerifierService.verify`. -/
def verifyChannel (H : VerifierHost) (assertion : FederatedWsChannelAssertion) :
    FederationCall FederationResult := do
  let now ← perform .now
  let untrusted ← Fallible.ofExcept (decodeFederationWsChannelClaims H assertion.assertion)
  let identity ← perform .getLocalIdentity
  if identity.installationRole ≠ "TARGET" then
    throw ⟨.targetRoleInvalid,
      "Federated WebSocket channels are accepted only by target installations"⟩
  else
    match ← perform (.findKey untrusted.keyId) with
    | none => throw ⟨.issuerNotFound, "Federation issuer is not enrolled"⟩
    | some key =>
      if key.issuer.issuerInstallationId ≠ untrusted.issuerInstallationId ∨
          key.issuer.targetInstallationId ≠ identity.installationId ∨
          key.issuer.state ≠ "ACTIVE" ∨ key.issuer.revokedAt.isSome then
        throw ⟨.issuerNotFound, "Federation issuer is not enrolled"⟩
      else if !key.active now then
        throw ⟨.keyNotActive, "Federation key is not active"⟩
      else if key.encryptedPrivateKey then
        throw ⟨.targetPrivateKeyPresent,
          "Target federation verifier cannot retain a delegation private key"⟩
      else do
        let claims ← Fallible.ofExcept (verifyFederationWsChannelAssertion H assertion key
          identity.installationId (now / 1000))
        let manifest ← ask? .manifest id
        let effectivePermissions ← Fallible.ofExcept (H.channelPolicy claims key.issuer manifest)
        let replayHash ← ask? (.consume {
          hash := ⟨key.issuer.id, key.kid, claims.channelId, "federation.ws-channel", claims.nonce⟩
          expiresAt := replayExpiresAt claims.expiresAt now
          now := now }) id
        let principalId ← ask? (.resolveVerifiedOperator claims.issuerInstallationId
          claims.targetInstallationId claims.subject claims.principalVersion) id
        return .verified claims.channelId key.issuer.id key.kid principalId effectivePermissions
          replayHash

def MAX_PRUNE_BATCH : Int := 1000

/-- `pruneExpired`. -/
def pruneExpired (batchSize : Int) : FederationCall FederationResult := do
  let now ← perform .now
  let limit := max 1 (min MAX_PRUNE_BATCH batchSize)
  let expired ← perform (.findExpired now limit.toNat)
  if expired.isEmpty then return .pruned 0
  else do
    let count ← perform (.deleteReplays expired)
    return .pruned count

inductive FederationRequest
  | http (input : VerifyFederationDelegationInput)
  | channel (assertion : FederatedWsChannelAssertion)
  | pruneExpired (batchSize : Int)
deriving DecidableEq

/-- The verifiers over one database. -/
def federation (H : VerifierHost) : Service FederationDb FederationChange FederationRequest
    FederationInstr Answer (Except FederationError FederationResult) where
  program
    | .http input => (verifyDelegation H input).run
    | .channel assertion => (verifyChannel H assertion).run
    | .pruneExpired batchSize => (pruneExpired batchSize).run
  answer := answer
  outside := FederationDb.outside

end Meowbox.Federation
