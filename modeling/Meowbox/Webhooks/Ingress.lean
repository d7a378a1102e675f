import Meowbox.Webhooks.Service

/-!
# `WebhookIngressService`

`accept` as a program over the statements it awaits. Verifying the headers, hashing the body and
checking the envelope are functions of their arguments and stand as parameters.
-/

namespace Meowbox.Webhooks

open Interleaved Fallible

/-- `VerifiedWebhookProviderDelivery`; of the payload `accept` reads `ref`. -/
structure ProviderDelivery where
  provider : String
  providerDeliveryId : String
  event : String
  signature : String
  ref : Option String
deriving DecidableEq

structure IngressRuntime where
  verify : WebhookRoute → List String → List UInt8 → Except WebhookError ProviderDelivery
  sha256 : List UInt8 → String
  validateFederatedWebhookDelivery : FederatedWebhookDelivery → Except WebhookError Unit

structure IngressRequest where
  token : String
  rawHeaders : List String
  body : List UInt8
  now : Nat
deriving DecidableEq

inductive IngressResult
  | ignored
  | accepted (deliveryId : Nat) (replayed : Bool)
deriving DecidableEq

/-- A call of one of the services. -/
abbrev WebhookCall := Fallible WebhookInstr Answer WebhookError

abbrev perform (i : WebhookInstr) : WebhookCall (Answer i) := Fallible.ask i

/-- A branch below `refs/heads/`, of at most 128 characters. -/
def validRef (ref : String) : Bool :=
  let heads := "refs/heads/".toList
  let name := ref.toList.drop heads.length
  ref.toList.take heads.length == heads && name.length != 0 && decide (name.length ≤ 128) &&
    name.all fun c => c.isAlphanum || c == '.' || c == '_' || c == '/' || c == '-'

def isSameProviderDelivery (delivery : WebhookDelivery) (bodySha256 event : String) : Bool :=
  delivery.bodySha256 == bodySha256 && delivery.event == event

/-- The answer for a delivery that is there already. -/
def replay (existing : WebhookDelivery) (bodySha256 event : String) : WebhookCall IngressResult :=
  if isSameProviderDelivery existing bodySha256 event then pure (.accepted existing.id true)
  else throw (.conflict "Webhook delivery ID is bound to different bytes")

def federatedDelivery (deliveryId : Nat) (route : WebhookRoute) (provider : ProviderDelivery)
    (request : IngressRequest) (bodySha256 : String) : FederatedWebhookDelivery where
  deliveryId := deliveryId
  routeId := route.id
  targetInstallationId := route.targetInstallationId
  siteId := route.targetSiteId
  domainId := route.targetDomainId
  domain := route.targetDomain
  provider := provider.provider
  providerDeliveryId := provider.providerDeliveryId
  event := "push"
  receivedAt := request.now
  rawBody := request.body
  rawBodySha256 := bodySha256
  providerSignature := provider.signature

/-- The `try` block. -/
def enqueue (deliveryId : Nat) (routeId providerDeliveryId bodySha256 event : String) (now : Nat) :
    WebhookCall IngressResult := do
  let admission ← ask? (.admitDelivery deliveryId routeId providerDeliveryId bodySha256 now) id
  match admission with
  | .created => pure (.accepted deliveryId false)
  | .found delivery => do
    let _ ← perform (.remove deliveryId .queue)
    replay delivery bodySha256 event

/-- The `catch` block. -/
def recover (deliveryId : Nat) (routeId providerDeliveryId bodySha256 event : String)
    (error : WebhookError) : WebhookCall IngressResult := do
  let _ ← perform (.remove deliveryId .queue)
  if error = .uniqueViolation then do
    let concurrent ← perform (.findProvided routeId providerDeliveryId)
    match concurrent with
    | some delivery =>
      if isSameProviderDelivery delivery bodySha256 event then pure (.accepted delivery.id true)
      else throw error
    | none => throw error
  else throw error

/-- `accept` from the payload on. -/
def store (R : IngressRuntime) (route : WebhookRoute) (provider : ProviderDelivery)
    (request : IngressRequest) (bodySha256 : String) : WebhookCall IngressResult := do
  let deliveryId ← perform .randomUUID
  let delivery := federatedDelivery deliveryId route provider request bodySha256
  Fallible.ofExcept (R.validateFederatedWebhookDelivery delivery)
  ask? (.write delivery) id
  let outcome ← attempt
    (enqueue deliveryId route.id provider.providerDeliveryId bodySha256 provider.event request.now)
  match outcome with
  | .ok result => pure result
  | .error error =>
    recover deliveryId route.id provider.providerDeliveryId bodySha256 provider.event error

/-- `accept` from the first look at the deliveries on. -/
def receive (C : WebhookConfig) (R : IngressRuntime) (route : WebhookRoute)
    (provider : ProviderDelivery) (request : IngressRequest) (bodySha256 : String) :
    WebhookCall IngressResult := do
  let existing ← perform (.findProvided route.id provider.providerDeliveryId)
  match existing with
  | some delivery => replay delivery bodySha256 provider.event
  | none => do
    let queued ← perform .countQueued
    if C.queueLimit ≤ queued then throw (.unavailable "Webhook delivery queue is full")
    else store R route provider request bodySha256

/-- `accept`. -/
def accept (C : WebhookConfig) (R : IngressRuntime) (request : IngressRequest) :
    WebhookCall IngressResult := do
  let route ← ask? (.resolvePublicToken request.token) id
  let provider ← Fallible.ofExcept (R.verify route request.rawHeaders request.body)
  if provider.event ≠ "push" then pure .ignored
  else if provider.ref.all fun ref => !validRef ref then
    throw (.conflict "Webhook push ref is invalid")
  else receive C R route provider request (R.sha256 request.body)

end Meowbox.Webhooks
