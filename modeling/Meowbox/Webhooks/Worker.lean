import Meowbox.Webhooks.Ingress

/-!
# `WebhookDeliveryWorkerService`

`poll` is one turn of the loop of `pollOnce`: it claims a delivery and executes it; `redrive` and
`cleanupDlq` are the calls of an operator and of a timer. `webhookService` is all of them together
with the ingress.
-/

namespace Meowbox.Webhooks

open Interleaved Fallible

/-- A claimed row with its route. -/
abbrev ClaimedDelivery := WebhookDelivery × WebhookRoute

def WEBHOOK_RETRY_DELAYS_MS : List Nat := [5000, 30000, 120000, 600000, 3600000]

/-- The loop over the candidates of `claimNext`. -/
def claimFirst (worker : String) (now : Nat) :
    List ClaimedDelivery → WebhookCall (Option ClaimedDelivery)
  | [] => pure none
  | candidate :: rest => do
    let busy ← perform (.targetActive worker candidate.2.targetInstallationId)
    if busy then claimFirst worker now rest
    else do
      let claimed ← perform (.claim worker candidate.1.id now)
      if claimed then perform (.findClaimed worker candidate.1.id)
      else claimFirst worker now rest

def claimNext (worker : String) (now : Nat) : WebhookCall (Option ClaimedDelivery) := do
  let candidates ← perform (.findDue worker now)
  claimFirst worker now candidates

/-- `errorCode`. -/
def WebhookError.code : WebhookError → String
  | .failed code => code
  | .badRequest _ => "BADREQUESTEXCEPTION"
  | .notFound _ => "NOTFOUNDEXCEPTION"
  | .conflict _ => "CONFLICTEXCEPTION"
  | .unavailable _ => "SERVICEUNAVAILABLEEXCEPTION"
  | .uniqueViolation => "PRISMACLIENTKNOWNREQUESTERROR"

def fail (worker : String) (delivery : WebhookDelivery) (error : WebhookError) (forceDlq : Bool) :
    WebhookCall Unit :=
  if forceDlq || decide (delivery.maxAttempts ≤ delivery.attempt) then do
    let updated ← perform (.toDlq worker delivery.id error.code)
    if updated then do
      let _ ← attempt (ask? (.moveToDlq worker delivery.id) id)
      pure ()
    else pure ()
  else
    let delay := WEBHOOK_RETRY_DELAYS_MS.getD
      (min (delivery.attempt - 1) (WEBHOOK_RETRY_DELAYS_MS.length - 1)) 0
    perform (.retryLater worker delivery.id delay error.code)

/-- The `try` block of `execute`. -/
def deliverOnce (worker : String) (delivery : WebhookDelivery) (route : WebhookRoute) :
    WebhookCall Unit := do
  let payload ← ask? (.readPayload worker delivery.id delivery.routeId delivery.bodySha256) id
  let target := route.remoteServerId.map fun _ => route.targetInstallationId
  let result ← ask?
    (.dispatch worker delivery.id delivery.attempt delivery.redrives target payload) id
  if result ≠ delivery.id then throw (.failed "ERROR")
  else do
    let completed ← perform (.complete worker delivery.id)
    if completed then perform (.removeDelivered worker delivery.id) else pure ()

def execute (worker : String) (claimed : ClaimedDelivery) : WebhookCall Unit := do
  if !claimed.2.active || claimed.2.revokedAt.isSome then
    fail worker claimed.1 (.failed "ERROR") true
  else do
    let outcome ← attempt (deliverOnce worker claimed.1 claimed.2)
    match outcome with
    | .ok _ => pure ()
    | .error error => fail worker claimed.1 error false

/-- One turn of `pollOnce`. -/
def poll (worker : String) (now : Nat) : WebhookCall Unit := do
  let free ← perform (.beginPoll worker)
  if free then do
    let next ← claimNext worker now
    match next with
    | none => perform (.endPoll worker)
    | some claimed => do
      let _ ← perform (.activate worker claimed.1.id claimed.2.targetInstallationId)
      let _ ← attempt (execute worker claimed)
      perform (.deactivate worker claimed.1.id claimed.2.targetInstallationId)
  else pure ()

def redrive (deliveryId : Nat) : WebhookCall Unit := do
  let found ← perform (.findById deliveryId)
  match found with
  | none => throw (.notFound "Webhook DLQ delivery not found")
  | some (delivery, route) =>
    if delivery.state ≠ .dlq then throw (.notFound "Webhook DLQ delivery not found")
    else if !route.active || route.revokedAt.isSome then
      throw (.conflict "Webhook route is revoked")
    else do
      let _ ← ask? (.moveToQueue deliveryId) id
      let updated ← perform (.redriveRow deliveryId)
      if updated then pure () else throw (.conflict "Webhook delivery changed concurrently")

/-- The loop of `cleanupDlq`. -/
def discardAll : List Nat → WebhookCall Unit
  | [] => pure ()
  | id :: rest => do
    let _ ← perform (.discard id .dlq)
    let _ ← perform (.discard id .queue)
    discardAll rest

def cleanupDlq (now : Nat) : WebhookCall Unit := do
  let expired ← perform (.findExpired now)
  discardAll expired
  if expired.isEmpty then pure () else perform (.deleteExpired expired)

inductive WebhookRequest
  | accept (request : IngressRequest)
  | poll (worker : String) (now : Nat)
  | redrive (deliveryId : Nat)
  | cleanupDlq (now : Nat)

/-- A result nobody waits for. -/
def silent {α : Type} (call : WebhookCall α) : Prog WebhookInstr Answer Unit :=
  call.run.bind fun _ => .done ()

def WebhookRequest.program (C : WebhookConfig) (R : IngressRuntime) :
    WebhookRequest → Prog WebhookInstr Answer Unit
  | .accept request => silent (Meowbox.Webhooks.accept C R request)
  | .poll worker now => silent (Meowbox.Webhooks.poll worker now)
  | .redrive deliveryId => silent (Meowbox.Webhooks.redrive deliveryId)
  | .cleanupDlq now => silent (Meowbox.Webhooks.cleanupDlq now)

/-- The ingress and the worker over one store. -/
def webhookService (C : WebhookConfig) (R : IngressRuntime) :
    Service WebhookStore WebhookChange WebhookRequest WebhookInstr Answer Unit where
  program := WebhookRequest.program C R
  answer := answer C
  outside := WebhookChange.apply

end Meowbox.Webhooks
