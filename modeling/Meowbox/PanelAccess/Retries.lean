import Meowbox.Federation.ClaimsApart
import Meowbox.Lib.Alone
import Meowbox.PanelAccess.Store

/-!
# Cutover mutations at the target

What becomes of a mutation that `PanelAccessCutoverCoordinatorService` sends: its idempotency key,
which is the same each time it is sent (`targetJson` and its callers), what the guard and the
verifier of the target do before the handler (`federation-delegation.guard.ts`,
`federation-delegation-verifier.service.ts`), and the answer.

* Every arrival of a mutation at the target is a call of its own. A mutation that is lost on its
  way is none; the target may stop between any two of its statements; and whether the answer
  arrives changes nothing at the target.
* `execute` is the handler, with all that stands between the guard and it. What it comes to is set
  from outside.
* The receipts are those of `Federation/Idempotency.lean`, with all other claims and cleanups.

The checks of an assertion in front of the claim do not look at receipts; a mutation they refuse has
not been received.
-/

namespace Meowbox.PanelAccess

open Interleaved Fallible Meowbox.Registry Meowbox.FederationIdempotency

/-! ## What the coordinator sends -/

/-- A mutation, by the method of the coordinator that sends it. -/
inductive CutoverMutation
  /-- `startTargetStage`. -/
  | stage (request : CutoverRequest)
  /-- `confirmBrowser` and `reconcileActivated`. -/
  | finalize (cutoverId : String)
  /-- `rollback`. -/
  | rollback (cutoverId : String)
  /-- `rollbackUncommitted`. -/
  | rollbackUncommitted (cutoverId : String)
  /-- `ensureTargetRollbackSafe`. -/
  | cancel (cutoverId targetOperationId : String)
deriving DecidableEq

namespace CutoverMutation

/-- What the target is asked for. -/
def request : CutoverMutation → TargetRequest
  | stage request => .stage request
  | finalize cutoverId => .finalize cutoverId
  | rollback cutoverId => .rollback cutoverId
  | rollbackUncommitted cutoverId => .rollback cutoverId
  | cancel _ targetOperationId => .cancelOperation targetOperationId

def idempotencyKey : CutoverMutation → String
  | stage request => "panel-access-stage-" ++ request.cutoverId
  | finalize cutoverId => "panel-access-finalize-" ++ cutoverId
  | rollback cutoverId => "panel-access-rollback-" ++ cutoverId
  | rollbackUncommitted cutoverId => "panel-access-reconcile-" ++ cutoverId
  | cancel cutoverId _ => "panel-access-cancel-" ++ cutoverId

/-- The action of the catalogue. -/
def actionId : CutoverMutation → String
  | stage _ => "http.post.panel-access-federation-cutovers"
  | finalize _ => "http.post.panel-access-federation-cutovers-cutover-id-finalize"
  | rollback _ => "http.post.panel-access-federation-cutovers-cutover-id-rollback"
  | rollbackUncommitted _ => "http.post.panel-access-federation-cutovers-cutover-id-rollback"
  | cancel _ _ => "http.post.operations-id-cancel"

def targetPathAndQuery : CutoverMutation → String
  | stage _ => "/api/panel-access/federation-cutovers"
  | finalize cutoverId => "/api/panel-access/federation-cutovers/" ++ cutoverId ++ "/finalize"
  | rollback cutoverId => "/api/panel-access/federation-cutovers/" ++ cutoverId ++ "/rollback"
  | rollbackUncommitted cutoverId =>
    "/api/panel-access/federation-cutovers/" ++ cutoverId ++ "/rollback"
  | cancel _ targetOperationId => "/api/operations/" ++ targetOperationId ++ "/cancel"

/-- The headers of a request, in canonical order. -/
def headers (mutation : CutoverMutation) : List (String × String) :=
  [("accept", "application/json"), ("content-type", "application/json"),
    ("idempotency-key", mutation.idempotencyKey)]

end CutoverMutation

/-- What hashing needs of the platform. -/
structure HashHost where
  sha256 : String → String
  /-- `JSON.stringify` of the headers. -/
  headersJson : List (String × String) → String
  /-- The body of a request. -/
  body : TargetRequest → String

/-- A mutation that the target receives: its issuer, the user, and the request. -/
structure Delivery where
  issuerId : String
  actorId : String
  requestId : String
  mutation : CutoverMutation
deriving DecidableEq

/-- `federationRequestHash` of the request's binding. -/
def Delivery.requestHash (H : HashHost) (d : Delivery) : String :=
  digest H.sha256 ["POST", d.mutation.targetPathAndQuery, H.headersJson d.mutation.headers,
    H.sha256 (H.body d.mutation.request)]

/-- What the verifier claims. -/
def Delivery.input (H : HashHost) (d : Delivery) : ClaimInput where
  issuerId := d.issuerId
  actorKind := .operator
  subject := d.actorId
  actionId := d.mutation.actionId
  idempotencyKey := d.mutation.idempotencyKey
  requestId := d.requestId
  requestHash := d.requestHash H

/-! ## What the target answers -/

/-- What the handler comes to. -/
abbrev HandlerOutcome : Type := Except RegistryError TargetData

inductive TargetReply
  | executed (outcome : HandlerOutcome)
  /-- The guard refuses the request. -/
  | rejected (status : Nat) (code : String)
deriving DecidableEq

/-- `rejectClassified`, of what `claim` throws. -/
def rejectClassified : ClaimError → TargetReply
  | .idempotency _ _ => .rejected 409 "REMOTE_IDEMPOTENCY_CONFLICT"
  | .p2002 => .rejected 401 "REMOTE_AUTH_FAILED"

/-- What `targetJson` makes of an answer; `none` is one that does not arrive. -/
def readReply : Option TargetReply → Except RegistryError TargetData
  | some (.executed (.ok data)) => .ok data
  | _ => .error ⟨.conflict, "Target Panel Access cutover request failed"⟩

structure DeliveryStore where
  receipts : ReceiptStore
  /-- What the handler comes to at present. -/
  outcome : HandlerOutcome
  /-- What was executed, the latest first. -/
  executed : List CutoverMutation

inductive DeliveryInstr
  | receipts (i : ReceiptInstr)
  | execute (mutation : CutoverMutation)

abbrev DeliveryAnswer : DeliveryInstr → Type
  | .receipts i => FederationIdempotency.Reply i
  | .execute _ => HandlerOutcome

def deliveryAnswer (sha256 : String → String) :
    (i : DeliveryInstr) → DeliveryStore → DeliveryAnswer i × DeliveryStore
  | .receipts i, x =>
    ((FederationIdempotency.reply sha256 i x.receipts).1,
      { x with receipts := (FederationIdempotency.reply sha256 i x.receipts).2 })
  | .execute mutation, x => (x.outcome, { x with executed := mutation :: x.executed })

/-- What follows the claim: the handler, or the answer of the guard. -/
def afterClaim (d : Delivery) :
    Except ClaimError ReceiptId → Prog DeliveryInstr DeliveryAnswer TargetReply
  | .ok _ => .ask (.execute d.mutation) fun outcome => .done (.executed outcome)
  | .error e => .done (rejectClassified e)

/-- The guard, the claim and the handler. -/
def deliver (H : HashHost) (ttl : Nat) (d : Delivery) :
    Prog DeliveryInstr DeliveryAnswer TargetReply :=
  ((claim H.sha256 ttl (d.input H)).run.along DeliveryInstr.receipts).bind (afterClaim d)

inductive DeliveryRequest
  | deliver (d : Delivery)
  /-- Any other claim, or a cleanup. -/
  | receipts (request : ReceiptRequest)
deriving DecidableEq

inductive DeliveryResult
  | replied (reply : TargetReply)
  | receipts (result : Except ClaimError ReceiptResult)
deriving DecidableEq

inductive DeliveryChange
  | clock (change : ClockChange)
  | setOutcome (outcome : HandlerOutcome)
deriving DecidableEq

/-- The target, as far as receipts go. -/
def deliveries (H : HashHost) (configured : Option Int) : Service DeliveryStore DeliveryChange
    DeliveryRequest DeliveryInstr DeliveryAnswer DeliveryResult where
  program
    | .deliver d => (deliver H (receiptTtlMs configured) d).bind fun r => .done (.replied r)
    | .receipts request => (((receiptService H.sha256 configured).program request).along
        DeliveryInstr.receipts).bind fun r => .done (.receipts r)
  answer := deliveryAnswer H.sha256
  outside
    | .clock change, x =>
      { x with receipts := (receiptService H.sha256 configured).outside change x.receipts }
    | .setOutcome outcome, x => { x with outcome := outcome }

end Meowbox.PanelAccess
