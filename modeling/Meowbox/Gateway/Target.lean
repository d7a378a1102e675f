import Meowbox.Gateway.Policy
import Meowbox.Lib.JsMap
import Meowbox.Lib.Runs

/-!
# The target's end of federated channels

Model of the federated half of `api/src/gateway/agent.gateway.ts`: `startFederatedTargetMode`,
`handleFederatedTargetEvent` with the handlers it starts, `emitFederatedEnvelope`,
`emitFederatedNotification`, `emitBrowserBroadcast`, `emitBrowserRoom`, `emitToClient` and
`handleDisconnect`. The emits to local browsers are left out.

A function that can throw returns what it leaves behind beside its outcome: `.error message` for a
throw, which keeps the changes made before it. A handler is any program: it may answer through its
callback, any number of times, and it ends by returning or by throwing. A frame given to a socket
that is no longer connected goes nowhere.
-/

namespace Meowbox.Gateway

open JsData AgentJobs

/-- What the gateway is given: the UUID drawn for a frame of a client's channel, and
`FederatedSocketPolicyService.validatePayload`. -/
structure GatewayHost where
  randomUUID : (clientId : String) → (sequence : Int) → String
  isUuid_randomUUID : ∀ clientId sequence, isUuid (randomUUID clientId sequence) = true
  validatePayload : FederatedSocketPolicyAction → JsValue → Bool

structure Rate where
  windowStartedAt : Int
  count : Nat

/-- A handler that has not ended yet, and whether its request has been responded to. -/
structure Running where
  request : FederatedWsEnvelope
  responded : Bool

/-- `FederatedTargetSession`. `handlers` are the events that have one; `registered` is whether
`federatedTargetSessions` has the session; `connected` and `emitted` belong to its socket. -/
structure FederatedTargetSession where
  clientId : String
  channelId : String
  epoch : Int
  role : FederatedSocketRole
  allowedActionIds : List String
  actions : List FederatedSocketPolicyAction
  handlers : List String
  rooms : List String
  incomingSequence : Int
  outgoingSequence : Int
  rateByAction : JsMap String Rate
  running : List Running
  registered : Bool
  connected : Bool
  emitted : List FederatedWsEnvelope

/-- What `FederationWsChannelVerifierService.verify` returns. -/
structure VerifiedFederationWsChannel where
  channelId : String
  epoch : Int
  role : FederatedSocketRole
  actionIds : List String
  actions : List FederatedSocketPolicyAction
  channelId_uuid : isUuid channelId = true
  epoch_numbered : Numbered 1 epoch

/-- What a session is after a function, and whether that threw. -/
abbrev Emission : Type := FederatedTargetSession × Except String Unit

/-- `Pick<FederatedWsEnvelope, …>`. -/
structure FederatedMessage where
  actionId : String
  correlationId : String
  event : String
  kind : FederatedWsMessageKind
  payload : JsValue

namespace FederatedTargetSession

/-- `session.socket.emit('federation:message', envelope)`. -/
def socketEmit (s : FederatedTargetSession) (e : FederatedWsEnvelope) : FederatedTargetSession :=
  if s.connected then { s with emitted := s.emitted ++ [e] } else s

/-- `session.socket.disconnect(true)`. -/
def disconnect (s : FederatedTargetSession) : FederatedTargetSession :=
  { s with connected := false }

/-- The envelope of a message, under the number of the session's counter. -/
def envelope (s : FederatedTargetSession) (m : FederatedMessage) : FederatedWsEnvelope :=
  ⟨s.channelId, s.epoch, s.outgoingSequence, m.actionId, m.correlationId, m.event, m.kind,
    m.payload⟩

/-- `++session.outgoingSequence`. -/
def advance (s : FederatedTargetSession) : FederatedTargetSession :=
  { s with outgoingSequence := s.outgoingSequence + 1 }

/-- `emitFederatedEnvelope`: the counter is advanced before the frame is validated. -/
def emitFederatedEnvelope (s : FederatedTargetSession) (m : FederatedMessage) : Emission :=
  match validateFederatedWsEnvelope (.object (s.advance.envelope m).fields) with
  | .ok e => (s.advance.socketEmit e, .ok ())
  | .error message => (s.advance, .error message)

/-- `emitFederatedAck`. -/
def emitFederatedAck (s : FederatedTargetSession) (request : FederatedWsEnvelope)
    (payload : FederatedWsAckPayload) : Emission :=
  s.emitFederatedEnvelope
    ⟨request.actionId, request.correlationId, request.event,
      if payload.outcome = .rejected then .nack else .ack, .object payload.fields⟩

end FederatedTargetSession

/-! ## What the target says -/

section Gateway

variable (H : GatewayHost)

/-- `emitFederatedState`. -/
def emitFederatedState (s : FederatedTargetSession) (payload : FederatedWsStatePayload) :
    Emission :=
  s.emitFederatedEnvelope
    ⟨"federation.ws-state", H.randomUUID s.clientId s.outgoingSequence, "federation:state", .state,
      .object payload.fields⟩

/-- `closeFederatedProtocol`. -/
def closeFederatedProtocol (s : FederatedTargetSession) (reasonCode : String) : Emission :=
  match emitFederatedState H s ⟨.closed, reasonCode, none, none⟩ with
  | (s, .ok _) => (s.disconnect, .ok ())
  | (s, .error message) => (s, .error message)

/-- `emitFederatedNotification`. -/
def emitFederatedNotification (event : String) (payload : JsValue) (s : FederatedTargetSession) :
    Emission :=
  match notificationForEvent event s.role with
  | none => (s, .ok ())
  | some action =>
    if !s.allowedActionIds.contains action.actionId then (s, .ok ())
    else if H.validatePayload action payload then
      s.emitFederatedEnvelope
        ⟨action.actionId, H.randomUUID s.clientId s.outgoingSequence, event, .event, payload⟩
    else closeFederatedProtocol H s "REMOTE_SCHEMA_MISMATCH"

end Gateway

/-- `for (const session of this.federatedTargetSessions.values())`, of those that `addressed` picks:
a throw leaves the loop. -/
def forEachSession (addressed : FederatedTargetSession → Bool)
    (f : FederatedTargetSession → Emission) :
    List FederatedTargetSession → List FederatedTargetSession × Except String Unit
  | [] => ([], .ok ())
  | s :: rest =>
    if s.registered && addressed s then
      match f s with
      | (s', .ok _) =>
        (s' :: (forEachSession addressed f rest).1, (forEachSession addressed f rest).2)
      | (s', .error message) => (s' :: rest, .error message)
    else (s :: (forEachSession addressed f rest).1, (forEachSession addressed f rest).2)

/-! ## Acknowledgements -/

mutual

/-- `String(value)`, of data whose objects have no `toString` of their own. -/
def toText : JsValue → String
  | .undefined => "undefined"
  | .null => "null"
  | .boolean b => if b then "true" else "false"
  | .number n => n.text
  | .nonFinite => "NaN"
  | .string s => s
  | .array items => ",".intercalate (toTexts items)
  | .object _ => "[object Object]"

/-- The texts of the elements of an array; what is missing has an empty one. -/
def toTexts : List JsValue → List String
  | [] => []
  | .undefined :: items => "" :: toTexts items
  | .null :: items => "" :: toTexts items
  | item :: items => toText item :: toTexts items

end

/-- The first `n` code units of the characters; the first half of a pair that is cut is written as
the replacement character. -/
def sliceUnits : Nat → List Char → List Char
  | _, [] => []
  | n, c :: cs =>
    if (utf16 c).length ≤ n then c :: sliceUnits (n - (utf16 c).length) cs
    else if n = 0 then [] else ['\uFFFD']

/-- `text.slice(0, n)`. -/
def slice (n : Nat) (text : String) : String := String.ofList (sliceUnits n text.toList)

/-- What stands under `error` in an answer: `result && typeof result === 'object' && 'error' in
result`. -/
def errorOf : JsValue → Option JsValue
  | .object fields => fields.lookup "error"
  | _ => none

/-- `result ?? null`. -/
def orNull : JsValue → JsValue
  | .undefined => .null
  | value => value

/-- What `acknowledge(result)` says. -/
def acknowledgement (acceptedSequence : Int) (result : JsValue) : FederatedWsAckPayload :=
  match errorOf result with
  | some error =>
    ⟨acceptedSequence, .rejected, some "REMOTE_ACTION_REJECTED", some (slice 1024 (toText error)),
      orNull result⟩
  | none => ⟨acceptedSequence, .completed, none, none, orNull result⟩

/-- What is said to a request beyond the limit. -/
def rateLimited (acceptedSequence : Int) : FederatedWsAckPayload :=
  ⟨acceptedSequence, .rejected, some "REMOTE_RATE_LIMITED",
    some "Remote WebSocket action rate limit exceeded", .null⟩

/-- What is said when a handler throws. -/
def applicationError (acceptedSequence : Int) : FederatedWsAckPayload :=
  ⟨acceptedSequence, .rejected, some "REMOTE_APPLICATION_ERROR",
    some "Remote WebSocket action failed", .null⟩

namespace FederatedTargetSession

/-- The handler of a request, if it has not ended. -/
def handlerOf (s : FederatedTargetSession) (sequence : Int) : Option Running :=
  s.running.find? fun r => decide (r.request.sequence = sequence)

/-- `responded = true`. -/
def respond (s : FederatedTargetSession) (sequence : Int) : FederatedTargetSession :=
  { s with running := s.running.map fun r =>
      if r.request.sequence = sequence then { r with responded := true } else r }

/-- The handler has ended. -/
def finish (s : FederatedTargetSession) (sequence : Int) : FederatedTargetSession :=
  { s with running := s.running.filter fun r => !decide (r.request.sequence = sequence) }

/-- `acknowledge(result)`. What `emitFederatedAck` throws is the handler's to handle. -/
def acknowledge (s : FederatedTargetSession) (sequence : Int) (result : JsValue) :
    FederatedTargetSession :=
  match s.handlerOf sequence with
  | none => s
  | some r =>
    if r.responded then s
    else ((s.respond sequence).emitFederatedAck r.request (acknowledgement sequence result)).1

/-- The handler returns: `if (!responded) acknowledge(null)`. -/
def handlerReturns (s : FederatedTargetSession) (sequence : Int) : FederatedTargetSession :=
  (s.acknowledge sequence .null).finish sequence

/-- The handler throws: the `catch` of `handleFederatedTargetEvent`. -/
def handlerThrows (s : FederatedTargetSession) (sequence : Int) : FederatedTargetSession :=
  match s.handlerOf sequence with
  | none => s
  | some r =>
    if r.responded then s.finish sequence
    else
      (((s.respond sequence).emitFederatedAck r.request (applicationError sequence)).1).finish
        sequence

end FederatedTargetSession

/-! ## Requests -/

/-- The events `registerClientListeners` binds for a role. -/
def boundEvents (role : FederatedSocketRole) : List String :=
  ["logs:tail:start", "logs:tail:stop", "ai:start", "ai:message", "ai:stop"] ++
    match role with
    | .admin =>
      ["migrate-hostpanel:subscribe", "migrate-hostpanel:unsubscribe", "php:install:subscribe",
        "php:install:unsubscribe", "php:ext-install:subscribe", "php:ext-install:unsubscribe",
        "terminal:open", "terminal:input", "terminal:resize", "terminal:close"]
    | .manager => []

/-- The rate of an action after one more request at a time, or `none` beyond the limit. -/
def takeRate (rates : JsMap String Rate) (id : String) (nowMs : Int) : Option (JsMap String Rate) :=
  match rates.get id with
  | none => some (rates.set id ⟨nowMs, 1⟩)
  | some rate =>
    if 1000 ≤ nowMs - rate.windowStartedAt then some (rates.set id ⟨nowMs, 1⟩)
    else if 100 ≤ rate.count then none
    else some (rates.set id { rate with count := rate.count + 1 })

section Requests

variable (H : GatewayHost)

/-- What remains of `handleFederatedTargetEvent` for a frame that is the next of the channel. -/
def handleRequest (s : FederatedTargetSession) (envelope : FederatedWsEnvelope) (nowMs : Int) :
    FederatedTargetSession :=
  match s.actions.find? fun action => action.actionId == envelope.actionId with
  | none => (closeFederatedProtocol H s "REMOTE_ACTION_MISMATCH").1
  | some action =>
    if !s.allowedActionIds.contains envelope.actionId || action.direction != .browserToApi ||
        action.event != envelope.event || !s.handlers.contains envelope.event then
      (closeFederatedProtocol H s "REMOTE_ACTION_MISMATCH").1
    else if !H.validatePayload action envelope.payload then
      (closeFederatedProtocol H s "REMOTE_SCHEMA_MISMATCH").1
    else
      match takeRate s.rateByAction action.actionId nowMs with
      | none => (s.emitFederatedAck envelope (rateLimited envelope.sequence)).1
      | some rates =>
        { s with rateByAction := rates, running := s.running ++ [⟨envelope, false⟩] }

/-- `handleFederatedTargetEvent`, up to the call of the handler. -/
def handleFederatedTargetEvent (s : FederatedTargetSession) (value : JsValue) (nowMs : Int) :
    FederatedTargetSession :=
  match validateFederatedWsEnvelope value with
  | .error _ => (closeFederatedProtocol H s "REMOTE_SCHEMA_MISMATCH").1
  | .ok envelope =>
    if envelope.channelId ≠ s.channelId ∨ envelope.epoch ≠ s.epoch ∨
        envelope.sequence ≠ s.incomingSequence + 1 ∨ envelope.kind ≠ .event then
      (closeFederatedProtocol H s "REMOTE_SEQUENCE_INVALID").1
    else handleRequest H { s with incomingSequence := envelope.sequence } envelope nowMs

/-- The session `startFederatedTargetMode` makes. -/
def targetSession (clientId : String) (verified : VerifiedFederationWsChannel) :
    FederatedTargetSession where
  clientId := clientId
  channelId := verified.channelId
  epoch := verified.epoch
  role := verified.role
  allowedActionIds := verified.actionIds
  actions := verified.actions
  handlers := (boundEvents verified.role).filter fun event =>
    (commandForEvent event verified.role).any fun action =>
      verified.actionIds.contains action.actionId
  rooms := []
  incomingSequence := 0
  outgoingSequence := 0
  rateByAction := .empty
  running := []
  registered := true
  connected := true
  emitted := []

/-- `startFederatedTargetMode`, of a channel that has been verified. -/
def startFederatedTargetMode (clientId : String) (verified : VerifiedFederationWsChannel)
    (now : Int) : FederatedTargetSession :=
  match emitFederatedState H (targetSession clientId verified)
      ⟨.ready, "READY", some now, none⟩ with
  | (s, .ok _) => s
  | (s, .error _) => s.disconnect

end Requests

/-! ## The gateway -/

/-- The events of `emitBrowserBroadcast`. -/
def broadcastEvents : List String :=
  ["backup:progress", "backup:restore:progress", "site:provision:done", "site:provision:log",
    "site:status", "system:metrics"]

/-- The events of `emitBrowserRoom`. -/
def roomEvents : List String :=
  ["logs:tail:data", "php:ext-install:log", "php:install:log", "site:deploy:log", "terminal:data"]

/-- The sessions of the gateway, in the order in which they were made. -/
abbrev GatewayState : Type := List FederatedTargetSession

inductive GatewayEvent
  /-- A client presents a channel that is verified. -/
  | connect (clientId : String) (verified : VerifiedFederationWsChannel) (now : Int)
  /-- `federation:event`. -/
  | receive (clientId : String) (value : JsValue) (nowMs : Int)
  /-- The handler of a request calls its callback. -/
  | acknowledge (clientId : String) (sequence : Int) (result : JsValue)
  | handlerReturns (clientId : String) (sequence : Int)
  | handlerThrows (clientId : String) (sequence : Int)
  /-- `emitBrowserBroadcast`. -/
  | broadcast (event : String) (payload : JsValue)
  /-- `emitBrowserRoom`. -/
  | toRoom (room event : String) (payload : JsValue) (broadcastToFederated : Bool)
  /-- `emitToClient`. -/
  | toClient (clientId event : String) (payload : JsValue)
  | joinRoom (clientId room : String)
  | leaveRoom (clientId room : String)
  /-- The socket closes: the channel expires, or the connection is lost. -/
  | disconnect (clientId : String)
  /-- `handleDisconnect`. -/
  | handleDisconnect (clientId : String)

/-- Whether a client has had a session. -/
def GatewayState.hasClient (x : GatewayState) (clientId : String) : Bool :=
  x.any fun s => s.clientId == clientId

/-- Something is done with the session of a client. -/
def GatewayState.onClient (x : GatewayState) (clientId : String)
    (f : FederatedTargetSession → FederatedTargetSession) : GatewayState :=
  x.map fun s => if s.clientId = clientId then f s else s

section Step

variable (H : GatewayHost)

/-- `emitBrowserBroadcast`. -/
def emitBrowserBroadcast (x : GatewayState) (event : String) (payload : JsValue) :
    GatewayState × Except String Unit :=
  if broadcastEvents.contains event then
    forEachSession (fun _ => true) (emitFederatedNotification H event payload) x
  else (x, .error ("Uncatalogued broadcast event: " ++ event))

/-- `emitBrowserRoom`. -/
def emitBrowserRoom (x : GatewayState) (room event : String) (payload : JsValue)
    (broadcastToFederated : Bool) : GatewayState × Except String Unit :=
  if roomEvents.contains event then
    forEachSession (fun s => broadcastToFederated || s.rooms.contains room)
      (emitFederatedNotification H event payload) x
  else (x, .error ("Uncatalogued room event: " ++ event))

/-- `emitToClient`, of a client with a federated session. -/
def emitToClient (x : GatewayState) (clientId event : String) (payload : JsValue) :
    GatewayState × Except String Unit :=
  forEachSession (fun s => s.clientId == clientId) (emitFederatedNotification H event payload) x

/-- One thing happens to the gateway. A client's id is its own, and a socket that has closed
receives nothing. -/
def gatewayStep (x : GatewayState) : GatewayEvent → Option GatewayState
  | .connect clientId verified now =>
    if x.hasClient clientId then none
    else some (x ++ [startFederatedTargetMode H clientId verified now])
  | .receive clientId value nowMs =>
    some (x.onClient clientId fun s =>
      if s.connected then handleFederatedTargetEvent H s value nowMs else s)
  | .acknowledge clientId sequence result =>
    some (x.onClient clientId fun s => s.acknowledge sequence result)
  | .handlerReturns clientId sequence =>
    some (x.onClient clientId fun s => s.handlerReturns sequence)
  | .handlerThrows clientId sequence =>
    some (x.onClient clientId fun s => s.handlerThrows sequence)
  | .broadcast event payload => some (emitBrowserBroadcast H x event payload).1
  | .toRoom room event payload broadcastToFederated =>
    some (emitBrowserRoom H x room event payload broadcastToFederated).1
  | .toClient clientId event payload => some (emitToClient H x clientId event payload).1
  | .joinRoom clientId room =>
    some (x.onClient clientId fun s =>
      if s.registered then { s with rooms := room :: s.rooms } else s)
  | .leaveRoom clientId room =>
    some (x.onClient clientId fun s =>
      if s.registered then { s with rooms := s.rooms.filter fun r => r != room } else s)
  | .disconnect clientId => some (x.onClient clientId FederatedTargetSession.disconnect)
  | .handleDisconnect clientId =>
    some (x.onClient clientId fun s => { s with registered := false })

end Step

end Meowbox.Gateway
