import Meowbox.Gateway.Target

/-!
# The master's end of a federated channel

Model of one session of `api/src/gateway/federated-socket-bridge.service.ts`, from `attach` to
`detach`: the commands of the browser, the channels it opens one after the other, what arrives on
them, and its timers. A timer runs at its time or later, in any order with the others. The socket
of a channel remembers what it has been given and how much has come over it.

`connect` ends at `await this.issuer.issue(…)`; what comes back is an event of its own.
-/

namespace Meowbox.Gateway

open JsData AgentJobs

/-- What the bridge is given: the UUIDs, and `FederatedSocketPolicyService.validatePayload`. -/
structure BridgeHost where
  randomUUID : Nat → String
  randomUUID_injective : Function.Injective randomUUID
  validatePayload : FederatedSocketPolicyAction → JsValue → Bool

def MAX_PRE_READY_EVENTS : Nat := 32
def MAX_PRE_READY_BYTES : Nat := 262144
def MAX_SUBSCRIPTIONS : Nat := 20
def MAX_PENDING_MESSAGES : Nat := 256
def MAX_PENDING_BYTES : Nat := 1048576
def ACK_TIMEOUT_MS : Nat := 10000
def MIN_RECONNECT_MS : Nat := 250
def MAX_RECONNECT_MS : Nat := 30000
def ASSERTION_REFRESH_ADVANCE_MS : Nat := 10000

/-- `PendingMessage`; the callback is the number of the browser's, and the timer is its time. -/
structure PendingMessage where
  callback : Option Nat
  timeoutAt : Nat
  bytes : Nat
  sequence : Int

structure DesiredSubscription where
  action : FederatedSocketPolicyAction
  payload : JsValue
  bytes : Nat

/-- The socket of a channel: what has been sent over it, how many frames have arrived on it, and
which requests these have answered. -/
structure UpstreamSocket where
  channelId : String
  connected : Bool
  sent : List FederatedWsEnvelope
  received : Int
  answered : List String

/-- What the browser is told. -/
inductive BrowserOutput
  | state (payload : FederatedWsStatePayload)
  | proxyError (code message : String)
  | event (name : String) (payload : JsValue)
  | answer (callback : Nat) (payload : JsValue)

/-- `BridgeSession`, with the clock, the number of UUIDs drawn and what the browser has been told.
`timedOut` are the requests whose timer has run, `tornDownBy` is the kind of the frame that a
protocol failure was about. -/
structure BridgeSession where
  role : FederatedSocketRole
  epoch : Int
  outgoingSequence : Int
  incomingSequence : Int
  state : FederatedWsState
  allowedActionIds : List String
  upstream : Option UpstreamSocket
  pending : JsMap String PendingMessage
  pendingBytes : Nat
  subscriptions : JsMap String DesiredSubscription
  preReadyCount : Nat
  preReadyBytes : Nat
  reconnectAttempt : Nat
  reconnectTimer : Option Nat
  refreshTimer : Option Nat
  closing : Bool
  rateByAction : JsMap String Rate
  connecting : Bool
  clock : Nat
  drawn : Nat
  toBrowser : List BrowserOutput
  timedOut : List String
  tornDownBy : Option FederatedWsMessageKind

/-- What `FederationWsChannelIssuerService.issue` returns; it refuses to issue a channel without
actions. -/
structure IssuedFederationWsChannel where
  channelId : String
  actionIds : List String
  expiresAt : Nat
  actionIds_ne : actionIds ≠ []

/-- `jsonBytes`. -/
def jsonBytes (value : JsValue) : Option Nat := (stringify value).map String.utf8ByteSize

/-- `action.event.endsWith(':unsubscribe')`. -/
def isUnsubscribe (action : FederatedSocketPolicyAction) : Bool :=
  ":unsubscribe".toList.isSuffixOf action.event.toList

/-- `subscriptionKey`, of a payload that is JSON. -/
def subscriptionKey (action : FederatedSocketPolicyAction) (payload : JsValue) : String :=
  let base :=
    if isUnsubscribe action then
      String.ofList (action.event.toList.take (action.event.toList.length - 12)) ++ ":subscribe"
    else action.event
  base ++ "\x00" ++ stableJson payload

/-- `{ error, code }`. -/
def refusal (error code : String) : JsValue :=
  .object [("error", .string error), ("code", .string code)]

/-- `callbackResult`. -/
def callbackResult (ack : FederatedWsAckPayload) : JsValue :=
  if ack.outcome = .accepted ∨ ack.outcome = .completed then
    match orNull ack.result with
    | .null => .object [("accepted", .boolean true)]
    | result => result
  else
    refusal (ack.message.getD "Remote WebSocket action was rejected")
      (ack.code.getD "REMOTE_ACTION_REJECTED")

namespace BridgeSession

/-- `callback?.(payload)`. -/
def reply (s : BridgeSession) (callback : Option Nat) (payload : JsValue) : BridgeSession :=
  match callback with
  | some c => { s with toBrowser := s.toBrowser ++ [BrowserOutput.answer c payload] }
  | none => s

/-- `emitState`. -/
def emitState (s : BridgeSession) (state : FederatedWsState) (reasonCode : String)
    (retryAfterMs : Option Int) : BridgeSession :=
  { s with
    state := state
    toBrowser := s.toBrowser ++
      [BrowserOutput.state
        ⟨state, reasonCode, if state = .ready then some s.clock else none, retryAfterMs⟩] }

/-- `closeUpstream`. -/
def closeUpstream (s : BridgeSession) : BridgeSession := { s with upstream := none }

/-- `rejectPending`. -/
def rejectPending (s : BridgeSession) (code message : String) : BridgeSession :=
  { s with
    pending := .empty
    pendingBytes := 0
    toBrowser := s.toBrowser ++ s.pending.entries.filterMap fun p =>
      p.2.callback.map fun c => BrowserOutput.answer c (refusal message code) }

/-- `detach`. -/
def detach (s : BridgeSession) : BridgeSession :=
  if s.closing then s
  else
    let s := { s with closing := true, reconnectTimer := none, refreshTimer := none }
    s.closeUpstream.rejectPending "REMOTE_CHANNEL_CLOSED" "Remote WebSocket channel closed"

/-- `failProtocol`, about a frame of the kind. -/
def failProtocol (s : BridgeSession) (kind : Option FederatedWsMessageKind) (reasonCode : String) :
    BridgeSession :=
  let told := s.emitState .closed reasonCode none
  { told with
    toBrowser := told.toBrowser ++
      [BrowserOutput.proxyError reasonCode "Remote WebSocket protocol violation"]
    tornDownBy := kind }.detach

/-- `reconnectDelay`, with `Math.random()` in thousandths. -/
def reconnectDelay (s : BridgeSession) (random : Nat) : Nat :=
  let base := min MAX_RECONNECT_MS (Nat.shiftLeft MIN_RECONNECT_MS s.reconnectAttempt)
  max MIN_RECONNECT_MS (base * (1500 + random) / 2000)

/-- `scheduleReconnect`. -/
def scheduleReconnect (s : BridgeSession) (delay : Nat) : BridgeSession :=
  if s.closing || s.reconnectTimer.isSome then s
  else { s with reconnectTimer := some (s.clock + delay) }

/-- `connect`, up to `await this.issuer.issue(…)`. -/
def connect (s : BridgeSession) : BridgeSession :=
  if s.closing then s
  else
    { s with
      reconnectTimer := none
      refreshTimer := none
      upstream := none
      epoch := s.epoch + 1
      outgoingSequence := 0
      incomingSequence := 0
      connecting := true }.emitState .targetConnecting "TARGET_CONNECTING" none

/-- `connect`, when the issuer has failed. -/
def issueFailed (s : BridgeSession) (code : String) (random : Nat) : BridgeSession :=
  let s := { s with connecting := false }
  if code = "REMOTE_NOT_READY" then
    let delay := s.reconnectDelay random
    ({ s with reconnectAttempt := s.reconnectAttempt + 1 }.emitState .degraded code
      (some delay)).scheduleReconnect delay
  else
    let told := s.emitState .closed code none
    { told with
      toBrowser := told.toBrowser ++
        [BrowserOutput.proxyError code "Remote WebSocket authorization failed"] }

/-- `connect`, when a channel has been issued. -/
def issued (s : BridgeSession) (channel : IssuedFederationWsChannel) : BridgeSession :=
  let s := { s with connecting := false }
  if s.closing then s
  else
    { s with
      allowedActionIds := channel.actionIds
      upstream := some ⟨channel.channelId, false, [], 0, []⟩
      refreshTimer :=
        some (s.clock + max 1000 (channel.expiresAt - s.clock - ASSERTION_REFRESH_ADVANCE_MS)) }

/-- `handleUpstreamLoss`. -/
def handleUpstreamLoss (s : BridgeSession) (reasonCode : String) (random : Nat) : BridgeSession :=
  if s.closing then s
  else
    let s := s.closeUpstream.rejectPending "REMOTE_DISCONNECTED" "Remote WebSocket disconnected"
    let delay := s.reconnectDelay random
    ({ s with reconnectAttempt := s.reconnectAttempt + 1 }.emitState .degraded reasonCode
      (some delay)).scheduleReconnect delay

/-- The envelope of a command, under the number of the session's counter. -/
def commandEnvelope (s : BridgeSession) (channelId correlationId : String)
    (action : FederatedSocketPolicyAction) (payload : JsValue) : FederatedWsEnvelope :=
  ⟨channelId, s.epoch, s.outgoingSequence, action.actionId, correlationId, action.event, .event,
    payload⟩

/-- The request is pending, and the socket has been given it. -/
def enqueue (s : BridgeSession) (upstream : UpstreamSocket) (request : FederatedWsEnvelope)
    (callback : Option Nat) (bytes : Nat) : BridgeSession :=
  { s with
    pending := s.pending.set request.correlationId
      ⟨callback, s.clock + ACK_TIMEOUT_MS, bytes, request.sequence⟩
    pendingBytes := s.pendingBytes + bytes
    upstream := some { upstream with sent := upstream.sent ++ [request] } }

/-- `randomUUID()` and `++session.outgoingSequence`. -/
def numbered (s : BridgeSession) : BridgeSession :=
  { s with drawn := s.drawn + 1, outgoingSequence := s.outgoingSequence + 1 }

/-- `sendCommand`; `.error message` when a call in it throws. -/
def sendCommand (H : BridgeHost) (s : BridgeSession) (action : FederatedSocketPolicyAction)
    (payload : JsValue) (callback : Option Nat) : BridgeSession × Except String Unit :=
  match s.upstream with
  | none => (s.reply callback (refusal "Remote WebSocket is not ready" "REMOTE_NOT_READY"), .ok ())
  | some upstream =>
    if !upstream.connected || s.state != .ready then
      (s.reply callback (refusal "Remote WebSocket is not ready" "REMOTE_NOT_READY"), .ok ())
    else
      match jsonBytes payload with
      | none => (s, .error "Socket payload is not JSON serializable")
      | some bytes =>
        if MAX_PENDING_MESSAGES ≤ s.pending.entries.length ∨
            MAX_PENDING_BYTES < s.pendingBytes + bytes then
          ((s.reply callback
            (refusal "Remote WebSocket backpressure limit reached" "REMOTE_BACKPRESSURE")).emitState
              .degraded "REMOTE_BACKPRESSURE" (some 1000), .ok ())
        else
          let envelope :=
            s.numbered.commandEnvelope upstream.channelId (H.randomUUID s.drawn) action payload
          match validateFederatedWsEnvelope (.object envelope.fields) with
          | .ok request => (s.numbered.enqueue upstream request callback bytes, .ok ())
          | .error message => (s.numbered, .error message)

/-- `replaySubscriptions`: a throw leaves the loop. -/
def replaySubscriptions (H : BridgeHost) :
    List (String × DesiredSubscription) → BridgeSession → BridgeSession × Except String Unit
  | [], s => (s, .ok ())
  | (_, subscription) :: rest, s =>
    if s.allowedActionIds.contains subscription.action.actionId then
      match s.sendCommand H subscription.action subscription.payload none with
      | (s, .ok _) => replaySubscriptions H rest s
      | (s, .error message) => (s, .error message)
    else replaySubscriptions H rest s

/-- `handleBrowserCommand`, from where the subscriptions are looked at. -/
def dispatchCommand (H : BridgeHost) (s : BridgeSession) (action : FederatedSocketPolicyAction)
    (payload : JsValue) (bytes : Nat) (callback : Option Nat) : BridgeSession :=
  if action.readiness = some .queueSubscription then
    let key := subscriptionKey action payload
    if !isUnsubscribe action && (s.subscriptions.get key).isNone &&
        decide (MAX_SUBSCRIPTIONS ≤ s.subscriptions.entries.length) then
      s.reply callback (refusal "Too many remote subscriptions" "REMOTE_BACKPRESSURE")
    else
      let desired :=
        if isUnsubscribe action then s.subscriptions.delete key
        else s.subscriptions.set key ⟨action, payload, bytes⟩
      if s.state != .ready then
        let counted := { s with
          preReadyCount := s.preReadyCount + 1, preReadyBytes := s.preReadyBytes + bytes }
        if MAX_PRE_READY_EVENTS < counted.preReadyCount ∨
            MAX_PRE_READY_BYTES < counted.preReadyBytes then
          let dropped := if isUnsubscribe action then desired else desired.delete key
          { counted with subscriptions := dropped }.reply callback
            (refusal "Remote subscription queue is full" "REMOTE_BACKPRESSURE")
        else
          { counted with subscriptions := desired }.reply callback
            (.object [("accepted", .boolean true), ("queued", .boolean true)])
      else ({ s with subscriptions := desired }.sendCommand H action payload callback).1
  else if s.state != .ready then
    s.reply callback (refusal "Remote WebSocket is not ready" "REMOTE_NOT_READY")
  else (s.sendCommand H action payload callback).1

/-- `handleBrowserCommand`. -/
def handleBrowserCommand (H : BridgeHost) (s : BridgeSession) (action : FederatedSocketPolicyAction)
    (payload : JsValue) (callback : Option Nat) : BridgeSession :=
  if s.closing then s
  else
    match jsonBytes payload with
    | none => s.reply callback (refusal "Invalid socket payload" "REMOTE_SCHEMA_MISMATCH")
    | some bytes =>
      if !H.validatePayload action payload then
        s.reply callback (refusal "Invalid socket payload" "REMOTE_SCHEMA_MISMATCH")
      else if MAX_PRE_READY_BYTES < bytes then
        s.reply callback (refusal "Socket payload is too large" "REMOTE_PAYLOAD_TOO_LARGE")
      else
        match takeRate s.rateByAction action.actionId s.clock with
        | none =>
          s.reply callback
            (refusal "Remote WebSocket action rate limit exceeded" "REMOTE_RATE_LIMITED")
        | some rates =>
          let s := { s with rateByAction := rates }
          if !s.allowedActionIds.isEmpty && !s.allowedActionIds.contains action.actionId then
            s.reply callback (refusal "Remote action is unavailable" "REMOTE_ACTION_UNAVAILABLE")
          else s.dispatchCommand H action payload bytes callback

/-- The timer of a pending message runs. -/
def ackTimedOut (s : BridgeSession) (correlationId : String) (pending : PendingMessage) :
    BridgeSession :=
  { s with
    pending := s.pending.delete correlationId
    pendingBytes := s.pendingBytes - pending.bytes
    timedOut := correlationId :: s.timedOut }.reply pending.callback
      (refusal "Remote WebSocket acknowledgement timed out" "REMOTE_ACK_TIMEOUT")

/-! ### What arrives -/

/-- `handleUpstreamMessage`, of a state. -/
def handleState (H : BridgeHost) (s : BridgeSession) (envelope : FederatedWsEnvelope) :
    BridgeSession :=
  if envelope.actionId ≠ "federation.ws-state" ∨ envelope.event ≠ "federation:state" then
    s.failProtocol (some envelope.kind) "REMOTE_ACTION_MISMATCH"
  else
    match validateFederatedWsState envelope.payload with
    | .error _ => s.failProtocol (some envelope.kind) "REMOTE_SCHEMA_MISMATCH"
    | .ok state =>
      if state.state ≠ .ready ∧ state.state ≠ .degraded ∧ state.state ≠ .closed then
        s.failProtocol (some envelope.kind) "REMOTE_SCHEMA_MISMATCH"
      else
        let s := s.emitState state.state state.reasonCode state.retryAfterMs
        if state.state = .ready then
          (replaySubscriptions H s.subscriptions.entries
            { s with reconnectAttempt := 0, preReadyCount := 0, preReadyBytes := 0 }).1
        else s

/-- `handleUpstreamMessage`, of an acknowledgement. -/
def onAck (s : BridgeSession) (envelope : FederatedWsEnvelope) : BridgeSession :=
  match validateFederatedWsAck envelope.payload with
  | .error _ => s.failProtocol (some envelope.kind) "REMOTE_SCHEMA_MISMATCH"
  | .ok ack =>
    match s.pending.get envelope.correlationId with
    | none => s.failProtocol (some envelope.kind) "REMOTE_ACK_INVALID"
    | some pending =>
      if ack.acceptedSequence ≠ pending.sequence then
        s.failProtocol (some envelope.kind) "REMOTE_ACK_INVALID"
      else
        { s with
          pending := s.pending.delete envelope.correlationId
          pendingBytes := s.pendingBytes - pending.bytes }.reply pending.callback
            (callbackResult ack)

/-- `handleUpstreamMessage`, of a frame that is the next of its channel. -/
def handleFrame (H : BridgeHost) (s : BridgeSession) (envelope : FederatedWsEnvelope) :
    BridgeSession :=
  if envelope.kind = .state then s.handleState H envelope
  else if !s.allowedActionIds.contains envelope.actionId then
    s.failProtocol (some envelope.kind) "REMOTE_ACTION_MISMATCH"
  else
    match actionById envelope.actionId with
    | none => s.failProtocol (some envelope.kind) "REMOTE_ACTION_MISMATCH"
    | some action =>
      if action.event ≠ envelope.event then
        s.failProtocol (some envelope.kind) "REMOTE_ACTION_MISMATCH"
      else if envelope.kind = .ack ∨ envelope.kind = .nack then s.onAck envelope
      else if envelope.kind ≠ .event ∨ action.direction ≠ .apiToBrowser then
        s.failProtocol (some envelope.kind) "REMOTE_DIRECTION_INVALID"
      else if H.validatePayload action envelope.payload then
        { s with toBrowser := s.toBrowser ++ [BrowserOutput.event action.event envelope.payload] }
      else s.failProtocol (some envelope.kind) "REMOTE_SCHEMA_MISMATCH"

/-- The socket has delivered a frame. -/
def deliver (s : BridgeSession) (upstream : UpstreamSocket) (value : JsValue) : BridgeSession :=
  { s with upstream := some { upstream with
      received := upstream.received + 1
      answered :=
        match validateFederatedWsEnvelope value with
        | .ok envelope =>
          if envelope.kind = .ack ∨ envelope.kind = .nack then
            envelope.correlationId :: upstream.answered
          else upstream.answered
        | .error _ => upstream.answered } }

/-- `handleUpstreamMessage`. -/
def handleUpstreamMessage (H : BridgeHost) (s : BridgeSession) (upstream : UpstreamSocket)
    (value : JsValue) : BridgeSession :=
  match validateFederatedWsEnvelope value with
  | .error _ => s.failProtocol none "REMOTE_SCHEMA_MISMATCH"
  | .ok envelope =>
    if envelope.channelId ≠ upstream.channelId ∨ envelope.epoch ≠ s.epoch ∨
        envelope.sequence ≠ s.incomingSequence + 1 then
      s.failProtocol (some envelope.kind) "REMOTE_SEQUENCE_INVALID"
    else handleFrame H { s with incomingSequence := envelope.sequence } envelope

end BridgeSession

/-! ## The bridge -/

inductive BridgeEvent
  /-- A command of the browser, with or without a callback. -/
  | command (action : FederatedSocketPolicyAction) (payload : JsValue) (callback : Option Nat)
  /-- The issuer answers `connect`. -/
  | issued (channel : IssuedFederationWsChannel)
  | issueFailed (code : String) (random : Nat)
  /-- The socket connects. -/
  | connected
  /-- `federation:message`. -/
  | message (value : JsValue)
  /-- `connect_error` or `disconnect`. -/
  | lost (reasonCode : String) (random : Nat)
  /-- The timer of a pending message. -/
  | ackTimeout (correlationId : String)
  /-- `reconnectTimer`. -/
  | reconnect
  /-- `refreshTimer`. -/
  | refresh
  | detach
  | advance (ms : Nat)

/-- A timer that may run. -/
def due (timer : Option Nat) (clock : Nat) : Bool := timer.any fun t => decide (t ≤ clock)

/-- One thing happens to a session: a command its role has, an answer that is waited for, what a
socket delivers, or a timer that is due. -/
def bridgeStep (H : BridgeHost) (s : BridgeSession) : BridgeEvent → Option BridgeSession
  | .command action payload callback =>
    if (actionsForRole s.role).contains action && action.direction == .browserToApi then
      some (s.handleBrowserCommand H action payload callback)
    else none
  | .issued channel => if s.connecting then some (s.issued channel) else none
  | .issueFailed code random => if s.connecting then some (s.issueFailed code random) else none
  | .connected =>
    s.upstream.map fun upstream => { s with upstream := some { upstream with connected := true } }
  | .message value =>
    s.upstream.map fun upstream =>
      (s.deliver upstream value).handleUpstreamMessage H upstream value
  | .lost reasonCode random =>
    s.upstream.map fun _ => s.handleUpstreamLoss reasonCode random
  | .ackTimeout correlationId =>
    match s.pending.get correlationId with
    | some pending =>
      if pending.timeoutAt ≤ s.clock then some (s.ackTimedOut correlationId pending) else none
    | none => none
  | .reconnect =>
    if due s.reconnectTimer s.clock then some { s with reconnectTimer := none }.connect else none
  | .refresh =>
    if due s.refreshTimer s.clock then some { s with refreshTimer := none }.connect else none
  | .detach => some s.detach
  | .advance ms => some { s with clock := s.clock + ms }

/-- `attach`. -/
def attach (role : FederatedSocketRole) (clock : Nat) : BridgeSession :=
  ({ role := role
     epoch := 0
     outgoingSequence := 0
     incomingSequence := 0
     state := .masterConnected
     allowedActionIds := []
     upstream := none
     pending := .empty
     pendingBytes := 0
     subscriptions := .empty
     preReadyCount := 0
     preReadyBytes := 0
     reconnectAttempt := 0
     reconnectTimer := none
     refreshTimer := none
     closing := false
     rateByAction := .empty
     connecting := false
     clock := clock
     drawn := 0
     toBrowser := []
     timedOut := []
     tornDownBy := none : BridgeSession }.emitState .masterConnected "TARGET_CONNECTING"
       none).connect

end Meowbox.Gateway
