import Meowbox.AgentJobs.Wire
import Mathlib.Data.Nat.Digits.Defs

/-!
# The frames of a federated channel

The envelopes of `shared/src/ws.ts` that master and target exchange over a channel, with
`validateFederatedWsEnvelope`, `validateFederatedWsAck` and `validateFederatedWsState`. A frame is
a `JsValue` until a validator has read it; `fields` is a frame as its sender writes it.

* `validateFederatedWsAck_iff`: a written acknowledgement is admitted, once it has travelled,
  exactly when it is `WellFormed`.
* `small_ack_fits`, `state_fits`: what the gateway itself says fits a frame.
-/

namespace Meowbox.Gateway

open JsData JsonText AgentJobs

/-- `FEDERATED_WS_STATES`. -/
inductive FederatedWsState
  | masterConnected | targetConnecting | ready | degraded | closed
deriving DecidableEq

/-- `FEDERATED_WS_MESSAGE_KINDS`. -/
inductive FederatedWsMessageKind
  | event | ack | nack | cancel | state
deriving DecidableEq

inductive AckOutcome
  | accepted | completed | rejected | cancelled
deriving DecidableEq

/-- `FederatedWsEnvelope`. -/
structure FederatedWsEnvelope where
  channelId : String
  epoch : Int
  sequence : Int
  actionId : String
  correlationId : String
  event : String
  kind : FederatedWsMessageKind
  payload : JsValue

/-- `FederatedWsAckPayload`. -/
structure FederatedWsAckPayload where
  acceptedSequence : Int
  outcome : AckOutcome
  code : Option String
  message : Option String
  result : JsValue

/-- `FederatedWsStatePayload`; `readyAt` is the instant of its text. -/
structure FederatedWsStatePayload where
  state : FederatedWsState
  reasonCode : String
  readyAt : Option Int
  retryAfterMs : Option Int
deriving DecidableEq

/-! ## Patterns and texts -/

/-- A lower-case name and one or more parts behind it, each after the separator. -/
def isScoped (separator : Char) (cs : List Char) : Bool :=
  match cs.splitOn separator with
  | (c :: name) :: part :: parts =>
    isLowerAscii c && name.all (fun d => isLowerAscii d || isDigitAscii d) &&
      (part :: parts).all fun p => !p.isEmpty && p.all fun d =>
        isLowerAscii d || isDigitAscii d || d == '_' || d == '-'
  | _ => false

/-- `ACTION_ID`. -/
def isActionId (s : String) : Bool := isScoped '.' s.toList

/-- `EVENT`. -/
def isEvent (s : String) : Bool := isScoped ':' s.toList

/-- `/^[A-Z][A-Z0-9_]*$/`. -/
def isReasonCode (s : String) : Bool :=
  match s.toList with
  | c :: rest => isUpperAscii c && rest.all fun d => isUpperAscii d || isDigitAscii d || d == '_'
  | [] => false

/-- `/^[A-Z][A-Z0-9_]+$/`. -/
def isAckCode (s : String) : Bool := decide (2 ≤ s.toList.length) && isReasonCode s

def FEDERATED_WS_STATES : List (String × FederatedWsState) :=
  [("MASTER_CONNECTED", .masterConnected), ("TARGET_CONNECTING", .targetConnecting),
    ("READY", .ready), ("DEGRADED", .degraded), ("CLOSED", .closed)]

def FEDERATED_WS_MESSAGE_KINDS : List (String × FederatedWsMessageKind) :=
  [("EVENT", .event), ("ACK", .ack), ("NACK", .nack), ("CANCEL", .cancel), ("STATE", .state)]

def ACK_OUTCOMES : List (String × AckOutcome) :=
  [("ACCEPTED", .accepted), ("COMPLETED", .completed), ("REJECTED", .rejected),
    ("CANCELLED", .cancelled)]

def FederatedWsState.text : FederatedWsState → String
  | masterConnected => "MASTER_CONNECTED"
  | targetConnecting => "TARGET_CONNECTING"
  | ready => "READY"
  | degraded => "DEGRADED"
  | closed => "CLOSED"

def FederatedWsMessageKind.text : FederatedWsMessageKind → String
  | event => "EVENT"
  | ack => "ACK"
  | nack => "NACK"
  | cancel => "CANCEL"
  | state => "STATE"

def AckOutcome.text : AckOutcome → String
  | accepted => "ACCEPTED"
  | completed => "COMPLETED"
  | rejected => "REJECTED"
  | cancelled => "CANCELLED"

/-! ## The validators -/

/-- `MAX_WS_PAYLOAD_BYTES`. -/
def MAX_WS_PAYLOAD_BYTES : Nat := 262144

/-- `payloadByteLength`. -/
def payloadByteLength (payload : JsValue) : Except String Nat :=
  match stringify payload with
  | some encoded => .ok encoded.utf8ByteSize
  | none => .error "federated WS payload is not JSON-serializable"

/-- `if (payloadByteLength(value) > MAX_WS_PAYLOAD_BYTES) throw new Error(message)`. -/
def requirePayloadSize (value : JsValue) (message : String) : Except String Unit := do
  let bytes ← payloadByteLength value
  ensure (decide (bytes ≤ MAX_WS_PAYLOAD_BYTES)) message

/-- `if (value !== null) requireString(value, …)`. -/
def requireNullable (value : JsValue) (label : String) (max : Nat) (pattern : String → Bool) :
    Except String (Option String) :=
  match value with
  | .null => .ok none
  | value => (requireString value label 1 max pattern).map some

def validateFederatedWsEnvelope (raw : JsValue) : Except String FederatedWsEnvelope := do
  let value ← requireRecord raw "FederatedWsEnvelope"
  requireExactKeys value
    ["channelId", "epoch", "sequence", "actionId", "correlationId", "event", "kind", "payload"] []
    "wsEnvelope"
  let channelId ← requireString (property value "channelId") "wsEnvelope.channelId" 1 1024 isUuid
  let epoch ← requireInteger (property value "epoch") "wsEnvelope.epoch" 1 MAX_SAFE_INTEGER
  let sequence ←
    requireInteger (property value "sequence") "wsEnvelope.sequence" 0 MAX_SAFE_INTEGER
  let actionId ← requireString (property value "actionId") "wsEnvelope.actionId" 1 1024 isActionId
  let correlationId ←
    requireString (property value "correlationId") "wsEnvelope.correlationId" 1 1024 isUuid
  let event ← requireString (property value "event") "wsEnvelope.event" 1 1024 isEvent
  let kind ← requireEnum (property value "kind") FEDERATED_WS_MESSAGE_KINDS "wsEnvelope.kind"
  requirePayloadSize (property value "payload") "federated WS payload exceeds 256 KiB"
  .ok ⟨channelId, epoch, sequence, actionId, correlationId, event, kind, property value "payload"⟩

def validateFederatedWsAck (raw : JsValue) : Except String FederatedWsAckPayload := do
  let value ← requireRecord raw "FederatedWsAck"
  requireExactKeys value ["acceptedSequence", "outcome", "code", "message", "result"] [] "wsAck"
  let acceptedSequence ←
    requireInteger (property value "acceptedSequence") "wsAck.acceptedSequence" 0 MAX_SAFE_INTEGER
  let outcome ← requireEnum (property value "outcome") ACK_OUTCOMES "wsAck.outcome"
  let code ← requireNullable (property value "code") "wsAck.code" 128 isAckCode
  let message ← requireNullable (property value "message") "wsAck.message" 1024 anyString
  requirePayloadSize (property value "result") "federated WS ack result exceeds 256 KiB"
  .ok ⟨acceptedSequence, outcome, code, message, property value "result"⟩

/-- `if (value.readyAt !== null) requireIsoDate(…)`. -/
def nullableDate (value : JsValue) (label : String) : Except String (Option Int) :=
  match value with
  | .null => .ok none
  | value => (requireIsoDate value label).map some

/-- `if (value.retryAfterMs !== null) requireInteger(…)`. -/
def nullableInteger (value : JsValue) (label : String) (min max : Int) :
    Except String (Option Int) :=
  match value with
  | .null => .ok none
  | value => (requireInteger value label min max).map some

def validateFederatedWsState (raw : JsValue) : Except String FederatedWsStatePayload := do
  let value ← requireRecord raw "FederatedWsState"
  requireExactKeys value ["state", "reasonCode", "readyAt", "retryAfterMs"] [] "wsState"
  let state ← requireEnum (property value "state") FEDERATED_WS_STATES "wsState.state"
  let reasonCode ←
    requireString (property value "reasonCode") "wsState.reasonCode" 1 128 isReasonCode
  let readyAt ← nullableDate (property value "readyAt") "wsState.readyAt"
  let retryAfterMs ← nullableInteger (property value "retryAfterMs") "wsState.retryAfterMs" 0 30000
  ensure (decide (state = .ready) == readyAt.isSome) "wsState.readyAt must exist only for READY"
  .ok ⟨state, reasonCode, readyAt, retryAfterMs⟩

/-! ## Frames as they are written -/

def FederatedWsEnvelope.fields (e : FederatedWsEnvelope) : List (String × JsValue) :=
  [("channelId", .string e.channelId), ("epoch", ofInteger e.epoch),
    ("sequence", ofInteger e.sequence), ("actionId", .string e.actionId),
    ("correlationId", .string e.correlationId), ("event", .string e.event),
    ("kind", .string e.kind.text), ("payload", e.payload)]

def FederatedWsAckPayload.fields (a : FederatedWsAckPayload) : List (String × JsValue) :=
  [("acceptedSequence", ofInteger a.acceptedSequence), ("outcome", .string a.outcome.text),
    ("code", ofNullable a.code), ("message", ofNullable a.message), ("result", a.result)]

/-- `number | null`. -/
def ofNullableInteger : Option Int → JsValue
  | some n => ofInteger n
  | none => .null

def FederatedWsStatePayload.fields (p : FederatedWsStatePayload) : List (String × JsValue) :=
  [("state", .string p.state.text), ("reasonCode", .string p.reasonCode),
    ("readyAt", ofNullable (p.readyAt.map toISOString)),
    ("retryAfterMs", ofNullableInteger p.retryAfterMs)]

/-- A payload fits a frame: it is JSON of at most 256 KiB. -/
def FitsFrame (payload : JsValue) : Prop :=
  ∃ encoded, stringify payload = some encoded ∧ encoded.utf8ByteSize ≤ MAX_WS_PAYLOAD_BYTES

instance (payload : JsValue) : Decidable (FitsFrame payload) := by
  refine decidable_of_iff ((stringify payload).any fun encoded =>
    decide (encoded.utf8ByteSize ≤ MAX_WS_PAYLOAD_BYTES)) ?_
  unfold FitsFrame
  rw [Option.any_eq_true]
  simp only [decide_eq_true_eq]

/-- A text of the length and of the pattern that are asked for. -/
def Patterned (max : Nat) (pattern : String → Bool) (s : String) : Prop :=
  1 ≤ jsLength s ∧ jsLength s ≤ max ∧ pattern s = true

instance (max : Nat) (pattern : String → Bool) (s : String) :
    Decidable (Patterned max pattern s) :=
  inferInstanceAs (Decidable (_ ∧ _ ∧ _))

/-- What an envelope must be to be admitted. -/
structure FederatedWsEnvelope.Valid (e : FederatedWsEnvelope) : Prop where
  channelId : isUuid e.channelId = true
  epoch : Numbered 1 e.epoch
  sequence : Numbered 0 e.sequence
  actionId : Patterned 1024 isActionId e.actionId
  correlationId : isUuid e.correlationId = true
  event : Patterned 1024 isEvent e.event
  payload : FitsFrame e.payload

/-- What an acknowledgement must be to be admitted. -/
structure FederatedWsAckPayload.WellFormed (a : FederatedWsAckPayload) : Prop where
  acceptedSequence : Numbered 0 a.acceptedSequence
  code : ∀ code ∈ a.code, Patterned 128 isAckCode code
  message : ∀ message ∈ a.message, Patterned 1024 anyString message
  result : FitsFrame a.result

/-! ## What the validators admit -/

theorem requirePayloadSize_ok {value : JsValue} {message : String} :
    requirePayloadSize value message = .ok () ↔ FitsFrame value := by
  unfold requirePayloadSize payloadByteLength FitsFrame
  cases h : stringify value with
  | none => simp [bind, Except.bind]
  | some encoded => simp [bind_ok]

variable {label : String}

theorem requireString_patterned {s t : String} {max : Nat} {pattern : String → Bool} :
    requireString (.string s) label 1 max pattern = .ok t ↔ s = t ∧ Patterned max pattern s :=
  requireString_string

theorem requireNullable_ofNullable {s t : Option String} {max : Nat} {pattern : String → Bool} :
    requireNullable (ofNullable s) label max pattern = .ok t ↔
      s = t ∧ ∀ text ∈ s, Patterned max pattern text := by
  cases s with
  | none => simp [ofNullable, requireNullable]
  | some text =>
    simp only [ofNullable, requireNullable, Option.mem_def, Option.some.injEq, forall_eq']
    cases h : requireString (.string text) label 1 max pattern with
    | error fault =>
      simp only [Except.map, reduceCtorEq, false_iff]
      rintro ⟨-, hpat⟩
      rw [requireString_patterned.mpr ⟨rfl, hpat⟩] at h
      exact absurd h (by simp)
    | ok u =>
      obtain ⟨rfl, hpat⟩ := requireString_patterned.mp h
      simp [Except.map, hpat]

theorem requireEnum_kind {kind kind' : FederatedWsMessageKind} :
    requireEnum (.string kind.text) FEDERATED_WS_MESSAGE_KINDS label = .ok kind' ↔
      kind = kind' := by
  have hlk : requireEnum (.string kind.text) FEDERATED_WS_MESSAGE_KINDS label = .ok kind := by
    cases kind <;> rfl
  rw [hlk, Except.ok.injEq]

theorem requireEnum_ackOutcome {outcome outcome' : AckOutcome} :
    requireEnum (.string outcome.text) ACK_OUTCOMES label = .ok outcome' ↔
      outcome = outcome' := by
  have hlk : requireEnum (.string outcome.text) ACK_OUTCOMES label = .ok outcome := by
    cases outcome <;> rfl
  rw [hlk, Except.ok.injEq]

/-- **A written frame is admitted exactly when it is valid.** -/
theorem validateFederatedWsEnvelope_iff {e e' : FederatedWsEnvelope} :
    validateFederatedWsEnvelope (.object e.fields) = .ok e' ↔ e.Valid ∧ e = e' := by
  refine Iff.trans (bind_of_ok rfl <| bind_of_ok rfl <| bind_when (fun _ => requireString_isUuid) <|
    bind_when (fun _ => requireSequence (by decide)) <|
    bind_when (fun _ => requireSequence (by decide)) <|
    bind_when (fun _ => requireString_patterned) <| bind_when (fun _ => requireString_isUuid) <|
    bind_when (fun _ => requireString_patterned) <| bind_of_ok (requireEnum_kind.mpr rfl) <|
    bind_unit requirePayloadSize_ok <| Iff.of_eq (Except.ok.injEq _ _)) ?_
  constructor
  · rintro ⟨hchan, hep, hseq, hact, hcorr, hev, hsize, h⟩
    exact ⟨⟨hchan, hep, hseq, hact, hcorr, hev, hsize⟩, h⟩
  · rintro ⟨⟨hchan, hep, hseq, hact, hcorr, hev, hsize⟩, h⟩
    exact ⟨hchan, hep, hseq, hact, hcorr, hev, hsize, h⟩

/-- What has been admitted is valid. -/
theorem validateFederatedWsEnvelope_ok {raw : JsValue} {e : FederatedWsEnvelope}
    (h : validateFederatedWsEnvelope raw = .ok e) : e.Valid := by
  unfold validateFederatedWsEnvelope at h
  simp only [bind_ok] at h
  obtain ⟨_, -, _, -, _, hchan, _, hep, _, hseq, _, hact, _, hcorr, _, hev,
    _, -, _, hsize, h⟩ := h
  cases h
  have hep := requireInteger_ok hep
  have hseq := requireInteger_ok hseq
  exact ⟨(requireString_ok hchan).2.2.2, ⟨hep.1, hep.2.1⟩,
    ⟨hseq.1, hseq.2.1⟩, (requireString_ok hact).2,
    (requireString_ok hcorr).2.2.2, (requireString_ok hev).2,
    requirePayloadSize_ok.mp hsize⟩

theorem fitsFrame_overWire {value : JsValue} : FitsFrame (overWire value) ↔ FitsFrame value := by
  unfold FitsFrame
  rw [stringify_overWire]

theorem FitsFrame.isJson {value : JsValue} (h : FitsFrame value) :
    (toJson? value).isSome = true := by
  obtain ⟨encoded, henc, -⟩ := h
  unfold stringify at henc
  cases hj : toJson? value with
  | none => rw [hj] at henc; exact absurd henc (by simp)
  | some j => rfl

variable {a : FederatedWsAckPayload}

/-- An acknowledgement travels with all its fields. -/
theorem ack_wire (h : (toJson? a.result).isSome = true) :
    overWire (.object a.fields) = .object { a with result := overWire a.result }.fields := by
  rw [overWire_object]
  · simp only [FederatedWsAckPayload.fields, List.map_cons, List.map_nil, overWire_ofNullable]
    rfl
  · simp only [FederatedWsAckPayload.fields, List.forall_mem_cons, ofNullable_isSome, h]
    simp [toJson?, ofInteger]

/-- An acknowledgement as its sender writes it. -/
theorem validateFederatedWsAck_fields {a' : FederatedWsAckPayload} :
    validateFederatedWsAck (.object a.fields) = .ok a' ↔ a.WellFormed ∧ a = a' := by
  refine Iff.trans (bind_of_ok rfl <| bind_of_ok rfl <|
    bind_when (fun _ => requireSequence (by decide)) <|
    bind_of_ok (requireEnum_ackOutcome.mpr rfl) <|
    bind_when (fun _ => requireNullable_ofNullable) <|
    bind_when (fun _ => requireNullable_ofNullable) <| bind_unit requirePayloadSize_ok <|
    Iff.of_eq (Except.ok.injEq _ _)) ?_
  constructor
  · rintro ⟨hseq, hcode, hmsg, hsize, h⟩
    exact ⟨⟨hseq, hcode, hmsg, hsize⟩, h⟩
  · rintro ⟨⟨hseq, hcode, hmsg, hsize⟩, h⟩
    exact ⟨hseq, hcode, hmsg, hsize, h⟩

/-- **An acknowledgement is admitted, once it has travelled, exactly when it is well formed**, of
those whose result is JSON. -/
theorem validateFederatedWsAck_iff (hjson : (toJson? a.result).isSome = true) :
    validateFederatedWsAck (overWire (.object a.fields)) =
      .ok { a with result := overWire a.result } ↔ a.WellFormed := by
  rw [ack_wire hjson, validateFederatedWsAck_fields]
  constructor
  · rintro ⟨h, -⟩
    exact ⟨h.acceptedSequence, h.code, h.message, fitsFrame_overWire.mp h.result⟩
  · intro h
    exact ⟨⟨h.acceptedSequence, h.code, h.message, fitsFrame_overWire.mpr h.result⟩, rfl⟩

/-! ## Small payloads -/

theorem byteSize_escapeChar (c : Char) : byteSize (escapeChar c) ≤ 12 := by
  have hsize : ∀ d : Char, d.utf8Size ≤ 4 := Char.utf8Size_le_four
  unfold escapeChar
  split
  · rename_i e _
    have he := hsize e
    have hsl : Char.utf8Size '\\' = 1 := by decide
    simp only [byteSize, List.map_cons, List.map_nil, List.sum_cons, List.sum_nil, hsl]
    omega
  · split
    · have hhigh := hsize (hexDigit (c.toNat / 16))
      have hlow := hsize (hexDigit (c.toNat % 16))
      have hsl : Char.utf8Size '\\' = 1 := by decide
      have hu : Char.utf8Size 'u' = 1 := by decide
      have hzero : Char.utf8Size '0' = 1 := by decide
      simp only [byteSize, List.map_cons, List.map_nil, List.sum_cons, List.sum_nil, hsl, hu,
        hzero]
      omega
    · have hc := hsize c
      simp only [byteSize, List.map_cons, List.map_nil, List.sum_cons, List.sum_nil]
      omega

/-- A text in quotes takes at most twelve bytes a character, and the quotes. -/
theorem byteSize_quote_le (s : String) : byteSize (quote s) ≤ 12 * s.toList.length + 2 := by
  have hflat : byteSize (s.toList.flatMap escapeChar) ≤ 12 * s.toList.length := by
    induction s.toList with
    | nil => exact Nat.le_refl _
    | cons c cs ih =>
      have hc := byteSize_escapeChar c
      rw [List.flatMap_cons, byteSize_append, List.length_cons]
      omega
  have hquote : Char.utf8Size '"' = 1 := by decide
  rw [quote, byteSize_cons, byteSize_append, byteSize_cons, hquote]
  have hnil : byteSize [] = 0 := rfl
  omega

/-- A safe integer that is not negative takes at most 64 bytes. -/
theorem byteSize_integer_le {n : Int} (h : Numbered 0 n) :
    byteSize (JsonNumber.ofInt n).text.toList ≤ 64 := by
  obtain ⟨hlo, hhi⟩ := h
  obtain ⟨m, rfl⟩ := Int.eq_ofNat_of_zero_le hlo
  have hchs : (JsonNumber.ofInt (m : Int)).text.toList = Nat.toDigits 10 m := String.toList_ofList
  have hlen : (Nat.toDigits 10 m).length ≤ 16 := by
    refine Nat.toDigits_length 10 m 16 (by decide) ?_
    unfold MAX_SAFE_INTEGER at hhi
    norm_num
    omega
  rw [hchs]
  have hbs : ∀ cs : List Char, byteSize cs ≤ 4 * cs.length := by
    intro cs
    induction cs with
    | nil => exact Nat.le_refl _
    | cons c cs ih =>
      have hc := Char.utf8Size_le_four c
      rw [byteSize_cons, List.length_cons]
      omega
  have hdig := hbs (Nat.toDigits 10 m)
  omega

/-- What the members of an object may take at most. -/
def memberBound : List (String × Json) → Nat
  | [] => 0
  | (k, v) :: ms => 12 * k.toList.length + 4 + byteSize (render v) + memberBound ms

theorem byteSize_members (ms : List (String × Json)) :
    ((renderMembers ms).map byteSize).sum + (renderMembers ms).length ≤ memberBound ms := by
  induction ms with
  | nil => exact Nat.le_refl _
  | cons kv ms ih =>
    obtain ⟨k, v⟩ := kv
    have hk := byteSize_quote_le k
    have hcolon : Char.utf8Size ':' = 1 := by decide
    simp only [renderMembers, memberBound, List.map_cons, List.sum_cons, List.length_cons,
      byteSize_append, byteSize_cons, hcolon]
    omega

/-- **A payload of few members is small enough.** -/
theorem fitsFrame_of_members {fields : List (String × JsValue)}
    (h : memberBound (toJsonMembers fields) + 2 ≤ MAX_WS_PAYLOAD_BYTES) :
    FitsFrame (.object fields) := by
  refine ⟨String.ofList (render (.object (toJsonMembers fields))), rfl, ?_⟩
  have hmems := byteSize_members (toJsonMembers fields)
  have hopen : Char.utf8Size '{' = 1 := by decide
  have hclo : byteSize ['}'] = 1 := by decide
  rw [utf8ByteSize_ofList, render, byteSize_cons, byteSize_append, byteSize_joinComma, hopen,
    hclo]
  omega

/-- The size of `string | null`. -/
theorem byteSize_nullable {text : Option String} {n : Nat} (h : ∀ s ∈ text, s.toList.length ≤ n)
    {j : Json} (hj : toJson? (ofNullable text) = some j) :
    byteSize (render j) ≤ 12 * n + 4 := by
  cases text with
  | none =>
    obtain rfl := Option.some.inj hj
    have hnull : byteSize (render .null) = 4 := by decide
    omega
  | some s =>
    obtain rfl := Option.some.inj hj
    have hs := byteSize_quote_le s
    have hlen := h s rfl
    rw [render]
    omega

/-- An acknowledgement with short texts and no result fits a frame. -/
theorem small_ack_fits (hseq : Numbered 0 a.acceptedSequence)
    (hcode : ∀ s ∈ a.code, s.toList.length ≤ 128) (hmsg : ∀ s ∈ a.message, s.toList.length ≤ 128)
    (hres : a.result = .null) :
    FitsFrame (.object a.fields) := by
  apply fitsFrame_of_members
  have hdig := byteSize_integer_le hseq
  have hout : a.outcome.text.toList.length ≤ 16 := by cases a.outcome <;> decide
  have hquoted := byteSize_quote_le a.outcome.text
  obtain ⟨c, hc⟩ := Option.isSome_iff_exists.mp (ofNullable_isSome a.code)
  obtain ⟨m, hm⟩ := Option.isSome_iff_exists.mp (ofNullable_isSome a.message)
  have hcodeSize := byteSize_nullable hcode hc
  have hmessageSize := byteSize_nullable hmsg hm
  have hnull : byteSize (render .null) = 4 := by decide
  have hkeys : "acceptedSequence".toList.length = 16 ∧ "outcome".toList.length = 7 ∧
      "code".toList.length = 4 ∧ "message".toList.length = 7 ∧ "result".toList.length = 6 := by
    decide
  obtain ⟨h1, h2, h3, h4, h5⟩ := hkeys
  have hnumber : render (.number (JsonNumber.ofInt a.acceptedSequence)) =
      (JsonNumber.ofInt a.acceptedSequence).text.toList := rfl
  have hstring : render (.string a.outcome.text) = quote a.outcome.text := rfl
  simp only [FederatedWsAckPayload.fields, hres, toJsonMembers, toJson?, ofInteger, hc, hm,
    memberBound, h1, h2, h3, h4, h5, hnull, hnumber, hstring]
  unfold MAX_WS_PAYLOAD_BYTES
  omega

/-- The state of a channel fits a frame. -/
theorem state_fits {state : FederatedWsState} {reasonCode : String}
    (hcode : reasonCode.toList.length ≤ 128) (readyAt : Option Int) :
    FitsFrame (.object (FederatedWsStatePayload.fields ⟨state, reasonCode, readyAt, none⟩)) := by
  apply fitsFrame_of_members
  have hst : state.text.toList.length ≤ 32 := by cases state <;> decide
  have hquoted := byteSize_quote_le state.text
  have hreason := byteSize_quote_le reasonCode
  have hdate : ∀ s ∈ readyAt.map toISOString, s.toList.length ≤ 27 := by
    intro s hs
    obtain ⟨t, -, rfl⟩ := Option.mem_map.mp hs
    exact (toISOString_length t).2
  obtain ⟨d, hd⟩ := Option.isSome_iff_exists.mp (ofNullable_isSome (readyAt.map toISOString))
  have hdateSize := byteSize_nullable hdate hd
  have hnull : byteSize (render .null) = 4 := by decide
  have hkeys : "state".toList.length = 5 ∧ "reasonCode".toList.length = 10 ∧
      "readyAt".toList.length = 7 ∧ "retryAfterMs".toList.length = 12 := by
    decide
  obtain ⟨h1, h2, h3, h4⟩ := hkeys
  have hsts : render (.string state.text) = quote state.text := rfl
  have hreasons : render (.string reasonCode) = quote reasonCode := rfl
  simp only [FederatedWsStatePayload.fields, ofNullableInteger, toJsonMembers, toJson?, hd,
    memberBound, h1, h2, h3, h4, hnull, hsts, hreasons]
  unfold MAX_WS_PAYLOAD_BYTES
  omega

end Meowbox.Gateway
