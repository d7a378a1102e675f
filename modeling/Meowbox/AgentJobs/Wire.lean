import Meowbox.AgentJobs.Messages
import Meowbox.Operations.Begin

/-!
# Agent jobs on the wire

The requests the panel sends, with the validators of `shared/src/agent-job.ts` the agent runs on
them, and the messages the agent sends back as the values it builds. `arrives` is what the panel
makes of such a value: it travels as JSON and is validated.

* `arrives_iff`: a message is admitted exactly when it is well formed, and then as it was sent. It
  is put together from one theorem for each kind of message.
-/

namespace Meowbox.AgentJobs

open JsData JsonText Operations

/-! ## Requests -/

/-- `AgentJobStartRequest` without its `protocolVersion`, which is 1. -/
structure AgentJobStartRequest where
  jobId : String
  operationId : String
  actionId : String
  step : String
  requestHash : String
  deadlineAt : Time
  cancelSafe : Bool
  payload : JsValue

/-- `AgentJobStatusRequest`, which is `AgentJobCancelRequest` too. -/
structure AgentJobStatusRequest where
  jobId : String
  operationId : String
deriving DecidableEq

/-- `SHA256`. -/
def isSha256 (s : String) : Bool := isHexGroup 64 s.toList

def validateAgentJobStart (raw : JsValue) : Except String AgentJobStartRequest := do
  let value ← requireRecord raw "agentJobStart"
  requireExactKeys value
    ["protocolVersion", "jobId", "operationId", "actionId", "step", "requestHash", "deadlineAt",
      "cancelSafe", "payload"] [] "agentJobStart"
  let _ ← requireInteger (property value "protocolVersion") "agentJobStart.protocolVersion" 1 1
  let identity ← validateIdentity value "agentJobStart"
  let actionId ←
    requireString (property value "actionId") "agentJobStart.actionId" 1 192 isActionId
  let step ← requireString (property value "step") "agentJobStart.step" 1 128 isStep
  let requestHash ←
    requireString (property value "requestHash") "agentJobStart.requestHash" 1 1024 isSha256
  let deadlineAt ← requireIsoDate (property value "deadlineAt") "agentJobStart.deadlineAt"
  let cancelSafe ← requireBoolean (property value "cancelSafe") "agentJobStart.cancelSafe"
  requireJsonSize (property value "payload") "agentJobStart.payload"
  .ok { jobId := identity.1, operationId := identity.2, actionId, step, requestHash, deadlineAt
        cancelSafe, payload := property value "payload" }

def validateAgentJobStatusRequest (raw : JsValue) : Except String AgentJobStatusRequest := do
  let value ← requireRecord raw "agentJobStatusRequest"
  requireExactKeys value ["jobId", "operationId"] [] "agentJobStatusRequest"
  let identity ← validateIdentity value "agentJobStatusRequest"
  .ok { jobId := identity.1, operationId := identity.2 }

variable {label : String}

theorem validateIdentity_ok {value : List (String × JsValue)} {identity : String × String}
    (h : validateIdentity value label = .ok identity) :
    isUuid identity.1 = true ∧ isUuid identity.2 = true := by
  unfold validateIdentity at h
  simp only [bind_ok] at h
  obtain ⟨jobId, hjob, operationId, hop, h⟩ := h
  cases h
  exact ⟨(requireString_ok hjob).2.2.2, (requireString_ok hop).2.2.2⟩

/-- What an admitted start is. -/
theorem validateAgentJobStart_ok {raw : JsValue} {request : AgentJobStartRequest}
    (h : validateAgentJobStart raw = .ok request) :
    isUuid request.jobId = true ∧ isUuid request.operationId = true ∧
      isStep request.step = true := by
  unfold validateAgentJobStart at h
  simp only [bind_ok] at h
  obtain ⟨_, -, _, -, _, -, identity, hidentity, _, -, step, hstep, _, -, _, -, _, -, _, -, h⟩ := h
  cases h
  exact ⟨(validateIdentity_ok hidentity).1, (validateIdentity_ok hidentity).2,
    (requireString_ok hstep).2.2.2⟩

theorem validateAgentJobStatusRequest_ok {raw : JsValue} {request : AgentJobStatusRequest}
    (h : validateAgentJobStatusRequest raw = .ok request) :
    isUuid request.jobId = true ∧ isUuid request.operationId = true := by
  unfold validateAgentJobStatusRequest at h
  simp only [bind_ok] at h
  obtain ⟨_, -, _, -, identity, hidentity, h⟩ := h
  cases h
  exact validateIdentity_ok hidentity

/-! ## Messages as values -/

/-- `AgentJobCancelResult['outcome']`. -/
inductive AgentJobCancelOutcome
  | requested | alreadyTerminal | notCancellable | notFound
deriving DecidableEq

structure AgentJobCancelResult where
  success : Bool
  jobId : String
  operationId : String
  state : AgentJobState
  outcome : AgentJobCancelOutcome
  error : Option String
deriving DecidableEq

/-- The texts of the outcomes. -/
def CANCEL_OUTCOMES : List (String × AgentJobCancelOutcome) :=
  [("REQUESTED", .requested), ("ALREADY_TERMINAL", .alreadyTerminal),
    ("NOT_CANCELLABLE", .notCancellable), ("NOT_FOUND", .notFound)]

def validateAgentJobCancelResult (raw : JsValue) : Except String AgentJobCancelResult := do
  let value ← requireRecord raw "agentJobCancelResult"
  requireExactKeys value ["success", "jobId", "operationId", "state", "outcome", "error"] []
    "agentJobCancelResult"
  let success ← requireBoolean (property value "success") "agentJobCancelResult.success"
  let identity ← validateIdentity value "agentJobCancelResult"
  let state ← requireEnum (property value "state") AGENT_JOB_STATES "agentJobCancelResult.state"
  let outcome ←
    requireEnum (property value "outcome") CANCEL_OUTCOMES "agentJobCancelResult.outcome"
  let error ← nullableError (property value "error") "agentJobCancelResult.error"
  .ok { success, jobId := identity.1, operationId := identity.2, state, outcome, error }

def AgentJobState.text : AgentJobState → String
  | .starting => "STARTING"
  | .running => "RUNNING"
  | .cancelRequested => "CANCEL_REQUESTED"
  | .succeeded => "SUCCEEDED"
  | .failed => "FAILED"
  | .cancelled => "CANCELLED"
  | .needsAttention => "NEEDS_ATTENTION"

def AgentJobCancelOutcome.text : AgentJobCancelOutcome → String
  | .requested => "REQUESTED"
  | .alreadyTerminal => "ALREADY_TERMINAL"
  | .notCancellable => "NOT_CANCELLABLE"
  | .notFound => "NOT_FOUND"

/-- A number that is an integer. -/
def ofInteger (n : Int) : JsValue := .number (JsonNumber.ofInt n)

/-- `string | null`. -/
def ofNullable : Option String → JsValue
  | some s => .string s
  | none => .null

/-- `string | null` on the wire. -/
theorem ofNullable_isSome (s : Option String) : (toJson? (ofNullable s)).isSome = true := by
  cases s <;> rfl

theorem overWire_ofNullable (s : Option String) : overWire (ofNullable s) = ofNullable s := by
  cases s <;> rfl

/-- The fields of a started message, in the order the agent writes them. -/
def AgentJobStarted.fields (m : AgentJobStarted) : List (String × JsValue) :=
  [("success", .boolean m.success), ("jobId", .string m.jobId),
    ("operationId", .string m.operationId), ("bootId", .string m.bootId),
    ("state", .string m.state.text), ("replayed", .boolean m.replayed),
    ("error", ofNullable m.error)]

def AgentJobHeartbeat.fields (m : AgentJobHeartbeat) : List (String × JsValue) :=
  [("jobId", .string m.jobId), ("operationId", .string m.operationId),
    ("bootId", .string m.bootId), ("sequence", ofInteger m.sequence),
    ("progress", ofInteger m.progress), ("step", .string m.step),
    ("timestamp", .string (toISOString m.timestamp))]

def AgentJobResult.fields (m : AgentJobResult) : List (String × JsValue) :=
  [("jobId", .string m.jobId), ("operationId", .string m.operationId),
    ("bootId", .string m.bootId), ("sequence", ofInteger m.sequence),
    ("success", .boolean m.success), ("cancelled", .boolean m.cancelled), ("result", m.result),
    ("error", ofNullable m.error), ("timestamp", .string (toISOString m.timestamp))]

def AgentJobStatus.fields (m : AgentJobStatus) : List (String × JsValue) :=
  [("success", .boolean m.success), ("jobId", .string m.jobId),
    ("operationId", .string m.operationId), ("bootId", .string m.bootId),
    ("state", .string m.state.text), ("sequence", ofInteger m.sequence),
    ("progress", ofInteger m.progress), ("step", .string m.step), ("result", m.result),
    ("error", ofNullable m.error)]

def AgentJobCancelResult.fields (m : AgentJobCancelResult) : List (String × JsValue) :=
  [("success", .boolean m.success), ("jobId", .string m.jobId),
    ("operationId", .string m.operationId), ("state", .string m.state.text),
    ("outcome", .string m.outcome.text), ("error", ofNullable m.error)]

/-- What the agent sends: events, and answers to the events of the panel. -/
inductive Message
  | started (m : AgentJobStarted)
  | heartbeat (m : AgentJobHeartbeat)
  | result (m : AgentJobResult)
  | status (m : AgentJobStatus)
  | cancelResult (m : AgentJobCancelResult)

/-- What the panel makes of a message: it travels as JSON and is validated. -/
def Message.arrives : Message → Except String Message
  | .started m => (validateAgentJobStarted (overWire (.object m.fields))).map .started
  | .heartbeat m => (validateAgentJobHeartbeat (overWire (.object m.fields))).map .heartbeat
  | .result m => (validateAgentJobResult (overWire (.object m.fields))).map .result
  | .status m => (validateAgentJobStatus (overWire (.object m.fields))).map .status
  | .cancelResult m =>
    (validateAgentJobCancelResult (overWire (.object m.fields))).map .cancelResult

/-- The message as it was sent, but for what JSON loses of a result. -/
def Message.received : Message → Message
  | .result m => .result { m with result := overWire m.result }
  | .status m => .status { m with result := overWire m.result }
  | m => m

/-! ## Well-formed messages -/

/-- An error a message may carry: absent, or neither empty nor too long. -/
def Readable (error : Option String) : Prop :=
  ∀ message ∈ error, 1 ≤ jsLength message ∧ jsLength message ≤ 4096

/-- A value a message may carry: JSON of at most 1 MiB. -/
def FitsPayload (value : JsValue) : Prop :=
  ∃ encoded, stringify value = some encoded ∧ encoded.utf8ByteSize ≤ MAX_PAYLOAD_BYTES

/-- The identity of a message. -/
def Identified (jobId operationId : String) : Prop :=
  isUuid jobId = true ∧ isUuid operationId = true

/-- The number of a message, from `lo` on. -/
def Numbered (lo sequence : Int) : Prop := lo ≤ sequence ∧ sequence ≤ MAX_SAFE_INTEGER

/-- What a message must be to be admitted. -/
def Message.WellFormed : Message → Prop
  | .started m => Identified m.jobId m.operationId ∧ isUuid m.bootId = true ∧ Readable m.error ∧
      m.success = m.error.isNone
  | .heartbeat m => Identified m.jobId m.operationId ∧ isUuid m.bootId = true ∧
      Numbered 1 m.sequence ∧ (0 ≤ m.progress ∧ m.progress ≤ 100) ∧ isStep m.step = true
  | .result m => Identified m.jobId m.operationId ∧ isUuid m.bootId = true ∧
      Numbered 1 m.sequence ∧ Readable m.error ∧
      (m.success = true → m.cancelled = false ∧ m.error = none) ∧ FitsPayload m.result
  | .status m => Identified m.jobId m.operationId ∧ isUuid m.bootId = true ∧
      Numbered 0 m.sequence ∧ (0 ≤ m.progress ∧ m.progress ≤ 100) ∧ isStep m.step = true ∧
      Readable m.error ∧ FitsPayload m.result
  | .cancelResult m => Identified m.jobId m.operationId ∧ Readable m.error

/-- A message that carries a time carries one a `Date` can hold. -/
def Message.Dated : Message → Prop
  | .heartbeat m => isInstant m.timestamp = true
  | .result m => isInstant m.timestamp = true
  | _ => True

/-! ## The checks on the values of a message -/

theorem isUuid_length {s : String} (h : isUuid s = true) : s.toList.length = 36 := by
  unfold isUuid at h
  split at h
  · rename_i a b c d e hspl
    simp only [isHexGroup, Bool.and_eq_true, decide_eq_true_eq] at h
    obtain ⟨⟨⟨⟨⟨⟨⟨ha, -⟩, hb, -⟩, hc, -⟩, hd, -⟩, he, -⟩, -⟩, -⟩ := h
    have hjoin : ['-'].intercalate (s.toList.splitOn '-') = s.toList := List.intercalate_splitOn '-'
    rw [hspl] at hjoin
    rw [← hjoin]
    simp [List.intercalate, List.intersperse, ha, hb, hc, hd, he]
  · exact absurd h (by simp)

/-- An identity is a UUID, and every UUID fits the bounds of a string. -/
theorem requireString_isUuid {s t : String} :
    requireString (.string s) label 1 1024 isUuid = .ok t ↔ s = t ∧ isUuid s = true := by
  rw [requireString_string]
  constructor
  · rintro ⟨rfl, -, -, h⟩
    exact ⟨rfl, h⟩
  · rintro ⟨rfl, h⟩
    have hbounds := jsLength_bounds s
    rw [isUuid_length h] at hbounds
    exact ⟨rfl, by omega, by omega, h⟩

theorem toNat_le {c d : Char} (h : c ≤ d) : c.toNat ≤ d.toNat :=
  UInt32.le_iff_toNat_le.mp (Char.le_def.mp h)

theorem isStep_length {s : String} (h : isStep s = true) : 1 ≤ jsLength s ∧ jsLength s ≤ 128 := by
  unfold isStep at h
  split at h
  · rename_i c rest hchs
    simp only [Bool.and_eq_true, decide_eq_true_eq, List.all_eq_true] at h
    obtain ⟨⟨hc, hlen⟩, hrest⟩ := h
    have hbasic : ∀ d ∈ s.toList, d.toNat < 0x10000 := by
      intro d hd
      have hasc : ∀ b : Char, isLowerAscii b = true ∨ isDigitAscii b = true →
          b.toNat < 0x10000 := by
        simp only [isLowerAscii, isDigitAscii, Bool.and_eq_true, decide_eq_true_eq]
        rintro b (⟨-, hb⟩ | ⟨-, hb⟩)
        · exact Nat.lt_of_le_of_lt (toNat_le hb) (by decide)
        · exact Nat.lt_of_le_of_lt (toNat_le hb) (by decide)
      rw [hchs] at hd
      rcases List.mem_cons.mp hd with rfl | hd
      · exact hasc d (.inl hc)
      · have hclass := hrest d hd
        simp only [Bool.or_eq_true, beq_iff_eq] at hclass
        rcases hclass with (((hclass | rfl) | rfl) | rfl) | rfl
        · exact hasc d hclass
        · decide
        · decide
        · decide
        · decide
    rw [jsLength_of_basic hbasic, hchs, List.length_cons]
    omega
  · exact absurd h (by simp)

theorem requireString_isStep {s t : String} :
    requireString (.string s) label 1 128 isStep = .ok t ↔ s = t ∧ isStep s = true := by
  rw [requireString_string]
  constructor
  · rintro ⟨rfl, -, -, h⟩
    exact ⟨rfl, h⟩
  · rintro ⟨rfl, h⟩
    exact ⟨rfl, (isStep_length h).1, (isStep_length h).2, h⟩

theorem requireSequence {n i lo : Int} (hlo : 0 ≤ lo) :
    requireInteger (ofInteger n) label lo MAX_SAFE_INTEGER = .ok i ↔ n = i ∧ Numbered lo n :=
  requireInteger_natural hlo (Int.le_refl _)

theorem requireProgress {n i : Int} :
    requireInteger (ofInteger n) label 0 100 = .ok i ↔ n = i ∧ 0 ≤ n ∧ n ≤ 100 :=
  requireInteger_natural (Int.le_refl _) (by decide)

theorem requireEnum_state {state state' : AgentJobState} :
    requireEnum (.string state.text) AGENT_JOB_STATES label = .ok state' ↔ state = state' := by
  have hlk : requireEnum (.string state.text) AGENT_JOB_STATES label = .ok state := by
    cases state <;> rfl
  rw [hlk, Except.ok.injEq]

theorem requireEnum_outcome {outcome outcome' : AgentJobCancelOutcome} :
    requireEnum (.string outcome.text) CANCEL_OUTCOMES label = .ok outcome' ↔
      outcome = outcome' := by
  have hlk : requireEnum (.string outcome.text) CANCEL_OUTCOMES label = .ok outcome := by
    cases outcome <;> rfl
  rw [hlk, Except.ok.injEq]

theorem nullableError_ofNullable {error error' : Option String} :
    nullableError (ofNullable error) label = .ok error' ↔ error = error' ∧ Readable error := by
  cases error with
  | none => simp [ofNullable, nullableError, Readable]
  | some message =>
    simp only [ofNullable, nullableError, Readable, Option.mem_def, Option.some.injEq,
      forall_eq']
    cases h : requireString (.string message) label 1 4096 anyString with
    | error fault =>
      simp only [Except.map, reduceCtorEq, false_iff]
      rintro ⟨-, hlo, hhi⟩
      have hok : requireString (.string message) label 1 4096 anyString = .ok message :=
        requireString_string.mpr ⟨rfl, hlo, hhi, rfl⟩
      rw [hok] at h
      exact absurd h (by simp)
    | ok s =>
      obtain ⟨rfl, hlo, hhi, -⟩ := requireString_string.mp h
      simp [Except.map, hlo, hhi]

theorem requireJsonSize_ok {value : JsValue} :
    requireJsonSize value label = .ok () ↔ FitsPayload value := by
  unfold requireJsonSize FitsPayload
  cases h : stringify value with
  | none => simp
  | some encoded => simp

/-- The identity of a message that carries two texts for it. -/
theorem validateIdentity_strings {value : List (String × JsValue)} {a b : String}
    {identity : String × String} (ha : property value "jobId" = .string a)
    (hb : property value "operationId" = .string b) :
    validateIdentity value label = .ok identity ↔ (a, b) = identity ∧ Identified a b := by
  unfold validateIdentity Identified
  simp only [bind_ok, ha, hb, requireString_isUuid]
  constructor
  · rintro ⟨_, ⟨rfl, hua⟩, _, ⟨rfl, hub⟩, h⟩
    exact ⟨Except.ok.inj h, hua, hub⟩
  · rintro ⟨rfl, hua, hub⟩
    exact ⟨a, ⟨rfl, hua⟩, b, ⟨rfl, hub⟩, rfl⟩

/-- What JSON makes of a value does not change whether it fits. -/
theorem fitsPayload_overWire (value : JsValue) :
    FitsPayload (overWire value) ↔ FitsPayload value := by
  unfold FitsPayload
  rw [stringify_overWire]

theorem not_fitsPayload_of_none {value : JsValue} (h : toJson? value = none) :
    ¬ FitsPayload value := by
  rintro ⟨encoded, henc, -⟩
  rw [stringify, h] at henc
  exact absurd henc (by simp)

/-! ## What arrives -/

/-- A message without a result arrives with the fields it was sent with. -/
theorem started_wire (m : AgentJobStarted) : overWire (.object m.fields) = .object m.fields := by
  rw [overWire_object]
  · simp only [AgentJobStarted.fields, List.map_cons, List.map_nil, overWire_ofNullable]
    rfl
  · simp only [AgentJobStarted.fields, List.forall_mem_cons, ofNullable_isSome]
    simp [toJson?]

theorem heartbeat_wire (m : AgentJobHeartbeat) :
    overWire (.object m.fields) = .object m.fields := by
  rw [overWire_object]
  · rfl
  · simp [AgentJobHeartbeat.fields, toJson?, ofInteger]

theorem cancelResult_wire (m : AgentJobCancelResult) :
    overWire (.object m.fields) = .object m.fields := by
  rw [overWire_object]
  · simp only [AgentJobCancelResult.fields, List.map_cons, List.map_nil, overWire_ofNullable]
    rfl
  · simp only [AgentJobCancelResult.fields, List.forall_mem_cons, ofNullable_isSome]
    simp [toJson?]

theorem result_wire {m : AgentJobResult} (h : (toJson? m.result).isSome = true) :
    overWire (.object m.fields) = .object { m with result := overWire m.result }.fields := by
  rw [overWire_object]
  · simp only [AgentJobResult.fields, List.map_cons, List.map_nil, overWire_ofNullable]
    rfl
  · simp only [AgentJobResult.fields, List.forall_mem_cons, ofNullable_isSome, h]
    simp [toJson?, ofInteger]

theorem status_wire {m : AgentJobStatus} (h : (toJson? m.result).isSome = true) :
    overWire (.object m.fields) = .object { m with result := overWire m.result }.fields := by
  rw [overWire_object]
  · simp only [AgentJobStatus.fields, List.map_cons, List.map_nil, overWire_ofNullable]
    rfl
  · simp only [AgentJobStatus.fields, List.forall_mem_cons, ofNullable_isSome, h]
    simp [toJson?, ofInteger]

theorem started_arrives {m m' : AgentJobStarted} :
    validateAgentJobStarted (overWire (.object m.fields)) = .ok m' ↔
      (Message.started m).WellFormed ∧ m = m' := by
  have hflags : ensure (m.success != m.error.isSome) "agentJobStarted outcome is inconsistent" =
      .ok () ↔ m.success = m.error.isNone := by
    rw [ensure_ok, bne_iff_ne]
    cases m.success <;> cases m.error <;> simp
  rw [started_wire, Message.WellFormed]
  simp only [and_assoc]
  exact bind_of_ok rfl <| bind_of_ok rfl <| bind_of_ok rfl <|
    bind_when (fun _ => validateIdentity_strings rfl rfl) <|
    bind_when (fun _ => requireString_isUuid) <| bind_of_ok (requireEnum_state.mpr rfl) <|
    bind_of_ok rfl <| bind_when (fun _ => nullableError_ofNullable) <| bind_unit hflags <|
    Iff.of_eq (Except.ok.injEq _ _)

theorem heartbeat_arrives {m m' : AgentJobHeartbeat} (ht : isInstant m.timestamp = true) :
    validateAgentJobHeartbeat (overWire (.object m.fields)) = .ok m' ↔
      (Message.heartbeat m).WellFormed ∧ m = m' := by
  rw [heartbeat_wire]
  refine Iff.trans (bind_of_ok rfl <| bind_of_ok rfl <|
    bind_when (fun _ => validateIdentity_strings rfl rfl) <|
    bind_when (fun _ => requireString_isUuid) <|
    bind_when (fun _ => requireSequence (by decide)) <| bind_when (fun _ => requireProgress) <|
    bind_when (fun _ => requireString_isStep) <|
    bind_of_ok ((requireIsoDate_toISOString ht).mpr rfl) <| Iff.of_eq (Except.ok.injEq _ _)) ?_
  simp only [Message.WellFormed, and_assoc]

/-- A result that is no JSON is left out, and the validator asks for it. -/
theorem result_arrives {m m' : AgentJobResult} (ht : isInstant m.timestamp = true) :
    validateAgentJobResult (overWire (.object m.fields)) = .ok m' ↔
      (Message.result m).WellFormed ∧ { m with result := overWire m.result } = m' := by
  cases hj : toJson? m.result with
  | none =>
    have hlost : validateAgentJobResult (overWire (.object m.fields)) =
        .error "agentJobResult.result is required" := by
      have hwire : overWire (.object m.fields) =
          .object (ofJsonMembers (toJsonMembers m.fields)) := rfl
      rw [hwire, AgentJobResult.fields]
      cases m.error <;>
        simp only [toJsonMembers, toJson?, ofInteger, ofNullable, hj, ofJsonMembers, ofJson] <;> rfl
    rw [hlost]
    simp [Message.WellFormed, not_fitsPayload_of_none hj]
  | some j =>
    have hflags : ensure (!(m.success && (m.cancelled || m.error.isSome)))
        "agentJobResult success flags are inconsistent" = .ok () ↔
          (m.success = true → m.cancelled = false ∧ m.error = none) := by
      rw [ensure_ok]
      cases m.success <;> cases m.cancelled <;> cases m.error <;> simp
    rw [result_wire (by rw [hj]; rfl)]
    refine Iff.trans (bind_of_ok rfl <| bind_of_ok rfl <|
      bind_when (fun _ => validateIdentity_strings rfl rfl) <|
      bind_when (fun _ => requireString_isUuid) <|
      bind_when (fun _ => requireSequence (by decide)) <| bind_of_ok rfl <| bind_of_ok rfl <|
      bind_when (fun _ => nullableError_ofNullable) <| bind_unit hflags <| bind_unit ensure_ok <|
      bind_of_ok ((requireIsoDate_toISOString ht).mpr rfl) <|
      bind_unit (requireJsonSize_ok.trans (fitsPayload_overWire m.result)) <|
      Iff.of_eq (Except.ok.injEq _ _)) ?_
    -- the second check of the flags follows from the first
    have hcancelled : ∀ Q : Prop, ((m.success = true → m.cancelled = false ∧ m.error = none) ∧
        (!(m.cancelled && m.success)) = true ∧ Q) ↔
          (m.success = true → m.cancelled = false ∧ m.error = none) ∧ Q :=
      fun Q => and_congr_right fun h => and_iff_right (by cases hs : m.success <;> simp_all)
    simp only [Message.WellFormed, and_assoc, hcancelled]
    exact Iff.rfl

theorem status_arrives {m m' : AgentJobStatus} :
    validateAgentJobStatus (overWire (.object m.fields)) = .ok m' ↔
      (Message.status m).WellFormed ∧ { m with result := overWire m.result } = m' := by
  cases hj : toJson? m.result with
  | none =>
    have hlost : validateAgentJobStatus (overWire (.object m.fields)) =
        .error "agentJobStatus.result is required" := by
      have hwire : overWire (.object m.fields) =
          .object (ofJsonMembers (toJsonMembers m.fields)) := rfl
      rw [hwire, AgentJobStatus.fields]
      cases m.error <;>
        simp only [toJsonMembers, toJson?, ofInteger, ofNullable, hj, ofJsonMembers, ofJson] <;> rfl
    rw [hlost]
    simp [Message.WellFormed, not_fitsPayload_of_none hj]
  | some j =>
    rw [status_wire (by rw [hj]; rfl)]
    refine Iff.trans (bind_of_ok rfl <| bind_of_ok rfl <| bind_of_ok rfl <|
      bind_when (fun _ => validateIdentity_strings rfl rfl) <|
      bind_when (fun _ => requireString_isUuid) <| bind_of_ok (requireEnum_state.mpr rfl) <|
      bind_when (fun _ => requireSequence (by decide)) <| bind_when (fun _ => requireProgress) <|
      bind_when (fun _ => requireString_isStep) <| bind_when (fun _ => nullableError_ofNullable) <|
      bind_unit (requireJsonSize_ok.trans (fitsPayload_overWire m.result)) <|
      Iff.of_eq (Except.ok.injEq _ _)) ?_
    simp only [Message.WellFormed, and_assoc]
    exact Iff.rfl

theorem cancelResult_arrives {m m' : AgentJobCancelResult} :
    validateAgentJobCancelResult (overWire (.object m.fields)) = .ok m' ↔
      (Message.cancelResult m).WellFormed ∧ m = m' := by
  rw [cancelResult_wire, Message.WellFormed]
  simp only [and_assoc]
  exact bind_of_ok rfl <| bind_of_ok rfl <| bind_of_ok rfl <|
    bind_when (fun _ => validateIdentity_strings rfl rfl) <|
    bind_of_ok (requireEnum_state.mpr rfl) <| bind_of_ok (requireEnum_outcome.mpr rfl) <|
    bind_when (fun _ => nullableError_ofNullable) <| Iff.of_eq (Except.ok.injEq _ _)

theorem map_ok {ε α β : Type} {x : Except ε α} {f : α → β} {b : β} :
    x.map f = .ok b ↔ ∃ a, x = .ok a ∧ f a = b := by
  cases x <;> simp [Except.map]

/-- **A message is admitted exactly when it is well formed**, and then as it was sent. -/
theorem arrives_iff {m m' : Message} (ht : m.Dated) :
    m.arrives = .ok m' ↔ m.WellFormed ∧ m.received = m' := by
  cases m with
  | started m => simp [Message.arrives, map_ok, started_arrives, Message.received]
  | heartbeat m => simp [Message.arrives, map_ok, heartbeat_arrives ht, Message.received]
  | result m => simp [Message.arrives, map_ok, result_arrives ht, Message.received]
  | status m => simp [Message.arrives, map_ok, status_arrives, Message.received]
  | cancelResult m => simp [Message.arrives, map_ok, cancelResult_arrives, Message.received]

end Meowbox.AgentJobs
