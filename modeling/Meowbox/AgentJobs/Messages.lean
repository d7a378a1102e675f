import Meowbox.Common.ContractValidation

/-!
# The messages of an agent job

The message types of `shared/src/agent-job.ts` and their validators, which the panel runs on
whatever arrives from the agent. A date in a message is the instant its text denotes.
-/

namespace Meowbox.AgentJobs

open JsData

/-- `AGENT_JOB_STATES`. -/
inductive AgentJobState
  | starting | running | cancelRequested | succeeded | failed | cancelled | needsAttention
deriving DecidableEq

/-- Milliseconds since the epoch. -/
abbrev Time := Int

structure AgentJobStarted where
  success : Bool
  jobId : String
  operationId : String
  bootId : String
  state : AgentJobState
  replayed : Bool
  error : Option String
deriving DecidableEq

structure AgentJobHeartbeat where
  jobId : String
  operationId : String
  bootId : String
  sequence : Int
  progress : Int
  step : String
  timestamp : Time
deriving DecidableEq

structure AgentJobResult where
  jobId : String
  operationId : String
  bootId : String
  sequence : Int
  success : Bool
  cancelled : Bool
  result : JsValue
  error : Option String
  timestamp : Time

structure AgentJobStatus where
  success : Bool
  jobId : String
  operationId : String
  bootId : String
  state : AgentJobState
  sequence : Int
  progress : Int
  step : String
  result : JsValue
  error : Option String

/-! ## Patterns -/

/-- `[0-9a-f]`. -/
def isHexLower (c : Char) : Bool := isDigitAscii c || (decide ('a' ≤ c) && decide (c ≤ 'f'))

/-- `[0-9a-f]{n}`. -/
def isHexGroup (n : Nat) (cs : List Char) : Bool := decide (cs.length = n) && cs.all isHexLower

/-- `UUID`: the third group names a version from 1 to 8, the fourth the variant. -/
def isUuid (s : String) : Bool :=
  match s.toList.splitOn '-' with
  | [a, b, c, d, e] =>
    isHexGroup 8 a && isHexGroup 4 b && isHexGroup 4 c && isHexGroup 4 d && isHexGroup 12 e &&
      c.head?.any (fun v => decide ('1' ≤ v) && decide (v ≤ '8')) &&
      d.head?.any fun v => v == '8' || v == '9' || v == 'a' || v == 'b'
  | _ => false

/-- `STEP`. -/
def isStep (s : String) : Bool :=
  match s.toList with
  | c :: rest =>
    isLowerAscii c && decide (rest.length ≤ 127) && rest.all fun d =>
      isLowerAscii d || isDigitAscii d || d == '.' || d == '_' || d == ':' || d == '-'
  | [] => false

/-- `AGENT_JOB_STATES`, each text with its state. -/
def AGENT_JOB_STATES : List (String × AgentJobState) :=
  [("STARTING", .starting), ("RUNNING", .running), ("CANCEL_REQUESTED", .cancelRequested),
    ("SUCCEEDED", .succeeded), ("FAILED", .failed), ("CANCELLED", .cancelled),
    ("NEEDS_ATTENTION", .needsAttention)]

/-- `MAX_PAYLOAD_BYTES`. -/
def MAX_PAYLOAD_BYTES : Nat := 1048576

/-! ## Parts of a validator -/

/-- `requireJsonSize`. -/
def requireJsonSize (value : JsValue) (label : String) : Except String Unit :=
  match stringify value with
  | some encoded =>
    ensure (decide (encoded.utf8ByteSize ≤ MAX_PAYLOAD_BYTES))
      (label ++ " exceeds " ++ toString MAX_PAYLOAD_BYTES ++ " bytes")
  | none => .error (label ++ " exceeds " ++ toString MAX_PAYLOAD_BYTES ++ " bytes")

/-- `validateIdentity`. -/
def validateIdentity (value : List (String × JsValue)) (label : String) :
    Except String (String × String) := do
  let jobId ← requireString (property value "jobId") (label ++ ".jobId") 1 1024 isUuid
  let operationId ←
    requireString (property value "operationId") (label ++ ".operationId") 1 1024 isUuid
  .ok (jobId, operationId)

/-- `if (value.error !== null) requireString(value.error, …, { max: 4096 })`. -/
def nullableError (value : JsValue) (label : String) : Except String (Option String) :=
  match value with
  | .null => .ok none
  | value => (requireString value label 1 4096 anyString).map some

/-- `if (!isContractRecord(value)) throw`. -/
def requireRecord (value : JsValue) (label : String) : Except String (List (String × JsValue)) :=
  match contractRecord? value with
  | some fields => .ok fields
  | none => .error (label ++ " is invalid")

/-! ## The validators -/

def validateAgentJobStarted (raw : JsValue) : Except String AgentJobStarted := do
  let value ← requireRecord raw "agentJobStarted"
  requireExactKeys value
    ["success", "jobId", "operationId", "bootId", "state", "replayed", "error"] [] "agentJobStarted"
  let success ← requireBoolean (property value "success") "agentJobStarted.success"
  let identity ← validateIdentity value "agentJobStarted"
  let bootId ← requireString (property value "bootId") "agentJobStarted.bootId" 1 1024 isUuid
  let state ← requireEnum (property value "state") AGENT_JOB_STATES "agentJobStarted.state"
  let replayed ← requireBoolean (property value "replayed") "agentJobStarted.replayed"
  let error ← nullableError (property value "error") "agentJobStarted.error"
  ensure (success != error.isSome) "agentJobStarted outcome is inconsistent"
  .ok { success, jobId := identity.1, operationId := identity.2, bootId, state, replayed, error }

def validateAgentJobHeartbeat (raw : JsValue) : Except String AgentJobHeartbeat := do
  let value ← requireRecord raw "agentJobHeartbeat"
  requireExactKeys value
    ["jobId", "operationId", "bootId", "sequence", "progress", "step", "timestamp"] []
    "agentJobHeartbeat"
  let identity ← validateIdentity value "agentJobHeartbeat"
  let bootId ← requireString (property value "bootId") "agentJobHeartbeat.bootId" 1 1024 isUuid
  let sequence ←
    requireInteger (property value "sequence") "agentJobHeartbeat.sequence" 1 MAX_SAFE_INTEGER
  let progress ← requireInteger (property value "progress") "agentJobHeartbeat.progress" 0 100
  let step ← requireString (property value "step") "agentJobHeartbeat.step" 1 128 isStep
  let timestamp ← requireIsoDate (property value "timestamp") "agentJobHeartbeat.timestamp"
  .ok { jobId := identity.1, operationId := identity.2, bootId, sequence, progress, step, timestamp }

def validateAgentJobResult (raw : JsValue) : Except String AgentJobResult := do
  let value ← requireRecord raw "agentJobResult"
  requireExactKeys value
    ["jobId", "operationId", "bootId", "sequence", "success", "cancelled", "result", "error",
      "timestamp"] [] "agentJobResult"
  let identity ← validateIdentity value "agentJobResult"
  let bootId ← requireString (property value "bootId") "agentJobResult.bootId" 1 1024 isUuid
  let sequence ←
    requireInteger (property value "sequence") "agentJobResult.sequence" 1 MAX_SAFE_INTEGER
  let success ← requireBoolean (property value "success") "agentJobResult.success"
  let cancelled ← requireBoolean (property value "cancelled") "agentJobResult.cancelled"
  let error ← nullableError (property value "error") "agentJobResult.error"
  ensure (!(success && (cancelled || error.isSome))) "agentJobResult success flags are inconsistent"
  -- already excluded by the check before it
  ensure (!(cancelled && success)) "agentJobResult cancellation is invalid"
  let timestamp ← requireIsoDate (property value "timestamp") "agentJobResult.timestamp"
  requireJsonSize (property value "result") "agentJobResult.result"
  .ok { jobId := identity.1, operationId := identity.2, bootId, sequence, success, cancelled
        result := property value "result", error, timestamp }

def validateAgentJobStatus (raw : JsValue) : Except String AgentJobStatus := do
  let value ← requireRecord raw "agentJobStatus"
  requireExactKeys value
    ["success", "jobId", "operationId", "bootId", "state", "sequence", "progress", "step", "result",
      "error"] [] "agentJobStatus"
  let success ← requireBoolean (property value "success") "agentJobStatus.success"
  let identity ← validateIdentity value "agentJobStatus"
  let bootId ← requireString (property value "bootId") "agentJobStatus.bootId" 1 1024 isUuid
  let state ← requireEnum (property value "state") AGENT_JOB_STATES "agentJobStatus.state"
  let sequence ←
    requireInteger (property value "sequence") "agentJobStatus.sequence" 0 MAX_SAFE_INTEGER
  let progress ← requireInteger (property value "progress") "agentJobStatus.progress" 0 100
  let step ← requireString (property value "step") "agentJobStatus.step" 1 128 isStep
  let error ← nullableError (property value "error") "agentJobStatus.error"
  requireJsonSize (property value "result") "agentJobStatus.result"
  .ok { success, jobId := identity.1, operationId := identity.2, bootId, state, sequence, progress
        step, result := property value "result", error }

/-! ## What the validators admit -/

end Meowbox.AgentJobs
