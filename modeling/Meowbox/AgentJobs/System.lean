import Meowbox.AgentJobs.Service
import Meowbox.Lib.Pool
import Meowbox.Operations.Begin

/-!
# The methods of `AgentJobService` as calls over one database

A method is a program that reads the table, reads the clock (`new Date()`) or commits a write, and
other calls may run between any two of its instructions, which is where the source awaits. Any
order of messages, late ones and repeated ones among them, is an order of calls. Operations change
from outside: the service only reads them.

`sha256` is the hex digest of a text. `redactSensitiveText` stands for the redaction of
`shared/src/safe-error-message.ts`, cut at 2000 characters: nothing here depends on what it removes.

`get`, which only reads, is left out.
-/

namespace Meowbox.AgentJobs

open JsData Operations Interleaved

/-- What the methods use of their host. -/
structure Host where
  sha256 : String → String
  redactSensitiveText : String → String

/-! ## Texts -/

/-- `safeErrorMessage` of a text. -/
def Host.safeErrorMessage (host : Host) (error : String) : String :=
  host.redactSensitiveText (if trim error = "" then "Operation failed" else trim error)

/-- The characters that fit into `max` code units. -/
def sliceChars : Nat → List Char → List Char
  | _, [] => []
  | max, c :: cs => if (utf16 c).length ≤ max then c :: sliceChars (max - (utf16 c).length) cs else []

/-- `s.slice(0, max)`. A character the cut falls into is left out whole. -/
def slice (max : Nat) (s : String) : String := String.ofList (sliceChars max s.toList)

/-- `safeErrorMessage(error || fallback).slice(0, 4096)`. -/
def Host.messageOr (host : Host) (error : Option String) (fallback : String) : String :=
  slice 4096 (host.safeErrorMessage ((truthy error).getD fallback))

/-- The value of a hexadecimal digit. -/
def hexValue (c : Char) : Nat := "0123456789abcdef".toList.idxOf c

/-- `deterministicJobId`: the first 16 bytes of the digest, with the version and the variant of a
UUID set in the seventh and the ninth. -/
def deterministicJobId (sha256 : String → String) (operationId step : String) : String :=
  let digest := (sha256 ("MEOWBOX-AGENT-JOB-V1\x00" ++ operationId ++ "\x00" ++ step)).toList
  let hex := (digest.set 12 '8').set 16 (Nat.digitChar (8 + hexValue (digest.getD 16 '0') % 4))
  String.ofList (hex.take 8 ++ '-' :: (hex.drop 8).take 4 ++ '-' :: (hex.drop 12).take 4 ++
    '-' :: (hex.drop 16).take 4 ++ '-' :: (hex.drop 20).take 12)

/-! ## Instructions -/

/-- What the calls share. -/
structure View where
  db : Db
  clock : Time

inductive Instr
  | read
  | clock
  | write (w : Write)

/-- The answer to a committed write. -/
structure Reply where
  count : Nat
  job : Option AgentJob

def Instr.Answer : Instr → Type
  | .read => Db
  | .clock => Time
  | .write _ => Except Fault Reply

def answer : (i : Instr) → View → i.Answer × View
  | .read, v => (v.db, v)
  | .clock, v => (v.clock, v)
  | .write w, v =>
    match v.db.commit w with
    | .ok done => (.ok ⟨done.count, done.job⟩, { v with db := done.db })
    | .error fault => (.error fault, v)

/-- `requestCancel` and what it answers. -/
inductive CancelAnswer
  | requested | notCancellable | alreadyTerminal
deriving DecidableEq

/-- `PreparedAgentJob`: the row and the payload to send. -/
structure PreparedAgentJob where
  job : AgentJob
  payload : JsValue

/-- How a method ends. -/
inductive Outcome
  | returned
  | threw (fault : Fault)
  | prepared (job : PreparedAgentJob)
  | recorded (accepted : Bool)
  | cancel (answer : CancelAnswer)
  | interrupted (count : Nat)

abbrev Program := Prog Instr Instr.Answer Outcome

/-- Perform a write; a fault ends the method. -/
def perform (w : Write) (next : Reply → Program) : Program :=
  .ask (.write w) fun
    | .ok reply => next reply
    | .error fault => .done (.threw fault)

/-! ## Methods -/

/-- `PrepareAgentJobInput`; `none` is a `deadlineAt` that is no valid date. -/
structure PrepareAgentJobInput where
  operationId : String
  actionId : String
  step : String
  payload : JsValue
  deadlineAt : Option Time
  cancelSafe : Bool

/-- `MAX_JOB_PAYLOAD_BYTES`, which is also `MAX_JOB_RESULT_BYTES`. -/
def MAX_JOB_PAYLOAD_BYTES : Nat := 1048576

namespace Method

variable (host : Host)

def prepare (input : PrepareAgentJobInput) : Program :=
  if !isActionId input.actionId then .done (.threw (.badRequest "Agent job action is invalid"))
  else if !isStep input.step then .done (.threw (.badRequest "Agent job step is invalid"))
  else .ask .clock fun (now : Time) =>
    match input.deadlineAt.filter fun deadlineAt => decide (now < deadlineAt) with
    | none => .done (.threw (.badRequest "Agent job deadline is invalid"))
    | some deadlineAt =>
      let payloadJson := stableJson input.payload
      if MAX_JOB_PAYLOAD_BYTES < payloadJson.utf8ByteSize then
        .done (.threw (.badRequest "Agent job payload exceeds 1 MiB"))
      else
        perform (.prepare {
          id := deterministicJobId host.sha256 input.operationId input.step
          operationId := input.operationId
          actionId := input.actionId
          step := input.step
          requestHash :=
            host.sha256 (input.actionId ++ "\x00" ++ input.step ++ "\x00" ++ payloadJson)
          cancelSafe := input.cancelSafe
          deadlineAt := deadlineAt }) fun reply =>
        .done (match reply.job with
          | some job => .prepared ⟨job, input.payload⟩
          | none => .returned)

def recordStarted (started : AgentJobStarted) : Program :=
  .ask .read fun db =>
    match Db.findJob db started.jobId with
    | none => .done (.threw (.notFound "Agent job not found"))
    | some job =>
      if job.operationId != started.operationId then
        .done (.threw (.notFound "Agent job not found"))
      else if !started.success then
        .ask .clock fun now =>
          perform (.rejectStart job.id started.bootId
            (host.messageOr started.error "Agent rejected job") now) fun _ => .done .returned
      else if TERMINAL_JOB_STATES.contains job.state then .done .returned
      else if (truthy job.agentBootId).any fun bootId => bootId != started.bootId then
        .done (.threw (.conflict "Agent job boot identity changed"))
      else
        .ask .clock fun startedAt => .ask .clock fun now =>
          perform (.acknowledgeStart job.id started.bootId (job.startedAt.getD startedAt) now)
            fun _ => .done .returned

def bindToBoot (jobId bootId : String) : Program :=
  perform (.bindToBoot jobId bootId) fun reply =>
    if reply.count = 1 then .done .returned
    else .ask .read fun db =>
      match Db.findJob db jobId with
      | none => .done (.threw (.notFound "Agent job not found"))
      | some job =>
        if job.agentBootId != some bootId && !TERMINAL_JOB_STATES.contains job.state then
          .done (.threw (.conflict "Agent job is bound to another agent boot"))
        else .done .returned

def recordHeartbeat (heartbeat : AgentJobHeartbeat) : Program :=
  perform (.recordHeartbeat heartbeat) fun reply => .done (.recorded (reply.count == 1))

def recordResult (result : AgentJobResult) : Program :=
  match assertNoSecretFields "agentJob.result" result.result with
  | .error message => .done (.threw (.error message))
  | .ok () =>
    let resultJson := stableJson result.result
    if MAX_JOB_PAYLOAD_BYTES < resultJson.utf8ByteSize then
      .done (.threw (.badRequest "Agent job result exceeds 1 MiB"))
    else
      perform (.recordResult result resultJson
        ((truthy result.error).map fun error => slice 4096 (host.safeErrorMessage error)))
        fun reply => .done (.recorded (reply.count == 1))

def recordStatus (status : AgentJobStatus) : Program :=
  if !status.success then .done .returned
  else if [AgentJobState.succeeded, .failed, .cancelled].contains status.state then
    .ask .clock fun now =>
      (recordResult host {
        jobId := status.jobId
        operationId := status.operationId
        bootId := status.bootId
        sequence := status.sequence
        success := status.state == .succeeded
        cancelled := status.state == .cancelled
        result := if status.state = .succeeded then status.result else .null
        error := status.error
        timestamp := now }).bind fun
          | .threw fault => .done (.threw fault)
          | _ => .done .returned
  else .ask .clock fun now =>
    if status.state = .needsAttention then
      perform (.reportUnknown status
        (host.messageOr status.error "Agent reported unknown outcome") now) fun _ => .done .returned
    else perform (.reportProgress status now) fun _ => .done .returned

def requestCancel (jobId : String) : Program :=
  .ask .clock fun now =>
    perform (.requestCancel jobId now) fun reply =>
      .done (match reply.job with
        | some job =>
          if TERMINAL_JOB_STATES.contains job.state then .cancel .alreadyTerminal
          else if !job.cancelSafe then .cancel .notCancellable
          else .cancel .requested
        | none => .returned)

def recordCancelOutcome (jobId outcome : String) : Program :=
  perform (.recordCancelOutcome jobId (slice 128 outcome)) fun _ => .done .returned

def markInterruptedByNewBoot (bootId : String) : Program :=
  .ask .clock fun now =>
    perform (.markInterruptedByNewBoot bootId now) fun reply => .done (.interrupted reply.count)

def markDeadlineUnknown (jobId : String) : Program :=
  .ask .clock fun now =>
    perform (.markDeadlineUnknown jobId now) fun _ => .done .returned

end Method

/-! ## The system -/

/-- A call of a method. -/
inductive Request
  | prepare (input : PrepareAgentJobInput)
  | recordStarted (started : AgentJobStarted)
  | bindToBoot (jobId bootId : String)
  | recordHeartbeat (heartbeat : AgentJobHeartbeat)
  | recordResult (result : AgentJobResult)
  | recordStatus (status : AgentJobStatus)
  | requestCancel (jobId : String)
  | recordCancelOutcome (jobId outcome : String)
  | markInterruptedByNewBoot (bootId : String)
  | markDeadlineUnknown (jobId : String)

def Request.program (host : Host) : Request → Program
  | .prepare input => Method.prepare host input
  | .recordStarted started => Method.recordStarted host started
  | .bindToBoot jobId bootId => Method.bindToBoot jobId bootId
  | .recordHeartbeat heartbeat => Method.recordHeartbeat heartbeat
  | .recordResult result => Method.recordResult host result
  | .recordStatus status => Method.recordStatus host status
  | .requestCancel jobId => Method.requestCancel jobId
  | .recordCancelOutcome jobId outcome => Method.recordCancelOutcome jobId outcome
  | .markInterruptedByNewBoot bootId => Method.markInterruptedByNewBoot bootId
  | .markDeadlineUnknown jobId => Method.markDeadlineUnknown jobId

/-- What changes from outside: time passes, the operations change. -/
inductive Change
  | tick (elapsed : Nat)
  | operations (operation : OperationTable)

def Change.apply : Change → View → View
  | .tick elapsed, v => { v with clock := v.clock + elapsed }
  | .operations operation, v => { v with db := { v.db with operation := operation } }

/-- `AgentJobService`. -/
def agentJobService (host : Host) : Service View Change Request Instr Instr.Answer Outcome where
  program := Request.program host
  answer := answer
  outside := Change.apply

abbrev State := Pool View Instr Instr.Answer Outcome

abbrev Action := Event Change Request

/-- A panel without jobs. -/
def State.init : State := ⟨⟨.empty, 0⟩, []⟩

/-- The jobs of a state. -/
def State.jobs (s : State) : AgentJobTable := s.store.db.agentJob

/-- The states of the runs from `s₀` whose instructions all meet `G`. -/
abbrev RunsTo (host : Host) (G : View → Instr → Prop) (s₀ s : State) : Prop :=
  Stepping.Reach (Pool.step (agentJobService host)) (Pool.Within G) s₀ s

/-- Every instruction. -/
abbrev anyInstr : View → Instr → Prop := fun _ _ => True

/-! ### What an instruction does to the table -/

/-- The table stays, or a write is committed. -/
theorem answer_jobs (i : Instr) (v : View) :
    (answer i v).2.db.agentJob = v.db.agentJob ∨
      ∃ w done, i = .write w ∧ v.db.commit w = .ok done ∧ (answer i v).2.db = done.db := by
  cases i with
  | read => exact .inl rfl
  | clock => exact .inl rfl
  | write w =>
    simp only [answer]
    cases hw : v.db.commit w with
    | error fault => exact .inl rfl
    | ok done => exact .inr ⟨w, done, rfl, hw, rfl⟩

@[simp] theorem outside_jobs (change : Change) (v : View) :
    (change.apply v).db.agentJob = v.db.agentJob := by
  cases change <;> rfl

end Meowbox.AgentJobs
