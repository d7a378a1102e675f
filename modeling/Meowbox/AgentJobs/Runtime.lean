import Meowbox.AgentJobs.Wire
import Meowbox.AgentJobs.System

/-!
# `AgentJobRuntime`

The agent's side of an agent job, `agent/src/agent-job.runtime.ts`. `Input` is everything that can
happen to a runtime: an event of the panel, a timer, and what a handler does, which is the
environment's choice (the heartbeats it asks for, the value it returns, what it throws). `react` is
what the runtime makes of an input: its new state, the messages it sends, and the outcomes it has
recorded, which are written down for the theorems.

A timer may fire at any time here. `childProcessRegistry.cancelJob` is left out: what it does to a
handler is part of what the handler does.
-/

namespace Meowbox.AgentJobs

open Relational JsData

/-- What `randomUUID` returns. -/
abbrev Uuid := { s : String // isUuid s = true }

/-- What `Date.now` returns. -/
abbrev Instant := { t : Time // isInstant t = true }

/-! ## Errors and results -/

/-- What a handler throws: an `Error`, or any other value. -/
inductive Thrown
  | error (message : String)
  | other

/-- `(password|secret|token|authorization|cookie)\s*[=:]\s*[^\s,;]+` at the front of a text: the
word as it stands there, and the length of the match. -/
def secretAssignment? (cs : List Char) : Option (List Char × Nat) :=
  (["password", "secret", "token", "authorization", "cookie"].find? fun word =>
    (cs.take word.length).map Char.toLower == word.toList).bind fun word =>
      match (cs.drop word.length).dropWhile isJsSpace with
      | sign :: rest =>
        let value := rest.dropWhile isJsSpace
        let tail := value.dropWhile fun c => !(isJsSpace c || c == ',' || c == ';')
        if (sign == '=' || sign == ':') && decide (tail.length < value.length) then
          some (cs.take word.length, cs.length - tail.length)
        else none
      | [] => none

/-- `replace(…/gi, '$1=[REDACTED]')`, with the first `skip` characters matched already. -/
def redactAssignments : Nat → List Char → List Char
  | _, [] => []
  | skip + 1, _ :: cs => redactAssignments skip cs
  | 0, c :: cs =>
    match secretAssignment? (c :: cs) with
    | some (word, length) => word ++ "=[REDACTED]".toList ++ redactAssignments (length - 1) cs
    | none => c :: redactAssignments 0 cs

/-- `safeMessage`. -/
def safeMessage (error : Thrown) : String :=
  let message := match error with
    | .error message => message
    | .other => "Agent job failed"
  slice 4096 (String.ofList (redactAssignments 0 message.toList))

mutual

/-- `assertSafeResult`; the error is the message thrown. -/
def assertSafeResult (path : String) : JsValue → Except String Unit
  | .array items => assertSafeItems path 0 items
  | .object fields => assertSafeMembers path fields
  | _ => .ok ()

def assertSafeItems (path : String) (index : Nat) : List JsValue → Except String Unit
  | [] => .ok ()
  | v :: vs => do
    assertSafeResult (path ++ "[" ++ toString index ++ "]") v
    assertSafeItems path (index + 1) vs

def assertSafeMembers (path : String) : List (String × JsValue) → Except String Unit
  | [] => .ok ()
  | (key, nested) :: fs => do
    if isSecretKey key then
      .error ("Agent job result contains forbidden field: " ++ path ++ "." ++ key)
    else
      assertSafeResult (path ++ "." ++ key) nested
      assertSafeMembers path fs

end

/-- `resultBytes`. -/
def resultBytes (value : JsValue) : Except String Nat :=
  match stringify value with
  | some encoded => .ok encoded.utf8ByteSize
  | none => .error "Agent job result is not JSON-serializable"

/-- `MAX_RESULT_BYTES`. -/
def MAX_RESULT_BYTES : Nat := 1048576

/-- What `execute` demands of the value a handler returned. -/
def acceptResult (value : JsValue) : Except String Unit := do
  assertSafeResult "result" value
  let bytes ← resultBytes value
  ensure (decide (bytes ≤ MAX_RESULT_BYTES)) "Agent job result exceeds 1 MiB"

/-! ## Jobs -/

structure RuntimeJob where
  request : AgentJobStartRequest
  state : AgentJobState
  sequence : Int
  progress : Int
  step : String
  result : JsValue
  error : Option String
  cancellationRequested : Bool
  createdAt : Time

/-- `TERMINAL_STATES.has(job.state)`: the handler has ended. -/
def RuntimeJob.terminal (job : RuntimeJob) : Bool := TERMINAL_JOB_STATES.contains job.state

/-- The key of a job in the map. -/
def RuntimeJob.key (job : RuntimeJob) : String := job.request.jobId

def RuntimeJob.hasId (jobId : String) (job : RuntimeJob) : Bool := job.request.jobId == jobId

/-- The outcome of a job as the agent records it. -/
structure JobOutcome where
  jobId : String
  operationId : String
  state : AgentJobState
  result : JsValue
  error : Option String

def RuntimeJob.outcome (job : RuntimeJob) : JobOutcome :=
  ⟨job.request.jobId, job.request.operationId, job.state, job.result, job.error⟩

/-- How a handler ends. -/
inductive Ending
  | returned (value : JsValue)
  | threw (error : Thrown)

/-- A job whose handler failed. -/
def RuntimeJob.fail (job : RuntimeJob) (error : Thrown) : RuntimeJob :=
  { job with state := .failed, error := some (safeMessage error) }

/-- What `execute` makes of the job when its handler ends. -/
def RuntimeJob.finish (job : RuntimeJob) (ending : Ending) : RuntimeJob :=
  if job.cancellationRequested then
    { job with state := .cancelled, error := some "Agent job cancelled" }
  else
    match ending with
    | .threw error => job.fail error
    | .returned value =>
      match acceptResult value with
      | .error message => job.fail (.error message)
      | .ok () => { job with state := .succeeded, progress := 100, result := value }

theorem RuntimeJob.finish_kept (job : RuntimeJob) (ending : Ending) :
    (job.finish ending).request = job.request ∧ (job.finish ending).sequence = job.sequence := by
  unfold RuntimeJob.finish RuntimeJob.fail
  split
  · exact ⟨rfl, rfl⟩
  · split
    · exact ⟨rfl, rfl⟩
    · split
      · exact ⟨rfl, rfl⟩
      · exact ⟨rfl, rfl⟩

/-- `++n` of a JavaScript number. -/
def increment (n : Int) : Int := if n ≤ MAX_SAFE_INTEGER then n + 1 else n

/-! ## The runtime -/

abbrev JobMap := Table [RuntimeJob.key]

structure Runtime where
  bootId : Uuid
  handlers : List String
  jobs : JobMap
  attached : Bool
  clock : Instant

/-- What the runtime makes of an input. -/
structure Reaction where
  runtime : Runtime
  sent : List Message
  settled : List JobOutcome

namespace Runtime

variable (r : Runtime)

/-- The runtime only answers. -/
def reply (messages : List Message) : Reaction := ⟨r, messages, []⟩

/-- `this.jobs.get(jobId)`. -/
def find (jobId : String) : Option RuntimeJob := r.jobs.find? (RuntimeJob.hasId jobId)

/-- Change one job in place. -/
def modify (jobId : String) (f : RuntimeJob → RuntimeJob)
    (hf : ∀ job, (f job).request = job.request) : Runtime :=
  { r with jobs := r.jobs.updateMany (RuntimeJob.hasId jobId) f (by
      intro k hk job
      rw [List.mem_singleton.mp hk, RuntimeJob.key, RuntimeJob.key, hf]) }

/-- `this.socket?.emit`. -/
def emit (message : Message) : List Message := if r.attached then [message] else []

/-- `++job.sequence`. -/
def number (jobId : String) : Runtime :=
  r.modify jobId (fun job => { job with sequence := increment job.sequence }) fun _ => rfl

def emitHeartbeat (job : RuntimeJob) : Reaction :=
  if job.terminal then r.reply []
  else (r.number job.request.jobId).reply (r.emit (.heartbeat {
    jobId := job.request.jobId
    operationId := job.request.operationId
    bootId := r.bootId
    sequence := increment job.sequence
    progress := job.progress
    step := job.step
    timestamp := r.clock }))

def resultMessage (job : RuntimeJob) : AgentJobResult where
  jobId := job.request.jobId
  operationId := job.request.operationId
  bootId := r.bootId
  sequence := increment job.sequence
  success := job.state == .succeeded
  cancelled := job.state == .cancelled
  result := if job.state = .succeeded then job.result else .null
  error := job.error
  timestamp := r.clock

def startedResponse (job : RuntimeJob) (replayed : Bool) : AgentJobStarted where
  success := true
  jobId := job.request.jobId
  operationId := job.request.operationId
  bootId := r.bootId
  state := job.state
  replayed := replayed
  error := none

/-- `rejectedStart`, with the ids it found in the request or made up. -/
def rejectedStart (jobId operationId error : String) : AgentJobStarted where
  success := false
  jobId := jobId
  operationId := operationId
  bootId := r.bootId
  state := .failed
  replayed := false
  error := some error

def statusResponse (job : RuntimeJob) : AgentJobStatus where
  success := true
  jobId := job.request.jobId
  operationId := job.request.operationId
  bootId := r.bootId
  state := job.state
  sequence := job.sequence
  progress := job.progress
  step := job.step
  result := if job.state = .succeeded then job.result else .null
  error := job.error

def missingStatus (jobId operationId : String) : AgentJobStatus where
  success := false
  jobId := jobId
  operationId := operationId
  bootId := r.bootId
  state := .failed
  sequence := 0
  progress := 0
  step := "unknown"
  result := .null
  error := some "Agent job not found"

/-- How many finished jobs are kept. -/
def MAX_JOBS : Nat := 1000

/-- The loop of `pruneJobs` over the jobs of the map, oldest first. -/
def pruneLoop (cutoff : Time) : List RuntimeJob → JobMap → JobMap
  | [], jobs => jobs
  | job :: rest, jobs =>
    let jobs := if job.terminal && decide (job.createdAt < cutoff) then
        jobs.deleteMany fun other => other.key == job.key
      else jobs
    if jobs.rows.length < MAX_JOBS then jobs else pruneLoop cutoff rest jobs

/-- `pruneJobs`; it throws when the jobs left are still `MAX_JOBS`. -/
def pruneJobs : Runtime :=
  if r.jobs.rows.length < MAX_JOBS then r
  else { r with jobs := pruneLoop (r.clock - 3600000) r.jobs.rows r.jobs }

end Runtime

/-! ## Inputs -/

inductive Input
  | clock (now : Instant)
  | attach
  | detach
  | register (actionId : String)
  | unregister (actionId : String)
  | start (raw : JsValue) (fresh : Uuid × Uuid)
  | status (raw : JsValue) (fresh : Uuid × Uuid)
  | cancel (raw : JsValue) (fresh : Uuid × Uuid)
  /-- The interval of `execute`. -/
  | heartbeatTimer (jobId : String)
  /-- The deadline timer of `execute`. -/
  | deadlineTimer (jobId : String)
  /-- `context.heartbeat(step, progress)`; `none` is a number that is no integer. -/
  | heartbeat (jobId step : String) (progress : Option Int)
  /-- The handler of the job ends. -/
  | settle (jobId : String) (ending : Ending)

namespace Runtime

variable (r : Runtime)

/-- `typeof value.jobId === 'string' ? value.jobId : randomUUID()`. -/
def textOr (raw : JsValue) (key : String) (fresh : Uuid) : String :=
  match raw with
  | .object fields => match property fields key with
    | .string s => s
    | _ => fresh
  | _ => fresh

/-- `MAX_ACTIVE_JOBS`. -/
def MAX_ACTIVE_JOBS : Nat := 2

/-- The job a request starts. -/
def newJob (request : AgentJobStartRequest) : RuntimeJob where
  request := request
  state := .running
  sequence := 0
  progress := 0
  step := request.step
  result := .null
  error := none
  cancellationRequested := false
  createdAt := r.clock

def handleStart (raw : JsValue) (fresh : Uuid × Uuid) : Reaction :=
  match validateAgentJobStart raw with
  | .error message =>
    r.reply [.started (r.rejectedStart (textOr raw "jobId" fresh.1)
      (textOr raw "operationId" fresh.2) (safeMessage (.error message)))]
  | .ok request =>
    let reject := fun message =>
      r.reply [.started (r.rejectedStart request.jobId request.operationId message)]
    match r.find request.jobId with
    | some existing =>
      if existing.request.operationId != request.operationId ||
          existing.request.requestHash != request.requestHash ||
          existing.request.actionId != request.actionId ||
          existing.request.step != request.step then
        reject "Agent job idempotency conflict"
      else if existing.terminal then
        (r.number request.jobId).reply
          (.started (r.startedResponse existing true) :: r.emit (.result (r.resultMessage existing)))
      else r.reply [.started (r.startedResponse existing true)]
    | none =>
      if request.deadlineAt ≤ r.clock then reject "Agent job deadline elapsed"
      else if MAX_ACTIVE_JOBS ≤ r.jobs.count fun job => !job.terminal then
        reject "Agent job concurrency limit reached"
      else if !r.handlers.contains request.actionId then
        reject "Agent job action is not registered"
      else
        let pruned := r.pruneJobs
        -- `pruneJobs` throws before anything is answered
        if MAX_JOBS ≤ pruned.jobs.rows.length then pruned.reply []
        else
          match pruned.jobs.create? (r.newJob request) with
          | some jobs =>
            let started := Message.started (r.startedResponse (r.newJob request) false)
            { pruned with jobs := jobs }.reply (started :: r.emit started)
          | none => pruned.reply []

def handleStatus (raw : JsValue) (fresh : Uuid × Uuid) : Reaction :=
  match validateAgentJobStatusRequest raw with
  | .error _ => r.reply [.status (r.missingStatus fresh.1 fresh.2)]
  | .ok request =>
    match (r.find request.jobId).filter fun job => job.request.operationId == request.operationId with
    | none => r.reply [.status (r.missingStatus request.jobId request.operationId)]
    | some job => r.reply [.status (r.statusResponse job)]

/-- `job.cancellationRequested = true; job.state = 'CANCEL_REQUESTED'`. -/
def requestCancellation (jobId : String) : Runtime :=
  r.modify jobId (fun job => { job with cancellationRequested := true, state := .cancelRequested })
    fun _ => rfl

def handleCancel (raw : JsValue) (fresh : Uuid × Uuid) : Reaction :=
  match validateAgentJobStatusRequest raw with
  | .error _ =>
    r.reply [.cancelResult
      ⟨false, fresh.1, fresh.2, .failed, .notFound, some "Agent job identity is invalid"⟩]
  | .ok request =>
    let answer := fun success state outcome error =>
      [Message.cancelResult ⟨success, request.jobId, request.operationId, state, outcome, error⟩]
    match (r.find request.jobId).filter fun job => job.request.operationId == request.operationId with
    | none => r.reply (answer false .failed .notFound (some "Agent job not found"))
    | some job =>
      if job.terminal then r.reply (answer true job.state .alreadyTerminal none)
      else if !job.request.cancelSafe then
        r.reply (answer false job.state .notCancellable
          (some "Agent job action is not cancellation-safe"))
      else (r.requestCancellation request.jobId).reply (answer true .cancelRequested .requested none)

/-- `context.heartbeat`. What it throws goes to the handler. -/
def handlerHeartbeat (job : RuntimeJob) (step : String) (progress : Option Int) : Reaction :=
  match progress.filter fun p => decide (0 ≤ p) && decide (p ≤ 100) with
  | none => r.reply []
  | some progress =>
    if !isStep step then r.reply []
    else (r.modify job.request.jobId (fun job => { job with step := step, progress := progress })
      fun _ => rfl).emitHeartbeat { job with step := step, progress := progress }

/-- The end of `execute`: the outcome is recorded and sent. -/
def settle (job : RuntimeJob) (ending : Ending) : Reaction where
  runtime := (r.modify job.request.jobId (fun job => job.finish ending) fun job =>
    (job.finish_kept ending).1).number job.request.jobId
  sent := r.emit (.result (r.resultMessage (job.finish ending)))
  settled := [(job.finish ending).outcome]

/-- What the runtime makes of an input. -/
def react : Input → Reaction
  | .clock now => { r with clock := now }.reply []
  | .attach => { r with attached := true }.reply []
  | .detach => { r with attached := false }.reply []
  | .register actionId =>
    if Operations.isActionId actionId && !r.handlers.contains actionId then
      { r with handlers := r.handlers ++ [actionId] }.reply []
    else r.reply []
  | .unregister actionId =>
    { r with handlers := r.handlers.filter fun other => other != actionId }.reply []
  | .start raw fresh => if r.attached then r.handleStart raw fresh else r.reply []
  | .status raw fresh => if r.attached then r.handleStatus raw fresh else r.reply []
  | .cancel raw fresh => if r.attached then r.handleCancel raw fresh else r.reply []
  | .heartbeatTimer jobId =>
    match r.find jobId with
    | some job => r.emitHeartbeat job
    | none => r.reply []
  | .deadlineTimer jobId =>
    match (r.find jobId).filter fun job => job.request.cancelSafe && !job.terminal with
    | some job => (r.requestCancellation job.request.jobId).reply []
    | none => r.reply []
  | .heartbeat jobId step progress =>
    match r.find jobId with
    | some job => r.handlerHeartbeat job step progress
    | none => r.reply []
  | .settle jobId ending =>
    match (r.find jobId).filter fun job => !job.terminal with
    | some job => r.settle job ending
    | none => r.reply []

end Runtime

/-! ## Runs -/

/-- A runtime, everything it has sent and every outcome it has recorded. -/
structure Agent where
  runtime : Runtime
  sent : List Message
  settled : List JobOutcome

/-- A runtime that has just been constructed. -/
def Agent.init (bootId : Uuid) (clock : Instant) : Agent :=
  ⟨⟨bootId, [], .empty, false, clock⟩, [], []⟩

def Agent.step (a : Agent) (input : Input) : Option Agent :=
  let reaction := a.runtime.react input
  some ⟨reaction.runtime, a.sent ++ reaction.sent, a.settled ++ reaction.settled⟩

/-! ## The map of jobs -/

namespace Runtime

variable {r : Runtime} {jobId : String} {job : RuntimeJob}

theorem find_some (h : r.find jobId = some job) : job ∈ r.jobs ∧ job.request.jobId = jobId := by
  obtain ⟨hmem, hid⟩ := Table.mem_of_find? h
  exact ⟨hmem, beq_iff_eq.mp hid⟩

theorem find_of_mem (h : job ∈ r.jobs) : r.find job.request.jobId = some job := by
  refine Table.find?_eq_some List.mem_cons_self h (beq_self_eq_true _) fun other hother => ?_
  exact beq_iff_eq.mp hother

variable {f : RuntimeJob → RuntimeJob} {hf : ∀ job, (f job).request = job.request}

/-- A job of a changed map was there, or is the changed one. -/
theorem mem_modify {job' : RuntimeJob} (h : job' ∈ (r.modify jobId f hf).jobs) :
    job' ∈ r.jobs ∨ ∃ job, r.find jobId = some job ∧ job' = f job := by
  obtain ⟨job, hjob, rfl⟩ := List.mem_map.mp h
  by_cases hid : job.hasId jobId = true
  · have hfnd := find_of_mem hjob
    rw [beq_iff_eq.mp hid] at hfnd
    exact .inr ⟨job, hfnd, Table.patch_pos hid⟩
  · rw [Table.patch_neg hid]
    exact .inl hjob

/-- The changed job is found in place of the one that was there. -/
theorem find_modify : (r.modify jobId f hf).find jobId = (r.find jobId).map f := by
  have hkey : ∀ job, (Table.patch (RuntimeJob.hasId jobId) f job).hasId jobId =
      job.hasId jobId := by
    intro job
    unfold Table.patch
    split
    · rw [RuntimeJob.hasId, RuntimeJob.hasId, hf]
    · rfl
  have hfind : (r.modify jobId f hf).find jobId =
      (r.find jobId).map (Table.patch (RuntimeJob.hasId jobId) f) := by
    simp only [find, Table.find?, modify, Table.updateMany, List.find?_map, Function.comp_def, hkey]
  rw [hfind]
  cases h : r.find jobId with
  | none => rfl
  | some job =>
    have hid : job.hasId jobId = true := beq_iff_eq.mpr (find_some h).2
    rw [Option.map_some, Option.map_some, Table.patch_pos hid]

/-- Pruning removes jobs. -/
theorem pruneLoop_sublist {cutoff : Time} {rest : List RuntimeJob} : ∀ {jobs : JobMap},
    (pruneLoop cutoff rest jobs).rows.Sublist jobs.rows := by
  induction rest with
  | nil => exact fun {jobs} => List.Sublist.refl jobs.rows
  | cons head rest ih =>
    intro jobs
    rw [pruneLoop]
    by_cases hold : (head.terminal && decide (head.createdAt < cutoff)) = true
    · simp only [hold, if_true]
      split
      · exact List.filter_sublist
      · exact ih.trans List.filter_sublist
    · simp only [hold, Bool.false_eq_true, if_false]
      split
      · exact List.Sublist.refl jobs.rows
      · exact ih

theorem pruneJobs_sublist : r.pruneJobs.jobs.rows.Sublist r.jobs.rows := by
  unfold pruneJobs
  split
  · exact List.Sublist.refl r.jobs.rows
  · exact pruneLoop_sublist

theorem mem_pruneJobs (h : job ∈ r.pruneJobs.jobs) : job ∈ r.jobs := pruneJobs_sublist.subset h

theorem mem_emit {message m : Message} (h : m ∈ r.emit message) : m = message := by
  unfold emit at h
  split at h
  · exact List.mem_singleton.mp h
  · exact absurd h List.not_mem_nil

end Runtime

end Meowbox.AgentJobs
