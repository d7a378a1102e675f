import Meowbox.AgentJobs.Store

/-!
# The statements of `AgentJobService`

Every statement and transaction of `api/src/operations/agent-job.service.ts` that writes
`agent_jobs`. `Write` names them with the values a method has computed for them, `Db.commit`
performs one. `now` is the value of the `new Date()` the source reads for the statement, and a
message is what `safeErrorMessage` made of an error before it.

* `commit_rows`: what a committed write leaves is each row as `Write.after` makes it, or the rows
  from before with the job `prepare` created behind them.
-/

namespace Meowbox.AgentJobs

open Relational Operations

/-! ## Updates -/

/-- The update of `recordStarted` for a start the agent rejected. -/
def rejectStart (jobId bootId message : String) (now : Time) : UpdateMany where
  selects j := j.id == jobId
  data j := { j with
    state := .failed, agentBootId := some bootId, errorMessage := some message,
    completedAt := some now }
  keeps _ := ⟨rfl, rfl, rfl⟩

/-- The update of `recordStarted` for an accepted start. -/
def acknowledgeStart (jobId bootId : String) (startedAt now : Time) : UpdateMany where
  selects j := j.id == jobId && j.agentBootId == some bootId &&
    [AgentJobState.starting, .running].contains j.state
  data j := { j with
    state := .running, startedAt := some startedAt, heartbeatAt := some now }
  keeps _ := ⟨rfl, rfl, rfl⟩

/-- The update of `bindToBoot`. -/
def bindToBoot (jobId bootId : String) : UpdateMany where
  selects j := j.id == jobId && j.state == .starting &&
    (j.agentBootId == none || j.agentBootId == some bootId)
  data j := { j with agentBootId := some bootId }
  keeps _ := ⟨rfl, rfl, rfl⟩

/-- The identity and the state every report of an agent asks for. -/
def reported (jobId operationId bootId : String) (j : AgentJob) : Bool :=
  j.id == jobId && j.operationId == operationId && j.agentBootId == some bootId &&
    REPORTING_STATES.contains j.state

/-- The update of `recordHeartbeat`. -/
def recordHeartbeat (heartbeat : AgentJobHeartbeat) : UpdateMany where
  selects j := reported heartbeat.jobId heartbeat.operationId heartbeat.bootId j &&
    decide (j.sequence < heartbeat.sequence)
  data j := { j with
    sequence := heartbeat.sequence, progress := heartbeat.progress
    currentStep := some heartbeat.step, heartbeatAt := some heartbeat.timestamp }
  keeps _ := ⟨rfl, rfl, rfl⟩

/-- The state a result brings. -/
def AgentJobResult.state (result : AgentJobResult) : AgentJobState :=
  if result.cancelled then .cancelled else if result.success then .succeeded else .failed

/-- The update of `recordResult`, with the text of the result and the error message to store. -/
def recordResult (result : AgentJobResult) (resultJson : String) (errorMessage : Option String) :
    UpdateMany where
  selects j := reported result.jobId result.operationId result.bootId j &&
    decide (j.sequence < result.sequence)
  data j := { j with
    state := result.state
    sequence := result.sequence
    progress := if result.success then 100 else j.progress
    result := if result.success then some resultJson else none
    errorMessage := errorMessage
    cancelOutcome := if result.cancelled then some "CANCELLED" else none
    heartbeatAt := some result.timestamp
    completedAt := some result.timestamp }
  keeps _ := ⟨rfl, rfl, rfl⟩

/-- The update of `recordStatus` for `NEEDS_ATTENTION`. -/
def reportUnknown (status : AgentJobStatus) (message : String) (now : Time) : UpdateMany where
  selects := reported status.jobId status.operationId status.bootId
  data j := { j with
    state := .needsAttention, errorMessage := some message, completedAt := some now }
  keeps _ := ⟨rfl, rfl, rfl⟩

/-- The update of `recordStatus` for a job that goes on. -/
def reportProgress (status : AgentJobStatus) (now : Time) : UpdateMany where
  selects j := reported status.jobId status.operationId status.bootId j &&
    decide (j.sequence ≤ status.sequence)
  data j := { j with
    state := if status.state = .cancelRequested then .cancelRequested else .running
    sequence := status.sequence
    progress := status.progress
    currentStep := some status.step
    heartbeatAt := some now }
  keeps _ := ⟨rfl, rfl, rfl⟩

/-- The update of `requestCancel` for a job that cannot be cancelled. -/
def refuseCancel (jobId : String) : UpdateMany where
  selects j := j.id == jobId
  data j := { j with cancelOutcome := some "NOT_CANCELLABLE" }
  keeps _ := ⟨rfl, rfl, rfl⟩

/-- The update of `requestCancel` for one that can. -/
def markCancelRequested (jobId : String) (cancelRequestedAt : Time) : UpdateMany where
  selects j := j.id == jobId
  data j := { j with
    state := .cancelRequested, cancelRequestedAt := some cancelRequestedAt
    cancelOutcome := some "REQUESTED" }
  keeps _ := ⟨rfl, rfl, rfl⟩

/-- The update of `recordCancelOutcome`. -/
def recordCancelOutcome (jobId outcome : String) : UpdateMany where
  selects j := j.id == jobId
  data j := { j with cancelOutcome := some outcome }
  keeps _ := ⟨rfl, rfl, rfl⟩

/-- The update of `markInterruptedByNewBoot`. -/
def markInterruptedByNewBoot (bootId : String) (now : Time) : UpdateMany where
  selects j := j.agentBootId.isSome && j.agentBootId != some bootId &&
    [AgentJobState.running, .cancelRequested].contains j.state
  data j := { j with
    state := .needsAttention
    errorMessage := some "Agent restarted while job outcome was unknown"
    completedAt := some now }
  keeps _ := ⟨rfl, rfl, rfl⟩

/-- The update of `markDeadlineUnknown`. -/
def markDeadlineUnknown (jobId : String) (now : Time) : UpdateMany where
  selects j := j.id == jobId && REPORTING_STATES.contains j.state
  data j := { j with
    state := .needsAttention
    errorMessage := some "Agent job deadline elapsed with unknown outcome"
    completedAt := some now }
  keeps _ := ⟨rfl, rfl, rfl⟩

/-! ## Transactions -/

/-- `EXECUTING_OPERATION_STATES`. -/
def EXECUTING_OPERATION_STATES : List OperationStatus :=
  [.claimed, .running, .recovering, .cancelRequested]

/-- A job to create: what `prepare` computed of its input. -/
structure NewJob where
  id : String
  operationId : String
  actionId : String
  step : String
  requestHash : String
  cancelSafe : Bool
  deadlineAt : Time

/-- The row of a new job, with the defaults of the schema. -/
def NewJob.row (new : NewJob) : AgentJob where
  id := new.id
  operationId := new.operationId
  step := new.step
  actionId := new.actionId
  state := .starting
  requestHash := new.requestHash
  agentBootId := none
  sequence := 0
  progress := 0
  currentStep := none
  cancelSafe := new.cancelSafe
  cancelRequestedAt := none
  cancelOutcome := none
  result := none
  errorMessage := none
  startedAt := none
  heartbeatAt := none
  completedAt := none
  deadlineAt := new.deadlineAt

/-- The transaction of `prepare`. -/
def prepare (db : Db) (new : NewJob) : Except Fault Committed :=
  match db.operation.find? fun o => o.id == new.operationId with
  | none => .error (.notFound "Operation not found")
  | some operation =>
    if !EXECUTING_OPERATION_STATES.contains operation.status then
      .error (.conflict "Operation is not executing")
    else if operation.deadlineAt.any fun deadlineAt => decide ((deadlineAt : Time) < new.deadlineAt)
    then .error (.conflict "Agent job exceeds operation deadline")
    else
      match db.agentJob.find? fun j => j.operationId == new.operationId && j.step == new.step with
      | some existing =>
        if existing.id != new.id || existing.actionId != new.actionId ||
            existing.requestHash != new.requestHash || existing.cancelSafe != new.cancelSafe then
          .error (.conflict "Agent job idempotency conflict")
        else .ok ⟨db, 0, some existing⟩
      | none =>
        match db.agentJob.create? new.row with
        | some agentJob => .ok ⟨{ db with agentJob := agentJob }, 1, some new.row⟩
        | none => .error .uniqueViolation

/-- The transaction of `requestCancel`. -/
def requestCancel (db : Db) (jobId : String) (now : Time) : Except Fault Committed :=
  match db.findJob jobId with
  | none => .error (.notFound "Agent job not found")
  | some job =>
    if TERMINAL_JOB_STATES.contains job.state then .ok ⟨db, 0, some job⟩
    else if !job.cancelSafe then do
      let updated ← db.update (refuseCancel job.id)
      .ok { updated with job := some job }
    else do
      let updated ← db.update (markCancelRequested job.id (job.cancelRequestedAt.getD now))
      .ok { updated with job := some job }

/-! ## Writes -/

/-- The statements and transactions. -/
inductive Write
  | prepare (new : NewJob)
  | rejectStart (jobId bootId message : String) (now : Time)
  | acknowledgeStart (jobId bootId : String) (startedAt now : Time)
  | bindToBoot (jobId bootId : String)
  | recordHeartbeat (heartbeat : AgentJobHeartbeat)
  | recordResult (result : AgentJobResult) (resultJson : String) (errorMessage : Option String)
  | reportUnknown (status : AgentJobStatus) (message : String) (now : Time)
  | reportProgress (status : AgentJobStatus) (now : Time)
  | requestCancel (jobId : String) (now : Time)
  | recordCancelOutcome (jobId outcome : String)
  | markInterruptedByNewBoot (bootId : String) (now : Time)
  | markDeadlineUnknown (jobId : String) (now : Time)

/-- What a write does to the database. -/
def Db.commit (db : Db) : Write → Except Fault Committed
  | .prepare new => prepare db new
  | .rejectStart jobId bootId message now => db.update (rejectStart jobId bootId message now)
  | .acknowledgeStart jobId bootId startedAt now =>
    .ok (db.updateMany (acknowledgeStart jobId bootId startedAt now))
  | .bindToBoot jobId bootId => .ok (db.updateMany (bindToBoot jobId bootId))
  | .recordHeartbeat heartbeat => .ok (db.updateMany (recordHeartbeat heartbeat))
  | .recordResult result resultJson errorMessage =>
    .ok (db.updateMany (recordResult result resultJson errorMessage))
  | .reportUnknown status message now => .ok (db.updateMany (reportUnknown status message now))
  | .reportProgress status now => .ok (db.updateMany (reportProgress status now))
  | .requestCancel jobId now => requestCancel db jobId now
  | .recordCancelOutcome jobId outcome => db.update (recordCancelOutcome jobId outcome)
  | .markInterruptedByNewBoot bootId now => .ok (db.updateMany (markInterruptedByNewBoot bootId now))
  | .markDeadlineUnknown jobId now => .ok (db.updateMany (markDeadlineUnknown jobId now))

/-- What the transaction of `requestCancel` makes of a row. -/
def cancelled (jobId : String) (now : Time) (j : AgentJob) : AgentJob :=
  if j.terminal then j
  else if j.cancelSafe then
    (markCancelRequested jobId (j.cancelRequestedAt.getD now)).patch j
  else (refuseCancel jobId).patch j

/-- What a write makes of a row that is there. -/
def Write.after : Write → AgentJob → AgentJob
  | .prepare _ => id
  | .rejectStart jobId bootId message now => (AgentJobs.rejectStart jobId bootId message now).patch
  | .acknowledgeStart jobId bootId startedAt now =>
    (AgentJobs.acknowledgeStart jobId bootId startedAt now).patch
  | .bindToBoot jobId bootId => (AgentJobs.bindToBoot jobId bootId).patch
  | .recordHeartbeat heartbeat => (AgentJobs.recordHeartbeat heartbeat).patch
  | .recordResult result resultJson errorMessage =>
    (AgentJobs.recordResult result resultJson errorMessage).patch
  | .reportUnknown status message now => (AgentJobs.reportUnknown status message now).patch
  | .reportProgress status now => (AgentJobs.reportProgress status now).patch
  | .requestCancel jobId now => cancelled jobId now
  | .recordCancelOutcome jobId outcome => (AgentJobs.recordCancelOutcome jobId outcome).patch
  | .markInterruptedByNewBoot bootId now => (AgentJobs.markInterruptedByNewBoot bootId now).patch
  | .markDeadlineUnknown jobId now => (AgentJobs.markDeadlineUnknown jobId now).patch

/-! ## What a write leaves -/

variable {db : Db} {done : Committed}

theorem update_ok {u : UpdateMany} (h : db.update u = .ok done) : done = db.updateMany u := by
  unfold Db.update at h
  split at h
  · exact absurd h (by simp)
  · cases h
    rfl

theorem patch_of_not_selects {u : UpdateMany} {j : AgentJob} (h : u.selects j = false) :
    u.patch j = j := Table.patch_neg (by simp [h])

theorem prepare_rows {new : NewJob} (h : prepare db new = .ok done) :
    done.db.agentJob.rows = db.agentJob.rows ∨
      done.db.agentJob.rows = db.agentJob.rows ++ [new.row] := by
  unfold prepare at h
  split at h
  · exact absurd h (by simp)
  · split at h
    · exact absurd h (by simp)
    · split at h
      · exact absurd h (by simp)
      · split at h
        · split at h
          · exact absurd h (by simp)
          · cases h
            exact .inl rfl
        · split at h
          · rename_i agentJob hcr
            cases h
            exact .inr (Table.create?_eq_some hcr).1
          · exact absurd h (by simp)

/-- A row the transaction of `requestCancel` does not mean stays. -/
theorem cancelled_of_ne {jobId : String} {now : Time} {j : AgentJob} (h : j.id ≠ jobId) :
    cancelled jobId now j = j := by
  have hid : (j.id == jobId) = false := beq_eq_false_iff_ne.mpr h
  unfold cancelled
  split
  · rfl
  · split
    · exact patch_of_not_selects hid
    · exact patch_of_not_selects hid

theorem requestCancel_rows {jobId : String} {now : Time}
    (h : requestCancel db jobId now = .ok done) :
    done.db.agentJob.rows = db.agentJob.rows.map (cancelled jobId now) := by
  unfold requestCancel at h
  split at h
  · exact absurd h (by simp)
  · rename_i job hjob
    obtain ⟨hmem, hid⟩ := findJob_some hjob
    -- the transaction looks at the one row with this id, the others stay
    have hrows : ∀ g : AgentJob → AgentJob, g job = cancelled jobId now job →
        (∀ j, j.id ≠ jobId → g j = j) →
          db.agentJob.rows.map g = db.agentJob.rows.map (cancelled jobId now) := by
      intro g hg hothers
      refine List.map_congr_left fun j hj => ?_
      by_cases hne : j.id = jobId
      · rw [eq_of_id hj hmem (hne.trans hid.symm)]
        exact hg
      · rw [hothers j hne, cancelled_of_ne hne]
    have hother : ∀ u : UpdateMany, (∀ j, u.selects j = (j.id == jobId)) →
        ∀ j, j.id ≠ jobId → u.patch j = j := fun u hu j hj =>
      patch_of_not_selects ((hu j).trans (beq_eq_false_iff_ne.mpr hj))
    split at h
    · rename_i hterm
      cases h
      have hsame := hrows id (by simp only [cancelled, AgentJob.terminal, hterm, if_true, id])
        fun _ _ => rfl
      simpa using hsame
    · rename_i hact
      split at h
      · rename_i hsafe
        obtain ⟨updated, hu, hdone⟩ := bind_ok.mp h
        cases hdone
        rw [update_ok hu]
        refine hrows (refuseCancel job.id).patch ?_ (hother _ fun j => by rw [hid]; rfl)
        simp only [Bool.not_eq_true'] at hsafe
        simp only [cancelled, AgentJob.terminal, hact, hid, hsafe, Bool.false_eq_true, if_false]
      · rename_i hsafe
        obtain ⟨updated, hu, hdone⟩ := bind_ok.mp h
        cases hdone
        rw [update_ok hu]
        refine hrows (markCancelRequested job.id _).patch ?_ (hother _ fun j => by rw [hid]; rfl)
        simp only [Bool.not_eq_true', Bool.not_eq_false] at hsafe
        simp only [cancelled, AgentJob.terminal, hact, hid, hsafe, Bool.false_eq_true, if_false,
          if_true]

/-- **What a committed write leaves.** -/
theorem commit_rows {w : Write} (h : db.commit w = .ok done) :
    done.db.agentJob.rows = db.agentJob.rows.map w.after ∨
      ∃ new, w = .prepare new ∧ done.db.agentJob.rows = db.agentJob.rows ++ [new.row] := by
  cases w with
  | prepare new =>
    rcases prepare_rows h with hrows | hrows
    · exact .inl (by simpa [Write.after] using hrows)
    · exact .inr ⟨new, rfl, hrows⟩
  | requestCancel jobId now => exact .inl (requestCancel_rows h)
  | rejectStart jobId bootId message now => exact .inl (by rw [update_ok h]; rfl)
  | recordCancelOutcome jobId outcome => exact .inl (by rw [update_ok h]; rfl)
  | _ => cases h; exact .inl rfl

end Meowbox.AgentJobs
