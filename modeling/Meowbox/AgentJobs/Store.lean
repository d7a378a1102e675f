import Meowbox.AgentJobs.Messages
import Meowbox.Operations.Store

/-!
# The table `AgentJobService` works on

`agent_jobs` of `api/prisma/schema.prisma` with its primary key and its unique pair of operation and
step, next to the operations the service reads. `protocolVersion`, `createdAt` and `updatedAt` are
left out: nothing in the service reads them.

Every write of the service after the creation of a row is an `UpdateMany`: which rows it selects
and what it sets. That it leaves both unique columns alone is a field of the structure.
-/

namespace Meowbox.AgentJobs

open Relational Operations

/-- A row of `agent_jobs`. -/
structure AgentJob where
  id : String
  operationId : String
  step : String
  actionId : String
  state : AgentJobState
  requestHash : String
  agentBootId : Option String
  sequence : Int
  progress : Int
  currentStep : Option String
  cancelSafe : Bool
  cancelRequestedAt : Option Time
  cancelOutcome : Option String
  result : Option String
  errorMessage : Option String
  startedAt : Option Time
  heartbeatAt : Option Time
  completedAt : Option Time
  deadlineAt : Time
deriving DecidableEq

/-- `TERMINAL_JOB_STATES`. -/
def TERMINAL_JOB_STATES : List AgentJobState := [.succeeded, .failed, .cancelled, .needsAttention]

/-- The states every guarded update of a report asks for. -/
def REPORTING_STATES : List AgentJobState := [.starting, .running, .cancelRequested]

/-- Nothing more is expected of the job. -/
def AgentJob.terminal (j : AgentJob) : Bool := TERMINAL_JOB_STATES.contains j.state

/-- What the job came to. -/
def AgentJob.outcome (j : AgentJob) : AgentJobState × Option String × Option String :=
  (j.state, j.result, j.errorMessage)

/-- The primary key of a row. -/
def AgentJob.primaryKey (j : AgentJob) : String ⊕ (String × String) := .inl j.id

/-- `@@unique([operationId, step])`. -/
def AgentJob.stepKey (j : AgentJob) : String ⊕ (String × String) := .inr (j.operationId, j.step)

abbrev AgentJobTable := Table [AgentJob.primaryKey, AgentJob.stepKey]

/-- The database as the service sees it. -/
structure Db where
  operation : OperationTable
  agentJob : AgentJobTable

def Db.empty : Db := ⟨.empty, .empty⟩

/-- What a method throws: `recordNotFound` and `uniqueViolation` are Prisma's `P2025` and `P2002`. -/
inductive Fault
  | badRequest (message : String)
  | conflict (message : String)
  | notFound (message : String)
  | error (message : String)
  | recordNotFound
  | uniqueViolation
deriving DecidableEq

/-- A committed write: the database after it, how many rows its update matched, and the row its
transaction read or created. -/
structure Committed where
  db : Db
  count : Nat
  job : Option AgentJob

/-- `{ where, data }` of an update of `agent_jobs`. -/
structure UpdateMany where
  selects : AgentJob → Bool
  data : AgentJob → AgentJob
  keeps : ∀ j, (data j).id = j.id ∧ (data j).operationId = j.operationId ∧ (data j).step = j.step

/-- What the update makes of a row. -/
def UpdateMany.patch (u : UpdateMany) : AgentJob → AgentJob := Table.patch u.selects u.data

theorem UpdateMany.keepsKeys (u : UpdateMany) :
    ∀ k ∈ [AgentJob.primaryKey, AgentJob.stepKey], ∀ j, k (u.data j) = k j := by
  intro k hk j
  obtain ⟨hid, hop, hstep⟩ := u.keeps j
  simp only [List.mem_cons, List.not_mem_nil, or_false] at hk
  rcases hk with rfl | rfl
  · simp only [AgentJob.primaryKey, hid]
  · simp only [AgentJob.stepKey, hop, hstep]

/-- `agentJob.updateMany`. -/
def Db.updateMany (db : Db) (u : UpdateMany) : Committed :=
  ⟨{ db with agentJob := db.agentJob.updateMany u.selects u.data u.keepsKeys },
    db.agentJob.count u.selects, none⟩

/-- `agentJob.update`: throws when there is no such row. -/
def Db.update (db : Db) (u : UpdateMany) : Except Fault Committed :=
  if (db.updateMany u).count = 0 then .error .recordNotFound else .ok (db.updateMany u)

/-- `agentJob.findUnique({ where: { id } })`. -/
def Db.findJob (db : Db) (jobId : String) : Option AgentJob :=
  db.agentJob.find? fun j => j.id == jobId

/-! ## Small facts -/

/-- A report finds a job that is not terminal, and every such job may report. -/
theorem reporting_iff_not_terminal (j : AgentJob) :
    REPORTING_STATES.contains j.state = true ↔ j.terminal = false := by
  unfold AgentJob.terminal
  cases j.state <;> decide

/-- A row is determined by its id. -/
theorem eq_of_id {t : AgentJobTable} {j j' : AgentJob} (hj : j ∈ t) (hj' : j' ∈ t)
    (h : j.id = j'.id) : j = j' :=
  Table.eq_of_key List.mem_cons_self hj hj' (congrArg Sum.inl h)

theorem findJob_some {db : Db} {jobId : String} {job : AgentJob}
    (h : db.findJob jobId = some job) : job ∈ db.agentJob ∧ job.id = jobId := by
  obtain ⟨hmem, hid⟩ := Table.mem_of_find? h
  exact ⟨hmem, beq_iff_eq.mp hid⟩

theorem patch_id (u : UpdateMany) (j : AgentJob) : (u.patch j).id = j.id := by
  unfold UpdateMany.patch Table.patch
  split
  · exact (u.keeps j).1
  · rfl

end Meowbox.AgentJobs
