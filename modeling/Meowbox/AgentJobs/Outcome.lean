import Meowbox.AgentJobs.System

/-!
# Recorded outcomes of agent jobs

Once a job is terminal its state, result and error are recorded for good, whatever order messages,
repeated and late ones among them, arrive in: `Settled` relates the table before and after. Every
write asks for a state that is not terminal, or leaves the three columns alone, but one: the update
`recordStarted` performs for a rejected start asks for the id alone. `SparesOutcome` is the
condition on what that update finds.

* `outcome_final_iff`: in every run that meets the condition recorded outcomes stay, and a further
  step keeps them exactly when it meets the condition.
* `rejected_start_overwrites_outcome`: a late rejection of a start turns a succeeded job into a
  failed one.

The step lemma is `after_outcome`, one case for each write.
-/

namespace Meowbox.AgentJobs

open Relational JsData Operations Interleaved

/-- Every terminal job of `t` is in `t'`, with what it came to. -/
def Settled (t t' : AgentJobTable) : Prop :=
  ∀ j ∈ t, j.terminal = true → ∃ j' ∈ t', j'.id = j.id ∧ j'.outcome = j.outcome

/-- A rejected start finds its job not terminal, or failed with the message it brings. -/
def SparesOutcome (v : View) : Instr → Prop
  | .write (.rejectStart jobId _ message _) => ∀ j ∈ v.db.agentJob, j.id = jobId →
      j.terminal = true → j.state = .failed ∧ j.errorMessage = some message
  | _ => True

instance (v : View) (i : Instr) : Decidable (SparesOutcome v i) := by
  cases i with
  | write w => cases w <;> dsimp only [SparesOutcome] <;> infer_instance
  | _ => dsimp only [SparesOutcome]; infer_instance

/-! ## The relation -/

theorem Settled.refl (t : AgentJobTable) : Settled t t := fun j hj _ => ⟨j, hj, rfl, rfl⟩

variable {j : AgentJob}

/-- A job with the outcome of a terminal job is terminal. -/
theorem terminal_of_outcome {j' : AgentJob} (h : j'.outcome = j.outcome) (hj : j.terminal = true) :
    j'.terminal = true := by
  have hst : j'.state = j.state := congrArg Prod.fst h
  unfold AgentJob.terminal
  rw [hst]
  exact hj

theorem Settled.trans {t t' t'' : AgentJobTable} (h : Settled t t') (h' : Settled t' t'') :
    Settled t t'' := by
  intro j hj hterm
  obtain ⟨j', hj', hid, hout⟩ := h j hj hterm
  obtain ⟨j'', hj'', hid', hout'⟩ := h' j' hj' (terminal_of_outcome hout hterm)
  exact ⟨j'', hj'', hid'.trans hid, hout'.trans hout⟩

/-! ## One write -/

/-- An update that selects no terminal job. -/
def UpdateMany.Guarded (u : UpdateMany) : Prop := ∀ j, u.selects j = true → j.terminal = false

theorem UpdateMany.Guarded.patch {u : UpdateMany} (hu : u.Guarded) (h : j.terminal = true) :
    u.patch j = j := by
  refine patch_of_not_selects ?_
  by_contra hsel
  rw [Bool.not_eq_false] at hsel
  exact absurd (hu j hsel) (by simp [h])

theorem reported_active {jobId operationId bootId : String}
    (h : reported jobId operationId bootId j = true) : j.terminal = false := by
  simp only [reported, Bool.and_eq_true] at h
  exact (reporting_iff_not_terminal j).mp h.2

theorem acknowledgeStart_guarded (jobId bootId : String) (startedAt now : Time) :
    (acknowledgeStart jobId bootId startedAt now).Guarded := by
  intro j h
  simp only [acknowledgeStart, Bool.and_eq_true, List.contains_iff_mem, List.mem_cons,
    List.not_mem_nil, or_false] at h
  unfold AgentJob.terminal
  rcases h.2 with hs | hs <;> rw [hs] <;> decide

theorem bindToBoot_guarded (jobId bootId : String) : (bindToBoot jobId bootId).Guarded := by
  intro j h
  simp only [bindToBoot, Bool.and_eq_true, beq_iff_eq] at h
  unfold AgentJob.terminal
  rw [h.1.2]
  decide

theorem recordHeartbeat_guarded (heartbeat : AgentJobHeartbeat) :
    (recordHeartbeat heartbeat).Guarded := by
  intro j h
  simp only [recordHeartbeat, Bool.and_eq_true] at h
  exact reported_active h.1

theorem recordResult_guarded (result : AgentJobResult) (resultJson : String)
    (errorMessage : Option String) : (recordResult result resultJson errorMessage).Guarded := by
  intro j h
  simp only [recordResult, Bool.and_eq_true] at h
  exact reported_active h.1

theorem reportUnknown_guarded (status : AgentJobStatus) (message : String) (now : Time) :
    (reportUnknown status message now).Guarded := fun _ h => reported_active h

theorem reportProgress_guarded (status : AgentJobStatus) (now : Time) :
    (reportProgress status now).Guarded := by
  intro j h
  simp only [reportProgress, Bool.and_eq_true] at h
  exact reported_active h.1

theorem markInterruptedByNewBoot_guarded (bootId : String) (now : Time) :
    (markInterruptedByNewBoot bootId now).Guarded := by
  intro j h
  simp only [markInterruptedByNewBoot, Bool.and_eq_true, List.contains_iff_mem, List.mem_cons,
    List.not_mem_nil, or_false] at h
  unfold AgentJob.terminal
  rcases h.2 with hs | hs <;> rw [hs] <;> decide

theorem markDeadlineUnknown_guarded (jobId : String) (now : Time) :
    (markDeadlineUnknown jobId now).Guarded := by
  intro j h
  simp only [markDeadlineUnknown, Bool.and_eq_true] at h
  exact (reporting_iff_not_terminal j).mp h.2

/-- The outcome of a cancellation is no column of what the job came to. -/
theorem recordCancelOutcome_outcome (jobId outcome : String) (j : AgentJob) :
    ((recordCancelOutcome jobId outcome).patch j).outcome = j.outcome := by
  unfold UpdateMany.patch Table.patch
  split <;> rfl

/-- **One write**: it leaves the outcome of a terminal job alone, or it is the rejection of the
job's start. -/
theorem after_outcome (w : Write) (h : j.terminal = true) :
    (w.after j).outcome = j.outcome ∨
      ∃ bootId message now, w = .rejectStart j.id bootId message now := by
  cases w with
  | prepare new => exact .inl rfl
  | rejectStart jobId bootId message now =>
    by_cases hid : j.id = jobId
    · exact .inr ⟨bootId, message, now, by rw [hid]⟩
    · exact .inl (congrArg _ (patch_of_not_selects (beq_eq_false_iff_ne.mpr hid)))
  | acknowledgeStart jobId bootId startedAt now =>
    exact .inl (congrArg _ ((acknowledgeStart_guarded jobId bootId startedAt now).patch h))
  | bindToBoot jobId bootId => exact .inl (congrArg _ ((bindToBoot_guarded jobId bootId).patch h))
  | recordHeartbeat heartbeat =>
    exact .inl (congrArg _ ((recordHeartbeat_guarded heartbeat).patch h))
  | recordResult result resultJson errorMessage =>
    exact .inl (congrArg _ ((recordResult_guarded result resultJson errorMessage).patch h))
  | reportUnknown status message now =>
    exact .inl (congrArg _ ((reportUnknown_guarded status message now).patch h))
  | reportProgress status now =>
    exact .inl (congrArg _ ((reportProgress_guarded status now).patch h))
  | requestCancel jobId now => exact .inl (by simp only [Write.after, cancelled, h, if_true])
  | recordCancelOutcome jobId outcome => exact .inl (recordCancelOutcome_outcome jobId outcome j)
  | markInterruptedByNewBoot bootId now =>
    exact .inl (congrArg _ ((markInterruptedByNewBoot_guarded bootId now).patch h))
  | markDeadlineUnknown jobId now =>
    exact .inl (congrArg _ ((markDeadlineUnknown_guarded jobId now).patch h))

/-- What the rejection of its start makes of a job. -/
theorem rejectStart_outcome (bootId message : String) (now : Time) (j : AgentJob) :
    ((rejectStart j.id bootId message now).patch j).outcome = (.failed, j.result, some message) := by
  rw [UpdateMany.patch, Table.patch_pos (by simp only [rejectStart, beq_self_eq_true])]
  rfl

theorem after_id (w : Write) (j : AgentJob) : (w.after j).id = j.id := by
  cases w with
  | prepare new => rfl
  | requestCancel jobId now =>
    simp only [Write.after, cancelled]
    split
    · rfl
    · split
      · exact patch_id _ j
      · exact patch_id _ j
  | _ => exact patch_id _ j

/-- Every row from before a committed write is there after it, as the write makes it. -/
theorem mem_commit {db : Db} {w : Write} {done : Committed} (h : db.commit w = .ok done)
    (hj : j ∈ db.agentJob) : w.after j ∈ done.db.agentJob := by
  rw [Table.mem_def]
  rcases commit_rows h with hrows | ⟨new, rfl, hrows⟩
  · rw [hrows]
    exact List.mem_map_of_mem hj
  · rw [hrows]
    exact List.mem_append_left _ hj

/-- **Recorded outcomes across one instruction.** -/
theorem settled_answer {v : View} {i : Instr} (h : SparesOutcome v i) :
    Settled v.db.agentJob (answer i v).2.db.agentJob := by
  rcases answer_jobs i v with hsame | ⟨w, done, rfl, hdone, hdb⟩
  · rw [hsame]
    exact Settled.refl _
  · rw [hdb]
    intro j hj hterm
    refine ⟨w.after j, mem_commit hdone hj, after_id w j, ?_⟩
    rcases after_outcome w hterm with hkept | ⟨bootId, message, now, rfl⟩
    · exact hkept
    · -- the rejection brings what is recorded already
      obtain ⟨hst, hmsg⟩ := h j hj rfl hterm
      rw [Write.after, rejectStart_outcome, AgentJob.outcome, hst, hmsg]

/-- A rejected start whose job is there is recorded. -/
theorem commit_rejectStart {db : Db} (hj : j ∈ db.agentJob) (bootId message : String) (now : Time) :
    ∃ done, db.commit (.rejectStart j.id bootId message now) = .ok done := by
  have hcnt : 0 < (db.updateMany (rejectStart j.id bootId message now)).count :=
    Table.count_pos.mpr ⟨j, hj, by simp only [rejectStart, beq_self_eq_true]⟩
  refine ⟨db.updateMany (rejectStart j.id bootId message now), ?_⟩
  simp only [Db.commit, Db.update]
  rw [if_neg (by omega)]

/-- An instruction that keeps recorded outcomes meets the condition. -/
theorem sparesOutcome_of_settled {v : View} {i : Instr}
    (h : Settled v.db.agentJob (answer i v).2.db.agentJob) : SparesOutcome v i := by
  unfold SparesOutcome
  split
  · rename_i jobId bootId message now
    intro j hj hid hterm
    subst hid
    obtain ⟨done, hdone⟩ := commit_rejectStart hj bootId message now
    have hdb : (answer (.write (.rejectStart j.id bootId message now)) v).2.db = done.db := by
      simp only [answer, hdone]
    rw [hdb] at h
    obtain ⟨j', hj', hid', hout⟩ := h j hj hterm
    -- the row the rejection leaves is the only one with this id
    have hsame := eq_of_id hj' (mem_commit hdone hj) (hid'.trans (after_id _ j).symm)
    rw [hsame, Write.after, rejectStart_outcome] at hout
    exact ⟨(congrArg Prod.fst hout).symm, (congrArg (fun o => o.2.2) hout).symm⟩
  · trivial

/-! ## Runs -/

section Runs

variable {host : Host} {s₀ s s' : State} {a : Action}

/-- **A step keeps recorded outcomes exactly when it meets the condition.** -/
theorem step_settled_iff (h : Pool.step (agentJobService host) s a = some s') :
    Settled s.jobs s'.jobs ↔ Pool.Within SparesOutcome s a := by
  constructor
  · intro hkept instr hi
    refine sparesOutcome_of_settled ?_
    have hsto := Pool.store_of_issued h hi
    rw [State.jobs, State.jobs, hsto] at hkept
    exact hkept
  · intro hok
    unfold State.jobs
    rcases Pool.step_store h with ⟨change, -, hsto⟩ | ⟨-, hsto⟩ | ⟨instr, hi, hsto⟩
    · rw [hsto]
      exact outside_jobs change s.store ▸ Settled.refl _
    · rw [hsto]
      exact Settled.refl _
    · rw [hsto]
      exact settled_answer (hok instr hi)

/-- Recorded outcomes stay in every run that meets the condition. -/
theorem run_settled (hs : RunsTo host SparesOutcome s₀ s) : Settled s₀.jobs s.jobs :=
  Reach.store_within (fun v v' => Settled v.db.agentJob v'.db.agentJob)
    (fun _ => Settled.refl _) (fun _ _ _ => Settled.trans)
    (fun change v => outside_jobs change v ▸ Settled.refl _)
    (fun _ _ h => settled_answer h) hs

/-- **Recorded outcomes are final, but for rejected starts.** -/
theorem outcome_final_iff (hs : RunsTo host SparesOutcome s₀ s) :
    Settled s₀.jobs s.jobs ∧
      ∀ (a : Action) (s' : State), Pool.step (agentJobService host) s a = some s' →
        (Settled s.jobs s'.jobs ↔ Pool.Within SparesOutcome s a) :=
  ⟨run_settled hs, fun _ _ h => step_settled_iff h⟩

end Runs

/-! ### A job and its messages -/

namespace Sample

/-- A digest that plays no part in the runs below. -/
def host : Host := ⟨fun _ => String.ofList (List.replicate 64 '0'), id⟩

def jobId : String := "00000000-0000-8000-8000-000000000000"

def operationId : String := "11111111-1111-4111-8111-111111111111"

def bootId : String := "22222222-2222-4222-8222-222222222222"

/-- An operation a worker has started. -/
def operation : Operation where
  id := operationId
  idempotencyKey := "user-1:agent-job"
  requestHash := "hash"
  type := "AGENT_JOB_TEST"
  status := .running
  siteId := none
  siteDomainId := none
  databaseId := none
  globalLockKey := none
  parentOperationId := none
  createdByUserId := "user-1"
  currentStep := some "agent"
  progress := 0
  actionId := some "operations.agent_job.test"
  executionMode := .queued
  policySnapshot := none
  requestPayloadEnc := none
  attempt := 1
  maxAttempts := 1
  retryable := false
  recoveryPolicy := .reconcileOnly
  leaseOwner := some "worker:1"
  leaseExpiresAt := some 30000
  heartbeatAt := some 0
  claimedAt := some 0
  deadlineAt := some 60000
  cancelRequestedAt := none
  cancelOutcome := none
  result := none
  errorMessage := none
  startedAt := some 0
  completedAt := none
  createdAt := 0

def operations : OperationTable := ⟨[operation], fun _ _ => List.nodup_singleton _⟩

def input : PrepareAgentJobInput :=
  ⟨operationId, "agent.test.execute", "execute", .object [], some 30000, true⟩

def started : AgentJobStarted := ⟨true, jobId, operationId, bootId, .running, false, none⟩

def succeeded : AgentJobResult :=
  ⟨jobId, operationId, bootId, 1, true, false, .object [("ok", .boolean true)], none, 1000⟩

/-- The message of a rejected start, as the agent sends it. -/
def rejectedMessage : JsValue :=
  .object [("success", .boolean false), ("jobId", .string jobId),
    ("operationId", .string operationId), ("bootId", .string bootId), ("state", .string "FAILED"),
    ("replayed", .boolean false), ("error", .string "Agent job deadline elapsed")]

def rejected : AgentJobStarted :=
  ⟨false, jobId, operationId, bootId, .failed, false, some "Agent job deadline elapsed"⟩

/-- Call `i` of a request, performed up to its `n`-th instruction. -/
def call (i n : Nat) (request : Request) : List Action :=
  .call request :: List.replicate n (.advance i)

/-- A job is prepared, bound, started, and succeeds. -/
def lifetime : List Action :=
  .outside (.operations operations) ::
    (call 0 2 (.prepare input) ++ call 1 1 (.bindToBoot jobId bootId) ++
      call 2 4 (.recordStarted started) ++ call 3 1 (.recordResult succeeded))

end Sample

/-- The condition is met when a result is delivered twice and its heartbeat comes late. -/
theorem outcome_final_duplicate : ∃ s : State,
    (∃ j ∈ s.jobs, j.state = .succeeded ∧ j.result = some "\x7b\"ok\":true\x7d") ∧
      Settled State.init.jobs s.jobs ∧
      ∀ (a : Action) (s' : State), Pool.step (agentJobService Sample.host) s a = some s' →
        (Settled s.jobs s'.jobs ↔ Pool.Within SparesOutcome s a) := by
  have hrun : (Stepping.run (Pool.step (agentJobService Sample.host)) (Pool.Within SparesOutcome)
      State.init (Sample.lifetime ++ Sample.call 4 1 (.recordResult Sample.succeeded) ++
        Sample.call 5 1 (.recordHeartbeat ⟨Sample.jobId, Sample.operationId, Sample.bootId, 1, 50,
          "work", 500⟩))).any
      (fun s : State => decide (∃ j ∈ s.jobs,
        j.state = .succeeded ∧ j.result = some "\x7b\"ok\":true\x7d")) = true := by
    decide +kernel
  obtain ⟨s, hs, hj⟩ := Stepping.Reach.of_run_any hrun
  exact ⟨s, hj, outcome_final_iff hs⟩

/-- **A late rejection overwrites a result**: the validator admits the message, and the job the
panel knows as succeeded is failed afterwards. -/
theorem rejected_start_overwrites_outcome :
    validateAgentJobStarted Sample.rejectedMessage = .ok Sample.rejected ∧
      ∃ s : State, RunsTo Sample.host anyInstr State.init s ∧
        ∃ s' : State, RunsTo Sample.host anyInstr s s' ∧
          (∃ j ∈ s.jobs, j.id = Sample.jobId ∧ j.state = .succeeded ∧ j.errorMessage = none) ∧
          ∃ j ∈ s'.jobs, j.id = Sample.jobId ∧ j.state = .failed ∧
            j.errorMessage = some "Agent job deadline elapsed" := by
  refine ⟨by decide +kernel, ?_⟩
  have hrun : (Stepping.run (Pool.step (agentJobService Sample.host)) (Pool.Within anyInstr)
      State.init Sample.lifetime).any (fun s : State => decide (
        (∃ j ∈ s.jobs, j.id = Sample.jobId ∧ j.state = .succeeded ∧ j.errorMessage = none) ∧
        (Stepping.run (Pool.step (agentJobService Sample.host)) (Pool.Within anyInstr) s
          (Sample.call 4 3 (.recordStarted Sample.rejected))).any (fun s' : State => decide (
            ∃ j ∈ s'.jobs, j.id = Sample.jobId ∧ j.state = .failed ∧
              j.errorMessage = some "Agent job deadline elapsed")) = true)) = true := by
    decide +kernel
  obtain ⟨s, hs, hbef, hrest⟩ := Stepping.Reach.of_run_any hrun
  obtain ⟨s', hs', haft⟩ := Stepping.Reach.of_run_any hrest
  exact ⟨s, hs, s', hs', hbef, haft⟩

end Meowbox.AgentJobs
