import Meowbox.AgentJobs.Outcome

/-!
# A new boot of the agent

When the agent connects with a boot id, `markInterruptedByNewBoot` settles the jobs of other boots,
and from then on only that boot binds jobs and reports on them. `Refused` says of a job that no
binding and no report of the boot selects it; the rejection of a start is not among them, since the
agent rejects only a start the panel has bound and sent.

* `newBoot_strands_none_iff`: no unfinished job is refused afterwards exactly when the table holds
  no `STARTING` job of another boot and no job past `STARTING` without a boot.
* `newBoot_strands_starting`: a run at the end of which a job is refused.
-/

namespace Meowbox.AgentJobs

open Relational Interleaved

/-- What a boot sends and what is bound to it. -/
inductive ReportOf (bootId : String) : UpdateMany → Prop
  | bind (jobId : String) : ReportOf bootId (bindToBoot jobId bootId)
  | started (jobId : String) (startedAt now : Time) :
      ReportOf bootId (acknowledgeStart jobId bootId startedAt now)
  | heartbeat (m : AgentJobHeartbeat) (h : m.bootId = bootId) : ReportOf bootId (recordHeartbeat m)
  | result (m : AgentJobResult) (resultJson : String) (errorMessage : Option String)
      (h : m.bootId = bootId) : ReportOf bootId (recordResult m resultJson errorMessage)
  | unknown (m : AgentJobStatus) (message : String) (now : Time) (h : m.bootId = bootId) :
      ReportOf bootId (reportUnknown m message now)
  | progress (m : AgentJobStatus) (now : Time) (h : m.bootId = bootId) :
      ReportOf bootId (reportProgress m now)

/-- Nothing of the boot selects the job. -/
def Refused (bootId : String) (j : AgentJob) : Prop :=
  ∀ u, ReportOf bootId u → u.selects j = false

/-- The job belongs to the boot, or waits to be bound. -/
def Answerable (bootId : String) (j : AgentJob) : Prop :=
  j.agentBootId = some bootId ∨ j.agentBootId = none ∧ j.state = .starting

instance (bootId : String) (j : AgentJob) : Decidable (Answerable bootId j) :=
  inferInstanceAs (Decidable (_ ∨ _))

/-! ## Who is refused -/

variable {bootId : String} {j : AgentJob}

theorem answerable_of_reported {jobId operationId : String}
    (h : reported jobId operationId bootId j = true) : Answerable bootId j := by
  simp only [reported, Bool.and_eq_true, beq_iff_eq] at h
  exact .inl h.1.2

/-- Whatever the boot's updates select belongs to it or waits to be bound. -/
theorem answerable_of_selects {u : UpdateMany} (hu : ReportOf bootId u)
    (h : u.selects j = true) : Answerable bootId j := by
  cases hu with
  | bind jobId =>
    simp only [bindToBoot, Bool.and_eq_true, Bool.or_eq_true, beq_iff_eq] at h
    obtain ⟨⟨-, hst⟩, hboot⟩ := h
    rcases hboot with hnone | hsame
    · exact .inr ⟨hnone, hst⟩
    · exact .inl hsame
  | started jobId startedAt now =>
    simp only [acknowledgeStart, Bool.and_eq_true, beq_iff_eq] at h
    exact .inl h.1.2
  | heartbeat m hm =>
    simp only [recordHeartbeat, Bool.and_eq_true, hm] at h
    exact answerable_of_reported h.1
  | result m resultJson errorMessage hm =>
    simp only [recordResult, Bool.and_eq_true, hm] at h
    exact answerable_of_reported h.1
  | unknown m message now hm =>
    simp only [reportUnknown, hm] at h
    exact answerable_of_reported h
  | progress m now hm =>
    simp only [reportProgress, Bool.and_eq_true, hm] at h
    exact answerable_of_reported h.1

/-- The next heartbeat of a job's own boot is recorded. -/
theorem next_heartbeat_selects (hact : j.terminal = false)
    (hboot : j.agentBootId = some bootId) :
    (recordHeartbeat ⟨j.id, j.operationId, bootId, j.sequence + 1, 0, "running", 0⟩).selects j =
      true := by
  have hst := (reporting_iff_not_terminal j).mpr hact
  simp only [recordHeartbeat, reported, hboot, hst, beq_self_eq_true, Bool.true_and,
    decide_eq_true_eq]
  omega

/-- **An unfinished job is refused exactly when it is of another boot or past `STARTING` without
one.** -/
theorem refused_iff (hact : j.terminal = false) : Refused bootId j ↔ ¬ Answerable bootId j := by
  constructor
  · intro href hj
    rcases hj with hboot | ⟨hboot, hst⟩
    · have hbeat := href (recordHeartbeat
        ⟨j.id, j.operationId, bootId, j.sequence + 1, 0, "running", 0⟩) (.heartbeat _ rfl)
      rw [next_heartbeat_selects hact hboot] at hbeat
      exact absurd hbeat (by simp)
    · have hbind := href _ (.bind j.id)
      simp [bindToBoot, hboot, hst] at hbind
  · intro hj u hu
    by_contra hsel
    rw [Bool.not_eq_false] at hsel
    exact hj (answerable_of_selects hu hsel)

/-! ## The reconciliation -/

/-- What the reconciliation needs of a job: it moves the jobs that run elsewhere, and nothing
else. -/
def Reconcilable (bootId : String) (j : AgentJob) : Prop :=
  (j.state = .starting → j.agentBootId = none ∨ j.agentBootId = some bootId) ∧
    (j.state = .running ∨ j.state = .cancelRequested → j.agentBootId ≠ none)

/-- No unfinished job of another boot is unfinished afterwards, and none is left refused. -/
def StrandsNone (db : Db) (bootId : String) (now : Time) : Prop :=
  (∀ j ∈ db.agentJob, j.terminal = false → (∃ other ∈ j.agentBootId, other ≠ bootId) →
      ∀ j' ∈ (db.updateMany (markInterruptedByNewBoot bootId now)).db.agentJob, j'.id = j.id →
        j'.terminal = true) ∧
    ∀ j' ∈ (db.updateMany (markInterruptedByNewBoot bootId now)).db.agentJob,
      j'.terminal = false → ¬ Refused bootId j'

variable {now : Time}

/-- A job the reconciliation selects is settled. -/
theorem interrupted_terminal (h : (markInterruptedByNewBoot bootId now).selects j = true) :
    ((markInterruptedByNewBoot bootId now).patch j).terminal = true := by
  rw [UpdateMany.patch, Table.patch_pos h]
  rfl

theorem interrupted_selects :
    (markInterruptedByNewBoot bootId now).selects j = true ↔
      (∃ other ∈ j.agentBootId, other ≠ bootId) ∧
        (j.state = .running ∨ j.state = .cancelRequested) := by
  simp only [markInterruptedByNewBoot, Bool.and_eq_true, List.contains_iff_mem, List.mem_cons,
    List.not_mem_nil, or_false]
  cases j.agentBootId with
  | none => simp
  | some other => simp

/-- An unfinished job is settled or can answer afterwards exactly when it is reconcilable. -/
theorem reconciled_iff (hact : j.terminal = false) :
    ((markInterruptedByNewBoot bootId now).patch j).terminal = true ∨
      Answerable bootId ((markInterruptedByNewBoot bootId now).patch j) ↔ Reconcilable bootId j := by
  by_cases hsel : (markInterruptedByNewBoot bootId now).selects j = true
  · refine iff_of_true (.inl (interrupted_terminal hsel)) ?_
    obtain ⟨⟨other, hother, -⟩, hst⟩ := interrupted_selects.mp hsel
    rw [Option.mem_def] at hother
    constructor
    · intro hstarting
      rw [hstarting] at hst
      simp at hst
    · intro _
      simp [hother]
  · rw [patch_of_not_selects (Bool.eq_false_iff.mpr hsel), hact]
    rw [interrupted_selects] at hsel
    have hph := (reporting_iff_not_terminal j).mpr hact
    simp only [REPORTING_STATES, List.contains_iff_mem, List.mem_cons, List.not_mem_nil,
      or_false] at hph
    unfold Answerable Reconcilable
    cases hboot : j.agentBootId with
    | none => rcases hph with h | h | h <;> simp [h]
    | some other =>
      rw [hboot] at hsel
      by_cases hsame : other = bootId
      · simp [hsame]
      · rcases hph with h | h | h
        · simp [h, hsame]
        · exact absurd ⟨⟨other, rfl, hsame⟩, .inl h⟩ hsel
        · exact absurd ⟨⟨other, rfl, hsame⟩, .inr h⟩ hsel

/-- An unfinished job that cannot answer is refused, and no other. -/
theorem not_refused_iff :
    (((markInterruptedByNewBoot bootId now).patch j).terminal = false →
      ¬ Refused bootId ((markInterruptedByNewBoot bootId now).patch j)) ↔
        ((markInterruptedByNewBoot bootId now).patch j).terminal = true ∨
          Answerable bootId ((markInterruptedByNewBoot bootId now).patch j) := by
  cases hterm : ((markInterruptedByNewBoot bootId now).patch j).terminal with
  | true => simp
  | false => simp [refused_iff hterm]

/-- A settled job is not touched. -/
theorem interrupted_of_terminal (h : j.terminal = true) :
    (markInterruptedByNewBoot bootId now).patch j = j := by
  refine patch_of_not_selects (Bool.eq_false_iff.mpr fun hsel => ?_)
  obtain ⟨-, hst⟩ := interrupted_selects.mp hsel
  unfold AgentJob.terminal at h
  rcases hst with hs | hs <;> rw [hs] at h <;> exact absurd h (by decide)

/-- **The reconciliation leaves no job stranded exactly when every unfinished job is one it
provides for.** -/
theorem newBoot_strands_none_iff (db : Db) (bootId : String) (now : Time) :
    StrandsNone db bootId now ↔
      ∀ j ∈ db.agentJob, j.terminal = false → Reconcilable bootId j := by
  constructor
  · rintro ⟨-, hans⟩ j hj hact
    have hj' : (markInterruptedByNewBoot bootId now).patch j ∈
        (db.updateMany (markInterruptedByNewBoot bootId now)).db.agentJob :=
      List.mem_map_of_mem hj
    exact (reconciled_iff hact).mp (not_refused_iff.mp (hans _ hj'))
  · intro hall
    have hpat : ∀ j ∈ db.agentJob,
        ((markInterruptedByNewBoot bootId now).patch j).terminal = true ∨
          Answerable bootId ((markInterruptedByNewBoot bootId now).patch j) := by
      intro j hj
      cases hterm : j.terminal with
      | true => exact .inl (by rw [interrupted_of_terminal hterm, hterm])
      | false => exact (reconciled_iff hterm).mpr (hall j hj hterm)
    refine ⟨fun j hj hact hother j' hj' hid => ?_, fun j' hj' => ?_⟩
    · obtain ⟨k, hk, rfl⟩ := List.mem_map.mp hj'
      -- the row of the job is what the reconciliation makes of it
      obtain rfl := eq_of_id hk hj ((patch_id _ k).symm.trans hid)
      refine interrupted_terminal (interrupted_selects.mpr ⟨hother, ?_⟩)
      have hph := (reporting_iff_not_terminal k).mpr hact
      simp only [REPORTING_STATES, List.contains_iff_mem, List.mem_cons, List.not_mem_nil,
        or_false] at hph
      obtain ⟨hstarting, -⟩ := hall k hj hact
      obtain ⟨other, hmem, hne⟩ := hother
      rw [Option.mem_def] at hmem
      rcases hph with h | h
      · rcases hstarting h with hn | hs
        · rw [hn] at hmem
          exact absurd hmem (by simp)
        · rw [hs] at hmem
          exact absurd (Option.some.inj hmem).symm hne
      · exact h
    · obtain ⟨k, hk, rfl⟩ := List.mem_map.mp hj'
      exact not_refused_iff.mpr (hpat k hk)

/-! ### A start that was not acknowledged -/

/-- The agent connects again. -/
def Sample.newBootId : String := "33333333-3333-4333-8333-333333333333"

/-- **A job bound to a boot and not yet started is stranded by the next**: the reconciliation leaves
it `STARTING`, and nothing of the new boot selects it. -/
theorem newBoot_strands_starting : ∃ s s' : State,
    RunsTo Sample.host anyInstr State.init s ∧ RunsTo Sample.host anyInstr s s' ∧
      (∀ now, ¬ StrandsNone s.store.db Sample.newBootId now) ∧
      ∃ j ∈ s'.jobs, j.state = .starting ∧ j.agentBootId = some Sample.bootId ∧
        Refused Sample.newBootId j := by
  have hrun : (Stepping.run (Pool.step (agentJobService Sample.host)) (Pool.Within anyInstr)
      State.init (.outside (.operations Sample.operations) ::
        (Sample.call 0 2 (.prepare Sample.input) ++
          Sample.call 1 1 (.bindToBoot Sample.jobId Sample.bootId)))).any
      (fun s : State => decide (
        (∃ j ∈ s.jobs, j.state = .starting ∧ j.agentBootId = some Sample.bootId) ∧
        (Stepping.run (Pool.step (agentJobService Sample.host)) (Pool.Within anyInstr) s
          (Sample.call 2 2 (.markInterruptedByNewBoot Sample.newBootId))).any
          (fun s' : State => decide (∃ j ∈ s'.jobs, j.state = .starting ∧
            j.agentBootId = some Sample.bootId)) = true)) = true := by
    decide +kernel
  obtain ⟨s, hs, ⟨j, hj, hst, hboot⟩, hrest⟩ := Stepping.Reach.of_run_any hrun
  obtain ⟨s', hs', j', hj', hst', hboot'⟩ := Stepping.Reach.of_run_any hrest
  have hact : ∀ k : AgentJob, k.state = .starting → k.terminal = false := by
    intro k hk
    simp [AgentJob.terminal, hk, TERMINAL_JOB_STATES]
  have href : ∀ k : AgentJob, k.state = .starting → k.agentBootId = some Sample.bootId →
      Refused Sample.newBootId k := by
    intro k hk hkboot
    have hother : Sample.bootId ≠ Sample.newBootId := by decide +kernel
    rw [refused_iff (hact k hk), Answerable, hkboot]
    simp [hother]
  refine ⟨s, s', hs, hs', fun now hnone => ?_, j', hj', hst', hboot', href j' hst' hboot'⟩
  have hkept : (markInterruptedByNewBoot Sample.newBootId now).patch j = j := by
    refine patch_of_not_selects (Bool.eq_false_iff.mpr fun hsel => ?_)
    have hph := (interrupted_selects.mp hsel).2
    rw [hst] at hph
    simp at hph
  have hj'' : j ∈ (s.store.db.updateMany
      (markInterruptedByNewBoot Sample.newBootId now)).db.agentJob :=
    List.mem_map.mpr ⟨j, hj, hkept⟩
  exact hnone.2 j hj'' (hact j hst) (href j hst hboot)

end Meowbox.AgentJobs
