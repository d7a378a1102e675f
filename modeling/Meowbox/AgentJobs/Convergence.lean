import Meowbox.AgentJobs.Admission
import Meowbox.AgentJobs.Link

/-!
# The panel converges to what the agent recorded

Across every event on either side the stored sequence of a job does not go back, a job that is
being cancelled or has ended does not run again, and what a result or a status settles is an outcome
the agent has recorded, once. The second fails for one write: `recordStatus` puts a job back to
`RUNNING` for any status that does not say `CANCEL_REQUESTED`. `SparesCancellation` is the condition
on what that write finds.

* `outcomes_converge`: in every run that meets the condition all of it holds, and a further event
  keeps it exactly when it meets the condition.
* `status_undoes_cancellation`: a status sent before the cancellation arrives after it.
-/

namespace Meowbox.AgentJobs

open Relational Interleaved

/-- The job is being cancelled, or has ended. -/
def AgentJob.Later (j : AgentJob) : Prop := j.state = .cancelRequested ∨ j.terminal = true

/-- No job is lost, no sequence goes back, and no later phase is left for an earlier one. -/
def Advances (t t' : AgentJobTable) : Prop :=
  ∀ j ∈ t, ∃ j' ∈ t', j'.id = j.id ∧ j.sequence ≤ j'.sequence ∧ (j.Later → j'.Later)

/-- The write of a result or a status. -/
def Instr.isReport : Instr → Bool
  | .write (.recordResult _ _ _) => true
  | .write (.reportUnknown _ _ _) => true
  | .write (.reportProgress _ _) => true
  | _ => false

/-- A job that had ended stays as it is, and one that ends takes an outcome of the agent. -/
def Exact (host : Host) (settled : List JobOutcome) (t t' : AgentJobTable) : Prop :=
  ∀ j ∈ t, ∀ j' ∈ t', j'.id = j.id →
    (j.terminal = true → j' = j) ∧
      (j.terminal = false → j'.terminal = true → ∃ o, Settling settled o ∧ o.jobId = j.id ∧
        o.operationId = j.operationId ∧ j'.outcome = host.stored o)

/-- A status that does not say so finds no job that is being cancelled. -/
def SparesCancellation (v : View) : Instr → Prop
  | .write (.reportProgress status now) => status.state ≠ .cancelRequested →
      ∀ j ∈ v.db.agentJob, (reportProgress status now).selects j = true → j.state ≠ .cancelRequested
  | _ => True

instance (v : View) (i : Instr) : Decidable (SparesCancellation v i) := by
  apply Instr.casesOn (motive := fun i => Decidable (SparesCancellation v i)) i
  case write =>
    intro w
    apply Write.casesOn (motive := fun w => Decidable (SparesCancellation v (.write w))) w <;>
      intros <;> dsimp only [SparesCancellation] <;> infer_instance
  all_goals
    intros
    dsimp only [SparesCancellation]
    infer_instance

/-! ## One write -/

variable {j : AgentJob}

/-- A property of an update's row: of the one it sets and of the one it leaves. -/
theorem patch_cases {P : AgentJob → Prop} (u : UpdateMany)
    (hsets : u.selects j = true → P (u.data j)) (hleaves : P j) : P (u.patch j) := by
  by_cases h : u.selects j = true
  · rw [UpdateMany.patch, Table.patch_pos h]
    exact hsets h
  · rw [patch_of_not_selects (Bool.eq_false_iff.mpr h)]
    exact hleaves

/-- Not behind. -/
def AgentJob.Before (j j' : AgentJob) : Prop := j.sequence ≤ j'.sequence ∧ (j.Later → j'.Later)

theorem before_refl (j : AgentJob) : j.Before j := ⟨Int.le_refl _, id⟩

theorem later_of_terminal (h : j.terminal = true) : j.Later := .inr h

/-- A status moves its job on, unless it takes it back from its cancellation. -/
theorem reportProgress_before {status : AgentJobStatus} {now : Time}
    (h : status.state ≠ .cancelRequested → (reportProgress status now).selects j = true → j.state ≠ .cancelRequested) :
    j.Before ((reportProgress status now).patch j) := by
  refine patch_cases _ (fun hsel => ?_) (before_refl j)
  have hsel' := hsel
  simp only [reportProgress, Bool.and_eq_true, decide_eq_true_eq] at hsel'
  refine ⟨hsel'.2, fun hlat => ?_⟩
  rcases hlat with hst | hterm
  · by_cases hs : status.state = .cancelRequested
    · exact .inl (by simp [reportProgress, hs])
    · exact absurd hst (h hs hsel)
  · rw [reported_active hsel'.1] at hterm
    exact absurd hterm (by simp)

/-- **One write**: no sequence goes back, and only a status takes a job back. -/
theorem after_before (w : Write)
    (h : ∀ status now, w = .reportProgress status now → status.state ≠ .cancelRequested → (reportProgress status now).selects j = true → j.state ≠ .cancelRequested) :
    j.Before (w.after j) := by
  cases w with
  | prepare new => exact before_refl j
  | rejectStart jobId bootId message now =>
    exact patch_cases _ (fun _ => ⟨Int.le_refl _, fun _ => later_of_terminal rfl⟩) (before_refl j)
  | acknowledgeStart jobId bootId startedAt now =>
    refine patch_cases _ (fun hsel => ⟨Int.le_refl _, fun hlat => ?_⟩) (before_refl j)
    simp only [acknowledgeStart, Bool.and_eq_true, List.contains_iff_mem, List.mem_cons,
      List.not_mem_nil, or_false] at hsel
    have hact := acknowledgeStart_guarded jobId bootId startedAt now j (by
      simp only [acknowledgeStart, Bool.and_eq_true, List.contains_iff_mem, List.mem_cons,
        List.not_mem_nil, or_false]
      exact hsel)
    rcases hlat with hst | hterm
    · rw [hst] at hsel
      exact absurd hsel.2 (by simp)
    · rw [hact] at hterm
      exact absurd hterm (by simp)
  | bindToBoot jobId bootId =>
    exact patch_cases _ (fun _ => before_refl j) (before_refl j)
  | recordHeartbeat heartbeat =>
    refine patch_cases _ (fun hsel => ⟨?_, id⟩) (before_refl j)
    simp only [recordHeartbeat, Bool.and_eq_true, decide_eq_true_eq] at hsel
    exact Int.le_of_lt hsel.2
  | recordResult result resultJson errorMessage =>
    refine patch_cases _ (fun hsel => ⟨?_, fun _ => later_of_terminal ?_⟩) (before_refl j)
    · simp only [recordResult, Bool.and_eq_true, decide_eq_true_eq] at hsel
      exact Int.le_of_lt hsel.2
    · unfold AgentJob.terminal
      simp only [recordResult, AgentJobResult.state]
      split
      · rfl
      · split <;> rfl
  | reportUnknown status message now =>
    exact patch_cases _ (fun _ => ⟨Int.le_refl _, fun _ => later_of_terminal rfl⟩) (before_refl j)
  | reportProgress status now => exact reportProgress_before fun hs => h status now rfl hs
  | requestCancel jobId now =>
    simp only [Write.after, cancelled]
    split
    · exact before_refl j
    · split
      · exact patch_cases _ (fun _ => ⟨Int.le_refl _, fun _ => .inl rfl⟩) (before_refl j)
      · exact patch_cases _ (fun _ => before_refl j) (before_refl j)
  | recordCancelOutcome jobId outcome =>
    exact patch_cases _ (fun _ => before_refl j) (before_refl j)
  | markInterruptedByNewBoot bootId now =>
    exact patch_cases _ (fun _ => ⟨Int.le_refl _, fun _ => later_of_terminal rfl⟩) (before_refl j)
  | markDeadlineUnknown jobId now =>
    exact patch_cases _ (fun _ => ⟨Int.le_refl _, fun _ => later_of_terminal rfl⟩) (before_refl j)

/-! ## One instruction -/

theorem advances_refl (t : AgentJobTable) : Advances t t := fun j hj =>
  ⟨j, hj, rfl, Int.le_refl _, id⟩

theorem Advances.trans {t t' t'' : AgentJobTable} (h : Advances t t') (h' : Advances t' t'') :
    Advances t t'' := by
  intro j hj
  obtain ⟨j', hj', hid, hseq, hlat⟩ := h j hj
  obtain ⟨j'', hj'', hid', hseq', hlat'⟩ := h' j' hj'
  exact ⟨j'', hj'', hid'.trans hid, Int.le_trans hseq hseq', fun hl => hlat' (hlat hl)⟩

variable {host : Host} {v : View}

theorem advances_answer {i : Instr} (h : SparesCancellation v i) :
    Advances v.db.agentJob (answer i v).2.db.agentJob := by
  rcases answer_jobs i v with hsame | ⟨w, done, rfl, hdone, hdb⟩
  · rw [hsame]
    exact advances_refl _
  · rw [hdb]
    intro j hj
    have hbef := after_before w fun status now hw hs hsel => by
      rw [hw] at h
      exact h hs j hj hsel
    exact ⟨w.after j, mem_commit hdone hj, after_id w j, hbef.1, hbef.2⟩

/-- An instruction that takes no job back meets the condition. -/
theorem spares_of_advances {i : Instr} (h : Advances v.db.agentJob (answer i v).2.db.agentJob) :
    SparesCancellation v i := by
  unfold SparesCancellation
  split
  · rename_i status now
    intro hs j hj hsel hst
    obtain ⟨j', hj', hid, -, hlat⟩ := h j hj
    have hdone : v.db.commit (.reportProgress status now) =
        .ok (v.db.updateMany (reportProgress status now)) := rfl
    have hset : (reportProgress status now).patch j ∈
        (answer (.write (.reportProgress status now)) v).2.db.agentJob := List.mem_map_of_mem hj
    -- the row it leaves runs
    have hrow := eq_of_id hj' hset (hid.trans (patch_id _ j).symm)
    have hrunning : j'.state = .running := by
      rw [hrow, UpdateMany.patch, Table.patch_pos hsel]
      simp [reportProgress, hs]
    rcases hlat (.inl hst) with hl | hl
    · rw [hrunning] at hl
      exact absurd hl (by simp)
    · unfold AgentJob.terminal at hl
      rw [hrunning] at hl
      exact absurd hl (by decide)
  · trivial

/-- The row a committed write leaves of a row. -/
theorem row_after {w : Write} {done : Committed} (hdone : v.db.commit w = .ok done)
    {j' : AgentJob} (hj : j ∈ v.db.agentJob) (hj' : j' ∈ done.db.agentJob) (hid : j'.id = j.id) :
    j' = w.after j :=
  eq_of_id hj' (mem_commit hdone hj) (hid.trans (after_id w j).symm)

/-- **A report**: it leaves what has ended alone, and settles a job by an outcome of the agent. -/
theorem exact_answer {i : Instr} {settled : List JobOutcome} (hreport : i.isReport = true)
    (h : StoresOutcome host settled i) :
    Exact host settled v.db.agentJob (answer i v).2.db.agentJob := by
  intro j hj j' hj' hid
  cases i with
  | read => exact absurd hreport (by simp [Instr.isReport])
  | clock => exact absurd hreport (by simp [Instr.isReport])
  | write w =>
    cases w with
    | recordResult m resultJson errorMessage =>
      have hdone : v.db.commit (.recordResult m resultJson errorMessage) =
          .ok (v.db.updateMany (recordResult m resultJson errorMessage)) := rfl
      obtain rfl := row_after hdone hj hj' hid
      refine ⟨fun ht => (recordResult_guarded m resultJson errorMessage).patch ht,
        fun hact hterm => ?_⟩
      by_cases hsel : (recordResult m resultJson errorMessage).selects j = true
      · obtain ⟨o, ho, hjob, hop, hstored⟩ := h
        have hreported := hsel
        simp only [recordResult, reported, Bool.and_eq_true, beq_iff_eq] at hreported
        refine ⟨o, ho, hjob.trans hreported.1.1.1.1.symm, hop.trans hreported.1.1.1.2.symm, ?_⟩
        rw [hstored, Write.after, UpdateMany.patch, Table.patch_pos hsel]
        rfl
      · rw [Write.after, patch_of_not_selects (Bool.eq_false_iff.mpr hsel), hact] at hterm
        exact absurd hterm (by simp)
    | reportUnknown status message now => exact absurd h id
    | reportProgress status now =>
      have hdone : v.db.commit (.reportProgress status now) =
          .ok (v.db.updateMany (reportProgress status now)) := rfl
      obtain rfl := row_after hdone hj hj' hid
      refine ⟨fun ht => (reportProgress_guarded status now).patch ht, fun hact hterm => ?_⟩
      refine absurd hterm ?_
      refine patch_cases (P := fun k => ¬ k.terminal = true) _ (fun _ => ?_) (by simp [hact])
      unfold AgentJob.terminal
      simp only [reportProgress]
      split <;> decide
    | _ => exact absurd hreport (by simp [Instr.isReport])

/-! ## Runs -/

variable {l l' : Link}

/-- What an event does to what the panel has stored. -/
theorem step_jobs {e : LinkEvent} (h : l.step host e = some l') :
    (l.issued e = none ∧ l'.jobs = l.jobs) ∨
      ∃ instr, l.issued e = some instr ∧
        l'.jobs = (answer instr l.panel.store).2.db.agentJob := by
  rcases Link.step_cases h with ⟨input, rfl, -, hpanel⟩ | ⟨a, hstep, -, hiss, -⟩
  · exact .inl ⟨rfl, by rw [Link.jobs, Link.jobs, hpanel]⟩
  · rw [hiss]
    unfold Link.jobs State.jobs
    rcases Pool.step_store hstep with ⟨change, rfl, hsto⟩ | ⟨hnone, hsto⟩ | ⟨i, hi, hsto⟩
    · rw [hsto]
      exact .inl ⟨rfl, outside_jobs change l.panel.store⟩
    · rw [hsto]
      exact .inl ⟨hnone, rfl⟩
    · rw [hsto]
      exact .inr ⟨i, hi, rfl⟩

theorem advances_step_iff {e : LinkEvent} (h : l.step host e = some l') :
    Advances l.jobs l'.jobs ↔ l.Within SparesCancellation e := by
  rcases step_jobs h with ⟨hnone, hjobs⟩ | ⟨instr, hi, hjobs⟩
  · refine iff_of_true (hjobs ▸ advances_refl _) fun instr hi => ?_
    rw [hnone] at hi
    exact absurd hi (by simp)
  · rw [hjobs]
    constructor
    · intro hadvances other hother
      rw [hi] at hother
      cases hother
      exact spares_of_advances hadvances
    · intro hok
      exact advances_answer (hok instr hi)

theorem advances_run (hs : Link.RunsTo host SparesCancellation l l') :
    Advances l.jobs l'.jobs := by
  induction hs with
  | init => exact advances_refl _
  | step _ hok hstep ih => exact ih.trans ((advances_step_iff hstep).mpr hok)

/-- **The panel converges to what the agent recorded**, whatever the channel loses, repeats and
reorders, but for statuses that undo a cancellation. -/
theorem outcomes_converge {bootId : Uuid} {clock : Instant}
    (hs : Link.RunsTo host SparesCancellation (Link.init bootId clock) l) :
    (∀ l', Link.RunsTo host SparesCancellation l l' → Advances l.jobs l'.jobs) ∧
      ∀ (e : LinkEvent) (l' : Link), l.step host e = some l' →
        ((Advances l.jobs l'.jobs ∧ ((∃ instr ∈ l.issued e, instr.isReport = true) →
            Exact host l.agent.settled l.jobs l'.jobs)) ↔ l.Within SparesCancellation e) := by
  refine ⟨fun _ h => advances_run h, fun e l' h => ?_⟩
  have hexact : (∃ instr ∈ l.issued e, instr.isReport = true) →
      Exact host l.agent.settled l.jobs l'.jobs := by
    rintro ⟨instr, hi, hreport⟩
    have hstores := (step_traced (link_traced hs) h).2 instr hi
    rcases step_jobs h with ⟨hnone, -⟩ | ⟨other, ho, hjobs⟩
    · rw [hnone] at hi
      exact absurd hi (by simp)
    · rw [Option.mem_def.mp hi] at ho
      cases ho
      rw [hjobs]
      exact exact_answer hreport hstores
  rw [← advances_step_iff h]
  exact ⟨fun hboth => hboth.1, fun hadvances => ⟨hadvances, hexact⟩⟩

/-! ### A status that overtakes nothing -/

namespace Sample

/-- The agent starts the job; the panel prepares it, binds it and learns that it was started. -/
def linked : List LinkEvent :=
  [LinkEvent.agent .attach, .agent (.register "agent.test.execute"),
    .agent (.start startMessage fresh), .panel (.outside (.operations operations))] ++
    (call 0 2 (.prepare input) ++ call 1 1 (.bindToBoot jobId bootId)).map .panel ++
    [LinkEvent.deliver 0] ++ (List.replicate 4 (Event.advance 2)).map .panel

/-- The `k`-th message arrives as call `i` and is worked off. -/
def arrival (k i n : Nat) : List LinkEvent :=
  .deliver k :: (List.replicate n (Event.advance i)).map .panel

/-- The handler returns. -/
def completion : List LinkEvent :=
  [.agent (.settle jobId (.returned (.object [("ok", .boolean true)])))]

/-- The agent is asked for the status, and the job is cancelled before the answer arrives. -/
def cancelling : List LinkEvent :=
  linked ++ [.agent (.status statusMessage fresh)] ++ (call 3 2 (.requestCancel jobId)).map .panel

end Sample

/-- The condition is met when the result arrives first and twice, and the heartbeat and an old
status come after it. -/
theorem outcomes_converge_reordered : ∃ l : Link,
    (∃ j ∈ l.jobs, j.state = .succeeded ∧ j.result = some "\x7b\"ok\":true\x7d" ∧ j.sequence = 1) ∧
      (∀ l', Link.RunsTo Sample.host SparesCancellation l l' → Advances l.jobs l'.jobs) ∧
      ∀ (e : LinkEvent) (l' : Link), l.step Sample.host e = some l' →
        ((Advances l.jobs l'.jobs ∧ ((∃ instr ∈ l.issued e, instr.isReport = true) →
            Exact Sample.host l.agent.settled l.jobs l'.jobs)) ↔ l.Within SparesCancellation e) := by
  have hrun : (Stepping.run (Link.step Sample.host) (Link.Within SparesCancellation)
      (Link.init Sample.boot Sample.now) (Sample.linked ++
        [.agent (.status Sample.statusMessage Sample.fresh)] ++ Sample.completion ++
        Sample.arrival 3 3 1 ++ Sample.arrival 3 4 1 ++ Sample.arrival 1 5 1 ++
        Sample.arrival 2 6 2)).any
      (fun l : Link => decide (∃ j ∈ l.jobs, j.state = .succeeded ∧
        j.result = some "\x7b\"ok\":true\x7d" ∧ j.sequence = 1)) = true := by
    decide +kernel
  obtain ⟨l, hs, hj⟩ := Stepping.Reach.of_run_any hrun
  exact ⟨l, hj, outcomes_converge hs⟩

/-- **A status undoes a cancellation**: the agent says the job runs, the panel records that it is to
be cancelled, and the status that arrives then makes it `RUNNING` again. -/
theorem status_undoes_cancellation : ∃ l l' : Link,
    Link.RunsTo Sample.host anyInstr (Link.init Sample.boot Sample.now) l ∧
      Link.RunsTo Sample.host anyInstr l l' ∧ ¬ Advances l.jobs l'.jobs ∧
      (∃ j ∈ l.jobs, j.id = Sample.jobId ∧ j.state = .cancelRequested) ∧
      ∃ j ∈ l'.jobs, j.id = Sample.jobId ∧ j.state = .running := by
  have hrequested : (Stepping.run (Link.step Sample.host) (Link.Within anyInstr)
      (Link.init Sample.boot Sample.now) Sample.cancelling).any (fun l : Link => decide (
        ∃ j ∈ l.jobs, j.id = Sample.jobId ∧ j.state = .cancelRequested)) = true := by
    decide +kernel
  have hrunning : (Stepping.run (Link.step Sample.host) (Link.Within anyInstr)
      (Link.init Sample.boot Sample.now) (Sample.cancelling ++ Sample.arrival 2 4 2)).any
      (fun l : Link => decide (∃ j ∈ l.jobs, j.id = Sample.jobId ∧ j.state = .running)) = true := by
    decide +kernel
  obtain ⟨l, l', hs, hs', ⟨j, hj, hid, hst⟩, j', hj', hid', hst'⟩ :=
    Stepping.Reach.of_run_append hrequested hrunning
  refine ⟨l, l', hs, hs', fun hadvances => ?_, ⟨j, hj, hid, hst⟩, j', hj', hid', hst'⟩
  obtain ⟨k, hk, hkid, -, hlat⟩ := hadvances j hj
  obtain rfl := eq_of_id hk hj' ((hkid.trans hid).trans hid'.symm)
  rcases hlat (.inl hst) with h | h
  · rw [hst'] at h
    exact absurd h (by simp)
  · rw [AgentJob.terminal, hst'] at h
    exact absurd h (by decide)

end Meowbox.AgentJobs
