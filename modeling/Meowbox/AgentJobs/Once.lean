import Mathlib.Data.List.SplitOn
import Meowbox.AgentJobs.Admission

/-!
# A job is executed at most once

`handleStart` finds a START delivered again in the map of jobs. The map is the only memory, and
`pruneJobs` evicts from it. `Watch` runs a runtime and writes down the jobs whose handlers it
started, the jobs it evicted, and the STARTs it did not acknowledge exactly once.

* `executes_once`: in every run at most two jobs are active; each job is started at most once and
  each START acknowledged once exactly when no START that is to be started names an evicted job or
  finds the map full of jobs that cannot be evicted.
* `crowded_unanswered`: a thousand jobs within an hour leave the next START without an answer.
-/

namespace Meowbox.AgentJobs

open Relational JsData Stepping

/-! ## What happens to the map -/

def Message.isStarted : Message → Bool
  | .started _ => true
  | _ => false

namespace Runtime

variable (r : Runtime)

/-- `[...this.jobs.keys()]`. -/
def ids : List String := r.jobs.rows.map RuntimeJob.key

/-- `activeCount`. -/
def active : Nat := r.jobs.count fun job => !job.terminal

/-- The request of a START that `handleStart` refuses for no reason: it goes on to `pruneJobs`. -/
def admitted? : Input → Option AgentJobStartRequest
  | .start raw _ =>
    if r.attached then (validateAgentJobStart raw).toOption.filter fun request =>
      !r.ids.contains request.jobId && decide (r.clock < request.deadlineAt) &&
        decide (r.active < MAX_ACTIVE_JOBS) && r.handlers.contains request.actionId
    else none
  | _ => none

/-- The input is a START that reaches the runtime. -/
def receives : Input → Bool
  | .start _ _ => r.attached
  | _ => false

/-- The jobs an input puts into the map. `execute` follows each. -/
def startedBy (input : Input) : List String :=
  (r.react input).runtime.ids.filter fun id => !r.ids.contains id

def evictedBy (input : Input) : List String :=
  r.ids.filter fun id => !(r.react input).runtime.ids.contains id

/-- How often the callback of a START is called. Of a job that is started an event tells too. -/
def acknowledgements (input : Input) : Nat :=
  (r.react input).sent.countP Message.isStarted - (r.startedBy input).length

end Runtime

/-- A runtime and what has become of the STARTs so far. -/
structure Watch where
  runtime : Runtime
  started : List String
  evicted : List String
  misanswered : Nat

namespace Watch

def init (bootId : Uuid) (clock : Instant) : Watch :=
  ⟨⟨bootId, [], .empty, false, clock⟩, [], [], 0⟩

def next (w : Watch) (input : Input) : Watch where
  runtime := (w.runtime.react input).runtime
  started := w.started ++ w.runtime.startedBy input
  evicted := w.evicted ++ w.runtime.evictedBy input
  misanswered := w.misanswered +
    if w.runtime.receives input && w.runtime.acknowledgements input != 1 then 1 else 0

def step (w : Watch) (input : Input) : Option Watch := some (w.next input)

/-- A START that is to be started names no evicted job, and `pruneJobs` leaves room for it. -/
def Remembered (w : Watch) (input : Input) : Prop :=
  (w.runtime.admitted? input).all (fun request => !w.evicted.contains request.jobId &&
    decide (w.runtime.pruneJobs.jobs.rows.length < Runtime.MAX_JOBS)) = true

instance : DecidableRel Remembered := fun _ _ => inferInstanceAs (Decidable (_ = true))

theorem run_foldl (inputs : List Input) :
    ∀ w : Watch, run step anyStep w inputs = some (inputs.foldl next w) := by
  induction inputs with
  | nil => exact fun _ => rfl
  | cons input inputs ih =>
    intro w
    rw [run, if_pos trivial]
    exact ih (w.next input)

end Watch

/-! ## What an input does -/

namespace Runtime

variable {r : Runtime} {jobId : String} {f : RuntimeJob → RuntimeJob}
  (hf : ∀ job, (f job).request = job.request) {input : Input}

theorem mem_ids : jobId ∈ r.ids ↔ ∃ job ∈ r.jobs, job.request.jobId = jobId := List.mem_map

theorem find_eq_none : r.find jobId = none ↔ jobId ∉ r.ids := by
  rw [find, Table.find?_eq_none, mem_ids]
  constructor
  · rintro h ⟨job, hjob, rfl⟩
    exact h job hjob (beq_self_eq_true _)
  · exact fun h job hjob hid => h ⟨job, hjob, beq_iff_eq.mp hid⟩

/-- The map has the same jobs and no more active ones. -/
structure Kept (r r' : Runtime) : Prop where
  ids : r'.ids = r.ids
  active : r'.active ≤ r.active

theorem kept_jobs {r' : Runtime} (h : r'.jobs = r.jobs) : Kept r r' :=
  ⟨by rw [ids, h, ids], by rw [active, h, active]⟩

theorem Kept.trans {r₁ r₂ r₃ : Runtime} (h : Kept r₁ r₂) (h' : Kept r₂ r₃) : Kept r₁ r₃ :=
  ⟨h'.ids.trans h.ids, h'.active.trans h.active⟩

/-- A change that revives no job. -/
theorem kept_modify (h : ∀ job, r.find jobId = some job → (f job).terminal = false →
    job.terminal = false) : Kept r (r.modify jobId f hf) where
  ids := Table.map_patch (k := RuntimeJob.key) (fun job => by rw [RuntimeJob.key, hf]; rfl) _ _
  active := by
    refine countP_map_le fun job hjob hact => ?_
    by_cases hid : job.hasId jobId = true
    · rw [Table.patch_pos hid, Bool.not_eq_true'] at hact
      have hfind := find_of_mem hjob
      rw [beq_iff_eq.mp hid] at hfind
      rw [Bool.not_eq_true']
      exact h job hfind hact
    · rwa [Table.patch_neg hid] at hact

theorem kept_number : Kept r (r.number jobId) := kept_modify _ fun _ _ h => h

theorem kept_heartbeat {job : RuntimeJob} : Kept r (r.emitHeartbeat job).runtime := by
  unfold emitHeartbeat
  split
  · exact kept_jobs rfl
  · exact kept_number

/-- Whatever becomes of an active job, it was active. -/
theorem kept_active {job : RuntimeJob} (hfind : r.find jobId = some job)
    (hact : job.terminal = false) : Kept r (r.modify jobId f hf) := by
  refine kept_modify hf fun other hother _ => ?_
  obtain rfl := Option.some.inj (hfind.symm.trans hother)
  exact hact

theorem countP_emit_result {m : AgentJobResult} :
    (r.emit (.result m)).countP Message.isStarted = 0 := by
  refine List.countP_eq_zero.mpr fun other hother => ?_
  rw [mem_emit hother]
  exact Bool.false_ne_true

/-- **A START that is not admitted** is answered once, and nothing is started. -/
theorem handleStart_refused {raw : JsValue} {fresh : Uuid × Uuid} (hatt : r.attached = true)
    (h : r.admitted? (.start raw fresh) = none) :
    Kept r (r.handleStart raw fresh).runtime ∧
      (r.handleStart raw fresh).sent.countP Message.isStarted = 1 := by
  rw [admitted?, if_pos hatt] at h
  unfold handleStart
  cases hraw : validateAgentJobStart raw with
  | error message => exact ⟨kept_jobs rfl, rfl⟩
  | ok request =>
    rw [hraw] at h
    dsimp only
    cases hfind : r.find request.jobId with
    | some existing =>
      dsimp only
      split
      · exact ⟨kept_jobs rfl, rfl⟩
      · split
        · refine ⟨kept_number, ?_⟩
          rw [reply, List.countP_cons, countP_emit_result]
          rfl
        · exact ⟨kept_jobs rfl, rfl⟩
    | none =>
      dsimp only
      split
      · exact ⟨kept_jobs rfl, rfl⟩
      · rename_i hdl
        split
        · exact ⟨kept_jobs rfl, rfl⟩
        · rename_i hroom
          split
          · exact ⟨kept_jobs rfl, rfl⟩
          · rename_i hhandler
            -- nothing is left to refuse it for
            have hnew := find_eq_none.mp hfind
            rw [Bool.not_eq_true', Bool.not_eq_false] at hhandler
            have htakes := Option.filter_eq_none_iff.mp h request rfl
            simp only [Bool.and_eq_true, Bool.not_eq_true', List.contains_eq_mem,
              decide_eq_true_eq, decide_eq_false_iff_not] at htakes hhandler
            exact absurd ⟨⟨⟨hnew, not_le.mp hdl⟩, not_le.mp hroom⟩, hhandler⟩ htakes

/-- **An input that starts nothing.** -/
theorem react_kept (h : r.admitted? input = none) : Kept r (r.react input).runtime := by
  cases input with
  | clock now => exact kept_jobs rfl
  | attach => exact kept_jobs rfl
  | detach => exact kept_jobs rfl
  | register actionId =>
    simp only [react]
    split
    · exact kept_jobs rfl
    · exact kept_jobs rfl
  | unregister actionId => exact kept_jobs rfl
  | start raw fresh =>
    simp only [react]
    split
    · rename_i hatt
      exact (handleStart_refused hatt h).1
    · exact kept_jobs rfl
  | status raw fresh =>
    simp only [react, handleStatus]
    split
    · split
      · exact kept_jobs rfl
      · split
        · exact kept_jobs rfl
        · exact kept_jobs rfl
    · exact kept_jobs rfl
  | cancel raw fresh =>
    simp only [react, handleCancel]
    split
    · split
      · exact kept_jobs rfl
      · split
        · exact kept_jobs rfl
        · rename_i job hjob
          obtain ⟨hfind, -⟩ := Option.filter_eq_some_iff.mp hjob
          split
          · exact kept_jobs rfl
          · rename_i hact
            split
            · exact kept_jobs rfl
            · refine kept_active ?_ hfind (Bool.eq_false_iff.mpr hact)
              exact fun _ => rfl
    · exact kept_jobs rfl
  | heartbeatTimer jobId =>
    simp only [react]
    split
    · exact kept_heartbeat
    · exact kept_jobs rfl
  | deadlineTimer jobId =>
    simp only [react]
    split
    · rename_i job hjob
      obtain ⟨hfind, hg⟩ := Option.filter_eq_some_iff.mp hjob
      rw [← (find_some hfind).2] at hfind
      simp only [Bool.and_eq_true, Bool.not_eq_true'] at hg
      refine kept_active ?_ hfind hg.2
      exact fun _ => rfl
    · exact kept_jobs rfl
  | heartbeat jobId step progress =>
    simp only [react, handlerHeartbeat]
    split
    · split
      · exact kept_jobs rfl
      · split
        · exact kept_jobs rfl
        · refine Kept.trans ?_ kept_heartbeat
          exact kept_modify _ fun _ _ h => h
    · exact kept_jobs rfl
  | settle jobId ending =>
    simp only [react, settle]
    split
    · rename_i job hjob
      obtain ⟨hfind, hact⟩ := Option.filter_eq_some_iff.mp hjob
      rw [← (find_some hfind).2] at hfind
      rw [Bool.not_eq_true'] at hact
      exact (kept_active (fun job => (job.finish_kept ending).1) hfind hact).trans kept_number
    · exact kept_jobs rfl

/-- **A START that is admitted**: `pruneJobs` throws, or the job is started and announced. -/
theorem react_admitted {request : AgentJobStartRequest} (h : r.admitted? input = some request) :
    request.jobId ∉ r.ids ∧ r.active < MAX_ACTIVE_JOBS ∧ r.receives input = true ∧
      ((MAX_JOBS ≤ r.pruneJobs.jobs.rows.length ∧ r.react input = r.pruneJobs.reply []) ∨
        (r.pruneJobs.jobs.rows.length < MAX_JOBS ∧
          ∃ jobs : JobMap, jobs.rows = r.pruneJobs.jobs.rows ++ [r.newJob request] ∧
            r.react input = Runtime.reply { r.pruneJobs with jobs := jobs } (List.replicate 2
              (.started (r.startedResponse (r.newJob request) false))))) := by
  cases input with
  | start raw fresh =>
    obtain ⟨hatt, h⟩ := Option.ite_none_right_eq_some.mp h
    obtain ⟨hraw, htakes⟩ := Option.filter_eq_some_iff.mp h
    simp only [Bool.and_eq_true, Bool.not_eq_true', List.contains_eq_mem, decide_eq_true_eq,
      decide_eq_false_iff_not] at htakes
    obtain ⟨⟨⟨hnew, hdl⟩, hroom⟩, hhandler⟩ := htakes
    have hok : validateAgentJobStart raw = .ok request := by
      cases hv : validateAgentJobStart raw with
      | error message => rw [hv] at hraw; exact absurd hraw (by simp [Except.toOption])
      | ok other => rw [hv] at hraw; rw [Option.some.inj hraw]
    have hfr : ∀ k ∈ [RuntimeJob.key], k (r.newJob request) ∉ r.pruneJobs.jobs.rows.map k := by
      intro k hk hmem
      rw [List.mem_singleton.mp hk] at hmem
      exact hnew ((pruneJobs_sublist.map RuntimeJob.key).subset hmem)
    refine ⟨hnew, hroom, hatt, ?_⟩
    have hact : ¬ MAX_ACTIVE_JOBS ≤ r.jobs.count fun job => !job.terminal := not_le.mpr hroom
    simp only [react, hatt, if_true, handleStart, hok, find_eq_none.mpr hnew]
    rw [if_neg (not_le.mpr hdl), if_neg hact, if_neg (by simpa using hhandler)]
    by_cases hfull : MAX_JOBS ≤ r.pruneJobs.jobs.rows.length
    · rw [if_pos hfull]
      exact .inl ⟨hfull, rfl⟩
    · rw [if_neg hfull]
      obtain ⟨jobs, hjobs⟩ := Table.create?_of_free hfr
      rw [hjobs, emit, if_pos hatt]
      exact .inr ⟨not_le.mp hfull, jobs, (Table.create?_eq_some hjobs).1, rfl⟩
  | _ => exact absurd h (by simp [admitted?])

theorem mem_startedBy : jobId ∈ r.startedBy input ↔
    jobId ∈ (r.react input).runtime.ids ∧ jobId ∉ r.ids := by
  simp [startedBy]

theorem mem_evictedBy : jobId ∈ r.evictedBy input ↔
    jobId ∈ r.ids ∧ jobId ∉ (r.react input).runtime.ids := by
  simp [evictedBy]

theorem startedBy_kept (h : r.admitted? input = none) : r.startedBy input = [] := by
  refine List.eq_nil_iff_forall_not_mem.mpr fun id hid => ?_
  obtain ⟨hnow, hbef⟩ := mem_startedBy.mp hid
  rw [(react_kept h).ids] at hnow
  exact hbef hnow

/-- The one job that is started is that of the request. -/
theorem startedBy_new {request : AgentJobStartRequest} (hnew : request.jobId ∉ r.ids)
    (hrows : (r.react input).runtime.jobs.rows = r.pruneJobs.jobs.rows ++ [r.newJob request]) :
    r.startedBy input = [request.jobId] := by
  have hids : (r.react input).runtime.ids = r.pruneJobs.ids ++ [request.jobId] := by
    rw [ids, hrows, List.map_append]
    rfl
  have hold : (r.pruneJobs.ids.filter fun id => !r.ids.contains id) = [] := by
    refine List.filter_eq_nil_iff.mpr fun id hid => ?_
    have hmem : id ∈ r.ids := (pruneJobs_sublist.map RuntimeJob.key).subset hid
    simp [hmem]
  rw [startedBy, hids, List.filter_append, hold, List.nil_append, List.filter_cons_of_pos]
  · rfl
  · simpa using hnew

/-- The three ways of an input: nothing is started, `pruneJobs` throws, or a job is started. -/
theorem react_cases (r : Runtime) (input : Input) :
    (r.admitted? input = none ∧ r.startedBy input = [] ∧
      (r.react input).runtime.active ≤ r.active ∧
      (r.receives input = true → r.acknowledgements input = 1)) ∨
    ∃ request, r.admitted? input = some request ∧ r.receives input = true ∧
      ((MAX_JOBS ≤ r.pruneJobs.jobs.rows.length ∧ r.acknowledgements input = 0 ∧
          (r.react input).runtime.active ≤ r.active) ∨
        (r.pruneJobs.jobs.rows.length < MAX_JOBS ∧ r.acknowledgements input = 1 ∧
          r.startedBy input = [request.jobId] ∧
          (r.react input).runtime.active ≤ MAX_ACTIVE_JOBS)) := by
  cases hadm : r.admitted? input with
  | none =>
    refine .inl ⟨rfl, startedBy_kept hadm, (react_kept hadm).active, fun hrcv => ?_⟩
    rw [acknowledgements, startedBy_kept hadm]
    cases input with
    | start raw fresh =>
      have hatt : r.attached = true := hrcv
      simp only [react, hatt, if_true]
      exact (handleStart_refused hatt hadm).2
    | _ => exact absurd hrcv Bool.false_ne_true
  | some request =>
    obtain ⟨hnew, hroom, hrcv, hfull | hsts⟩ := react_admitted hadm
    · obtain ⟨hfull, hreact⟩ := hfull
      refine .inr ⟨request, rfl, hrcv, .inl ⟨hfull, ?_, ?_⟩⟩
      · rw [acknowledgements, hreact]
        exact Nat.zero_sub _
      · rw [hreact]
        exact pruneJobs_sublist.countP_le
    · obtain ⟨hspc, jobs, hjobs, hreact⟩ := hsts
      have hrows : (r.react input).runtime.jobs.rows =
          r.pruneJobs.jobs.rows ++ [r.newJob request] := by
        rw [hreact]
        exact hjobs
      have hsta := startedBy_new hnew hrows
      refine .inr ⟨request, rfl, hrcv, .inr ⟨hspc, ?_, hsta, ?_⟩⟩
      · rw [acknowledgements, hreact, hsta]
        rfl
      · have hpru : r.pruneJobs.active ≤ r.active := pruneJobs_sublist.countP_le
        have hone : [r.newJob request].countP (fun job => !job.terminal) ≤ 1 :=
          List.countP_le_length
        have hcnt : (r.react input).runtime.active =
            r.pruneJobs.active + [r.newJob request].countP fun job => !job.terminal := by
          rw [active, Table.count, hrows, List.countP_append]
          rfl
        omega

end Runtime

/-! ## Runs -/

namespace Watch

variable {w : Watch} {input : Input}

/-- What every run keeps. -/
structure Held (w : Watch) : Prop where
  active : w.runtime.active ≤ Runtime.MAX_ACTIVE_JOBS
  mapped : ∀ id ∈ w.runtime.ids, id ∈ w.started
  evicted : ∀ id ∈ w.evicted, id ∈ w.started
  remembered : ∀ id ∈ w.started, id ∈ w.runtime.ids ∨ id ∈ w.evicted

/-- What the claim asks for. -/
def Once (w : Watch) : Prop := w.started.Nodup ∧ w.misanswered = 0

theorem held_init (bootId : Uuid) (clock : Instant) : (init bootId clock).Held :=
  ⟨Nat.zero_le _, fun _ h => absurd h List.not_mem_nil, fun _ h => absurd h List.not_mem_nil,
    fun _ h => absurd h List.not_mem_nil⟩

theorem Held.next (h : w.Held) (input : Input) : (w.next input).Held where
  active := by
    rcases w.runtime.react_cases input with ⟨-, -, hact, -⟩ | ⟨_, -, -, hfull | hsts⟩
    · exact hact.trans h.active
    · exact hfull.2.2.trans h.active
    · exact hsts.2.2.2
  mapped id hid := by
    by_cases hold : id ∈ w.runtime.ids
    · exact List.mem_append_left _ (h.mapped id hold)
    · exact List.mem_append_right _ (Runtime.mem_startedBy.mpr ⟨hid, hold⟩)
  evicted id hid := by
    rcases List.mem_append.mp hid with hold | hnew
    · exact List.mem_append_left _ (h.evicted id hold)
    · exact List.mem_append_left _ (h.mapped id (Runtime.mem_evictedBy.mp hnew).1)
  remembered id hid := by
    rcases List.mem_append.mp hid with hold | hnew
    · by_cases hnow : id ∈ (w.next input).runtime.ids
      · exact .inl hnow
      · rcases h.remembered id hold with hmap | hgone
        · exact .inr (List.mem_append_right _ (Runtime.mem_evictedBy.mpr ⟨hmap, hnow⟩))
        · exact .inr (List.mem_append_left _ hgone)
    · exact .inl (Runtime.mem_startedBy.mp hnew).1

theorem held_foldl (inputs : List Input) (h : w.Held) : (inputs.foldl Watch.next w).Held := by
  induction inputs generalizing w with
  | nil => exact h
  | cons input inputs ih => exact ih (h.next input)

theorem misanswered_next (hans : w.runtime.receives input = true →
    w.runtime.acknowledgements input = 1) : (w.next input).misanswered = w.misanswered := by
  unfold Watch.next
  by_cases hrcv : w.runtime.receives input = true
  · simp [hans hrcv]
  · simp [hrcv]

/-- **One input that is remembered.** -/
theorem Once.next (ho : w.Once) (h : w.Held) (hok : w.Remembered input) :
    (w.next input).Once := by
  rcases w.runtime.react_cases input with
    ⟨-, hnone, -, hans⟩ | ⟨request, hadm, -, hfull | hsts⟩
  · refine ⟨?_, (misanswered_next hans).trans ho.2⟩
    rw [Watch.next, hnone, List.append_nil]
    exact ho.1
  · rw [Remembered, hadm, Option.all_some, Bool.and_eq_true, decide_eq_true_eq] at hok
    exact absurd hok.2 (not_lt.mpr hfull.1)
  · obtain ⟨-, hans, hsta, -⟩ := hsts
    rw [Remembered, hadm, Option.all_some, Bool.and_eq_true] at hok
    have hnever : request.jobId ∉ w.evicted := by simpa using hok.1
    have hjob : request.jobId ∈ w.runtime.startedBy input := by
      rw [hsta]
      exact List.mem_singleton_self _
    have hnew := (Runtime.mem_startedBy.mp hjob).2
    refine ⟨?_, (misanswered_next fun _ => hans).trans ho.2⟩
    rw [Watch.next, hsta]
    refine List.nodup_append.mpr ⟨ho.1, List.nodup_singleton _, fun id hid other hother heq => ?_⟩
    rw [heq, List.mem_singleton.mp hother] at hid
    exact (h.remembered _ hid).elim hnew hnever

/-- **One input that is not.** -/
theorem not_once_next (h : w.Held) (hok : ¬ w.Remembered input) : ¬ (w.next input).Once := by
  rintro ⟨hnd, hans⟩
  rcases w.runtime.react_cases input with
    ⟨hnone, -⟩ | ⟨request, hadm, hrcv, hfull | hsts⟩
  · rw [Remembered, hnone] at hok
    exact hok rfl
  · rw [Watch.next, hrcv, hfull.2.1] at hans
    simp at hans
  · rw [Remembered, hadm, Option.all_some, decide_eq_true hsts.1, Bool.and_true,
      Bool.not_eq_true', Bool.not_eq_false, List.contains_iff_mem] at hok
    rw [Watch.next, hsts.2.2.1] at hnd
    exact (List.nodup_append.mp hnd).2.2 _ (h.evicted _ hok) _ (List.mem_singleton_self _) rfl

/-- What is lost stays lost. -/
theorem once_of_next (h : (w.next input).Once) : w.Once :=
  ⟨(List.nodup_append.mp h.1).1, Nat.eq_zero_of_add_eq_zero_right h.2⟩

/-- **At most once**: in every run of any inputs at most two jobs are active at any moment; each
job is started at most once, and each START acknowledged exactly once, if and only if no START
that would be started names an evicted job or meets a map `pruneJobs` cannot make room in. -/
theorem executes_once (bootId : Uuid) (clock : Instant) (inputs : List Input) :
    let w := inputs.foldl next (init bootId clock)
    w.runtime.active ≤ 2 ∧
      (w.Once ↔ run step Remembered (init bootId clock) inputs = some w) := by
  have hinit : (init bootId clock).Once := ⟨List.nodup_nil, rfl⟩
  have hspl := run_split (I := fun w => w.Held ∧ w.Once) (J := fun w => w.Held ∧ ¬ w.Once)
    (fun w input _ hw hok hstep => by
      obtain rfl := Option.some.inj hstep
      exact ⟨hw.1.next input, hw.2.next hw.1 hok⟩)
    (fun w input _ hw hok hstep => by
      obtain rfl := Option.some.inj hstep
      exact ⟨hw.1.next input, not_once_next hw.1 hok⟩)
    (fun w input _ hw hstep => by
      obtain rfl := Option.some.inj hstep
      exact ⟨hw.1.next input, fun h => hw.2 (once_of_next h)⟩)
    ⟨held_init bootId clock, hinit⟩ (run_foldl inputs (init bootId clock))
  rcases hspl with ⟨hrun, hheld, honce⟩ | ⟨hrun, hheld, honce⟩
  · exact ⟨hheld.active, iff_of_true honce hrun⟩
  · exact ⟨hheld.active, iff_of_false honce hrun⟩

end Watch

/-! ### A history that is full -/

namespace Sample

def digit (n : Nat) : Char := Char.ofNat (48 + n % 10)

/-- The `n`-th job. -/
def jobIdOf (n : Nat) : String :=
  String.ofList (['-'].intercalate [List.replicate 8 '0', List.replicate 4 '0',
    '8' :: List.replicate 3 '0', '8' :: List.replicate 3 '0',
    List.replicate 8 '0' ++ [digit (n / 1000), digit (n / 100), digit (n / 10), digit n]])

/-- The members of a START, without the job's id. -/
def startOf (jobId : String) : JsValue :=
  .object [("protocolVersion", ofInteger 1), ("jobId", .string jobId),
    ("operationId", .string operationId), ("actionId", .string "agent.test.execute"),
    ("step", .string "execute"),
    ("requestHash", .string (String.ofList (List.replicate 64 '0'))),
    ("deadlineAt", .string "2001-09-09T02:00:00.000Z"), ("cancelSafe", .boolean true),
    ("payload", .object [])]

def requestOf (jobId : String) : AgentJobStartRequest where
  jobId := jobId
  operationId := operationId
  actionId := "agent.test.execute"
  step := "execute"
  requestHash := String.ofList (List.replicate 64 '0')
  deadlineAt := 1000000800000
  cancelSafe := true
  payload := .object []

theorem digit_cases (n : Nat) : isHexLower (digit n) = true ∧ digit n ≠ '-' ∧
    (digit n).toNat = 48 + n % 10 := by
  have hall : ∀ k < 10, isHexLower (Char.ofNat (48 + k)) = true ∧ Char.ofNat (48 + k) ≠ '-' ∧
      (Char.ofNat (48 + k)).toNat = 48 + k := by decide
  exact hall (n % 10) (Nat.mod_lt n (by decide))

theorem jobIdOf_isUuid (n : Nat) : isUuid (jobIdOf n) = true := by
  have hpl := fun m => (digit_cases m).2.1
  rw [isUuid, jobIdOf, String.toList_ofList, List.splitOn_intercalate]
  · simp [isHexGroup, (digit_cases _).1]
    decide
  · simp [List.replicate, Ne.symm (hpl _)]
  · exact List.cons_ne_nil _ _

theorem jobIdOf_inj {m n : Nat} (hm : m < 10000) (hn : n < 10000) (h : jobIdOf m = jobIdOf n) :
    m = n := by
  have hdig := String.ofList_injective h
  simp only [List.intercalate, List.replicate, List.intersperse, List.flatten_cons,
    List.flatten_nil, List.cons_append, List.nil_append, List.append_nil, List.cons.injEq,
    true_and, and_true] at hdig
  obtain ⟨hthousands, hhundreds, htens, hones⟩ := hdig
  have hval := fun {k l : Nat} (h : digit k = digit l) =>
    (digit_cases k).2.2.symm.trans ((congrArg Char.toNat h).trans (digit_cases l).2.2)
  have h₁ := hval hthousands
  have h₂ := hval hhundreds
  have h₃ := hval htens
  have h₄ := hval hones
  omega

theorem startOf_ok {jobId : String} (h : isUuid jobId = true) :
    validateAgentJobStart (startOf jobId) = .ok (requestOf jobId) := by
  have hid : ∀ label, requireString (.string jobId) label 1 1024 isUuid = .ok jobId :=
    fun label => requireString_isUuid.mpr ⟨rfl, h⟩
  have hop : ∀ label, requireString (.string operationId) label 1 1024 isUuid =
      .ok operationId := fun label => requireString_isUuid.mpr ⟨rfl, by decide +kernel⟩
  have hversion : requireInteger (ofInteger 1) "agentJobStart.protocolVersion" 1 1 = .ok 1 := by
    decide +kernel
  have haction : requireString (.string "agent.test.execute") "agentJobStart.actionId" 1 192
      Operations.isActionId = .ok "agent.test.execute" := by decide +kernel
  have hstep : requireString (.string "execute") "agentJobStart.step" 1 128 isStep =
      .ok "execute" := by decide +kernel
  have hhash : requireString (.string (String.ofList (List.replicate 64 '0')))
      "agentJobStart.requestHash" 1 1024 isSha256 =
      .ok (String.ofList (List.replicate 64 '0')) := by decide +kernel
  have hdate : requireIsoDate (.string "2001-09-09T02:00:00.000Z") "agentJobStart.deadlineAt" =
      .ok 1000000800000 := by decide +kernel
  have hsize : requireJsonSize (.object []) "agentJobStart.payload" = .ok () := by decide +kernel
  unfold validateAgentJobStart validateIdentity
  simp only [bind_ok]
  refine ⟨_, rfl, (), ?_, 1, hversion, _, ⟨jobId, hid _, operationId, hop _, rfl⟩, _,
    haction, _, hstep, _, hhash, _, hdate, true, rfl, (), hsize, rfl⟩
  unfold requireExactKeys
  simp only [List.map_cons, List.map_nil]
  decide +kernel

/-- A job is started, and its handler returns at once. -/
def oneJob (n : Nat) : List Input :=
  [.start (startOf (jobIdOf n)) fresh, .settle (jobIdOf n) (.returned .null)]

/-- A thousand jobs, and the START of another one. -/
def crowded : List Input :=
  [.attach, .register "agent.test.execute"] ++ (List.range 1000).flatMap oneJob ++
    [.start (startOf (jobIdOf 1000)) fresh]

/-- The runtime after `n` jobs. -/
structure Crowd (n : Nat) (r : Runtime) : Prop where
  attached : r.attached = true
  handlers : r.handlers = ["agent.test.execute"]
  clock : r.clock = now
  ids : r.ids = (List.range n).map jobIdOf
  finished : ∀ job ∈ r.jobs, job.terminal = true ∧ job.createdAt = now

variable {n : Nat} {r : Runtime}

/-- The START of the next job is admitted. -/
theorem Crowd.admitted (h : Crowd n r) (hn : n < 10000) :
    r.admitted? (.start (startOf (jobIdOf n)) fresh) = some (requestOf (jobIdOf n)) := by
  have hnew : jobIdOf n ∉ r.ids := by
    rw [h.ids]
    rintro hmem
    obtain ⟨m, hm, heq⟩ := List.mem_map.mp hmem
    rw [List.mem_range] at hm
    exact absurd (jobIdOf_inj (by omega) hn heq) (by omega)
  have hact : r.active = 0 := by
    refine List.countP_eq_zero.mpr fun job hjob => ?_
    rw [(h.finished job hjob).1]
    exact Bool.false_ne_true
  have hdl : r.clock.1 < (requestOf (jobIdOf n)).deadlineAt := by
    rw [h.clock]
    exact (by decide : (now : Time) < 1000000800000)
  rw [Runtime.admitted?, if_pos h.attached, startOf_ok (jobIdOf_isUuid n)]
  refine Option.filter_eq_some_iff.mpr ⟨rfl, ?_⟩
  simp only [Bool.and_eq_true, decide_eq_true_eq, hact, h.handlers]
  exact ⟨⟨⟨by simpa [requestOf] using hnew, hdl⟩, by decide⟩, List.elem_cons_self⟩

/-- None of the jobs can be evicted. -/
theorem Crowd.pruneJobs (h : Crowd n r) : r.pruneJobs = r := by
  have hkeep : ∀ rest : List RuntimeJob, (∀ job ∈ rest, job ∈ r.jobs) →
      Runtime.pruneLoop (r.clock - 3600000) rest r.jobs = r.jobs := by
    intro rest
    induction rest with
    | nil => exact fun _ => rfl
    | cons job rest ih =>
      intro hrest
      have hcr := (h.finished job (hrest job List.mem_cons_self)).2
      have hyoung : ¬ job.createdAt < r.clock - 3600000 := by
        rw [hcr, h.clock]
        decide
      simp only [Runtime.pruneLoop, hyoung, decide_false, Bool.and_false, Bool.false_eq_true,
        if_false, ih fun other hother => hrest other (List.mem_cons_of_mem job hother), ite_self]
  unfold Runtime.pruneJobs
  split
  · rfl
  · rw [hkeep _ fun job hjob => hjob]

theorem Crowd.length (h : Crowd n r) : r.jobs.rows.length = n := by
  have hlen := congrArg List.length h.ids
  rwa [Runtime.ids, List.length_map, List.length_map, List.length_range] at hlen

/-- **One more job.** -/
theorem Crowd.oneJob (h : Crowd n r) (hn : n < 1000) :
    Crowd (n + 1) ((r.react (.start (startOf (jobIdOf n)) fresh)).runtime.react
      (.settle (jobIdOf n) (.returned .null))).runtime := by
  have hfull : ¬ Runtime.MAX_JOBS ≤ r.pruneJobs.jobs.rows.length := by
    rw [h.pruneJobs, h.length]
    exact not_le.mpr hn
  obtain ⟨hnew, -, -, ⟨hmany, -⟩ | ⟨-, jobs, hrows, hreact⟩⟩ :=
    Runtime.react_admitted (h.admitted (by omega))
  · exact absurd hmany hfull
  · rw [hreact, h.pruneJobs]
    have hmem : r.newJob (requestOf (jobIdOf n)) ∈ jobs := by
      rw [Table.mem_def, hrows]
      exact List.mem_append_right _ (List.mem_singleton_self _)
    let r₁ : Runtime := { r with jobs := jobs }
    have hfind : r₁.find (jobIdOf n) = some (r.newJob (requestOf (jobIdOf n))) :=
      Runtime.find_of_mem (r := r₁) hmem
    have hsettle : (r₁.react (.settle (jobIdOf n) (.returned .null))).runtime =
        (r₁.settle (r.newJob (requestOf (jobIdOf n))) (.returned .null)).runtime := by
      simp only [Runtime.react, hfind]
      rfl
    change Crowd (n + 1) (r₁.react (.settle (jobIdOf n) (.returned .null))).runtime
    rw [hsettle]
    refine ⟨h.attached, h.handlers, h.clock, ?_, fun job hjob => ?_⟩
    · have hids : r₁.ids = r.ids ++ [jobIdOf n] := by
        rw [Runtime.ids, hrows, h.pruneJobs, List.map_append]
        rfl
      have hkept : Runtime.Kept r₁ (r₁.react (.settle (jobIdOf n) (.returned .null))).runtime :=
        Runtime.react_kept rfl
      rw [← hsettle, hkept.ids, hids, h.ids, List.range_succ, List.map_append]
      rfl
    · change job ∈ ((r₁.modify (jobIdOf n) (fun job => job.finish (.returned .null))
        fun job => (job.finish_kept _).1).number (jobIdOf n)).jobs at hjob
      rw [Runtime.number] at hjob
      by_cases hid : job.request.jobId = jobIdOf n
      · have hnow := Runtime.find_of_mem hjob
        rw [hid, Runtime.find_modify, Runtime.find_modify, hfind] at hnow
        obtain rfl := Option.some.inj hnow
        exact ⟨rfl, congrArg Subtype.val h.clock⟩
      · rcases Runtime.mem_modify hjob with hold | ⟨other, hother, rfl⟩
        · rcases Runtime.mem_modify hold with hold | ⟨other, hother, rfl⟩
          · rw [Table.mem_def, hrows, h.pruneJobs] at hold
            rcases List.mem_snoc.mp hold with hold | rfl
            · exact h.finished job hold
            · exact absurd rfl hid
          · rw [(other.finish_kept _).1] at hid
            exact absurd (Runtime.find_some hother).2 hid
        · exact absurd (Runtime.find_some hother).2 hid

end Sample

/-- **A START without an answer**: the thousand jobs before it are done, and none of them is an
hour old. -/
theorem crowded_unanswered :
    ¬ (Sample.crowded.foldl Watch.next (Watch.init Sample.boot Sample.now)).Once := by
  have hcrowd : ∀ n ≤ 1000, Sample.Crowd n (((List.range n).flatMap Sample.oneJob).foldl Watch.next
      ([.attach, .register "agent.test.execute"].foldl Watch.next
        (Watch.init Sample.boot Sample.now))).runtime := by
    intro n hn
    induction n with
    | zero => exact ⟨rfl, rfl, rfl, rfl, fun job hjob => absurd hjob List.not_mem_nil⟩
    | succ n ih =>
      rw [List.range_succ, List.flatMap_append, List.foldl_append]
      exact (ih (by omega)).oneJob (by omega)
  have hlast := hcrowd 1000 le_rfl
  rw [Sample.crowded, List.foldl_append, List.foldl_append]
  refine Watch.not_once_next (Watch.held_foldl _ (Watch.held_foldl _ (Watch.held_init _ _))) ?_
  rw [Watch.Remembered, hlast.admitted (by decide), Option.all_some, hlast.pruneJobs,
    hlast.length, decide_eq_false (by decide), Bool.and_false]
  exact Bool.false_ne_true

end Meowbox.AgentJobs
