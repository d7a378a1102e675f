import Meowbox.AgentJobs.Runtime

/-!
# The panel and one boot of the agent

`Link` is `AgentJobService` with all its calls in flight next to one `AgentJobRuntime` and
everything that runtime has sent. The channel between them may lose, repeat and reorder messages:
`deliver i` hands the panel the `i`-th message ever sent, whenever and as often as it happens. The
panel learns of heartbeats, results and statuses in no other way; every other call of the service
happens as it does without an agent.
-/

namespace Meowbox.AgentJobs

open Relational JsData Interleaved

structure Link where
  panel : State
  agent : Agent

/-- The jobs the panel has stored. -/
def Link.jobs (l : Link) : AgentJobTable := l.panel.jobs

inductive LinkEvent
  | panel (a : Action)
  | agent (input : Input)
  | deliver (i : Nat)

/-- The request would report on a job: such calls come from messages. -/
def reports : Action → Bool
  | .call (.recordHeartbeat _) => true
  | .call (.recordResult _) => true
  | .call (.recordStatus _) => true
  | _ => false

/-- The call a message leads to. -/
def Message.request : Message → Option Request
  | .started m => some (.recordStarted m)
  | .heartbeat m => some (.recordHeartbeat m)
  | .result m => some (.recordResult m)
  | .status m => some (.recordStatus m)
  | .cancelResult m => some (.recordCancelOutcome m.jobId m.outcome.text)

/-- The call a message leads to when it arrives; a message that is refused leads to none. -/
def Message.delivered (m : Message) : Option Request :=
  match m.arrives with
  | .ok arrived => arrived.request
  | .error _ => none

namespace Link

variable (host : Host)

/-- The panel takes a step. -/
def onPanel (l : Link) (a : Action) : Option Link :=
  (Pool.step (agentJobService host) l.panel a).map fun panel => { l with panel := panel }

def step (l : Link) : LinkEvent → Option Link
  | .panel a => if reports a then none else l.onPanel host a
  | .agent input => (l.agent.step input).map fun agent => { l with agent := agent }
  | .deliver i => ((l.agent.sent[i]?).bind Message.delivered).bind fun request =>
      l.onPanel host (.call request)

/-- The instruction of the panel an event performs. -/
def issued (l : Link) : LinkEvent → Option Instr
  | .panel a => l.panel.issued a
  | _ => none

/-- A panel without jobs and a runtime that has just been constructed. -/
def init (bootId : Uuid) (clock : Instant) : Link := ⟨State.init, Agent.init bootId clock⟩

/-- The events whose instruction, if they perform one, meets `G` in what it finds. -/
def Within (G : View → Instr → Prop) (l : Link) (e : LinkEvent) : Prop :=
  ∀ instr ∈ l.issued e, G l.panel.store instr

instance (G : View → Instr → Prop) [∀ v i, Decidable (G v i)] (l : Link) (e : LinkEvent) :
    Decidable (Within G l e) :=
  inferInstanceAs (Decidable (∀ instr ∈ l.issued e, G l.panel.store instr))

/-- The states of the runs from `l₀` whose instructions all meet `G`. -/
abbrev RunsTo (G : View → Instr → Prop) (l₀ l : Link) : Prop :=
  Stepping.Reach (step host) (Within G) l₀ l

variable {host} {l l' : Link}

/-- **One event**: the runtime reacts, or the panel takes a step whose new call, if it makes one,
is not a report or comes from a message that was sent. -/
theorem step_cases {e : LinkEvent} (h : l.step host e = some l') :
    (∃ input, e = .agent input ∧ l.agent.step input = some l'.agent ∧ l'.panel = l.panel) ∨
      ∃ a, Pool.step (agentJobService host) l.panel a = some l'.panel ∧ l'.agent = l.agent ∧
        l.issued e = l.panel.issued a ∧
        ∀ request, a = .call request → reports a = false ∨
          ∃ m ∈ l.agent.sent, m.delivered = some request := by
  have hpanel : ∀ a, l.onPanel host a = some l' →
      Pool.step (agentJobService host) l.panel a = some l'.panel ∧ l'.agent = l.agent := by
    intro a ha
    obtain ⟨panel, hstep, rfl⟩ := Option.map_eq_some_iff.mp ha
    exact ⟨hstep, rfl⟩
  cases e with
  | panel a =>
    simp only [step] at h
    split at h
    · exact absurd h (by simp)
    · rename_i hqt
      obtain ⟨hstep, hag⟩ := hpanel a h
      exact .inr ⟨a, hstep, hag, rfl, fun _ _ => .inl (Bool.eq_false_iff.mpr hqt)⟩
  | agent input =>
    simp only [step] at h
    obtain ⟨agent, hstep, rfl⟩ := Option.map_eq_some_iff.mp h
    exact .inl ⟨input, rfl, hstep, rfl⟩
  | deliver i =>
    simp only [step] at h
    obtain ⟨request, hreq, h⟩ := Option.bind_eq_some_iff.mp h
    obtain ⟨m, hm, hdlv⟩ := Option.bind_eq_some_iff.mp hreq
    obtain ⟨hstep, hag⟩ := hpanel (.call request) h
    refine .inr ⟨.call request, hstep, hag, rfl, fun other hother => .inr ⟨m, ?_, ?_⟩⟩
    · exact List.mem_of_getElem? hm
    · cases hother
      exact hdlv

end Link

/-! ## What the agent says was recorded -/

/-- The outcome is the terminal one a job of the agent came to. -/
def Settling (settled : List JobOutcome) (o : JobOutcome) : Prop :=
  o ∈ settled ∧ [AgentJobState.succeeded, .failed, .cancelled].contains o.state = true

/-- A finished job has its outcome recorded. -/
def RuntimeJob.Traced (settled : List JobOutcome) (job : RuntimeJob) : Prop :=
  job.terminal = true → Settling settled job.outcome

/-- The message reports an outcome of the agent, if it reports one. -/
def Message.Traced (settled : List JobOutcome) : Message → Prop
  | .result m => isInstant m.timestamp = true ∧ ∃ o, Settling settled o ∧ o.jobId = m.jobId ∧
      o.operationId = m.operationId ∧ o.state = m.state ∧ (m.success = true ↔ o.state = .succeeded) ∧
      m.result = (if o.state = .succeeded then o.result else .null) ∧ o.error = m.error
  | .status m => m.success = true → TERMINAL_JOB_STATES.contains m.state = true →
      ∃ o, Settling settled o ∧ o.jobId = m.jobId ∧ o.operationId = m.operationId ∧
        o.state = m.state ∧ m.result = (if o.state = .succeeded then o.result else .null) ∧
        o.error = m.error
  | _ => True

section Traced

variable {settled settled' : List JobOutcome}

theorem Settling.mono (h : ∀ o ∈ settled, o ∈ settled') {o : JobOutcome}
    (ho : Settling settled o) : Settling settled' o := ⟨h o ho.1, ho.2⟩

theorem RuntimeJob.Traced.mono (h : ∀ o ∈ settled, o ∈ settled') {job : RuntimeJob}
    (hjob : job.Traced settled) : job.Traced settled' := fun ht => (hjob ht).mono h

theorem Message.Traced.mono (h : ∀ o ∈ settled, o ∈ settled') {m : Message}
    (hm : m.Traced settled) : m.Traced settled' := by
  cases m with
  | result m =>
    obtain ⟨hdt, o, ho, hrest⟩ := hm
    exact ⟨hdt, o, ho.mono h, hrest⟩
  | status m =>
    intro hsuc hterm
    obtain ⟨o, ho, hrest⟩ := hm hsuc hterm
    exact ⟨o, ho.mono h, hrest⟩
  | _ => trivial

/-- The jobs and the messages of a reaction. -/
structure Reaction.Traced (settled : List JobOutcome) (x : Reaction) : Prop where
  jobs : ∀ job ∈ x.runtime.jobs, job.Traced settled
  sent : ∀ m ∈ x.sent, m.Traced settled

variable {r : Runtime} {job : RuntimeJob} {jobId : String}

/-- A job whose outcome and state are another's. -/
theorem traced_congr {job' : RuntimeJob} (hjob : job.Traced settled)
    (h : job'.outcome = job.outcome) : job'.Traced settled := by
  intro hterm
  have hst : job'.state = job.state := congrArg JobOutcome.state h
  rw [RuntimeJob.terminal, hst] at hterm
  rw [h]
  exact hjob hterm

theorem resultMessage_traced (hjob : job.Traced settled) (hterm : job.terminal = true) :
    (Message.result (r.resultMessage job)).Traced settled := by
  have ho := hjob hterm
  refine ⟨r.clock.2, job.outcome, ho, rfl, rfl, ?_, ?_, rfl, rfl⟩
  · have hsts := ho.2
    simp only [RuntimeJob.outcome, List.contains_iff_mem, List.mem_cons, List.not_mem_nil,
      or_false] at hsts
    unfold AgentJobResult.state Runtime.resultMessage RuntimeJob.outcome
    rcases hsts with h | h | h <;> simp [h]
  · simp [Runtime.resultMessage, RuntimeJob.outcome]

theorem statusResponse_traced (hjob : job.Traced settled) :
    (Message.status (r.statusResponse job)).Traced settled := fun _ hterm =>
  ⟨job.outcome, hjob hterm, rfl, rfl, rfl, rfl, rfl⟩

theorem reply_traced (hr : ∀ job ∈ r.jobs, job.Traced settled) {messages : List Message}
    (h : ∀ m ∈ messages, m.Traced settled) : (r.reply messages).Traced settled := ⟨hr, h⟩

/-- A change that leaves the outcome of the job it finds as it is, or traces the new one. -/
theorem modify_traced (hr : ∀ job ∈ r.jobs, job.Traced settled)
    {f : RuntimeJob → RuntimeJob} {hf : ∀ job, (f job).request = job.request}
    (h : ∀ job, r.find jobId = some job → (f job).Traced settled) :
    ∀ job ∈ (r.modify jobId f hf).jobs, job.Traced settled := by
  intro job' hjob'
  rcases Runtime.mem_modify hjob' with hold | ⟨job, hfind, rfl⟩
  · exact hr job' hold
  · exact h job hfind

theorem number_traced (hr : ∀ job ∈ r.jobs, job.Traced settled) :
    ∀ job ∈ (r.number jobId).jobs, job.Traced settled :=
  modify_traced hr fun job hfind => traced_congr (hr job (Runtime.find_some hfind).1) rfl

theorem emitHeartbeat_traced (hr : ∀ job ∈ r.jobs, job.Traced settled) :
    (r.emitHeartbeat job).Traced settled := by
  unfold Runtime.emitHeartbeat
  split
  · exact reply_traced hr fun _ hm => absurd hm List.not_mem_nil
  · refine reply_traced (number_traced hr) fun m hm => ?_
    obtain rfl := Runtime.mem_emit hm
    trivial

/-- How a handler's end settles a job. -/
theorem finish_terminal (job : RuntimeJob) (ending : Ending) :
    [AgentJobState.succeeded, .failed, .cancelled].contains (job.finish ending).state = true := by
  unfold RuntimeJob.finish RuntimeJob.fail
  split
  · rfl
  · split
    · rfl
    · split <;> rfl

theorem settle_traced (hr : ∀ job ∈ r.jobs, job.Traced settled)
    (hfind : r.find job.request.jobId = some job) (ending : Ending)
    (h : (job.finish ending).outcome ∈ settled) : (r.settle job ending).Traced settled := by
  have hdone : (job.finish ending).Traced settled := fun _ => ⟨h, finish_terminal job ending⟩
  constructor
  · refine number_traced (modify_traced hr fun other hother => ?_)
    rw [hfind] at hother
    cases hother
    exact hdone
  · intro m hm
    obtain rfl := Runtime.mem_emit hm
    refine resultMessage_traced hdone ?_
    have hsts := finish_terminal job ending
    simp only [List.contains_iff_mem, List.mem_cons, List.not_mem_nil, or_false] at hsts
    unfold RuntimeJob.terminal
    rcases hsts with hs | hs | hs <;> rw [hs] <;> decide

theorem requestCancellation_traced (hr : ∀ job ∈ r.jobs, job.Traced settled) :
    ∀ job ∈ (r.requestCancellation jobId).jobs, job.Traced settled :=
  modify_traced hr fun _ _ hterm => absurd hterm (by
    simp [RuntimeJob.terminal, TERMINAL_JOB_STATES])

theorem handleStart_traced (hr : ∀ job ∈ r.jobs, job.Traced settled) (raw : JsValue)
    (fresh : Uuid × Uuid) : (r.handleStart raw fresh).Traced settled := by
  have hone : ∀ m : AgentJobStarted, (r.reply [.started m]).Traced settled := by
    intro m
    refine reply_traced hr fun other hm => ?_
    rw [List.mem_singleton.mp hm]
    trivial
  have hpru : ∀ job ∈ r.pruneJobs.jobs, job.Traced settled := fun job hjob =>
    hr job (Runtime.mem_pruneJobs hjob)
  have hno : (r.pruneJobs.reply []).Traced settled :=
    reply_traced hpru fun _ hm => absurd hm List.not_mem_nil
  unfold Runtime.handleStart
  split
  · exact hone _
  · rename_i request hreq
    dsimp only
    split
    · rename_i existing hfind
      split
      · exact hone _
      · split
        · rename_i hterm
          refine reply_traced (number_traced hr) fun m hm => ?_
          rcases List.mem_cons.mp hm with rfl | hm
          · trivial
          · obtain rfl := Runtime.mem_emit hm
            exact resultMessage_traced (hr existing (Runtime.find_some hfind).1) hterm
        · exact hone _
    · split
      · exact hone _
      · split
        · exact hone _
        · split
          · exact hone _
          · split
            · exact hno
            · split
              · rename_i jobs hcr
                refine ⟨fun job hjob => ?_, fun m hm => ?_⟩
                · rw [Runtime.reply, Table.mem_def, (Table.create?_eq_some hcr).1,
                    List.mem_append, List.mem_singleton] at hjob
                  rcases hjob with hold | rfl
                  · exact hpru job hold
                  · exact fun hterm => absurd hterm (by
                      simp [Runtime.newJob, RuntimeJob.terminal, TERMINAL_JOB_STATES])
                · rcases List.mem_cons.mp hm with rfl | hm
                  · trivial
                  · obtain rfl := Runtime.mem_emit hm
                    trivial
              · exact hno

theorem handleStatus_traced (hr : ∀ job ∈ r.jobs, job.Traced settled) (raw : JsValue)
    (fresh : Uuid × Uuid) : (r.handleStatus raw fresh).Traced settled := by
  have hone : ∀ m : AgentJobStatus, (Message.status m).Traced settled →
      (r.reply [.status m]).Traced settled := fun m h =>
    reply_traced hr fun other hm => List.mem_singleton.mp hm ▸ h
  have hmis : ∀ jobId operationId,
      (Message.status (r.missingStatus jobId operationId)).Traced settled := fun _ _ hsuc =>
    absurd hsuc (by simp [Runtime.missingStatus])
  unfold Runtime.handleStatus
  split
  · exact hone _ (hmis _ _)
  · split
    · exact hone _ (hmis _ _)
    · rename_i job hjob
      obtain ⟨hfind, -⟩ := Option.filter_eq_some_iff.mp hjob
      exact hone _ (statusResponse_traced (hr job (Runtime.find_some hfind).1))

theorem handleCancel_traced (hr : ∀ job ∈ r.jobs, job.Traced settled) (raw : JsValue)
    (fresh : Uuid × Uuid) : (r.handleCancel raw fresh).Traced settled := by
  have hone : ∀ (other : Runtime) (m : AgentJobCancelResult),
      (∀ job ∈ other.jobs, job.Traced settled) → (other.reply [.cancelResult m]).Traced settled := by
    intro other m hother
    refine reply_traced hother fun answer hm => ?_
    rw [List.mem_singleton.mp hm]
    trivial
  unfold Runtime.handleCancel
  split
  · exact hone _ _ hr
  · dsimp only
    split
    · exact hone _ _ hr
    · split
      · exact hone _ _ hr
      · split
        · exact hone _ _ hr
        · exact hone _ _ (requestCancellation_traced hr)

/-- **One input**: the outcomes it records are those its jobs and messages speak of. -/
theorem react_traced (hr : ∀ job ∈ r.jobs, job.Traced settled) (input : Input)
    (h : ∀ o ∈ (r.react input).settled, o ∈ settled) : (r.react input).Traced settled := by
  have hqt : ∀ other : Runtime, other.jobs = r.jobs → (other.reply []).Traced settled := by
    intro other hjobs
    exact ⟨hjobs ▸ hr, fun _ hm => absurd hm List.not_mem_nil⟩
  cases input with
  | clock now => exact hqt _ rfl
  | attach => exact hqt _ rfl
  | detach => exact hqt _ rfl
  | register actionId =>
    simp only [Runtime.react]
    split
    · exact hqt _ rfl
    · exact hqt _ rfl
  | unregister actionId => exact hqt _ rfl
  | start raw fresh =>
    simp only [Runtime.react]
    split
    · exact handleStart_traced hr raw fresh
    · exact hqt _ rfl
  | status raw fresh =>
    simp only [Runtime.react]
    split
    · exact handleStatus_traced hr raw fresh
    · exact hqt _ rfl
  | cancel raw fresh =>
    simp only [Runtime.react]
    split
    · exact handleCancel_traced hr raw fresh
    · exact hqt _ rfl
  | heartbeatTimer jobId =>
    simp only [Runtime.react]
    split
    · exact emitHeartbeat_traced hr
    · exact hqt _ rfl
  | deadlineTimer jobId =>
    simp only [Runtime.react]
    split
    · exact reply_traced (requestCancellation_traced hr) fun _ hm => absurd hm List.not_mem_nil
    · exact hqt _ rfl
  | heartbeat jobId step progress =>
    simp only [Runtime.react]
    split
    · unfold Runtime.handlerHeartbeat
      split
      · exact hqt _ rfl
      · split
        · exact hqt _ rfl
        · exact emitHeartbeat_traced (modify_traced hr fun job hfind =>
            traced_congr (hr job (Runtime.find_some hfind).1) rfl)
    · exact hqt _ rfl
  | settle jobId ending =>
    simp only [Runtime.react] at h ⊢
    split
    · rename_i job hjob
      obtain ⟨hfind, -⟩ := Option.filter_eq_some_iff.mp hjob
      rw [← (Runtime.find_some hfind).2] at hfind
      rw [hjob] at h
      exact settle_traced hr hfind ending (h _ (List.mem_singleton.mpr rfl))
    · exact hqt _ rfl

end Traced

/-- What the agent's jobs and messages say of outcomes is recorded. -/
structure Agent.Traced (a : Agent) : Prop where
  jobs : ∀ job ∈ a.runtime.jobs, job.Traced a.settled
  sent : ∀ m ∈ a.sent, m.Traced a.settled

theorem agent_traced {a a' : Agent} {input : Input} (ha : a.Traced)
    (h : a.step input = some a') : a'.Traced ∧ ∀ o ∈ a.settled, o ∈ a'.settled := by
  cases h
  have hkept : ∀ o ∈ a.settled, o ∈ a.settled ++ (a.runtime.react input).settled := fun o ho =>
    List.mem_append_left _ ho
  have hreaction := react_traced (fun job hjob => (ha.jobs job hjob).mono hkept) input
    fun o ho => List.mem_append_right _ ho
  refine ⟨⟨hreaction.jobs, fun m hm => ?_⟩, hkept⟩
  rcases List.mem_append.mp hm with hold | hnew
  · exact (ha.sent m hold).mono hkept
  · exact hreaction.sent m hnew

/-! ## What the panel is about to store -/

/-- The columns the panel stores for an outcome of the agent. -/
def Host.stored (host : Host) (o : JobOutcome) : AgentJobState × Option String × Option String :=
  (o.state, if o.state = .succeeded then some (stableJson (overWire o.result)) else none,
    (truthy o.error).map fun error => slice 4096 (host.safeErrorMessage error))

/-- An outcome the instruction stores is one the agent has recorded. -/
def StoresOutcome (host : Host) (settled : List JobOutcome) : Instr → Prop
  | .write (.recordResult m resultJson errorMessage) => ∃ o, Settling settled o ∧
      o.jobId = m.jobId ∧ o.operationId = m.operationId ∧
      host.stored o = (m.state, if m.success then some resultJson else none, errorMessage)
  | .write (.reportUnknown _ _ _) => False
  | _ => True

section Calls

variable {host : Host} {settled settled' : List JobOutcome}

theorem StoresOutcome.mono (h : ∀ o ∈ settled, o ∈ settled') (i : Instr)
    (hi : StoresOutcome host settled i) : StoresOutcome host settled' i := by
  unfold StoresOutcome at hi ⊢
  split
  · obtain ⟨o, ho, hrest⟩ := hi
    exact ⟨o, ho.mono h, hrest⟩
  · exact hi
  · trivial

/-- A write that stores no outcome, and what follows it. -/
theorem issues_perform {w : Write} {next : Reply → Program}
    (hw : StoresOutcome host settled (.write w))
    (hnext : ∀ reply, (next reply).Issues (StoresOutcome host settled)) :
    (perform w next).Issues (StoresOutcome host settled) := by
  refine ⟨hw, fun reply => ?_⟩
  cases reply with
  | error fault => trivial
  | ok reply => exact hnext reply

/-- A call that is no report stores no outcome. -/
theorem issues_quiet {request : Request} (h : reports (.call request) = false) :
    (request.program host).Issues (StoresOutcome host settled) := by
  cases request with
  | prepare input =>
    simp only [Request.program, Method.prepare]
    split
    · trivial
    · split
      · trivial
      · refine ⟨trivial, fun now => ?_⟩
        dsimp only
        split
        · trivial
        · split
          · trivial
          · exact issues_perform trivial fun reply => trivial
  | recordStarted started =>
    simp only [Request.program, Method.recordStarted]
    refine ⟨trivial, fun db => ?_⟩
    dsimp only
    split
    · trivial
    · split
      · trivial
      · split
        · exact ⟨trivial, fun now => issues_perform trivial fun reply => trivial⟩
        · split
          · trivial
          · split
            · trivial
            · exact ⟨trivial, fun startedAt => ⟨trivial, fun now =>
                issues_perform trivial fun reply => trivial⟩⟩
  | bindToBoot jobId bootId =>
    refine issues_perform trivial fun reply => ?_
    split
    · trivial
    · refine ⟨trivial, fun db => ?_⟩
      dsimp only
      split
      · trivial
      · split
        · trivial
        · trivial
  | requestCancel jobId => exact ⟨trivial, fun now => issues_perform trivial fun reply => trivial⟩
  | recordCancelOutcome jobId outcome => exact issues_perform trivial fun reply => trivial
  | markInterruptedByNewBoot bootId =>
    exact ⟨trivial, fun now => issues_perform trivial fun reply => trivial⟩
  | markDeadlineUnknown jobId =>
    exact ⟨trivial, fun now => issues_perform trivial fun reply => trivial⟩
  | recordHeartbeat heartbeat => exact absurd h (by simp [reports])
  | recordResult result => exact absurd h (by simp [reports])
  | recordStatus status => exact absurd h (by simp [reports])

/-- `recordResult` stores what the message says. -/
theorem issues_recordResult {m : AgentJobResult}
    (h : StoresOutcome host settled (.write (.recordResult m (stableJson m.result)
      ((truthy m.error).map fun error => slice 4096 (host.safeErrorMessage error))))) :
    (Method.recordResult host m).Issues (StoresOutcome host settled) := by
  unfold Method.recordResult
  split
  · trivial
  · dsimp only
    split
    · trivial
    · exact issues_perform h fun reply => trivial

/-- What a status that settles a job is recorded as. -/
theorem issues_recordStatus {m : AgentJobStatus}
    (h : m.success = true → TERMINAL_JOB_STATES.contains m.state = true →
      ∃ o, Settling settled o ∧ o.jobId = m.jobId ∧ o.operationId = m.operationId ∧
        o.state = m.state ∧ (o.state = .succeeded → overWire o.result = m.result) ∧
        o.error = m.error) :
    (Method.recordStatus host m).Issues (StoresOutcome host settled) := by
  unfold Method.recordStatus
  split
  · trivial
  · rename_i hsuc
    have hfnd := h (by simpa using hsuc)
    split
    · rename_i hst
      refine ⟨trivial, fun now => Prog.issues_bind (fun outcome => ?_) (issues_recordResult ?_)⟩
      · split
        · trivial
        · trivial
      · simp only [List.contains_iff_mem, List.mem_cons, List.not_mem_nil, or_false] at hst
        obtain ⟨o, ho, hjob, hop, hsame, hres, herr⟩ := hfnd (by
          rcases hst with hs | hs | hs <;> rw [hs] <;> decide)
        refine ⟨o, ho, hjob, hop, ?_⟩
        unfold Host.stored AgentJobResult.state
        rcases hst with hs | hs | hs
        · simp [hsame, hs, herr, hres (hsame.trans hs)]
        · simp [hsame, hs, herr]
        · simp [hsame, hs, herr]
    · rename_i hst
      refine ⟨trivial, fun now => ?_⟩
      dsimp only
      split
      · -- the agent never says that it does not know
        rename_i hunknown
        obtain ⟨o, ho, -, -, hsame, -⟩ := hfnd (by rw [hunknown]; decide)
        have hsts := ho.2
        rw [hsame] at hsts
        exact absurd hsts hst
      · exact issues_perform trivial fun reply => trivial

/-- A call a message leads to stores an outcome of the agent, if it stores one. -/
theorem issues_delivered {m : Message} {request : Request} (hm : m.Traced settled)
    (h : m.delivered = some request) :
    (request.program host).Issues (StoresOutcome host settled) := by
  unfold Message.delivered at h
  split at h
  · rename_i arrived harrives
    cases m with
    | started m =>
      obtain ⟨_, -, rfl⟩ := map_ok.mp harrives
      cases h
      exact issues_quiet rfl
    | heartbeat m =>
      obtain ⟨_, -, rfl⟩ := map_ok.mp harrives
      cases h
      exact issues_perform trivial fun reply => trivial
    | result m =>
      obtain ⟨hdt, o, ho, hjob, hop, hst, hsuc, hres, herr⟩ := hm
      obtain ⟨_, hval, rfl⟩ := map_ok.mp harrives
      obtain ⟨-, rfl⟩ := (result_arrives hdt).mp hval
      cases h
      refine issues_recordResult ⟨o, ho, hjob, hop, ?_⟩
      have hsto : o.state = AgentJobResult.state { m with result := overWire m.result } := hst
      unfold Host.stored
      rw [← hsto, herr]
      by_cases hs : o.state = .succeeded
      · rw [if_pos hs, if_pos (hsuc.mpr hs)]
        rw [if_pos hs] at hres
        rw [hres]
      · rw [if_neg hs, if_neg fun hm => hs (hsuc.mp hm)]
    | status m =>
      obtain ⟨_, hval, rfl⟩ := map_ok.mp harrives
      obtain ⟨-, rfl⟩ := status_arrives.mp hval
      cases h
      refine issues_recordStatus fun hsuc hterm => ?_
      obtain ⟨o, ho, hjob, hop, hst, hres, herr⟩ := hm hsuc hterm
      refine ⟨o, ho, hjob, hop, hst, fun hs => ?_, herr⟩
      rw [if_pos hs] at hres
      rw [hres]
    | cancelResult m =>
      obtain ⟨_, -, rfl⟩ := map_ok.mp harrives
      cases h
      exact issues_quiet rfl
  · exact absurd h (by simp)

end Calls

/-- What both sides say of outcomes is recorded by the agent. -/
structure Link.Traced (host : Host) (l : Link) : Prop where
  agent : l.agent.Traced
  calls : ∀ p ∈ l.panel.calls, p.Issues (StoresOutcome host l.agent.settled)

variable {host : Host} {l l' : Link}

theorem init_traced (bootId : Uuid) (clock : Instant) : (Link.init bootId clock).Traced host where
  agent := ⟨fun _ hjob => absurd hjob List.not_mem_nil, fun _ hm => absurd hm List.not_mem_nil⟩
  calls := fun _ hp => absurd hp List.not_mem_nil

/-- **One event**: both sides stay traced, and an instruction the panel performs stores an outcome
of the agent, if it stores one. -/
theorem step_traced {e : LinkEvent} (hl : l.Traced host) (h : l.step host e = some l') :
    l'.Traced host ∧ ∀ instr ∈ l.issued e, StoresOutcome host l.agent.settled instr := by
  rcases Link.step_cases h with ⟨input, rfl, hstep, hpanel⟩ | ⟨a, hstep, hag, hiss, hcall⟩
  · obtain ⟨hag, hgrows⟩ := agent_traced hl.agent hstep
    refine ⟨⟨hag, fun p hp => ?_⟩, fun instr hi => absurd hi (by simp [Link.issued])⟩
    rw [hpanel] at hp
    exact (hl.calls p hp).mono (StoresOutcome.mono hgrows)
  · have hcalls := Pool.step_calls hstep hl.calls fun request hreq => by
      rcases hcall request hreq with hqt | ⟨m, hm, hdlv⟩
      · rw [hreq] at hqt
        exact issues_quiet hqt
      · exact issues_delivered (hl.agent.sent m hm) hdlv
    rw [hiss]
    refine ⟨⟨?_, ?_⟩, hcalls.2⟩
    · rw [hag]
      exact hl.agent
    · rw [hag]
      exact hcalls.1

/-- **Whatever the panel is about to store for a result is an outcome the agent has recorded.** -/
theorem link_traced {G : View → Instr → Prop} {bootId : Uuid} {clock : Instant}
    (hs : Link.RunsTo host G (Link.init bootId clock) l) : l.Traced host := by
  induction hs with
  | init => exact init_traced bootId clock
  | step _ _ hstep ih => exact (step_traced ih hstep).1

end Meowbox.AgentJobs
