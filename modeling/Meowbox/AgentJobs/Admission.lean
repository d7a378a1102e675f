import Meowbox.AgentJobs.Runtime
import Meowbox.AgentJobs.Outcome

/-!
# The panel admits what the runtime sends

The runtime shortens and defaults errors, results and progress on its own, and the panel's
validators bound them again. `RuntimeJob.Sound` is what the runtime keeps of a job so that every
message about it is well formed; `Admissible` is the condition on an input under which it does.

* `messages_admitted`: in every run whose inputs meet the condition, the panel admits every message
  sent, as it was sent, and records every result.
-/

namespace Meowbox.AgentJobs

open Relational JsData

/-! ## The texts of errors -/

/-- Every error is a text that is not empty. -/
def Speaks {α : Type} (x : Except String α) : Prop := ∀ message, x = .error message → message ≠ ""

theorem speaks_ok {α : Type} (a : α) : Speaks (.ok a : Except String α) := by
  intro message h
  exact absurd h (by simp)

theorem speaks_error {α : Type} {text : String} (h : text ≠ "") :
    Speaks (.error text : Except String α) := by
  intro message he
  cases he
  exact h

theorem speaks_bind {α β : Type} {x : Except String α} {f : α → Except String β} (hx : Speaks x)
    (hf : ∀ a, Speaks (f a)) : Speaks (x >>= f) := by
  cases x with
  | error text => exact speaks_error (hx text rfl)
  | ok a => exact hf a

/-- A text that begins with a text. -/
theorem append_ne_empty {s t : String} (h : s ≠ "") : s ++ t ≠ "" := by
  rw [Ne, String.append_eq_empty_iff]
  exact fun he => h he.1

theorem speaks_ensure {condition : Bool} {message : String} (h : message ≠ "") :
    Speaks (ensure condition message) := by
  unfold ensure
  split
  · exact speaks_ok ()
  · exact speaks_error h

theorem speaks_forM {α : Type} {f : α → Except String Unit} (hf : ∀ a, Speaks (f a))
    (as : List α) : Speaks (as.forM f) := by
  induction as with
  | nil => exact speaks_ok ()
  | cons a as ih => exact speaks_bind (hf a) fun _ => ih

section Checks

variable {label : String} (h : label ≠ "")

include h

theorem speaks_requireExactKeys (fields : List (String × JsValue)) (required optional : List String) :
    Speaks (requireExactKeys fields required optional label) := by
  unfold requireExactKeys
  have hkey : ∀ key suffix, label ++ "." ++ key ++ suffix ≠ "" := fun _ _ =>
    append_ne_empty (append_ne_empty (append_ne_empty h))
  refine speaks_bind (speaks_forM (fun key => speaks_ensure (hkey key _)) _) fun _ => ?_
  exact speaks_forM (fun key => speaks_ensure (hkey key _)) _

variable (value : JsValue)

theorem speaks_requireString (min max : Nat) (pattern : String → Bool) :
    Speaks (requireString value label min max pattern) := by
  unfold requireString
  split
  · split
    · exact speaks_ok _
    · exact speaks_error (append_ne_empty h)
  · exact speaks_error (append_ne_empty h)

theorem speaks_requireInteger (min max : Int) : Speaks (requireInteger value label min max) := by
  unfold requireInteger
  split
  · split
    · split
      · exact speaks_ok _
      · exact speaks_error (append_ne_empty h)
    · exact speaks_error (append_ne_empty h)
  · exact speaks_error (append_ne_empty h)

theorem speaks_requireBoolean : Speaks (requireBoolean value label) := by
  unfold requireBoolean
  split
  · exact speaks_ok _
  · exact speaks_error (append_ne_empty h)

theorem speaks_requireIsoDate : Speaks (requireIsoDate value label) := by
  unfold requireIsoDate
  refine speaks_bind (speaks_requireString h value 1 64 anyString) fun raw => ?_
  split
  · exact speaks_ok _
  · exact speaks_error (append_ne_empty h)

theorem speaks_validateIdentity (value : List (String × JsValue)) :
    Speaks (validateIdentity value label) := by
  unfold validateIdentity
  refine speaks_bind (speaks_requireString (append_ne_empty h) _ 1 1024 isUuid) fun _ => ?_
  exact speaks_bind (speaks_requireString (append_ne_empty h) _ 1 1024 isUuid) fun _ => speaks_ok _

theorem speaks_requireRecord : Speaks (requireRecord value label) := by
  unfold requireRecord
  split
  · exact speaks_ok _
  · exact speaks_error (append_ne_empty h)

theorem speaks_requireJsonSize : Speaks (requireJsonSize value label) := by
  have hsize : label ++ " exceeds " ++ toString MAX_PAYLOAD_BYTES ++ " bytes" ≠ "" :=
    append_ne_empty (append_ne_empty (append_ne_empty h))
  unfold requireJsonSize
  split
  · exact speaks_ensure hsize
  · exact speaks_error hsize

end Checks

/-- A refused start says what it was refused for. -/
theorem speaks_validateAgentJobStart (raw : JsValue) : Speaks (validateAgentJobStart raw) := by
  unfold validateAgentJobStart
  refine speaks_bind (speaks_requireRecord (by decide) raw) fun value => ?_
  refine speaks_bind (speaks_requireExactKeys (by decide) value _ _) fun _ => ?_
  refine speaks_bind (speaks_requireInteger (by decide) _ 1 1) fun _ => ?_
  refine speaks_bind (speaks_validateIdentity (by decide) value) fun _ => ?_
  refine speaks_bind (speaks_requireString (by decide) _ 1 192 _) fun _ => ?_
  refine speaks_bind (speaks_requireString (by decide) _ 1 128 isStep) fun _ => ?_
  refine speaks_bind (speaks_requireString (by decide) _ 1 1024 isSha256) fun _ => ?_
  refine speaks_bind (speaks_requireIsoDate (by decide) _) fun _ => ?_
  refine speaks_bind (speaks_requireBoolean (by decide) _) fun _ => ?_
  exact speaks_bind (speaks_requireJsonSize (by decide) _) fun _ => speaks_ok _

mutual

theorem speaks_assertSafeResult : ∀ (path : String) (value : JsValue),
    Speaks (assertSafeResult path value)
  | path, .array items => by rw [assertSafeResult]; exact speaks_assertSafeItems path 0 items
  | path, .object fields => by rw [assertSafeResult]; exact speaks_assertSafeMembers path fields
  | _, .undefined => speaks_ok ()
  | _, .null => speaks_ok ()
  | _, .boolean _ => speaks_ok ()
  | _, .number _ => speaks_ok ()
  | _, .nonFinite => speaks_ok ()
  | _, .string _ => speaks_ok ()

theorem speaks_assertSafeItems : ∀ (path : String) (index : Nat) (items : List JsValue),
    Speaks (assertSafeItems path index items)
  | _, _, [] => speaks_ok ()
  | path, index, v :: vs => by
    rw [assertSafeItems]
    exact speaks_bind (speaks_assertSafeResult _ v) fun _ => speaks_assertSafeItems path (index + 1) vs

theorem speaks_assertSafeMembers : ∀ (path : String) (fields : List (String × JsValue)),
    Speaks (assertSafeMembers path fields)
  | _, [] => speaks_ok ()
  | path, (key, nested) :: fs => by
    have htext : "Agent job result contains forbidden field: " ++ path ++ "." ++ key ≠ "" :=
      append_ne_empty (append_ne_empty (append_ne_empty (by decide)))
    rw [assertSafeMembers]
    split
    · exact speaks_error htext
    · exact speaks_bind (speaks_assertSafeResult _ nested) fun _ => speaks_assertSafeMembers path fs

end

theorem speaks_acceptResult (value : JsValue) : Speaks (acceptResult value) := by
  unfold acceptResult
  refine speaks_bind (speaks_assertSafeResult "result" value) fun _ => ?_
  refine speaks_bind (x := resultBytes value) ?_ fun _ => speaks_ensure (by decide)
  unfold resultBytes
  split
  · exact speaks_ok _
  · exact speaks_error (by decide)

/-! ## `safeMessage` -/

theorem sliceChars_length (cs : List Char) : ∀ max : Nat,
    ((sliceChars max cs).flatMap utf16).length ≤ max := by
  induction cs with
  | nil => simp [sliceChars]
  | cons c cs ih =>
    intro max
    unfold sliceChars
    split
    · rename_i hfits
      have hrest := ih (max - (utf16 c).length)
      rw [List.flatMap_cons, List.length_append]
      omega
    · simp

theorem redactAssignments_ne_nil (c : Char) (cs : List Char) :
    redactAssignments 0 (c :: cs) ≠ [] := by
  unfold redactAssignments
  split
  · simp
  · simp

/-- The text of an error that has one is readable. -/
theorem safeMessage_readable {message : String} (h : message ≠ "") :
    Readable (some (safeMessage (.error message))) := by
  unfold Readable
  simp only [Option.mem_def, Option.some.injEq, forall_eq']
  have hlen : ∀ s, jsLength (slice 4096 s) = ((sliceChars 4096 s.toList).flatMap utf16).length := by
    intro s
    simp [jsLength, slice]
  obtain ⟨c, cs, hchs⟩ : ∃ c cs, message.toList = c :: cs := by
    cases hm : message.toList with
    | nil => exact absurd (String.toList_eq_nil_iff.mp hm) h
    | cons c cs => exact ⟨c, cs, rfl⟩
  unfold safeMessage
  simp only [hlen, String.toList_ofList, hchs]
  refine ⟨?_, sliceChars_length _ 4096⟩
  obtain ⟨d, ds, hredacted⟩ := List.exists_cons_of_ne_nil (redactAssignments_ne_nil c cs)
  have hd := utf16_length d
  rw [hredacted, sliceChars, if_pos (by omega), List.flatMap_cons, List.length_append]
  omega

/-- The text for a value that is no error. -/
theorem safeMessage_other_readable : Readable (some (safeMessage .other)) := by
  have htext : ("Agent job failed" : String) ≠ "" := by decide
  exact safeMessage_readable htext

/-! ## Sound jobs -/

/-- What the runtime keeps of a job. -/
structure RuntimeJob.Sound (job : RuntimeJob) : Prop where
  identified : Identified job.request.jobId job.request.operationId
  step : isStep job.step = true
  progress : 0 ≤ job.progress ∧ job.progress ≤ 100
  sequence : Numbered 0 job.sequence
  readable : Readable job.error
  unfinished : job.terminal = false → job.error = none
  succeeded : job.state = .succeeded → job.error = none ∧ acceptResult job.result = .ok ()

def Runtime.Sound (r : Runtime) : Prop := ∀ job ∈ r.jobs, job.Sound

/-- A result the panel can record: the runtime accepted it. -/
def Message.Accepted : Message → Prop
  | .result m => acceptResult m.result = .ok ()
  | _ => True

/-- A message the panel admits. -/
structure Message.Sound (m : Message) : Prop where
  wellFormed : m.WellFormed
  dated : m.Dated
  accepted : m.Accepted

structure Reaction.Sound (x : Reaction) : Prop where
  jobs : x.runtime.Sound
  sent : ∀ m ∈ x.sent, m.Sound

/-- An accepted result fits a message. -/
theorem acceptResult_ok {value : JsValue} (h : acceptResult value = .ok ()) :
    assertSafeResult "result" value = .ok () ∧ FitsPayload value := by
  unfold acceptResult at h
  simp only [bind_ok] at h
  obtain ⟨_, hsafe, bytes, hbs, hsize⟩ := h
  refine ⟨hsafe, ?_⟩
  rw [ensure_ok, decide_eq_true_eq] at hsize
  unfold resultBytes at hbs
  split at hbs
  · rename_i encoded henc
    cases hbs
    exact ⟨encoded, henc, hsize⟩
  · exact absurd hbs (by simp)

theorem acceptResult_null : acceptResult .null = .ok () := by decide

theorem numbered_increment {n : Int} (h : 0 ≤ n) (hn : n < MAX_SAFE_INTEGER) :
    Numbered 1 (increment n) := by
  rw [increment, if_pos (by omega)]
  exact ⟨by omega, by omega⟩

theorem Numbered.weaken {n : Int} (h : Numbered 1 n) : Numbered 0 n := ⟨by have := h.1; omega, h.2⟩

/-- A handler does not end with an error without a text. -/
def Ending.speaks : Ending → Bool
  | .threw (.error message) => message != ""
  | _ => true

section Finish

variable {job : RuntimeJob} {ending : Ending}

theorem fail_sound (hjob : job.Sound) {error : Thrown} (h : Readable (some (safeMessage error))) :
    (job.fail error).Sound where
  __ := hjob
  readable := h
  unfinished hact := absurd hact (by simp [RuntimeJob.fail, RuntimeJob.terminal,
    TERMINAL_JOB_STATES])
  succeeded hst := absurd hst (by simp [RuntimeJob.fail])

/-- The job a handler leaves behind is sound, unless its error has no text. -/
theorem finish_sound (hjob : job.Sound) (hact : job.terminal = false)
    (hending : job.cancellationRequested = false → ending.speaks = true) :
    (job.finish ending).Sound := by
  unfold RuntimeJob.finish
  split
  · exact {
      identified := hjob.identified
      step := hjob.step
      progress := hjob.progress
      sequence := hjob.sequence
      readable := by
        unfold Readable
        simp only [Option.mem_def, Option.some.injEq, forall_eq']
        decide
      unfinished := fun h => absurd h (by simp [RuntimeJob.terminal, TERMINAL_JOB_STATES])
      succeeded := fun h => absurd h (by simp) }
  · rename_i hrequested
    have hspeaks := hending (Bool.eq_false_iff.mpr hrequested)
    cases ending with
    | threw error =>
      cases error with
      | error message =>
        simp only [Ending.speaks, bne_iff_ne] at hspeaks
        exact fail_sound hjob (safeMessage_readable hspeaks)
      | other => exact fail_sound hjob safeMessage_other_readable
    | returned value =>
      dsimp only
      split
      · rename_i message href
        exact fail_sound hjob (safeMessage_readable (speaks_acceptResult value message href))
      · rename_i hacc
        exact {
          identified := hjob.identified
          step := hjob.step
          progress := ⟨by simp, by simp⟩
          sequence := hjob.sequence
          readable := hjob.readable
          unfinished := fun h => absurd h (by simp [RuntimeJob.terminal, TERMINAL_JOB_STATES])
          succeeded := fun _ => ⟨hjob.unfinished hact, hacc⟩ }

end Finish

/-! ## Sound reactions -/

section Messages

variable {r : Runtime} {job : RuntimeJob}

/-- A result travels with the job's own value, or with `null`. -/
theorem carried_accepted (hjob : job.Sound) :
    acceptResult (if job.state = .succeeded then job.result else .null) = .ok () := by
  split
  · rename_i hst
    exact (hjob.succeeded hst).2
  · exact acceptResult_null

theorem started_sound (hjob : job.Sound) (replayed : Bool) :
    (Message.started (r.startedResponse job replayed)).Sound where
  wellFormed := ⟨hjob.identified, r.bootId.2, fun _ h => absurd h (by
    simp [Runtime.startedResponse]), rfl⟩
  dated := trivial
  accepted := trivial

theorem rejected_sound {jobId operationId error : String} (hid : Identified jobId operationId)
    (herr : Readable (some error)) :
    (Message.started (r.rejectedStart jobId operationId error)).Sound where
  wellFormed := ⟨hid, r.bootId.2, herr, rfl⟩
  dated := trivial
  accepted := trivial

theorem result_sound (hjob : job.Sound) (hseq : job.sequence < MAX_SAFE_INTEGER) :
    (Message.result (r.resultMessage job)).Sound where
  wellFormed := by
    refine ⟨hjob.identified, r.bootId.2, numbered_increment hjob.sequence.1 hseq,
      hjob.readable, fun hsuc => ?_, (acceptResult_ok (carried_accepted hjob)).2⟩
    have hst : job.state = .succeeded := beq_iff_eq.mp hsuc
    refine ⟨?_, (hjob.succeeded hst).1⟩
    simp [Runtime.resultMessage, hst]
  dated := r.clock.2
  accepted := carried_accepted hjob

theorem status_sound (hjob : job.Sound) : (Message.status (r.statusResponse job)).Sound where
  wellFormed := ⟨hjob.identified, r.bootId.2, hjob.sequence, hjob.progress, hjob.step,
    hjob.readable, (acceptResult_ok (carried_accepted hjob)).2⟩
  dated := trivial
  accepted := trivial

/-- The texts the runtime writes itself are readable. -/
theorem readable_some {text : String} (h : 1 ≤ jsLength text ∧ jsLength text ≤ 4096) :
    Readable (some text) := by
  unfold Readable
  simp only [Option.mem_def, Option.some.injEq, forall_eq']
  exact h

theorem missing_sound {jobId operationId : String} (hid : Identified jobId operationId) :
    (Message.status (r.missingStatus jobId operationId)).Sound where
  wellFormed := ⟨hid, r.bootId.2, ⟨by simp [Runtime.missingStatus], by
    simp [Runtime.missingStatus, MAX_SAFE_INTEGER]⟩, ⟨by simp [Runtime.missingStatus], by
    simp [Runtime.missingStatus]⟩, by simp only [Runtime.missingStatus]; decide,
    readable_some (by decide), (acceptResult_ok acceptResult_null).2⟩
  dated := trivial
  accepted := trivial

end Messages

section Reactions

variable {r : Runtime} {job : RuntimeJob} {jobId : String}

theorem reply_sound (hr : r.Sound) {messages : List Message} (h : ∀ m ∈ messages, m.Sound) :
    (r.reply messages).Sound := ⟨hr, h⟩

theorem reply_one (hr : r.Sound) {m : Message} (h : m.Sound) : (r.reply [m]).Sound :=
  reply_sound hr fun _ hm => List.mem_singleton.mp hm ▸ h

theorem reply_nothing (hr : r.Sound) : (r.reply []).Sound :=
  reply_sound hr fun _ hm => absurd hm List.not_mem_nil

theorem modify_sound (hr : r.Sound) {f : RuntimeJob → RuntimeJob}
    {hf : ∀ job, (f job).request = job.request}
    (h : ∀ job, r.find jobId = some job → (f job).Sound) : (r.modify jobId f hf).Sound := by
  intro job' hjob'
  rcases Runtime.mem_modify hjob' with hold | ⟨job, hfind, rfl⟩
  · exact hr job' hold
  · exact h job hfind

theorem number_sound (hr : r.Sound)
    (h : ∀ job, r.find jobId = some job → job.sequence < MAX_SAFE_INTEGER) :
    (r.number jobId).Sound := by
  refine modify_sound hr fun job hfind => ?_
  have hjob := hr job (Runtime.find_some hfind).1
  exact { hjob with
    sequence := (numbered_increment hjob.sequence.1 (h job hfind)).weaken }

theorem emitHeartbeat_sound (hr : r.Sound) (hfind : r.find job.request.jobId = some job)
    (hseq : job.sequence < MAX_SAFE_INTEGER) : (r.emitHeartbeat job).Sound := by
  have hjob := hr job (Runtime.find_some hfind).1
  unfold Runtime.emitHeartbeat
  split
  · exact reply_nothing hr
  · refine reply_sound (number_sound hr fun other hother => ?_) fun m hm => ?_
    · rw [hfind] at hother
      cases hother
      exact hseq
    · obtain rfl := Runtime.mem_emit hm
      exact ⟨⟨hjob.identified, r.bootId.2, numbered_increment hjob.sequence.1 hseq,
        hjob.progress, hjob.step⟩, r.clock.2, trivial⟩

theorem handlerHeartbeat_sound (hr : r.Sound) (hfind : r.find job.request.jobId = some job)
    (hseq : job.sequence < MAX_SAFE_INTEGER) (step : String) (progress : Option Int) :
    (r.handlerHeartbeat job step progress).Sound := by
  have hjob := hr job (Runtime.find_some hfind).1
  unfold Runtime.handlerHeartbeat
  split
  · exact reply_nothing hr
  · rename_i value hval
    have hbounds := (Option.filter_eq_some_iff.mp hval).2
    simp only [Bool.and_eq_true, decide_eq_true_eq] at hbounds
    split
    · exact reply_nothing hr
    · rename_i hstep
      have hch : ({ job with step := step, progress := value } : RuntimeJob).Sound :=
        { hjob with step := by simpa using hstep, progress := hbounds }
      refine emitHeartbeat_sound (modify_sound hr fun other hother => ?_) ?_ hseq
      · rw [hfind] at hother
        cases hother
        exact hch
      · rw [Runtime.find_modify, hfind, Option.map_some]

theorem settle_sound (hr : r.Sound) (hfind : r.find job.request.jobId = some job)
    (hact : job.terminal = false) (hseq : job.sequence < MAX_SAFE_INTEGER)
    {ending : Ending} (hending : job.cancellationRequested = false → ending.speaks = true) :
    (r.settle job ending).Sound := by
  have hjob := hr job (Runtime.find_some hfind).1
  have hdone := finish_sound hjob hact hending
  have hkept : (job.finish ending).sequence < MAX_SAFE_INTEGER := by
    rw [(job.finish_kept ending).2]
    exact hseq
  constructor
  · refine number_sound (modify_sound hr fun other hother => ?_) fun other hother => ?_
    · rw [hfind] at hother
      cases hother
      exact hdone
    · rw [Runtime.find_modify, hfind, Option.map_some] at hother
      cases hother
      exact hkept
  · intro m hm
    obtain rfl := Runtime.mem_emit hm
    exact result_sound hdone hkept

theorem requestCancellation_sound (hr : r.Sound) (hfind : r.find jobId = some job)
    (hact : job.terminal = false) : (r.requestCancellation jobId).Sound := by
  refine modify_sound hr fun other hother => ?_
  rw [hfind] at hother
  cases hother
  have hjob := hr job (Runtime.find_some hfind).1
  exact { hjob with
    unfinished := fun _ => hjob.unfinished hact
    succeeded := fun h => absurd h (by simp) }

theorem newJob_sound {raw : JsValue} {request : AgentJobStartRequest}
    (h : validateAgentJobStart raw = .ok request) : (r.newJob request).Sound where
  identified := ⟨(validateAgentJobStart_ok h).1, (validateAgentJobStart_ok h).2.1⟩
  step := (validateAgentJobStart_ok h).2.2
  progress := ⟨by simp [Runtime.newJob], by simp [Runtime.newJob]⟩
  sequence := ⟨by simp [Runtime.newJob], by simp [Runtime.newJob, MAX_SAFE_INTEGER]⟩
  readable := fun _ hm => absurd hm (by simp [Runtime.newJob])
  unfinished := fun _ => rfl
  succeeded := fun hs => absurd hs (by simp [Runtime.newJob])

end Reactions

/-! ## Inputs -/

/-- The job has a number left for another message. -/
def Runtime.CanNumber (r : Runtime) (jobId : String) : Prop :=
  ∀ job ∈ r.find jobId, job.sequence < MAX_SAFE_INTEGER

/-- The condition on an input: a refused start names UUIDs, a message can be numbered, and a handler
that was not cancelled does not end with an error without a text. -/
def Admissible (a : Agent) : Input → Prop
  | .start raw fresh => match validateAgentJobStart raw with
    | .error _ => Identified (Runtime.textOr raw "jobId" fresh.1)
        (Runtime.textOr raw "operationId" fresh.2)
    | .ok request => a.runtime.CanNumber request.jobId
  | .heartbeatTimer jobId => a.runtime.CanNumber jobId
  | .heartbeat jobId _ _ => a.runtime.CanNumber jobId
  | .settle jobId ending => a.runtime.CanNumber jobId ∧
      ∀ job ∈ a.runtime.find jobId, job.cancellationRequested = false → ending.speaks = true
  | _ => True

instance (r : Runtime) (jobId : String) : Decidable (r.CanNumber jobId) :=
  inferInstanceAs (Decidable (∀ job ∈ r.find jobId, job.sequence < MAX_SAFE_INTEGER))

instance (a : Agent) (input : Input) : Decidable (Admissible a input) := by
  cases input with
  | start raw fresh =>
    dsimp only [Admissible, Identified]
    generalize validateAgentJobStart raw = start
    cases start <;> infer_instance
  | _ => dsimp only [Admissible]; infer_instance

section Handlers

variable {r : Runtime}

theorem pruneJobs_sound (hr : r.Sound) : r.pruneJobs.Sound := fun job hjob =>
  hr job (Runtime.mem_pruneJobs hjob)

theorem handleStart_sound (hr : r.Sound) {raw : JsValue} {fresh : Uuid × Uuid}
    (herr : ∀ message, validateAgentJobStart raw = .error message →
      Identified (Runtime.textOr raw "jobId" fresh.1) (Runtime.textOr raw "operationId" fresh.2))
    (hok : ∀ request, validateAgentJobStart raw = .ok request → r.CanNumber request.jobId) :
    (r.handleStart raw fresh).Sound := by
  unfold Runtime.handleStart
  cases hsta : validateAgentJobStart raw with
  | error message =>
    have htext := safeMessage_readable (speaks_validateAgentJobStart raw message hsta)
    exact reply_one hr (rejected_sound (herr message hsta) htext)
  | ok request =>
    have hid : Identified request.jobId request.operationId :=
      (newJob_sound (r := r) hsta).identified
    have hreject : ∀ text, 1 ≤ jsLength text ∧ jsLength text ≤ 4096 →
        (r.reply [.started (r.rejectedStart request.jobId request.operationId text)]).Sound :=
      fun text htext => reply_one hr (rejected_sound hid (readable_some htext))
    dsimp only
    split
    · -- the job is known: a conflict, or the answer once more
      rename_i existing hfind
      have hexisting := hr existing (Runtime.find_some hfind).1
      have hseq := hok request hsta existing hfind
      split
      · exact hreject _ (by decide +kernel)
      · split
        · refine reply_sound (number_sound hr fun other hother => ?_) fun m hm => ?_
          · rw [hfind] at hother
            cases hother
            exact hseq
          · rcases List.mem_cons.mp hm with rfl | hm
            · exact started_sound hexisting true
            · obtain rfl := Runtime.mem_emit hm
              exact result_sound hexisting hseq
        · exact reply_one hr (started_sound hexisting true)
    · split
      · exact hreject _ (by decide +kernel)
      · split
        · exact hreject _ (by decide +kernel)
        · split
          · exact hreject _ (by decide +kernel)
          · split
            · exact reply_nothing (pruneJobs_sound hr)
            · split
              · rename_i jobs hcr
                have hjobs : ∀ job ∈ jobs, job.Sound := by
                  intro job hjob
                  rw [Table.mem_def, (Table.create?_eq_some hcr).1, List.mem_append,
                    List.mem_singleton] at hjob
                  rcases hjob with hold | rfl
                  · exact pruneJobs_sound hr job hold
                  · exact newJob_sound hsta
                refine ⟨hjobs, fun m hm => ?_⟩
                rcases List.mem_cons.mp hm with rfl | hm
                · exact started_sound (newJob_sound hsta) false
                · obtain rfl := Runtime.mem_emit hm
                  exact started_sound (newJob_sound hsta) false
              · exact reply_nothing (pruneJobs_sound hr)

theorem handleStatus_sound (hr : r.Sound) (raw : JsValue) (fresh : Uuid × Uuid) :
    (r.handleStatus raw fresh).Sound := by
  unfold Runtime.handleStatus
  split
  · exact reply_one hr (missing_sound ⟨fresh.1.2, fresh.2.2⟩)
  · rename_i request hreq
    split
    · exact reply_one hr (missing_sound (validateAgentJobStatusRequest_ok hreq))
    · rename_i job hjob
      obtain ⟨hfind, -⟩ := Option.filter_eq_some_iff.mp hjob
      exact reply_one hr (status_sound (hr job (Runtime.find_some hfind).1))

theorem cancelResult_sound {m : AgentJobCancelResult} (hid : Identified m.jobId m.operationId)
    (herr : Readable m.error) : (Message.cancelResult m).Sound := ⟨⟨hid, herr⟩, trivial, trivial⟩

theorem handleCancel_sound (hr : r.Sound) (raw : JsValue) (fresh : Uuid × Uuid) :
    (r.handleCancel raw fresh).Sound := by
  have hnone : Readable none := fun _ h => absurd h (by simp)
  unfold Runtime.handleCancel
  split
  · exact reply_one hr (cancelResult_sound ⟨fresh.1.2, fresh.2.2⟩ (readable_some (by decide +kernel)))
  · rename_i request hreq
    have hid : Identified request.jobId request.operationId :=
      validateAgentJobStatusRequest_ok hreq
    dsimp only
    split
    · exact reply_one hr (cancelResult_sound hid (readable_some (by decide +kernel)))
    · rename_i job hjob
      obtain ⟨hfind, -⟩ := Option.filter_eq_some_iff.mp hjob
      split
      · exact reply_one hr (cancelResult_sound hid hnone)
      · rename_i hact
        split
        · exact reply_one hr (cancelResult_sound hid (readable_some (by decide +kernel)))
        · exact reply_one
            (requestCancellation_sound hr hfind (Bool.eq_false_iff.mpr hact))
            (cancelResult_sound hid hnone)

/-- **One input.** -/
theorem react_sound {a : Agent} (hr : a.runtime.Sound) {input : Input} (h : Admissible a input) :
    (a.runtime.react input).Sound := by
  cases input with
  | clock now => exact reply_nothing hr
  | attach => exact reply_nothing hr
  | detach => exact reply_nothing hr
  | register actionId =>
    simp only [Runtime.react]
    split
    · exact reply_nothing hr
    · exact reply_nothing hr
  | unregister actionId => exact reply_nothing hr
  | start raw fresh =>
    simp only [Runtime.react]
    simp only [Admissible] at h
    split
    · refine handleStart_sound hr (fun message hm => ?_) fun request hok => ?_
      · rw [hm] at h
        exact h
      · rw [hok] at h
        exact h
    · exact reply_nothing hr
  | status raw fresh =>
    simp only [Runtime.react]
    split
    · exact handleStatus_sound hr raw fresh
    · exact reply_nothing hr
  | cancel raw fresh =>
    simp only [Runtime.react]
    split
    · exact handleCancel_sound hr raw fresh
    · exact reply_nothing hr
  | heartbeatTimer jobId =>
    simp only [Runtime.react]
    split
    · rename_i job hfind
      have hseq := h job hfind
      rw [← (Runtime.find_some hfind).2] at hfind
      exact emitHeartbeat_sound hr hfind hseq
    · exact reply_nothing hr
  | deadlineTimer jobId =>
    simp only [Runtime.react]
    split
    · rename_i job hjob
      obtain ⟨hfind, hg⟩ := Option.filter_eq_some_iff.mp hjob
      rw [← (Runtime.find_some hfind).2] at hfind
      simp only [Bool.and_eq_true, Bool.not_eq_true'] at hg
      exact reply_nothing (requestCancellation_sound hr hfind hg.2)
    · exact reply_nothing hr
  | heartbeat jobId step progress =>
    simp only [Runtime.react]
    split
    · rename_i job hfind
      have hseq := h job hfind
      rw [← (Runtime.find_some hfind).2] at hfind
      exact handlerHeartbeat_sound hr hfind hseq step progress
    · exact reply_nothing hr
  | settle jobId ending =>
    simp only [Runtime.react]
    split
    · rename_i job hjob
      obtain ⟨hfind, hact⟩ := Option.filter_eq_some_iff.mp hjob
      obtain ⟨hnumber, hending⟩ := h
      have hseq := hnumber job hfind
      have hspeaks := hending job hfind
      rw [← (Runtime.find_some hfind).2] at hfind
      simp only [Bool.not_eq_true'] at hact
      exact settle_sound hr hfind hact hseq hspeaks
    · exact reply_nothing hr

end Handlers

/-! ## Runs -/

/-- The states of the runs of a new runtime whose inputs all meet `G`. -/
abbrev AgentRun (G : Agent → Input → Prop) (bootId : Uuid) (clock : Instant) (a : Agent) : Prop :=
  Stepping.Reach Agent.step G (Agent.init bootId clock) a

/-- Everything sent in an admissible run is sound. -/
theorem run_sound {bootId : Uuid} {clock : Instant} {a : Agent}
    (hs : AgentRun Admissible bootId clock a) :
    a.runtime.Sound ∧ ∀ m ∈ a.sent, m.Sound := by
  induction hs with
  | init =>
    exact ⟨fun job hjob => absurd hjob List.not_mem_nil, fun m hm => absurd hm List.not_mem_nil⟩
  | step _ hok hstep ih =>
    obtain ⟨hr, hsent⟩ := ih
    have hreaction := react_sound hr hok
    cases hstep
    refine ⟨hreaction.jobs, fun m hm => ?_⟩
    rcases List.mem_append.mp hm with hold | hnew
    · exact hsent m hold
    · exact hreaction.sent m hnew

/-! ## What the panel records -/

mutual

/-- The panel finds no secret where the runtime found none. -/
theorem noSecretFields_of_safe : ∀ (path label : String) (value : JsValue) {j : JsonText.Json},
    assertSafeResult path value = .ok () → toJson? value = some j →
      assertNoSecretFields label (ofJson j) = .ok ()
  | _, _, .undefined, _, _, h => by simp [toJson?] at h
  | _, _, .null, _, _, h => by cases h; rfl
  | _, _, .boolean _, _, _, h => by cases h; rfl
  | _, _, .number _, _, _, h => by cases h; rfl
  | _, _, .nonFinite, _, _, h => by cases h; rfl
  | _, _, .string _, _, _, h => by cases h; rfl
  | path, label, .array items, _, hsafe, h => by
    cases h
    rw [assertSafeResult] at hsafe
    rw [ofJson, assertNoSecretFields]
    exact noSecretItems_of_safe path label 0 0 items hsafe
  | path, label, .object fields, _, hsafe, h => by
    cases h
    rw [assertSafeResult] at hsafe
    rw [ofJson, assertNoSecretFields]
    exact noSecretMembers_of_safe path label fields hsafe

theorem noSecretItems_of_safe : ∀ (path label : String) (index place : Nat) (items : List JsValue),
    assertSafeItems path index items = .ok () →
      assertNoSecretItems label place (ofJsonItems (toJsonItems items)) = .ok ()
  | _, _, _, _, [], _ => rfl
  | path, label, index, place, v :: vs, hsafe => by
    rw [assertSafeItems, bind_ok] at hsafe
    obtain ⟨_, hv, hvs⟩ := hsafe
    rw [toJsonItems, ofJsonItems, assertNoSecretItems, bind_ok]
    refine ⟨(), ?_, noSecretItems_of_safe path label (index + 1) (place + 1) vs hvs⟩
    cases hj : toJson? v with
    | none => rfl
    | some j => exact noSecretFields_of_safe _ _ v hv hj

theorem noSecretMembers_of_safe : ∀ (path label : String) (fields : List (String × JsValue)),
    assertSafeMembers path fields = .ok () →
      assertNoSecretMembers label (ofJsonMembers (toJsonMembers fields)) = .ok ()
  | _, _, [], _ => rfl
  | path, label, (key, nested) :: fs, hsafe => by
    rw [assertSafeMembers] at hsafe
    split at hsafe
    · exact absurd hsafe (by simp)
    · rename_i hkey
      obtain ⟨_, hnested, hfs⟩ := bind_ok.mp hsafe
      have hrest := noSecretMembers_of_safe path label fs hfs
      rw [toJsonMembers]
      cases hj : toJson? nested with
      | none => exact hrest
      | some j =>
        have hfield := noSecretFields_of_safe _ (label ++ "." ++ key) nested hnested hj
        simp only [ofJsonMembers, assertNoSecretMembers]
        rw [if_neg (by simp [hkey])]
        exact bind_ok.mpr ⟨(), hfield, hrest⟩

end

/-- The first thing `recordResult` does with the message is its update. -/
def Recordable (host : Host) (m : AgentJobResult) : Prop :=
  ∃ next, Method.recordResult host m = .ask (.write (.recordResult m (stableJson m.result)
    ((truthy m.error).map fun error => slice 4096 (host.safeErrorMessage error)))) next

/-- What the runtime accepted the panel can record. -/
theorem recordable_of_accepted (host : Host) {m : AgentJobResult}
    (h : acceptResult m.result = .ok ()) :
    Recordable host { m with result := overWire m.result } := by
  obtain ⟨hsafe, encoded, henc, hsize⟩ := acceptResult_ok h
  have hsto := stableJson_overWire_size henc
  obtain ⟨j, hj, -⟩ := Option.map_eq_some_iff.mp henc
  have hsecrets : assertNoSecretFields "agentJob.result" (overWire m.result) = .ok () := by
    rw [overWire, hj, Option.map_some, Option.getD_some]
    exact noSecretFields_of_safe _ _ m.result hsafe hj
  have hfits : ¬ MAX_JOB_PAYLOAD_BYTES < (stableJson (overWire m.result)).utf8ByteSize := by
    rw [hsto, MAX_JOB_PAYLOAD_BYTES]
    rw [MAX_PAYLOAD_BYTES] at hsize
    omega
  unfold Recordable Method.recordResult
  simp only [hsecrets]
  rw [if_neg hfits]
  exact ⟨_, rfl⟩

/-- **The panel admits every message and can record every result**, in every run whose inputs meet
the condition. -/
theorem messages_admitted {bootId : Uuid} {clock : Instant} {a : Agent}
    (hs : AgentRun Admissible bootId clock a) :
    (∀ m ∈ a.sent, m.arrives = .ok m.received) ∧
      ∀ (host : Host) (m : AgentJobResult), .result m ∈ a.sent →
        Recordable host { m with result := overWire m.result } := by
  obtain ⟨-, hsent⟩ := run_sound hs
  constructor
  · intro m hm
    exact (arrives_iff (hsent m hm).dated).mpr ⟨(hsent m hm).wellFormed, rfl⟩
  · intro host m hm
    exact recordable_of_accepted host (hsent _ hm).accepted

/-! ### A handler that fails -/

namespace Sample

def boot : Uuid := ⟨bootId, by decide +kernel⟩

def fresh : Uuid × Uuid := (boot, boot)

/-- 2001-09-09. -/
def now : Instant := ⟨1000000000000, by decide⟩

/-- The start of a job, as the panel sends it. -/
def startMessage : JsValue :=
  .object [("protocolVersion", ofInteger 1), ("jobId", .string jobId),
    ("operationId", .string operationId), ("actionId", .string "agent.test.execute"),
    ("step", .string "execute"),
    ("requestHash", .string (String.ofList (List.replicate 64 '0'))),
    ("deadlineAt", .string "2001-09-09T02:00:00.000Z"), ("cancelSafe", .boolean true),
    ("payload", .object [])]

/-- The panel asks for the status of the job. -/
def statusMessage : JsValue :=
  .object [("jobId", .string jobId), ("operationId", .string operationId)]

/-- A job is started, its handler reports and ends, and its status is asked for. -/
def execution (ending : Ending) : List Input :=
  [.attach, .register "agent.test.execute", .start startMessage fresh,
    .heartbeat jobId "work" (some 50), .settle jobId ending, .status statusMessage fresh]

end Sample

/-- The text a message is refused with. -/
def Message.refusal (m : Message) : Option String :=
  match m.arrives with
  | .ok _ => none
  | .error text => some text

/-- The condition is met by a handler whose error has a text: the started, heartbeat, result and
status messages are admitted. -/
theorem messages_admitted_failure : ∃ a : Agent,
    (a.settled.map (fun outcome => (outcome.state, outcome.error)) =
        [(.failed, some "token=[REDACTED] expired")] ∧ a.sent.length = 5) ∧
      (∀ m ∈ a.sent, m.arrives = .ok m.received) ∧
      ∀ (host : Host) (m : AgentJobResult), .result m ∈ a.sent →
        Recordable host { m with result := overWire m.result } := by
  have hrun : (Stepping.run Agent.step Admissible (Agent.init Sample.boot Sample.now)
      (Sample.execution (.threw (.error "token: abc expired")))).any (fun a : Agent => decide (
        a.settled.map (fun outcome => (outcome.state, outcome.error)) =
          [(.failed, some "token=[REDACTED] expired")] ∧ a.sent.length = 5)) = true := by
    decide +kernel
  obtain ⟨a, hs, hfail⟩ := Stepping.Reach.of_run_any hrun
  exact ⟨a, hfail, messages_admitted hs⟩

/-- Every input. -/
abbrev anyInput : Agent → Input → Prop := fun _ _ => True

/-- **An error without a text loses its outcome**: the handler throws `new Error('')`, the runtime
records the job as failed, and the panel refuses both messages that say so. -/
theorem silent_error_refused : ∃ a : Agent, AgentRun anyInput Sample.boot Sample.now a ∧
    a.settled.map (fun outcome => (outcome.state, outcome.error)) = [(.failed, some "")] ∧
    a.sent.map Message.refusal = [none, none, none, some "agentJobResult.error is invalid",
      some "agentJobStatus.error is invalid"] := by
  have hrun : (Stepping.run Agent.step anyInput (Agent.init Sample.boot Sample.now)
      (Sample.execution (.threw (.error "")))).any (fun a : Agent => decide (
        a.settled.map (fun outcome => (outcome.state, outcome.error)) = [(.failed, some "")] ∧
        a.sent.map Message.refusal = [none, none, none, some "agentJobResult.error is invalid",
          some "agentJobStatus.error is invalid"])) = true := by
    decide +kernel
  obtain ⟨a, hs, hout, href⟩ := Stepping.Reach.of_run_any hrun
  exact ⟨a, hs, hout, href⟩

end Meowbox.AgentJobs
