import Meowbox.Lib.Phases
import Meowbox.PanelAccess.Cutover

/-!
# What the calls of a cutover know

A call of the master may know how the target has ended a cutover, and it may then record that; a
handler of the target may know it, and may then answer it. `Stage` is that knowledge, and `cutover`
the protocol of it: an end is recorded only by a call that has been told of it, the journal ends
only by a handler of a request about the cutover, and only what a handler has read or written is
answered.

* `mutate_ended`: only the two mutations that end a cutover do.
* `registryCall_plain`, `registryCall_decided`: what the methods of the registry do to the stage of
  their caller.
-/

namespace Meowbox.PanelAccess

open Interleaved Fallible Meowbox.Registry Meowbox.Operations

/-! ## Ends -/

/-- How a cutover may end. -/
inductive Outcome
  | finalized
  | rolledBack
deriving DecidableEq

namespace Outcome

def other : Outcome → Outcome
  | finalized => rolledBack
  | rolledBack => finalized

/-- On the target. -/
def target : Outcome → TargetState
  | finalized => .finalized
  | rolledBack => .rolledBack

/-- On the master. -/
def master : Outcome → CutoverState
  | finalized => .finalized
  | rolledBack => .rolledBack

theorem ne_other (o : Outcome) : o ≠ o.other := by cases o <;> decide

theorem target_injective {o p : Outcome} (h : o.target = p.target) : o = p := by
  cases o <;> cases p <;> first | rfl | cases h

end Outcome

def TargetState.outcome? : TargetState → Option Outcome
  | finalized => some .finalized
  | rolledBack => some .rolledBack
  | prepared | staging | staged | finalizing | rollingBack | needsAttention => none

theorem TargetState.outcome?_eq_some {s : TargetState} {o : Outcome} :
    s.outcome? = some o ↔ s = o.target := by
  cases s <;> cases o <;> decide

/-- The cutover that a mutation ends. -/
def endOf : Mutation → Option (String × CutoverState)
  | .finalizeEndpointCutover cutoverId => some (cutoverId, .finalized)
  | .rollbackEndpointCutover cutoverId _ => some (cutoverId, .rolledBack)
  | _ => none

/-- The registry has a cutover in this state. -/
def ended (x : RegistryDb) (cutoverId : String) (state : CutoverState) : Prop :=
  ∃ row ∈ x.remoteServer, ∃ c ∈ row.cutovers, c.id = cutoverId ∧ c.state = state

instance (x : RegistryDb) (cutoverId : String) (state : CutoverState) :
    Decidable (ended x cutoverId state) :=
  inferInstanceAs (Decidable (∃ row ∈ x.remoteServer, ∃ c ∈ row.cutovers,
    c.id = cutoverId ∧ c.state = state))

/-! ### Mutations of the registry -/

section Mutations

variable {x x' : RegistryDb} {H : RegistryHost} {generation : Nat} {changed : Bool}
  {value : RegistryValue} {cutoverId : String} {state : CutoverState}

/-- Every cutover of the row that has ended had, or is the one of `e`. -/
def KeepsEnds (e : Option (String × CutoverState)) (row row' : RemoteServer) : Prop :=
  ∀ c' ∈ row'.cutovers, c'.state.terminal = true →
    (∃ c ∈ row.cutovers, c.id = c'.id ∧ c.state = c'.state) ∨ e = some (c'.id, c'.state)

theorem KeepsEnds.of_eq {e : Option (String × CutoverState)} {row row' : RemoteServer}
    (h : row'.cutovers = row.cutovers) : KeepsEnds e row row' :=
  fun c hc _ => .inl ⟨c, h ▸ hc, rfl, rfl⟩

/-- A cutover is set to a state that is no end, or to the end in question. -/
theorem KeepsEnds.setCutover {e : Option (String × CutoverState)} {row row' : RemoteServer}
    {state : CutoverState} {code : Option String} (h : row'.cutovers = row.cutovers)
    (hst : state.terminal = true → e = some (cutoverId, state)) :
    KeepsEnds e row (row'.setCutover cutoverId state code) := by
  intro c' hc' hterm
  obtain ⟨c, hc, rfl⟩ := List.mem_map.mp hc'
  rw [h] at hc
  by_cases hid : c.id = cutoverId
  · have hto : (c.id == cutoverId) = true := by simpa using hid
    rw [if_pos hto] at hterm ⊢
    exact .inr (hid ▸ hst hterm)
  · have hto : ¬(c.id == cutoverId) = true := by simpa using hid
    rw [if_neg hto]
    exact .inl ⟨c, hc, rfl, rfl⟩

theorem ended_update {e : Option (String × CutoverState)} (id : String)
    {f : RemoteServer → RemoteServer} (hf : ∀ row, KeepsEnds e row (f row))
    (hrows : x'.remoteServer = (x.updateServer id f).remoteServer)
    (h : ended x' cutoverId state) (hterm : state.terminal = true) :
    ended x cutoverId state ∨ e = some (cutoverId, state) := by
  obtain ⟨row', hrow', c', hc', rfl, rfl⟩ := h
  rw [hrows] at hrow'
  obtain ⟨row, hrow, rfl⟩ := List.mem_map.mp hrow'
  split at hc'
  · rcases hf row c' hc' hterm with ⟨c, hc, hid, hst⟩ | he
    · exact .inl ⟨row, hrow, c, hc, hid, hst⟩
    · exact .inr he
  · exact .inl ⟨row, hrow, c', hc', rfl, rfl⟩

/-- **Only two mutations end a cutover.** -/
theorem mutate_ended {m : Mutation} (hm : mutate H x generation m = .ok (changed, value, x'))
    (h : ended x' cutoverId state) (hterm : state.terminal = true) :
    ended x cutoverId state ∨ endOf m = some (cutoverId, state) := by
  cases m with
  | addLegacyServer record tokenEnc =>
    simp only [mutate, addLegacyServer] at hm
    split at hm
    · cases hm
    · cases hm
      obtain ⟨row, hrow, c, hc, hend⟩ := h
      rcases List.mem_snoc.mp hrow with hold | rfl
      · exact .inl ⟨row, hold, c, hc, hend⟩
      · cases hc
  | removeLegacyServer id =>
    simp only [mutate, removeLegacyServer] at hm
    split at hm
    · cases hm
    · cases hm
      obtain ⟨row, hrow, hend⟩ := h
      exact .inl ⟨row, (List.mem_filter.mp hrow).1, hend⟩
  | commitFederatedEnrollment input =>
    simp only [mutate, commitFederatedEnrollment] at hm
    repeat' split at hm
    all_goals first
      | exact absurd hm conflict_ne_ok
      | cases hm
    obtain ⟨row, hrow, c, hc, hend⟩ := h
    rcases List.mem_snoc.mp hrow with hold | rfl
    · exact .inl ⟨row, hold, c, hc, hend⟩
    · cases hc
  | prepareEndpointCutover id serverId deadlineAt =>
    simp only [mutate, prepareEndpointCutover] at hm
    repeat' split at hm
    all_goals first
      | exact absurd hm conflict_ne_ok
      | cases hm
    · exact .inl h
    · refine ended_update _ (fun row c' hc' hc'' => ?_) rfl h hterm
      rcases List.mem_snoc.mp hc' with hold | rfl
      · exact .inl ⟨c', hold, rfl, rfl⟩
      · cases hc''
  | stageEndpointCutover | activateEndpointCutover | markEndpointCutoverNeedsAttention =>
    simp only [mutate, stageEndpointCutover, activateEndpointCutover,
      markEndpointCutoverNeedsAttention] at hm
    repeat' split at hm
    all_goals first
      | exact absurd hm conflict_ne_ok
      | cases hm
    all_goals first
      | exact .inl h
      | refine ended_update _ (fun row => ?_) rfl h hterm
        exact KeepsEnds.setCutover rfl fun hend => by cases hend
  | finalizeEndpointCutover id =>
    simp only [mutate, finalizeEndpointCutover] at hm
    repeat' split at hm
    all_goals first
      | exact absurd hm conflict_ne_ok
      | cases hm
    · exact .inl h
    · refine ended_update _ (fun row => ?_) rfl h hterm
      exact KeepsEnds.setCutover rfl fun _ => rfl
  | rollbackEndpointCutover id code =>
    simp only [mutate, rollbackEndpointCutover] at hm
    repeat' split at hm
    all_goals first
      | exact absurd hm conflict_ne_ok
      | cases hm
    · exact .inl h
    · refine ended_update _ (fun row => ?_) rfl h hterm
      refine KeepsEnds.setCutover ?_ fun _ => rfl
      unfold RemoteServer.restore
      dsimp only
      split <;> rfl
  | updateFederationRollout | prepareFederationKeyRotation | activateFederationKeyRotation
  | revokeFederationTrust | updateLegacyServer =>
    simp only [mutate, updateFederationRollout, prepareFederationKeyRotation,
      activateFederationKeyRotation, revokeFederationTrust, updateLegacyServer] at hm
    repeat' split at hm
    all_goals first
      | exact absurd hm conflict_ne_ok
      | cases hm
    all_goals first
      | exact .inl h
      | refine ended_update _ (fun row => ?_) rfl h hterm
        exact KeepsEnds.of_eq rfl

/-- The cutover that a statement of the registry may end. -/
def endOfInstr : RegistryInstr → Option (String × CutoverState)
  | .transact m => endOf m
  | _ => none

/-- **Statements of the registry.** -/
theorem answer_ended (i : RegistryInstr) (h : ended (answer H i x).2 cutoverId state)
    (hterm : state.terminal = true) :
    ended x cutoverId state ∨ endOfInstr i = some (cutoverId, state) := by
  have hfz : ∀ (y : RegistryDb) at?, ended (y.setFrozen at?) cutoverId state →
      ended y cutoverId state := by
    rintro y at? ⟨row', hrow', c, hc, hend⟩
    obtain ⟨row, hrow, rfl⟩ := List.mem_map.mp hrow'
    exact ⟨row, hrow, c, hc, hend⟩
  cases i with
  | getLocalIdentity | latestJournal | renderDbProjection | findServer => exact .inl h
  | transact m =>
    simp only [answer, transact] at h
    split at h
    · exact .inl h
    split at h
    · exact .inl h
    · exact .inl h
    · rename_i hm
      split at h
      · exact .inl h
      · exact mutate_ended hm h hterm
  | writeFile content =>
    simp only [answer, RegistryDb.writeFile] at h
    split at h <;> exact .inl h
  | commitJournal journalId =>
    simp only [answer, RegistryDb.statement] at h
    split at h <;> exact .inl h
  | freezeProjection journalId | repairJournal journalId =>
    simp only [answer, RegistryDb.statement] at h
    split at h
    · exact .inl h
    · exact .inl (hfz _ _ h)
  | recordTrust serverId trustState trustReasonCode =>
    simp only [answer, RegistryDb.updateTrust] at h
    split at h
    · exact .inl h
    · refine ended_update _ (fun row => ?_) rfl h hterm
      exact KeepsEnds.of_eq rfl

end Mutations

/-! ## Stages -/

/-- The cutover a request asks the target about. -/
def TargetRequest.cutoverId? : TargetRequest → Option String
  | .status cutoverId | .finalize cutoverId | .rollback cutoverId => some cutoverId
  | .stage _ | .operation _ | .cancelOperation _ => none

/-- What the master concludes from an answer. -/
def TargetRequest.conclusion : TargetRequest → TargetData → Option (String × Outcome)
  | .status cutoverId, data =>
    (data.state?.bind TargetState.outcome?).map fun o => (cutoverId, o)
  | .finalize cutoverId, data =>
    if data.state? = some .finalized then some (cutoverId, .finalized) else none
  | .rollback cutoverId, _ => some (cutoverId, .rolledBack)
  | .stage _, _ | .operation _, _ | .cancelOperation _, _ => none

inductive Stage
  | plain
  /-- The master waits for the answer to a message. -/
  | waiting (n : Nat) (request : TargetRequest)
  /-- The master was told how the target has ended a cutover. -/
  | decided (cutoverId : String) (outcome : Outcome)
  /-- The target handles a message. -/
  | serving (n : Nat) (request : TargetRequest)
  /-- The target handles a message about a cutover, and has found or made it ended so. -/
  | holds (n : Nat) (request : TargetRequest) (outcome : Outcome)
deriving DecidableEq

namespace Stage

/-- The target handles the message, and knows so much of the cutover. -/
def about (n : Nat) (request : TargetRequest) : Option Outcome → Stage
  | none => serving n request
  | some outcome => holds n request outcome

/-- The message that a call waits for or handles. -/
def message? : Stage → Option (Nat × TargetRequest)
  | waiting n request | serving n request | holds n request _ => some (n, request)
  | plain | decided _ _ => none

/-- The message that a call handles. -/
def handles? : Stage → Option (Nat × TargetRequest)
  | serving n request | holds n request _ => some (n, request)
  | plain | decided _ _ | waiting _ _ => none

/-- Statements of the registry that a call may perform. -/
def mayPerform : Stage → RegistryInstr → Prop
  | plain, i => endOfInstr i = none
  | decided cutoverId outcome, i =>
    endOfInstr i = none ∨ endOfInstr i = some (cutoverId, outcome.master)
  | _, _ => False

/-- A handler answers what it has read or written. -/
def mayAnswer (y : Stage) (n : Nat) (response : TargetResponse) : Prop :=
  ∃ request known, y = about n request known ∧
    (∀ journal outcome, response = .ok (.journal journal) → journal.state = outcome.target →
      known = some outcome) ∧
    ∀ cutoverId data, request = .rollback cutoverId → response = .ok data →
      ∃ journal, data = .journal journal ∧ journal.state = .rolledBack

def allows (y : Stage) : CutoverInstr → Prop
  | .registry i => y.mayPerform i
  | .send _ | .take _ => y = plain
  | .receive n => ∃ request, y = waiting n request
  | .setJournal journal => journal.state.outcome? = none ∧ (y = plain ∨ y.handles?.isSome)
  | .setSettingsAndJournal _ journal => journal.state.outcome?.isSome ∧
      ∃ n request, y.handles? = some (n, request) ∧ request.cutoverId? = some journal.cutoverId
  | .respond n response => y.mayAnswer n response
  | _ => True

/-- The stage behind an answer. -/
def received (request : TargetRequest) : Option TargetResponse → Stage
  | some (.ok data) =>
    match request.conclusion data with
    | some (cutoverId, outcome) => decided cutoverId outcome
    | none => plain
  | _ => plain

/-- The stage behind the journal. -/
def seen (n : Nat) (request : TargetRequest) : Option TargetJournal → Stage
  | some journal =>
    if request.cutoverId? = some journal.cutoverId then about n request journal.state.outcome?
    else serving n request
  | none =>
    match request with
    | .rollback _ => holds n request .rolledBack
    | _ => serving n request

def after : Stage → (i : CutoverInstr) → Reply i → Stage
  | plain, .send request, n => waiting n request
  | waiting _ request, .receive _, response => received request response
  | decided _ _, .registry (.transact _), _ => plain
  | decided cutoverId outcome, .registry .latestJournal, latest =>
    if authorityOf latest ≠ .db then plain else decided cutoverId outcome
  | decided cutoverId outcome, .registry .getLocalIdentity, identity =>
    if identity.installationRole ≠ "MASTER" then plain else decided cutoverId outcome
  | decided _ _, .verifyCandidate _, _ => plain
  | plain, .take n, some request => serving n request
  | serving n request, .getJournal, journal => seen n request journal
  | holds n request _, .setJournal _, _ => serving n request
  | serving n request, .setSettingsAndJournal _ journal, _ =>
    about n request journal.state.outcome?
  | holds n request _, .setSettingsAndJournal _ journal, _ =>
    about n request journal.state.outcome?
  | serving _ _, .respond _ _, _ => plain
  | holds _ _ _, .respond _ _, _ => plain
  | y, _, _ => y

end Stage

def cutover : Protocol Stage CutoverInstr Reply where
  allows := Stage.allows
  after := Stage.after

/-! ## Methods of the registry -/

section RegistryCalls

variable {α : Type} {H : RegistryHost}

/-- A statement that ends no cutover. -/
abbrev NoEnd (i : RegistryInstr) : Prop := endOfInstr i = none

theorem performs_commitMutationDecision {m : Mutation} (hm : endOf m = none) :
    Performs NoEnd (commitMutationDecision m) := by
  unfold commitMutationDecision assertControlPlane commitPrepared
  refine performs_bind (performs_bind (performs_ask rfl) fun identity => ?_) fun _ =>
    performs_bind (performs_ask rfl) fun latest => ?_
  · split
    · exact performs_throw _
    · exact performs_pure _
  · split
    · exact performs_throw _
    · refine performs_bind (performs_ask? hm) fun prepared => ?_
      split
      · exact performs_pure _
      · refine performs_bind (performs_attempt (performs_bind (performs_ask? rfl) fun _ =>
          performs_ask? rfl)) fun written => ?_
        split
        · exact performs_pure _
        · exact performs_bind (performs_ask? rfl) fun _ => performs_throw _

theorem performs_check {p : Prop} [Decidable p] {e : RegistryError} {c : RegistryCall α}
    (hc : Performs NoEnd c) : Performs NoEnd (if p then throw e else c) := by
  split
  · exact performs_throw _
  · exact hc

/-- **Other requests of the registry end no cutover.** -/
theorem performs_request (request : RegistryRequest) (h : endsCutover request = false) :
    Performs NoEnd (requestProgram H request) := by
  cases request with
  | finalizeEndpointCutover cutoverId => cases h
  | rollbackEndpointCutover cutoverId code => cases h
  | updateFederationRollout | revokeFederationTrust | activateEndpointCutover
  | markEndpointCutoverNeedsAttention => exact performs_commitMutationDecision rfl
  | prepareFederationKeyRotation serverId key now =>
    refine performs_bind (performs_ask rfl) fun identity => performs_check ?_
    refine performs_bind (performs_ask rfl) fun found => ?_
    split
    · exact performs_throw _
    · exact performs_commitMutationDecision rfl
  | activateFederationKeyRotation serverId newKid graceUntil now =>
    refine performs_check (performs_bind (performs_ask rfl) fun identity => performs_check ?_)
    exact performs_commitMutationDecision rfl
  | addLegacyServer input =>
    refine performs_bind (performs_ofExcept _) fun record => ?_
    refine performs_bind (performs_ofExcept _) fun _ => ?_
    exact performs_bind (performs_ofExcept _) fun tokenEnc => performs_commitMutationDecision rfl
  | updateLegacyServer id patch =>
    refine performs_bind (performs_ask rfl) fun found => ?_
    split
    · exact performs_throw _
    · refine performs_bind (performs_ofExcept _) fun current => ?_
      refine performs_bind (performs_ofExcept _) fun next => ?_
      have hrest : Performs NoEnd (do
          let tokenEnc ← Fallible.ofExcept
            (H.encryptLegacyToken id next.token next.tlsCaCertificatePem)
          commitMutationDecision (.updateLegacyServer next tokenEnc)) :=
        performs_bind (performs_ofExcept _) fun tokenEnc => performs_commitMutationDecision rfl
      split
      · exact performs_bind (performs_ofExcept _) fun _ => hrest
      · exact hrest
  | removeLegacyServer id enrolled =>
    refine performs_bind (performs_ask rfl) fun found => ?_
    split
    · exact performs_throw _
    · exact performs_check (performs_commitMutationDecision rfl)
  | commitFederatedEnrollment input activationSafe =>
    exact performs_check (performs_commitMutationDecision rfl)
  | prepareEndpointCutover cutoverId remoteServerId deadlineAt now =>
    exact performs_check (performs_commitMutationDecision rfl)
  | stageEndpointCutover cutoverId address now =>
    exact performs_bind (performs_ofExcept _) fun _ => performs_commitMutationDecision rfl
  | repairProjection =>
    refine performs_bind (performs_bind (performs_ask rfl) fun identity => ?_) fun _ =>
      performs_bind (performs_ask rfl) fun latest => ?_
    · split
      · exact performs_throw _
      · exact performs_pure _
    · split
      · exact performs_throw _
      · refine performs_check (performs_bind (performs_ask? rfl) fun projection => ?_)
        exact performs_bind (performs_ask? rfl) fun _ =>
          performs_bind (performs_ask? rfl) fun _ => performs_pure _
  | ingestManifest remoteServerId manifest now =>
    refine performs_bind (performs_ask rfl) fun found =>
      performs_bind (performs_ask rfl) fun identity => ?_
    split
    · exact performs_throw _
    · refine performs_check (performs_check (performs_check ?_))
      split
      · exact performs_bind (performs_ask? rfl) fun _ => performs_pure _
      · exact performs_bind (performs_ask? rfl) fun _ => performs_throw _
      · exact performs_bind (performs_ask? rfl) fun _ => performs_throw _
      · exact performs_throw _

/-- The call is where it began. -/
abbrev AtPlain {α : Type} (y : Stage) (_ : Except RegistryError α) : Prop := y = .plain

theorem registryCall_plain {c : RegistryCall α} (hc : Performs NoEnd c) :
    Fallible.Follows cutover AtPlain .plain (registryCall c) :=
  Prog.Follows.along (Prog.follows_of_issues (Q := NoEnd) (fun i hi => ⟨hi, fun _ => rfl⟩)
    (fun _ => rfl) hc)

theorem follows_plain {c : RegistryCall α} (hc : Performs NoEnd c) :
    Fallible.Follows (cutover.along CutoverInstr.registry) AtPlain .plain c :=
  Prog.follows_of_issues (Q := NoEnd) (fun i hi => ⟨hi, fun _ => rfl⟩) (fun _ => rfl) hc

/-- **A call that was told of an end records it**, or gives up. -/
theorem assertControlPlane_decided {cutoverId : String} {outcome : Outcome} :
    Fallible.Follows (cutover.along CutoverInstr.registry)
      (fun y (r : Except RegistryError Unit) => match r with
        | .ok _ => y = .decided cutoverId outcome
        | .error _ => y = .plain) (.decided cutoverId outcome) assertControlPlane := by
  unfold assertControlPlane
  refine follows_ask (.inl rfl) fun identity => ?_
  by_cases hrole : identity.installationRole ≠ "MASTER"
  · rw [if_pos hrole]
    exact follows_throw (if_pos hrole)
  · rw [if_neg hrole]
    exact follows_pure (if_neg hrole)

theorem registryCall_decided {m : Mutation} {cutoverId : String} {outcome : Outcome}
    (hm : endOf m = some (cutoverId, outcome.master)) :
    Fallible.Follows cutover AtPlain (.decided cutoverId outcome)
      (registryCall (commitMutationDecision m)) := by
  refine Prog.Follows.along ?_
  show Fallible.Follows (cutover.along CutoverInstr.registry) AtPlain (.decided cutoverId outcome)
    (commitMutationDecision m)
  unfold commitMutationDecision
  refine follows_bind assertControlPlane_decided ?_ fun y e hy => hy
  rintro y ⟨⟩ rfl
  refine follows_ask (.inl rfl) fun latest => ?_
  by_cases hauth : authorityOf latest ≠ .db
  · rw [if_pos hauth]
    exact follows_throw (if_pos hauth)
  · rw [if_neg hauth]
    have hstg : (cutover.along CutoverInstr.registry).after (.decided cutoverId outcome)
        .latestJournal latest = .decided cutoverId outcome := if_neg hauth
    rw [hstg]
    unfold commitPrepared
    refine follows_ask? (.inr hm) (fun r prepared _ => ?_) fun r e _ => rfl
    refine follows_plain (α := RegistryValue) ?_
    split
    · exact performs_pure _
    · refine performs_bind (performs_attempt (performs_bind (performs_ask? rfl) fun _ =>
        performs_ask? rfl)) fun written => ?_
      split
      · exact performs_pure _
      · exact performs_bind (performs_ask? rfl) fun _ => performs_throw _

end RegistryCalls

end Meowbox.PanelAccess
