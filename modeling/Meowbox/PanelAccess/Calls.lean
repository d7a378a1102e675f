import Meowbox.PanelAccess.Stages

/-!
# The calls of a cutover keep to their stages

What each method of the coordinator and of the target knows where it ends.

* `follows_targetJson`: behind a request the master knows what the answer tells.
* `registryCall_decided` is where it records that; `rollbackUncommitted_stages` and the lemmas
  beside it put the two together.
* `handle_stages`: a handler may give the answer it comes to.
* `order_stages`: every program keeps to the protocol.
-/

namespace Meowbox.PanelAccess

open Interleaved Fallible Meowbox.Registry Meowbox.Operations

/-! ## The coordinator -/

section Coordinator

variable {K : CutoverHost} {α : Type} {final : Stage → Except RegistryError α → Prop}
  {serverId cutoverId : String}

theorem markNeedsAttention_stages (code : String) :
    Fallible.Follows cutover AtPlain .plain (markNeedsAttention K cutoverId code) := by
  unfold markNeedsAttention
  refine follows_bind (registryCall_plain (performs_request _ rfl)) ?_ fun y e hy => hy
  rintro y _ rfl
  exact follows_pure rfl

theorem finalizeRegistry_stages :
    Fallible.Follows cutover AtPlain (.decided cutoverId .finalized)
      (finalizeRegistry K cutoverId) := by
  unfold finalizeRegistry
  refine follows_bind (registryCall_decided (m := .finalizeEndpointCutover cutoverId) rfl) ?_
    fun y e hy => hy
  rintro y _ rfl
  exact follows_pure rfl

theorem rollbackRegistry_stages (code : String) :
    Fallible.Follows cutover AtPlain (.decided cutoverId .rolledBack)
      (rollbackRegistry K cutoverId code) := by
  unfold rollbackRegistry
  refine follows_bind (registryCall_decided (m := .rollbackEndpointCutover cutoverId code) rfl) ?_
    fun y e hy => hy
  rintro y _ rfl
  exact follows_pure rfl

theorem view_stages : Fallible.Follows cutover AtPlain .plain (view cutoverId) := by
  unfold view
  refine follows_ask trivial fun found => ?_
  split
  · exact follows_pure rfl
  · exact follows_throw rfl

/-- The outcome of a request, and what the call knows behind it. -/
abbrev Told (request : TargetRequest) (y : Stage) (r : Except RegistryError TargetData) : Prop :=
  match r with
  | .ok data => y = Stage.received request (some (.ok data))
  | .error _ => y = .plain

theorem targetJson_stages (request : TargetRequest) :
    Fallible.Follows cutover (Told request) .plain (targetJson request) := by
  unfold targetJson
  refine follows_ask rfl fun n => follows_ask ⟨request, rfl⟩ fun response => ?_
  show Fallible.Follows cutover (Told request) (Stage.received request response) _
  split
  · exact follows_pure rfl
  · rename_i hother
    refine follows_throw ?_
    cases response with
    | none => rfl
    | some r =>
      cases r with
      | error e => rfl
      | ok data => exact absurd rfl (hother data)

/-- A request and what follows its answer. -/
theorem follows_targetJson {request : TargetRequest} {f : TargetData → CutoverCall α}
    (hok : ∀ data, Fallible.Follows cutover final (Stage.received request (some (.ok data)))
      (f data)) (herr : ∀ e, final .plain (.error e)) :
    Fallible.Follows cutover final .plain (targetJson request >>= f) := by
  refine follows_bind (targetJson_stages request) ?_ ?_
  · rintro y data rfl
    exact hok data
  · rintro y e rfl
    exact herr e

/-- A part that ends where it began, and what follows it. -/
theorem follows_part {β : Type} {c : CutoverCall β} {f : β → CutoverCall α}
    (hc : Fallible.Follows cutover AtPlain .plain c)
    (hf : ∀ b, Fallible.Follows cutover final .plain (f b))
    (herr : ∀ e, final .plain (.error e)) :
    Fallible.Follows cutover final .plain (c >>= f) := by
  refine follows_bind hc ?_ ?_
  · rintro y b rfl
    exact hf b
  · rintro y e rfl
    exact herr e

/-- The same, with what follows looking at the outcome. -/
theorem follows_caught {β : Type} {c : CutoverCall β} {f : Except RegistryError β → CutoverCall α}
    (hc : Fallible.Follows cutover AtPlain .plain c)
    (hf : ∀ r, Fallible.Follows cutover final .plain (f r)) :
    Fallible.Follows cutover final .plain (attempt c >>= f) := by
  refine follows_attempt hc ?_
  rintro y r rfl
  exact hf r

/-- An attempt whose outcome does not matter, and then an error. -/
theorem follows_marked {β : Type} {c : CutoverCall β} {e : RegistryError}
    (hc : Fallible.Follows cutover AtPlain .plain c) :
    Fallible.Follows cutover (AtPlain (α := α)) .plain (do
      let _ ← attempt c
      throw e) :=
  follows_caught hc fun _ => follows_throw rfl

theorem cutoverOf_stages :
    Fallible.Follows cutover AtPlain .plain (cutoverOf K serverId cutoverId) := by
  unfold cutoverOf
  split
  · exact follows_throw rfl
  · refine follows_ask trivial fun found => ?_
    split
    · exact follows_pure rfl
    · exact follows_throw rfl

/-- Behind the probes the call knows nothing any more. -/
theorem verifyCandidate_stages {y : Stage} (hy : y = .plain ∨ ∃ c o, y = .decided c o)
    (server : RemoteServer) (candidate : CutoverCandidate) :
    Fallible.Follows cutover (fun y' (r : Except RegistryError Unit) => match r with
      | .ok _ => y' = .plain
      | .error _ => y' = .plain ∨ y' = y) y (verifyCandidate server candidate) := by
  unfold verifyCandidate
  split
  · exact follows_throw (.inr rfl)
  · refine follows_ask?_end trivial fun r => ?_
    have haft : cutover.after y (.verifyCandidate candidate) r = .plain := by
      rcases hy with rfl | ⟨c, o, rfl⟩ <;> rfl
    rw [haft]
    cases r with
    | ok _ => rfl
    | error e => exact .inl rfl

theorem finalizeBoth_stages :
    Fallible.Follows cutover AtPlain .plain (finalizeBoth K cutoverId) := by
  unfold finalizeBoth
  refine follows_targetJson (fun data => ?_) fun _ => rfl
  by_cases hst : data.state? = some .finalized
  · have hstg : Stage.received (.finalize cutoverId) (some (.ok data)) =
        .decided cutoverId .finalized := by
      simp [Stage.received, TargetRequest.conclusion, hst]
    rw [hstg, if_neg (not_not.mpr hst)]
    exact finalizeRegistry_stages
  · have hstg : Stage.received (.finalize cutoverId) (some (.ok data)) = .plain := by
      simp [Stage.received, TargetRequest.conclusion, hst]
    rw [hstg, if_pos hst]
    exact follows_throw rfl

theorem rollbackUncommitted_stages (reasonCode : String) :
    Fallible.Follows cutover AtPlain .plain (rollbackUncommitted K cutoverId reasonCode) := by
  unfold rollbackUncommitted
  refine follows_attempt (targetJson_stages (.rollback cutoverId)) fun y r hy => ?_
  cases r with
  | error e =>
    obtain rfl := hy
    exact follows_marked (markNeedsAttention_stages _)
  | ok data =>
    obtain rfl := hy
    exact rollbackRegistry_stages reasonCode

theorem ensureTargetRollbackSafe_stages :
    Fallible.Follows cutover AtPlain .plain (ensureTargetRollbackSafe K serverId cutoverId) := by
  unfold ensureTargetRollbackSafe
  refine follows_ask trivial fun link => ?_
  split
  · exact follows_part (markNeedsAttention_stages _) (fun _ => follows_throw rfl) fun _ => rfl
  · refine follows_targetJson (fun data => ?_) fun _ => rfl
    refine follows_ofExcept_bind (fun operation _ => ?_) fun _ _ => rfl
    split
    · exact follows_pure rfl
    split
    · exact follows_part (markNeedsAttention_stages _) (fun _ => follows_throw rfl) fun _ => rfl
    · refine follows_targetJson (fun data => ?_) fun _ => rfl
      exact follows_part (markNeedsAttention_stages _) (fun _ => follows_throw rfl) fun _ => rfl

theorem reconcile_stages (now : Nat) :
    Fallible.Follows cutover AtPlain .plain (reconcile K cutoverId now) := by
  unfold reconcile
  refine follows_ask trivial fun found => ?_
  split
  · exact follows_pure rfl
  refine follows_ask trivial fun link => ?_
  split
  · exact follows_pure rfl
  refine follows_targetJson (fun data => ?_) fun _ => rfl
  refine follows_ofExcept_bind (fun operation _ => ?_) fun _ _ => rfl
  split
  · exact follows_pure rfl
  split
  · split
    · exact markNeedsAttention_stages _
    · exact rollbackUncommitted_stages _
  refine follows_ofExcept_bind (fun candidate _ => ?_) fun _ _ => rfl
  refine follows_caught ?_ fun r => ?_
  · refine follows_bind (verifyCandidate_stages (.inl rfl) _ _) ?_ ?_
    · rintro y ⟨⟩ rfl
      exact follows_part (registryCall_plain (performs_request _ rfl))
        (fun _ => follows_pure rfl) fun _ => rfl
    · rintro y e (rfl | rfl) <;> rfl
  · split
    · exact follows_pure rfl
    · exact follows_part (rollbackUncommitted_stages _) (fun _ => follows_throw rfl) fun _ => rfl

theorem reconcileActivated_stages (now : Nat) :
    Fallible.Follows cutover AtPlain .plain (reconcileActivated K cutoverId now) := by
  unfold reconcileActivated
  refine follows_ask trivial fun found => ?_
  split
  · exact follows_pure rfl
  refine follows_attempt (targetJson_stages (.status cutoverId)) fun y r hy => ?_
  cases r with
  | error e =>
    obtain rfl := hy
    exact follows_marked (markNeedsAttention_stages _)
  | ok data =>
    obtain rfl := hy
    dsimp only
    by_cases hfinalized : data.state? = some .finalized
    · have hstg : Stage.received (.status cutoverId) (some (.ok data)) =
          .decided cutoverId .finalized := by
        simp [Stage.received, TargetRequest.conclusion, hfinalized, TargetState.outcome?]
      rw [if_pos hfinalized, hstg]
      exact finalizeRegistry_stages
    rw [if_neg hfinalized]
    by_cases hrolledBack : data.state? = some .rolledBack
    · have hstg : Stage.received (.status cutoverId) (some (.ok data)) =
          .decided cutoverId .rolledBack := by
        simp [Stage.received, TargetRequest.conclusion, hrolledBack, TargetState.outcome?]
      rw [if_pos hrolledBack, hstg]
      exact rollbackRegistry_stages _
    rw [if_neg hrolledBack]
    have hstg : Stage.received (.status cutoverId) (some (.ok data)) = .plain := by
      cases hst : data.state? with
      | none => simp [Stage.received, TargetRequest.conclusion, hst]
      | some state => cases state <;>
          simp_all [Stage.received, TargetRequest.conclusion, TargetState.outcome?]
    rw [hstg]
    split
    · exact rollbackUncommitted_stages _
    split
    · exact follows_part (markNeedsAttention_stages _) (fun _ => follows_throw rfl) fun _ => rfl
    · refine follows_caught finalizeBoth_stages fun r => ?_
      split
      · exact follows_pure rfl
      · exact follows_marked (markNeedsAttention_stages _)

theorem assertServer_stages :
    Fallible.Follows cutover AtPlain .plain (assertServer serverId) := by
  unfold assertServer
  refine follows_ask trivial fun found => ?_
  split
  · exact follows_pure rfl
  · exact follows_throw rfl

theorem startTargetStage_stages (userId : String) (dto : StartDto) (deadlineAt : Nat) :
    Fallible.Follows cutover AtPlain .plain
      (startTargetStage K serverId cutoverId userId dto deadlineAt) := by
  unfold startTargetStage
  refine follows_targetJson (fun data => ?_) fun _ => rfl
  split
  · exact follows_ask?_end trivial fun _ => rfl
  · exact follows_throw rfl

/-- A reconciliation, and then the view. -/
theorem follows_view {c : CutoverCall Unit} (hc : Fallible.Follows cutover AtPlain .plain c) :
    Fallible.Follows cutover AtPlain .plain (do
      c
      view cutoverId) :=
  follows_part hc (fun _ => view_stages) fun _ => rfl

theorem start_stages (userId : String) (admin : Bool) (dto : StartDto) (key : Option String)
    (now : Nat) :
    Fallible.Follows cutover AtPlain .plain (start K serverId userId admin dto key now) := by
  unfold start
  split
  · exact follows_throw rfl
  split
  · exact follows_throw rfl
  refine follows_ask trivial fun found => ?_
  split
  · split
    · exact follows_throw rfl
    split
    · refine follows_ask trivial fun link => ?_
      split
      · refine follows_part assertServer_stages (fun _ => ?_) fun _ => rfl
        refine follows_part (startTargetStage_stages _ _ _) (fun _ => ?_) fun _ => rfl
        exact follows_view (reconcile_stages now)
      · exact follows_view (reconcile_stages now)
    · exact follows_view (reconcile_stages now)
  · refine follows_part assertServer_stages (fun _ => ?_) fun _ => rfl
    refine follows_part (registryCall_plain (performs_request _ rfl)) (fun _ => ?_) fun _ => rfl
    exact follows_view (startTargetStage_stages _ _ _)

theorem get_stages (now : Nat) :
    Fallible.Follows cutover AtPlain .plain (get K serverId cutoverId now) := by
  unfold get
  refine follows_part cutoverOf_stages (fun found => ?_) fun _ => rfl
  split
  · exact follows_view (reconcile_stages now)
  split
  · exact follows_view (reconcileActivated_stages now)
  · exact view_stages

/-- A call may end everywhere. -/
abbrev Anywhere {α : Type} (_ : Stage) (_ : Except RegistryError α) : Prop := True

theorem follows_anywhere {c : CutoverCall α} (hc : Fallible.Follows cutover AtPlain .plain c) :
    Fallible.Follows cutover Anywhere .plain c :=
  Prog.Follows.weaken (fun _ _ _ => trivial) hc

theorem confirmStaged_stages (server : RemoteServer) (row : RemoteEndpointCutover)
    (candidateOrigin : String) (now : Nat) :
    Fallible.Follows cutover Anywhere .plain (confirmStaged K server row candidateOrigin now) := by
  unfold confirmStaged
  split
  · exact follows_throw trivial
  refine follows_targetJson (fun data => ?_) fun _ => trivial
  have hstg : Stage.received (.status row.id) (some (.ok data)) = .plain ∨
      ∃ c o, Stage.received (.status row.id) (some (.ok data)) = .decided c o := by
    unfold Stage.received
    dsimp only
    split
    · exact .inr ⟨_, _, rfl⟩
    · exact .inl rfl
  split
  · exact follows_throw trivial
  split
  · exact follows_throw trivial
  refine follows_bind (verifyCandidate_stages hstg _ _) ?_ fun _ _ _ => trivial
  rintro y ⟨⟩ rfl
  refine follows_part (registryCall_plain (performs_request _ rfl)) (fun _ => ?_) fun _ => trivial
  refine follows_caught finalizeBoth_stages fun r => ?_
  split
  · exact follows_anywhere view_stages
  · exact follows_anywhere (follows_marked (markNeedsAttention_stages _))

theorem confirmBrowser_stages (candidateOrigin : String) (key : Option String) (now : Nat) :
    Fallible.Follows cutover Anywhere .plain
      (confirmBrowser K serverId cutoverId candidateOrigin key now) := by
  unfold confirmBrowser
  split
  · exact follows_throw trivial
  refine follows_part cutoverOf_stages (fun found => ?_) fun _ => trivial
  split
  · exact follows_anywhere view_stages
  split
  · exact follows_anywhere (follows_view (reconcileActivated_stages now))
  split
  · exact follows_throw trivial
  · exact confirmStaged_stages _ _ _ _

theorem rollback_stages (key : Option String) :
    Fallible.Follows cutover AtPlain .plain (rollback K serverId cutoverId key) := by
  unfold rollback
  split
  · exact follows_throw rfl
  refine follows_part cutoverOf_stages (fun found => ?_) fun _ => rfl
  split
  · exact view_stages
  split
  · exact follows_throw rfl
  refine follows_part ensureTargetRollbackSafe_stages (fun _ => ?_) fun _ => rfl
  refine follows_attempt (targetJson_stages (.rollback cutoverId)) fun y r hy => ?_
  cases r with
  | error e =>
    obtain rfl := hy
    exact follows_marked (markNeedsAttention_stages _)
  | ok data =>
    obtain rfl := hy
    refine follows_bind (rollbackRegistry_stages "OPERATOR_ROLLBACK") ?_ fun y e hy => hy
    rintro y _ rfl
    exact view_stages

theorem reconcileExpired_stages (now : Nat) :
    Fallible.Follows cutover AtPlain .plain (reconcileExpired K cutoverId now) := by
  have hdone : ∀ {c : CutoverCall Unit}, Fallible.Follows cutover AtPlain .plain c →
      Fallible.Follows cutover (AtPlain (α := Unit)) .plain (do
        let _ ← attempt c
        return ()) := fun hc => follows_caught hc fun _ => follows_pure rfl
  unfold reconcileExpired
  refine follows_ask trivial fun found => ?_
  split
  · exact follows_pure rfl
  refine follows_ask trivial fun link => ?_
  split
  · exact hdone (markNeedsAttention_stages _)
  refine follows_ask trivial fun admin => ?_
  split
  · exact hdone (markNeedsAttention_stages _)
  split
  · exact hdone (reconcileActivated_stages now)
  · refine hdone (follows_part ensureTargetRollbackSafe_stages (fun _ => ?_) fun _ => rfl)
    exact rollbackUncommitted_stages _

end Coordinator

/-! ## The target -/

section Target

variable {K : CutoverHost} {n : Nat} {request : TargetRequest} {cutoverId : String}

/-- A handler that returns a journal knows it to be as it says; one that throws still handles its
message. -/
abbrev Reports (n : Nat) (request : TargetRequest) (cutoverId : String) (y : Stage)
    (r : Except RegistryError TargetJournal) : Prop :=
  match r with
  | .ok journal => y = .about n request journal.state.outcome? ∧ journal.cutoverId = cutoverId
  | .error _ => y.handles? = some (n, request)

theorem handles_about (known : Option Outcome) :
    (Stage.about n request known).handles? = some (n, request) := by
  cases known <;> rfl

/-- Nothing but the journal changes what a handler knows. -/
theorem about_kept (known : Option Outcome) (i : CutoverInstr) (r : Reply i)
    (hi : (match i with
      | .getJournal | .setJournal _ | .setSettingsAndJournal _ _ | .respond _ _ => False
      | _ => True)) :
    cutover.after (.about n request known) i r = .about n request known := by
  cases known <;> cases i <;> first | rfl | exact hi.elim

theorem after_setJournal (known : Option Outcome) (journal : TargetJournal) :
    cutover.after (.about n request known) (.setJournal journal) () = .about n request none := by
  cases known <;> rfl

theorem after_setSettingsAndJournal (known : Option Outcome) (settings : PanelAccessSettings)
    (journal : TargetJournal) :
    cutover.after (.about n request known) (.setSettingsAndJournal settings journal) () =
      .about n request journal.state.outcome? := by
  cases known <;> rfl

section Steps

variable {α : Type} {final : Stage → Except RegistryError α → Prop} {known : Option Outcome}

/-- The handler writes a journal that has not ended. -/
theorem follows_setJournal {journal : TargetJournal} {f : Unit → CutoverCall α}
    (hopen : journal.state.outcome? = none)
    (hf : Fallible.Follows cutover final (.about n request none) (f ())) :
    Fallible.Follows cutover final (.about n request known)
      (perform (.setJournal journal) >>= f) := by
  refine follows_ask ⟨hopen, .inr ?_⟩ fun _ => ?_
  · rw [handles_about]
    rfl
  · rw [after_setJournal]
    exact hf

/-- The handler ends the journal. -/
theorem follows_setSettingsAndJournal {settings : PanelAccessSettings} {journal : TargetJournal}
    {f : Unit → CutoverCall α} (hend : journal.state.outcome?.isSome = true)
    (hreq : request.cutoverId? = some journal.cutoverId)
    (hf : Fallible.Follows cutover final (.about n request journal.state.outcome?) (f ())) :
    Fallible.Follows cutover final (.about n request known)
      (perform (.setSettingsAndJournal settings journal) >>= f) := by
  refine follows_ask ⟨hend, n, request, handles_about known, hreq⟩ fun _ => ?_
  rw [after_setSettingsAndJournal]
  exact hf

end Steps

theorem reconcileAgentState_stages {journal : TargetJournal}
    (hreq : request.cutoverId? = some journal.cutoverId) :
    Fallible.Follows cutover (Reports n request journal.cutoverId)
      (.about n request journal.state.outcome?) (reconcileAgentState journal) := by
  have hsame : Fallible.Follows cutover (Reports n request journal.cutoverId)
      (.about n request journal.state.outcome?) (pure journal) := follows_pure ⟨rfl, rfl⟩
  unfold reconcileAgentState
  split
  · exact hsame
  refine follows_ask trivial fun status => ?_
  rw [about_kept _ _ _ trivial]
  split
  · exact hsame
  split
  · exact hsame
  split
  · exact follows_setJournal rfl (follows_pure ⟨rfl, rfl⟩)
  split
  · exact follows_setSettingsAndJournal rfl hreq (follows_pure ⟨rfl, rfl⟩)
  · exact follows_setSettingsAndJournal rfl hreq (follows_pure ⟨rfl, rfl⟩)
  · exact hsame

/-- What the handler reads of the journal. -/
theorem seen_some {journal : TargetJournal}
    (hreq : request.cutoverId? = some journal.cutoverId) :
    Stage.seen n request (some journal) = .about n request journal.state.outcome? :=
  if_pos hreq

theorem handles_seen (journal : Option TargetJournal) :
    (Stage.seen n request journal).handles? = some (n, request) := by
  cases journal with
  | none => cases request <;> rfl
  | some journal =>
    unfold Stage.seen
    dsimp only
    split
    · exact handles_about _
    · rfl

theorem targetStatus_stages (hreq : request.cutoverId? = some cutoverId) :
    Fallible.Follows cutover (Reports n request cutoverId) (.serving n request)
      (targetStatus K cutoverId) := by
  unfold targetStatus
  split
  · exact follows_throw rfl
  refine follows_ask trivial fun journal => ?_
  split
  · exact follows_throw (handles_seen journal)
  · rename_i journal' hj
    obtain ⟨hsome, hid⟩ := Option.filter_eq_some_iff.mp hj
    have hid : journal'.cutoverId = cutoverId := by simpa using hid
    subst hid
    have hstg : cutover.after (.serving n request) .getJournal journal =
        .about n request journal'.state.outcome? := by
      rw [hsome]
      exact seen_some hreq
    rw [hstg]
    exact reconcileAgentState_stages hreq

theorem targetFinalize_stages (hreq : request.cutoverId? = some cutoverId) :
    Fallible.Follows cutover (Reports n request cutoverId) (.serving n request)
      (targetFinalize K cutoverId) := by
  unfold targetFinalize
  refine follows_bind (targetStatus_stages hreq) ?_ fun y e hy => hy
  rintro y journal ⟨rfl, rfl⟩
  split
  · exact follows_pure ⟨rfl, rfl⟩
  split
  · split
    · exact follows_throw (handles_about _)
    · unfold finalizeJournal
      refine follows_setJournal rfl ?_
      refine follows_ask? trivial (fun r ack _ => ?_) fun r e _ => ?_
      · rw [about_kept _ _ _ trivial]
        split
        · exact follows_setJournal rfl (follows_throw (handles_about _))
        · exact follows_setSettingsAndJournal rfl hreq (follows_pure ⟨rfl, rfl⟩)
      · rw [about_kept _ _ _ trivial]
        exact handles_about _
  · exact follows_throw (handles_about _)

/-- A rollback is answered by a journal that is rolled back. -/
abbrev ReportsRollback (n : Nat) (cutoverId : String) (y : Stage)
    (r : Except RegistryError TargetJournal) : Prop :=
  match r with
  | .ok journal => y = .holds n (.rollback cutoverId) .rolledBack ∧ journal.state = .rolledBack
  | .error _ => y.handles? = some (n, .rollback cutoverId)

theorem targetRollback_stages :
    Fallible.Follows cutover (ReportsRollback n cutoverId) (.serving n (.rollback cutoverId))
      (targetRollback K cutoverId) := by
  unfold targetRollback
  split
  · exact follows_throw rfl
  refine follows_ask trivial fun journal => ?_
  split
  · refine follows_ask trivial fun claim => ?_
    split
    · exact follows_throw rfl
    · exact follows_ask trivial fun settings => follows_pure ⟨rfl, rfl⟩
  rename_i stored
  show Fallible.Follows cutover (ReportsRollback n cutoverId)
    (Stage.seen n (.rollback cutoverId) (some stored)) _
  split
  · exact follows_throw (handles_seen _)
  rename_i hid
  have hid : stored.cutoverId = cutoverId := not_not.mp hid
  subst hid
  rw [seen_some rfl]
  refine follows_ask trivial fun operation => ?_
  rw [about_kept _ _ _ trivial]
  split
  · exact follows_throw (handles_about _)
  refine follows_bind (reconcileAgentState_stages rfl) ?_ fun y e hy => hy
  rintro y journal ⟨rfl, hid⟩
  split
  · rename_i hst
    refine follows_pure ⟨?_, hst⟩
    rw [hst]
    rfl
  · unfold rollbackJournal
    refine follows_setJournal rfl ?_
    refine follows_ask? trivial (fun r ack _ => ?_) fun r e _ => ?_
    · rw [about_kept _ _ _ trivial]
      split
      · exact follows_setJournal rfl (follows_throw (handles_about _))
      · exact follows_setSettingsAndJournal rfl (congrArg some hid.symm)
          (follows_pure ⟨rfl, rfl⟩)
    · rw [about_kept _ _ _ trivial]
      exact handles_about _

theorem about_of_handles {y : Stage} (h : y.handles? = some (n, request)) :
    ∃ known, y = .about n request known := by
  cases y with
  | plain | waiting | decided => cases h
  | serving => cases h; exact ⟨none, rfl⟩
  | holds _ _ outcome => cases h; exact ⟨some outcome, rfl⟩

/-- An error may always be answered. -/
theorem mayAnswer_error {y : Stage} {e : RegistryError} (h : y.handles? = some (n, request)) :
    y.mayAnswer n (.error e) := by
  obtain ⟨known, rfl⟩ := about_of_handles h
  exact ⟨request, known, rfl, fun _ _ hr => (by cases hr), fun _ _ _ hr => (by cases hr)⟩

/-- So may what is no journal, where no rollback was asked for. -/
theorem mayAnswer_other {y : Stage} {data : TargetData} (h : y.handles? = some (n, request))
    (hdata : ∀ journal, data ≠ .journal journal) (hreq : ∀ id, request ≠ .rollback id) :
    y.mayAnswer n (.ok data) := by
  obtain ⟨known, rfl⟩ := about_of_handles h
  refine ⟨request, known, rfl, fun journal _ hr => ?_, fun id _ hid => absurd hid (hreq id)⟩
  exact absurd (Except.ok.inj hr) (hdata journal)

/-- A journal that the handler knows to be as it is. -/
theorem mayAnswer_journal {journal : TargetJournal} (hreq : ∀ id, request = .rollback id →
    journal.state = .rolledBack) :
    (Stage.about n request journal.state.outcome?).mayAnswer n (.ok (.journal journal)) := by
  refine ⟨request, _, rfl, fun journal' outcome hr hst => ?_, fun id data hid hr => ?_⟩
  · cases hr
    exact TargetState.outcome?_eq_some.mpr hst
  · cases hr
    exact ⟨journal, rfl, hreq id hid⟩

theorem follows_reports {c : CutoverCall TargetJournal} {y : Stage}
    (hc : Fallible.Follows cutover (Reports n request cutoverId) y c)
    (hreq : ∀ id, request ≠ .rollback id) :
    Fallible.Follows cutover (fun y r => y.mayAnswer n r) y (do
      return TargetData.journal (← c)) := by
  refine follows_bind hc ?_ fun y e hy => mayAnswer_error hy
  rintro y journal ⟨rfl, -⟩
  exact follows_pure (mayAnswer_journal fun id hid => absurd hid (hreq id))

theorem targetStart_stages (cutoverRequest : CutoverRequest) (userIsAdmin : Bool) (now : Nat) :
    Fallible.Follows cutover (fun y (_ : Except RegistryError Ticket) =>
        y.handles? = some (n, .stage cutoverRequest))
      (.serving n (.stage cutoverRequest)) (targetStart K cutoverRequest userIsAdmin now) := by
  unfold targetStart
  split
  · exact follows_throw rfl
  split
  · exact follows_throw rfl
  split
  · exact follows_throw rfl
  refine follows_ask trivial fun journal => ?_
  show Fallible.Follows cutover _ (Stage.seen n (.stage cutoverRequest) journal) _
  have hhandles : (Stage.seen n (.stage cutoverRequest) journal).handles? =
      some (n, .stage cutoverRequest) := handles_seen journal
  split
  · exact follows_throw hhandles
  · obtain ⟨known, hkn⟩ := about_of_handles hhandles
    rw [hkn]
    refine follows_ask?_end trivial fun r => ?_
    rw [about_kept _ _ _ trivial]
    exact handles_about known

theorem findOperation_stages {id : String} {f : TargetOperation → TargetData}
    (hf : ∀ operation journal, f operation ≠ .journal journal)
    (hreq : ∀ id, request ≠ .rollback id) :
    Fallible.Follows cutover (fun y r => y.mayAnswer n r) (.serving n request) (do
      match ← perform (.findOperation id) with
      | some operation => return f operation
      | none => throw ⟨.notFound, "Operation not found"⟩) := by
  refine follows_ask trivial fun operation => ?_
  split
  · exact follows_pure (mayAnswer_other rfl (hf _) hreq)
  · exact follows_throw (mayAnswer_error rfl)

/-- **A handler may give the answer it comes to.** -/
theorem handle_stages (request : TargetRequest) (now : Nat) :
    Fallible.Follows cutover (fun y r => y.mayAnswer n r) (.serving n request)
      (handle K request now) := by
  cases request with
  | stage cutoverRequest =>
    refine follows_bind (targetStart_stages cutoverRequest true now) (fun y ticket hy => ?_)
      fun y e hy => mayAnswer_error hy
    refine follows_pure (mayAnswer_other hy (fun _ h => ?_) fun _ h => ?_)
    · cases h
    · cases h
  | status cutoverId =>
    refine follows_reports (targetStatus_stages rfl) fun id h => ?_
    cases h
  | finalize cutoverId =>
    refine follows_reports (targetFinalize_stages rfl) fun id h => ?_
    cases h
  | rollback cutoverId =>
    refine follows_bind targetRollback_stages ?_ fun y e hy => mayAnswer_error hy
    rintro y journal ⟨rfl, hst⟩
    have hstg : Stage.holds n (.rollback cutoverId) .rolledBack =
        .about n (.rollback cutoverId) journal.state.outcome? := by
      rw [hst]
      rfl
    rw [hstg]
    exact follows_pure (mayAnswer_journal fun _ _ => hst)
  | operation id =>
    refine findOperation_stages (f := fun o => .operation o) (fun _ _ h => ?_) fun _ h => ?_
    · cases h
    · cases h
  | cancelOperation id =>
    refine findOperation_stages (f := fun _ => .cancelled) (fun _ _ h => ?_) fun _ h => ?_
    · cases h
    · cases h

theorem serve_stages (n now : Nat) :
    Fallible.Follows cutover Anywhere .plain (serve K n now) := by
  unfold serve
  refine follows_ask rfl fun request => ?_
  split
  · exact follows_pure trivial
  · refine follows_attempt (handle_stages _ now) fun y r hy => ?_
    exact follows_ask_end hy fun _ => trivial

/-- The handler of the stage operation ends no journal. -/
theorem stage_stages (cutoverRequest : CutoverRequest) (operationId : String)
    (userIsAdmin : Bool) :
    Fallible.Follows cutover AtPlain .plain (stage K cutoverRequest operationId userIsAdmin) := by
  unfold stage
  split
  · exact follows_throw rfl
  split
  · exact follows_throw rfl
  refine follows_ask trivial fun claim => ?_
  split
  · exact follows_throw rfl
  refine follows_ask trivial fun settings => ?_
  split
  · exact follows_throw rfl
  refine follows_ask trivial fun existing => ?_
  split
  · exact follows_pure rfl
  split
  · exact follows_throw rfl
  refine follows_ask ⟨rfl, .inl rfl⟩ fun _ => follows_caught ?_ fun r => ?_
  · unfold stageCandidate
    refine follows_ask? trivial (fun r result _ => ?_) fun _ _ _ => rfl
    split
    · exact follows_throw rfl
    · refine follows_ofExcept_bind (fun manifest _ => ?_) fun _ _ => rfl
      exact follows_ask ⟨rfl, .inl rfl⟩ fun _ => follows_pure rfl
  · split
    · exact follows_pure rfl
    · exact follows_ask ⟨rfl, .inl rfl⟩ fun _ => follows_throw rfl

end Target

/-! ## All calls -/

theorem discard_stages {α : Type} {c : CutoverCall α}
    {final : Stage → Except RegistryError α → Prop}
    (hc : Fallible.Follows cutover final .plain c) :
    Fallible.Follows cutover Anywhere .plain (discard c) :=
  follows_bind hc (fun _ _ _ => follows_pure trivial) fun _ _ _ => trivial

/-- **Every call keeps to the protocol.** -/
theorem order_stages (K : CutoverHost) (order : CutoverOrder) :
    ((cutovers K).program order).Follows cutover Anywhere .plain := by
  cases order with
  | start serverId userId admin dto key now =>
    exact discard_stages (start_stages userId admin dto key now)
  | get serverId cutoverId now => exact discard_stages (get_stages now)
  | confirmBrowser serverId cutoverId candidateOrigin key now =>
    exact discard_stages (confirmBrowser_stages candidateOrigin key now)
  | rollback serverId cutoverId key => exact discard_stages (rollback_stages key)
  | reconcileExpired cutoverId now => exact follows_anywhere (reconcileExpired_stages now)
  | registry request h => exact discard_stages (registryCall_plain (performs_request request h))
  | serve n now => exact serve_stages n now
  | stage request operationId userIsAdmin =>
    exact discard_stages (stage_stages request operationId userIsAdmin)

end Meowbox.PanelAccess
