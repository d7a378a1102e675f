import Meowbox.Operations.Rows

/-!
# Quiescing the panel for a release

Model of the commands of `migrations/quiesce.ts` over the system of operations. `quiesce` writes the
maintenance marker, reads the number of active operations until it is zero, and stops the panel
processes, the API first. `begin` is refused while the marker is there; it looks once, before its
first statement. `claimNext` does not look.

`activeOperationCount` counts `PENDING` and `RUNNING`, two of the statuses in which work is under
way. `quiesced`: in a run in which the count is never zero beside an operation that is `CLAIMED` or
`CANCEL_REQUESTED`, and no operation is taken up between the zero count and the stop, no work is
under way when the processes are stopped. Each of the three ways out of this condition stops the
panel over an operation that is being worked on (`quiesce_stops_work`).
-/

namespace Meowbox.Operations

open Interleaved Stepping

/-- Work on the operation is under way. -/
def Operation.working (o : Operation) : Bool :=
  o.status == .pending || o.status == .claimed || o.status == .running ||
    o.status == .cancelRequested || (o.status == .recovering && o.leaseOwner.isSome)

/-- `activeOperationCount`. -/
def activeOperationCount (db : Db) : Nat :=
  db.operation.count fun o => [OperationStatus.pending, .running].contains o.status

inductive ReleasePhase
  /-- No quiesce is under way, or it has thrown. -/
  | online
  | waiting
  /-- `waitForOperations` has returned. -/
  | drained
  | stopped
deriving DecidableEq

/-- The panel and the release that quiesces it. -/
structure Release where
  panel : State
  maintenance : Bool
  phase : ReleasePhase

/-- A fresh installation. -/
def Release.init : Release := ⟨.init, false, .online⟩

inductive ReleaseAction
  | panel (a : Action)
  /-- `writeMarker`. -/
  | writeMarker
  /-- One turn of the loop of `waitForOperations`. -/
  | countOperations
  /-- The loop gives up at its deadline. -/
  | timeout
  | stopPanelProcesses
  | startPanelProcesses
  /-- `removeMarker`. -/
  | removeMarker

/-- What a call that is begun sees of the marker. -/
def Action.sees (maintenance : Bool) : Action → Bool
  | .call (.begin _ _ _ releaseMaintenance) => releaseMaintenance == maintenance
  | _ => true

/-- What goes on while the processes are stopped: their calls are gone. -/
def Action.whileStopped : Action → Bool
  | .crash _ => true
  | .tick _ => true
  | _ => false

/-- One step. -/
def Release.step (sha256 : String → String) (s : Release) : ReleaseAction → Option Release
  | .panel a =>
    if a.sees s.maintenance = true ∧ (s.phase = .stopped → a.whileStopped = true) then
      (s.panel.step sha256 a).map fun panel => { s with panel := panel }
    else none
  | .writeMarker =>
    if s.phase = .online then some { s with maintenance := true, phase := .waiting } else none
  | .countOperations =>
    if s.phase = .waiting then
      some (if activeOperationCount s.panel.db = 0 then { s with phase := .drained } else s)
    else none
  | .timeout => if s.phase = .waiting then some { s with phase := .online } else none
  | .stopPanelProcesses => if s.phase = .drained then some { s with phase := .stopped } else none
  | .startPanelProcesses =>
    if s.phase = .stopped ∧ ∀ c ∈ s.panel.calls, c.finished = true then
      some { s with phase := .online }
    else none
  | .removeMarker => if s.phase = .online then some { s with maintenance := false } else none

/-! ## The condition -/

/-- A write that takes up an operation: an inline one is created, or one is claimed. -/
def Write.takesUp (db : Db) : Write → Bool
  | .create p _ => p.input.queued.isNone
  | .claim _ now => (nextClaim db now).isSome
  | _ => false

/-- A count of zero leaves out nothing. -/
def CountsAll (s : Release) : Prop :=
  activeOperationCount s.panel.db = 0 →
    ∀ o ∈ s.panel.db.operation, o.status ≠ .claimed ∧ o.status ≠ .cancelRequested

/-- After the zero count no operation is taken up. -/
def TakesUpNothing (s : Release) (a : Action) : Prop :=
  s.phase = .drained → ∀ w ∈ s.panel.issued a, w.takesUp s.panel.db = false

def DrainsAll (s : Release) : ReleaseAction → Prop
  | .panel a => TakesUpNothing s a
  | .countOperations => CountsAll s
  | _ => True

instance (s : Release) : Decidable (CountsAll s) :=
  inferInstanceAs (Decidable (activeOperationCount s.panel.db = 0 →
    ∀ o ∈ s.panel.db.operation, o.status ≠ .claimed ∧ o.status ≠ .cancelRequested))

instance (s : Release) (a : Action) : Decidable (TakesUpNothing s a) :=
  inferInstanceAs (Decidable (s.phase = .drained →
    ∀ w ∈ s.panel.issued a, w.takesUp s.panel.db = false))

instance (s : Release) (a : ReleaseAction) : Decidable (DrainsAll s a) := by
  apply ReleaseAction.casesOn (motive := fun a => Decidable (DrainsAll s a)) a <;> intros <;>
    dsimp only [DrainsAll] <;> infer_instance

/-! ## No work is taken up -/

section Idle

variable {db : Db} {w : Write} {done : Committed} {o o' : Operation}

theorem working_eq_false : o.working = false ↔
    (o.status ≠ .pending ∧ o.status ≠ .claimed ∧ o.status ≠ .running ∧
      o.status ≠ .cancelRequested) ∧ (o.status = .recovering → o.leaseOwner = none) := by
  simp [Operation.working, and_assoc]

/-- **Only a write that takes an operation up begins work on it.** -/
theorem RowChange.idle (hc : RowChange db w o o') (h : o.working = false)
    (hw : w.takesUp db = false) : o'.working = false := by
  have hst := (working_eq_false.mp h).1
  cases hc with
  | same => exact h
  | attachScope scope hs => exact h
  | step step progress hs => exact h
  | start step now hs => exact absurd hs hst.1
  | claim leaseOwner now hn =>
    rw [Write.takesUp, hn] at hw
    cases hw
  | startClaimed step now hl hs ht => exact absurd hs hst.2.1
  | heartbeatClaim step progress now hl hs ht hd => exact h
  | askToCancel status now hn hs hc =>
    rcases hs with hs | hs
    · exact absurd hs hst.2.1
    · exact absurd hs hst.2.2.1
  | recover now hid hs ht hr => exact working_eq_false.mpr ⟨by simp, fun _ => rfl⟩
  | restart completedAt hid => exact working_eq_false.mpr ⟨by simp, fun _ => rfl⟩
  | _ => rfl

theorem working_create {p : PreparedBegin} {now : Time}
    (hw : (Write.create p now).takesUp db = false) : (p.row now).working = false := by
  have hqu : p.input.queued.isSome = true := by
    cases hq : p.input.queued with
    | none =>
      rw [Write.takesUp, hq] at hw
      cases hw
    | some queued => rfl
  have hst : (p.row now).status = .queued := if_pos hqu
  rw [working_eq_false, hst]
  exact ⟨by simp, fun h => by cases h⟩

/-- No work is under way. -/
def Idle (db : Db) : Prop := ∀ o ∈ db.operation, o.working = false

theorem Idle.commit (h : Idle db) (hw : w.takesUp db = false) (hd : db.commit w = .ok done) :
    Idle done.db := by
  intro o' ho'
  rcases mem_commit hd ho' with ⟨p, now, rfl, rfl⟩ | ⟨o, ho, hc⟩
  · exact working_create hw
  · exact hc.idle (h o ho) hw

end Idle

/-! ## Runs -/

section Runs

variable {sha256 : String → String} {s s' : Release}

/-- The panel runs as it does without a release. -/
theorem panel_reachable {G : Release → ReleaseAction → Prop}
    (hs : Reach (Release.step sha256) G Release.init s) : Reachable sha256 anyWrite s.panel := by
  induction hs with
  | init => exact .init
  | @step s s' a _ _ hstep ih =>
    cases a with
    | panel a =>
      simp only [Release.step] at hstep
      obtain ⟨-, hstep⟩ := Failing.when_some hstep
      obtain ⟨panel, hpanel, rfl⟩ := Option.map_eq_some_iff.mp hstep
      exact ih.step (fun _ _ => trivial) hpanel
    | countOperations =>
      simp only [Release.step] at hstep
      split at hstep
      · cases hstep
        split <;> exact ih
      · cases hstep
    | _ =>
      simp only [Release.step] at hstep
      split at hstep
      · cases hstep
        exact ih
      · cases hstep

/-- A zero count that leaves out nothing finds no work under way. -/
theorem idle_of_count (hrows : ∀ o ∈ s.panel.db.operation, RowOk o)
    (hcnt : activeOperationCount s.panel.db = 0) (hall : CountsAll s) : Idle s.panel.db := by
  intro o ho
  obtain ⟨hcl, hcancel⟩ := hall hcnt o ho
  have hact : [OperationStatus.pending, .running].contains o.status = false := by
    have hnone := List.countP_eq_zero.mp hcnt o ho
    simpa using hnone
  have hnot : o.status ≠ .pending ∧ o.status ≠ .running := by
    simpa using hact
  exact working_eq_false.mpr ⟨⟨hnot.1, hcl, hnot.2, hcancel⟩,
    fun hrec => ((hrows o ho).idle (.inr (.inr hrec))).1⟩

/-- What the panel does after the zero count. -/
theorem Idle.panel_step {a : Action} {panel : State} (h : Idle s.panel.db)
    (hstep : s.panel.step sha256 a = some panel)
    (hwrites : ∀ w ∈ s.panel.issued a, w.takesUp s.panel.db = false) : Idle panel.db := by
  rcases step_db hstep with ⟨hop, -⟩ | ⟨w, done, hw, hd, hdb⟩
  · intro o ho
    rw [hop] at ho
    exact h o ho
  · rw [hdb]
    exact h.commit (hwrites w hw) hd

/-- While the processes are stopped nothing is written. -/
theorem issued_whileStopped {panel : State} {a : Action} (h : a.whileStopped = true) :
    panel.issued a = none := by
  cases a <;> first | rfl | cases h

/-- From the zero count on no work is under way. -/
theorem idle_step (hrows : ∀ o ∈ s.panel.db.operation, RowOk o)
    (h : s.phase = .drained ∨ s.phase = .stopped → Idle s.panel.db) {a : ReleaseAction}
    (hok : DrainsAll s a) (hstep : s.step sha256 a = some s') :
    s'.phase = .drained ∨ s'.phase = .stopped → Idle s'.panel.db := by
  cases a with
  | panel a =>
    simp only [Release.step] at hstep
    obtain ⟨hsees, hstep⟩ := Failing.when_some hstep
    obtain ⟨panel, hpanel, rfl⟩ := Option.map_eq_some_iff.mp hstep
    intro hph
    refine (h hph).panel_step hpanel fun w hw => ?_
    rcases hph with hdrained | hstopped
    · exact hok hdrained w hw
    · rw [issued_whileStopped (hsees.2 hstopped)] at hw
      cases hw
  | countOperations =>
    simp only [Release.step] at hstep
    split at hstep
    · cases hstep
      by_cases hcnt : activeOperationCount s.panel.db = 0
      · rw [if_pos hcnt]
        exact fun _ => idle_of_count hrows hcnt hok
      · rw [if_neg hcnt]
        exact h
    · cases hstep
  | stopPanelProcesses =>
    simp only [Release.step] at hstep
    obtain ⟨hph, hstep⟩ := Failing.when_some hstep
    cases hstep
    exact fun _ => h (.inl hph)
  | writeMarker =>
    simp only [Release.step] at hstep
    split at hstep
    · cases hstep
      rintro (hph | hph) <;> cases hph
    · cases hstep
  | timeout =>
    simp only [Release.step] at hstep
    split at hstep
    · cases hstep
      rintro (hph | hph) <;> cases hph
    · cases hstep
  | startPanelProcesses =>
    simp only [Release.step] at hstep
    split at hstep
    · cases hstep
      rintro (hph | hph) <;> cases hph
    · cases hstep
  | removeMarker =>
    simp only [Release.step] at hstep
    obtain ⟨honline, hstep⟩ := Failing.when_some hstep
    cases hstep
    rintro (hph | hph)
    · exact h (.inl hph)
    · exact h (.inr hph)

/-- **When the panel processes are stopped no work is under way**, where the zero count left out
nothing and nothing was taken up after it. -/
theorem quiesced (hs : Reach (Release.step sha256) DrainsAll Release.init s)
    (hstopped : s.phase = .stopped) : ∀ o ∈ s.panel.db.operation, o.working = false := by
  have hidle : s.phase = .drained ∨ s.phase = .stopped → Idle s.panel.db := by
    refine Reach.invariant_of hs (by rintro (h | h) <;> cases h) fun s a s' hrc ih hok hstep => ?_
    exact idle_step (row_ok (panel_reachable hrc)) ih hok hstep
  exact hidle (.inr hstopped)

end Runs

/-! ## Runs of a release -/

/-- The steps of the panel. -/
def inPanel (actions : List Action) : List ReleaseAction := actions.map .panel

def beginQueued : List Action :=
  Sample.perform 0 4 (.begin (Sample.queued "key-0001" none none 100000) "uuid-0001" "op-1" false)

/-- An operation is queued, and the panel is quiesced. -/
theorem quiesced_queued : ∃ s : Release, s.phase = .stopped ∧
    (∃ o ∈ s.panel.db.operation, o.status = .queued) ∧
    ∀ o ∈ s.panel.db.operation, o.working = false := by
  have hrun : ∃ s : Release, Reach (Release.step Sample.digest) DrainsAll Release.init s ∧
      s.phase = .stopped ∧ ∃ o ∈ s.panel.db.operation, o.status = .queued :=
    Reach.of_run_any (l := inPanel beginQueued ++
      [ReleaseAction.writeMarker, .countOperations, .stopPanelProcesses]) (by decide +kernel)
  obtain ⟨s, hs, hstopped, hqu⟩ := hrun
  exact ⟨s, hstopped, hqu, quiesced hs hstopped⟩

/-- The panel is stopped over an operation in the status. -/
def StopsOver (status : OperationStatus) (s : Release) : Prop :=
  s.phase = .stopped ∧ ∃ o ∈ s.panel.db.operation, o.status = status

instance (status : OperationStatus) (s : Release) : Decidable (StopsOver status s) :=
  inferInstanceAs (Decidable (s.phase = .stopped ∧ ∃ o ∈ s.panel.db.operation, o.status = status))

/-- **The panel is stopped over work**: over a claimed operation, which is not counted; over one
that is claimed after the count; over one whose `begin` looked for the marker before it was
written. -/
theorem quiesce_stops_work :
    (∃ s, Reach (Release.step Sample.digest) anyStep Release.init s ∧ StopsOver .claimed s) ∧
    (∃ s, Reach (Release.step Sample.digest) anyStep Release.init s ∧ StopsOver .running s) ∧
    ∃ s, Reach (Release.step Sample.digest) anyStep Release.init s ∧ StopsOver .pending s := by
  refine ⟨?_, ?_, ?_⟩
  · exact Reach.of_run_any (l := inPanel (beginQueued ++ Sample.claim 1 "worker:1") ++
      [ReleaseAction.writeMarker, .countOperations, .stopPanelProcesses]) (by decide +kernel)
  · exact Reach.of_run_any (l := inPanel beginQueued ++ [ReleaseAction.writeMarker, .countOperations] ++
      inPanel (Sample.claim 1 "worker:1" ++ [Action.advance 1 .go, .advance 1 (.flip true)] ++
        Sample.advance 1 2) ++ [ReleaseAction.stopPanelProcesses]) (by decide +kernel)
  · exact Reach.of_run_any (l := inPanel (Sample.perform 0 1 (.begin (Sample.inline "key-0001"
        (some "site-1") none none) "uuid-0001" "op-1" false)) ++
      [ReleaseAction.writeMarker, .countOperations] ++ inPanel (Sample.advance 0 3) ++
      [ReleaseAction.stopPanelProcesses])
      (by decide +kernel)

end Meowbox.Operations
