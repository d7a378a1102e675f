import Meowbox.Deploys.Service
import Mathlib.Data.List.Permutation

/-!
# What becomes of a deploy log

A line of output is a read and an update that writes the output and sets the status to
`IN_PROGRESS`; a completion is one transaction that leaves the output alone; the watchdog reads the
logs that are stuck and then fails them by id. Every event is handled on its own, so other events
come between a read and its update.

`Settled` and `Lossless` say what should become of a log: one that is `SUCCESS` or `FAILED` stays so,
and the output is what was appended, cut to its last `MAX_DEPLOY_OUTPUT_LENGTH` characters. `Sound`
says of an update that it does not break this.

* `deploy_logs_settle`: runs of sound updates keep both.
* `append_reopens_and_loses`: an update behind a completion opens the log again, and of two lines
  that are read before either is written one is lost.
-/

namespace Meowbox.Deploys

open Relational JsData Interleaved Sites
open Operations (Time Fault)

/-! ## What is kept -/

/-- A log that is `SUCCESS` or `FAILED`. -/
def finished (l : DeployRow) : Bool := l.status == .success || l.status == .failed

/-- What was appended to the log of a deploy. -/
def chunksOf (deployId : String) (appended : List (String × String)) : List String :=
  (appended.filter fun a => a.1 == deployId).map Prod.snd

/-- An output and what was appended to it, cut to its last characters. -/
def storedOutput (initial : String) : List String → String
  | [] => initial
  | chunk :: chunks => String.ofList (keepLast MAX_DEPLOY_OUTPUT_LENGTH
      (initial.toList ++ (chunk :: chunks).flatMap String.toList))

/-- Every log is still there, and one that was finished has the status it had. -/
def Settled (before after : World) : Prop :=
  ∀ l ∈ before.db.deployLog, ∃ l' ∈ after.db.deployLog, l'.id = l.id ∧
    (finished l = true → l'.status = l.status)

/-- Every log holds what was appended to it since the start, in some order. -/
def Lossless (start world : World) : Prop :=
  ∀ l ∈ start.db.deployLog, ∃ l' ∈ world.db.deployLog, l'.id = l.id ∧
    ∃ chunks, chunks.Perm (chunksOf l.id (world.appended.drop start.appended.length)) ∧
      l'.output = storedOutput l.output chunks

/-! ### Outputs -/

theorem storedOutput_append (initial : String) (chunks more : List String) :
    storedOutput (storedOutput initial chunks) more = storedOutput initial (chunks ++ more) := by
  cases chunks with
  | nil => rfl
  | cons chunk chunks =>
    cases more with
    | nil => rw [List.append_nil]; rfl
    | cons next more =>
      simp only [storedOutput, List.cons_append, String.toList_ofList]
      rw [keepLast_append, List.append_assoc, ← List.flatMap_append, List.cons_append]

theorem nextOutput_eq (current safeOutput : String) :
    nextOutput current safeOutput = storedOutput current [safeOutput] := by
  simp only [nextOutput, storedOutput, List.flatMap_cons, List.flatMap_nil, List.append_nil]

theorem chunksOf_append (deployId : String) (xs ys : List (String × String)) :
    chunksOf deployId (xs ++ ys) = chunksOf deployId xs ++ chunksOf deployId ys := by
  simp only [chunksOf, List.filter_append, List.map_append]

/-! ### From a log to a later one -/

/-- The log after `more` was appended to the logs. -/
structure LogFollows (more : List (String × String)) (l l' : DeployRow) : Prop where
  id : l'.id = l.id
  status : finished l = true → l'.status = l.status
  output : l'.output = storedOutput l.output (chunksOf l.id more)

theorem LogFollows.refl (l : DeployRow) : LogFollows [] l l := ⟨rfl, fun _ => rfl, rfl⟩

theorem LogFollows.trans {xs ys : List (String × String)} {l m n : DeployRow}
    (h : LogFollows xs l m) (h' : LogFollows ys m n) : LogFollows (xs ++ ys) l n where
  id := h'.id.trans h.id
  status hl := by
    have hm := h.status hl
    have hfin : finished m = true := by rw [finished, hm]; exact hl
    exact (h'.status hfin).trans hm
  output := by
    rw [h'.output, h.output, h.id, storedOutput_append, chunksOf_append]

/-- A log that changed in neither status nor output, when nothing was appended to it. -/
theorem LogFollows.quiet {more : List (String × String)} {l l' : DeployRow} (hid : l'.id = l.id)
    (hst : finished l = true → l'.status = l.status) (hout : l'.output = l.output)
    (hmore : chunksOf l.id more = []) : LogFollows more l l' :=
  ⟨hid, hst, by rw [hmore]; exact hout⟩

/-- The logs of a later world. -/
def Follows (before after : World) : Prop :=
  ∃ more, after.appended = before.appended ++ more ∧
    List.Forall₂ (LogFollows more) before.db.deployLog.rows after.db.deployLog.rows

theorem Follows.refl (world : World) : Follows world world :=
  ⟨[], (List.append_nil _).symm, List.forall₂_same.mpr fun l _ => LogFollows.refl l⟩

theorem forall₂_trans {xs ys : List (String × String)} : ∀ {as bs cs : List DeployRow},
    List.Forall₂ (LogFollows xs) as bs → List.Forall₂ (LogFollows ys) bs cs →
      List.Forall₂ (LogFollows (xs ++ ys)) as cs
  | _, _, _, .nil, .nil => .nil
  | _, _, _, .cons h hs, .cons h' hs' => .cons (h.trans h') (forall₂_trans hs hs')

theorem Follows.trans {x y z : World} (h : Follows x y) (h' : Follows y z) : Follows x z := by
  obtain ⟨xs, hxs, hrows⟩ := h
  obtain ⟨ys, hys, hrows'⟩ := h'
  exact ⟨xs ++ ys, by rw [hys, hxs, List.append_assoc], forall₂_trans hrows hrows'⟩

theorem Follows.log {x y : World} (h : Follows x y) : ∃ more, y.appended = x.appended ++ more ∧
    ∀ l ∈ x.db.deployLog, ∃ l' ∈ y.db.deployLog, LogFollows more l l' := by
  obtain ⟨more, hmore, hrows⟩ := h
  refine ⟨more, hmore, fun l hl => ?_⟩
  obtain ⟨i, hi, rfl⟩ := List.getElem_of_mem hl
  have hps := List.forall₂_iff_get.mp hrows
  exact ⟨_, List.getElem_mem (hps.1 ▸ hi), hps.2 i hi (hps.1 ▸ hi)⟩

/-! ## Sound updates -/

/-- The operation of the deploy, if it has one, waits for its completion. -/
def awaited (db : Db) (l : DeployRow) : Bool :=
  (truthy l.operationId).all fun operationId => db.operation.count (fun o =>
    o.id == operationId && (o.status == .pending || o.status == .running)) == 1

/-- An update that neither reopens a log nor loses a line: the log is not finished and its output is
as good as the one that was read; the completion of a finished log writes the status it has; the
watchdog fails no log that succeeded since it looked. -/
def sound (world : World) : Instr → Bool
  | .write (.appendOutput deployId current safeOutput) =>
    world.fate == .refused || decide (∀ l ∈ world.db.deployLog, l.id = deployId →
      finished l = false ∧ nextOutput current safeOutput = nextOutput l.output safeOutput)
  | .write (.completeDeploy deployId outcome _) =>
    world.fate == .refused || decide (∀ l ∈ world.db.deployLog, l.id = deployId →
      awaited world.db l = true → finished l = true →
        l.status = if outcome.success then .success else .failed)
  | .write (.failStuckDeploys ids _) =>
    world.fate == .refused || decide (∀ l ∈ world.db.deployLog, l.id ∈ ids → l.status ≠ .success)
  | _ => true

/-- The update meets the condition. -/
def Sound (world : World) (i : Instr) : Prop := sound world i = true

instance (world : World) (i : Instr) : Decidable (Sound world i) :=
  inferInstanceAs (Decidable (_ = _))

section Steps

variable {H : Host} {world : World} {db : Db}

/-- The logs after an update of some of them. -/
theorem follows_updated {p : DeployRow → Bool} {data : DeployRow → DeployRow} {after : World}
    (more : List (String × String)) (hmore : after.appended = world.appended ++ more)
    (hlog : after.db.deployLog.rows = world.db.deployLog.rows.map (Table.patch p data))
    (hrows : ∀ l ∈ world.db.deployLog, LogFollows more l (Table.patch p data l)) :
    Follows world after := by
  refine ⟨more, hmore, ?_⟩
  rw [hlog]
  exact List.forall₂_map_right_iff.mpr (List.forall₂_same.mpr hrows)

theorem follows_same {after : World} (hmore : after.appended = world.appended)
    (hlog : after.db.deployLog = world.db.deployLog) : Follows world after := by
  refine ⟨[], by rw [hmore, List.append_nil], ?_⟩
  rw [hlog]
  exact List.forall₂_same.mpr fun l _ => LogFollows.refl l

theorem follows_appendOutput {deployId current safeOutput : String} {reply : Operations.Reply}
    (hsound : Sound world (.write (.appendOutput deployId current safeOutput)))
    (hfate : world.fate ≠ .refused)
    (hrun : world.db.run H (.appendOutput deployId current safeOutput) = .ok (db, reply)) :
    Follows world (world.after db (.appendOutput deployId current safeOutput)) := by
  simp only [Sound, sound, Bool.or_eq_true, beq_iff_eq, hfate, false_or, decide_eq_true_eq]
    at hsound
  simp only [Db.run, silent, appendOutput] at hrun
  split at hrun
  · exact absurd hrun (by simp [Except.map])
  · cases hrun
    refine follows_updated [(deployId, safeOutput)] rfl rfl fun l hl => ?_
    by_cases hid : l.id = deployId
    · obtain ⟨hopen, hout⟩ := hsound l hl hid
      rw [Table.patch_pos (by simpa using hid)]
      refine ⟨rfl, fun hfin => absurd hfin (by simp [hopen]), ?_⟩
      simp only [hout, nextOutput_eq, chunksOf, hid, List.filter_cons_of_pos, beq_self_eq_true,
        List.filter_nil, List.map_cons, List.map_nil]
    · rw [Table.patch_neg (by simpa using hid)]
      refine LogFollows.quiet rfl (fun _ => rfl) rfl ?_
      have hother : (deployId == l.id) = false := by simpa using fun h : deployId = l.id => hid h.symm
      simp only [chunksOf, List.filter, hother, List.map_nil]

theorem completeLog_rows {log : DeployRow} {outcome : DeployOutcome} {now : Time} {after : Db}
    (h : completeLog db log outcome now = .ok after) :
    ∃ data : DeployRow → DeployRow,
      after.deployLog.rows = db.deployLog.rows.map (Table.patch (fun l => l.id == log.id) data) ∧
        ∀ l, (data l).id = l.id ∧ (data l).output = l.output ∧
          (data l).status = if outcome.success then .success else .failed := by
  unfold completeLog setAppStatus Db.patchDomain at h
  split at h
  · exact absurd h (by simp)
  · obtain ⟨siteDomain, -, h⟩ := Failing.bind_eq_ok.mp h
    cases h
    exact ⟨_, rfl, fun l => ⟨rfl, rfl, rfl⟩⟩

/-- **A completion that takes effect** changes the status of its own log, whose operation waited. -/
theorem completeDeploy_rows {deployId : String} {outcome : DeployOutcome} {now : Time} {after : Db}
    (h : completeDeploy db deployId outcome now = .ok (some after)) :
    ∃ log ∈ db.deployLog, log.id = deployId ∧ awaited db log = true ∧
      ∃ data : DeployRow → DeployRow,
        after.deployLog.rows = db.deployLog.rows.map (Table.patch (fun l => l.id == deployId) data) ∧
          ∀ l, (data l).id = l.id ∧ (data l).output = l.output ∧
            (data l).status = if outcome.success then .success else .failed := by
  unfold completeDeploy at h
  split at h
  · exact absurd h (by simp)
  · rename_i log hfind
    obtain ⟨hlog, hid⟩ := Table.mem_of_find? hfind
    have hid : log.id = deployId := by simpa using hid
    subst hid
    refine ⟨log, hlog, rfl, ?_⟩
    split at h
    · rename_i hop
      obtain ⟨done, hdone, haft⟩ := Failing.map_eq_ok.mp h
      cases haft
      exact ⟨by rw [awaited, hop]; rfl, completeLog_rows hdone⟩
    · rename_i operationId hop
      dsimp only at h
      split at h
      · exact absurd h (by simp)
      · rename_i hone
        obtain ⟨done, hdone, haft⟩ := Failing.map_eq_ok.mp h
        cases haft
        have hrows := completeLog_rows hdone
        refine ⟨?_, hrows⟩
        rw [awaited, hop, Option.all_some, beq_iff_eq]
        exact Decidable.not_not.mp hone

theorem follows_completeDeploy {deployId : String} {outcome : DeployOutcome} {now : Time}
    {reply : Operations.Reply}
    (hsound : Sound world (.write (.completeDeploy deployId outcome now)))
    (hfate : world.fate ≠ .refused)
    (hrun : world.db.run H (.completeDeploy deployId outcome now) = .ok (db, reply)) :
    Follows world (world.after db (.completeDeploy deployId outcome now)) := by
  simp only [Sound, sound, Bool.or_eq_true, beq_iff_eq, hfate, false_or, decide_eq_true_eq]
    at hsound
  obtain ⟨completed, hcomp, hdb⟩ := Failing.map_eq_ok.mp hrun
  cases hdb
  cases completed with
  | none => exact follows_same rfl rfl
  | some after =>
    obtain ⟨log, hlog, hid, hawaited, data, hrows, hdata⟩ := completeDeploy_rows hcomp
    refine follows_updated [] (List.append_nil _).symm hrows fun l hl => ?_
    by_cases hl' : l.id = deployId
    · have hsame : l = log := Table.eq_of_key (k := DeployRow.idKey) (by simp) hl hlog
        (by rw [DeployRow.idKey, DeployRow.idKey, hl', hid])
      rw [Table.patch_pos (by simpa using hl')]
      refine LogFollows.quiet (hdata l).1 (fun hfin => ?_) (hdata l).2.1 rfl
      exact (hdata l).2.2.trans (hsound l hl hl' (hsame ▸ hawaited) hfin).symm
    · rw [Table.patch_neg (by simpa using hl')]
      exact LogFollows.refl l

theorem follows_failStuckDeploys {ids : List String} {now : Time} {reply : Operations.Reply}
    (hsound : Sound world (.write (.failStuckDeploys ids now)))
    (hfate : world.fate ≠ .refused)
    (hrun : world.db.run H (.failStuckDeploys ids now) = .ok (db, reply)) :
    Follows world (world.after db (.failStuckDeploys ids now)) := by
  simp only [Sound, sound, Bool.or_eq_true, beq_iff_eq, hfate, false_or, decide_eq_true_eq]
    at hsound
  cases hrun
  refine follows_updated [] (List.append_nil _).symm rfl fun l hl => ?_
  by_cases hid : l.id ∈ ids
  · rw [Table.patch_pos (by simpa using hid)]
    refine LogFollows.quiet rfl (fun hfin => ?_) rfl rfl
    simp only [finished, Bool.or_eq_true, beq_iff_eq, hsound l hl hid, false_or] at hfin
    exact hfin.symm
  · rw [Table.patch_neg (by simpa using hid)]
    exact LogFollows.refl l

theorem follows_perform {w : Write}
    (h : ∀ db reply, world.fate ≠ .refused → world.db.run H w = .ok (db, reply) →
      Follows world (world.after db w)) : Follows world (world.perform H w).2 := by
  rcases perform_cases H world w with hsame | ⟨db, reply, hfate, hrun, haft⟩
  · rw [hsame]
    exact Follows.refl world
  · rw [haft]
    exact h db reply hfate hrun

/-- **One sound instruction.** -/
theorem follows_answer {i : Instr} (hi : DeployInstr i) (hsound : Sound world i) :
    Follows world (answer H i world).2 := by
  cases hi with
  | clock => exact Follows.refl world
  | read => exact Follows.refl world
  | appendOutput deployId current safeOutput =>
    exact follows_perform fun db reply => follows_appendOutput hsound
  | completeDeploy deployId outcome now =>
    exact follows_perform fun db reply => follows_completeDeploy hsound
  | failStuckDeploys ids now =>
    exact follows_perform fun db reply => follows_failStuckDeploys hsound
  | failStuckSite siteId =>
    refine follows_perform fun db reply _ hrun => ?_
    cases hrun
    exact follows_same rfl rfl

theorem follows_change (change : Outside) : Follows world (world.change change) := by
  cases change with
  | tick now => exact follows_same rfl rfl
  | connect connected => exact follows_same rfl rfl
  | agent respond => exact follows_same rfl rfl
  | database fate => exact follows_same rfl rfl
  | operations operation operationLock => exact follows_same rfl rfl

end Steps

/-! ## Runs -/

section Runs

variable {H : Host} {start s t : DeployPool}

/-- The logs between two states of a run of sound updates. -/
theorem follows_run (hcalls : ∀ p ∈ s.calls, p.Issues DeployInstr)
    (ht : Stepping.Reach (Pool.step (deployService H)) (Pool.Within Sound) s t) :
    Follows s.store t.store := by
  have hiss := (Reach.within_issues (performs_program H) hcalls ht).2
  exact Reach.store_within Follows Follows.refl (fun _ _ _ => Follows.trans)
    (fun change _ => follows_change change) (fun _ _ h => follows_answer h.2 h.1) hiss

end Runs

/-- **Logs settle and lose nothing.** In every run whose updates are sound, a log that is `SUCCESS`
or `FAILED` keeps its status, and every log holds what was appended to it. -/
theorem deploy_logs_settle (H : Host) {start s t : DeployPool} (hcalls : start.calls = [])
    (hs : Stepping.Reach (Pool.step (deployService H)) (Pool.Within Sound) start s)
    (ht : Stepping.Reach (Pool.step (deployService H)) (Pool.Within Sound) s t) :
    Settled s.store t.store ∧ Lossless start.store t.store := by
  have hnone : ∀ p ∈ start.calls, p.Issues DeployInstr := by
    rw [hcalls]
    exact fun p hp => absurd hp List.not_mem_nil
  have hpromise := (Reach.within_issues (performs_program H) hnone hs).1
  obtain ⟨_, _, hlat⟩ := (follows_run hpromise ht).log
  obtain ⟨more, hmore, hsta⟩ := (follows_run hnone (hs.trans ht)).log
  refine ⟨fun l hl => ?_, fun l hl => ?_⟩
  · obtain ⟨l', hl', hfol⟩ := hlat l hl
    exact ⟨l', hl', hfol.id, hfol.status⟩
  · obtain ⟨l', hl', hfol⟩ := hsta l hl
    refine ⟨l', hl', hfol.id, chunksOf l.id more, ?_, hfol.output⟩
    rw [hmore, List.drop_left]

/-! ### A line behind the completion, and two lines at once -/

/-- A deploy of one domain that runs. -/
def runningDeploy : Db where
  operation := ⟨[{
    id := "operation"
    idempotencyKey := "key"
    requestHash := ""
    type := "DOMAIN_DEPLOY"
    status := .running
    siteId := some "site"
    siteDomainId := some "domain"
    databaseId := none
    globalLockKey := none
    parentOperationId := none
    createdByUserId := "user"
    currentStep := some "await-agent"
    progress := 10
    actionId := none
    executionMode := .inline
    policySnapshot := none
    requestPayloadEnc := none
    attempt := 0
    maxAttempts := 1
    retryable := false
    recoveryPolicy := .manual
    leaseOwner := none
    leaseExpiresAt := none
    heartbeatAt := none
    claimedAt := none
    deadlineAt := none
    cancelRequestedAt := none
    cancelOutcome := none
    result := none
    errorMessage := none
    startedAt := some 0
    completedAt := none
    createdAt := 0 }], by simp⟩
  operationLock := Table.empty
  backup := Table.empty
  site := Table.empty
  siteDomain := ⟨[{
    id := "domain"
    siteId := "site"
    domain := "a.example"
    isPrimary := true
    position := 0
    aliases := []
    filesRelPath := "www"
    preset := .custom
    appStatus := .deploying
    appErrorMessage := none
    phpVersion := none
    runtimeKey := "key"
    gitRepository := some "git"
    deployBranch := none
    envVars := ""
    httpsRedirect := false
    settings := ⟨none, none, none, none, none, none, none, none, none, none, none, none, none, none,
      false, false, false, false, none, none, none⟩ }], by simp⟩
  hostnameClaim := Table.empty
  sslCertificate := Table.empty
  database := Table.empty
  deployLog := ⟨[{
    id := "deploy"
    siteId := "site"
    siteDomainId := "domain"
    operationId := some "operation"
    status := .pending
    commitSha := none
    commitMessage := none
    branch := "main"
    output := ""
    triggeredBy := some "user"
    durationMs := none
    startedAt := 0
    completedAt := none
    createdAt := 0 }], by simp⟩

def deployStart : DeployPool := ⟨World.of runningDeploy, []⟩

/-- A line of output that is read, a completion, and then the update of the line. -/
def completedBetween : List (Event Outside DeployEvent) :=
  [.call (.log "deploy" "a"), .advance 0, .call (.complete "deploy" true none none), .advance 1,
    .advance 1]

/-- Two lines of output that are both read before either is written. -/
def readTogether : List (Event Outside DeployEvent) :=
  [.call (.log "deploy" "a"), .call (.log "deploy" "b"), .advance 0, .advance 1, .advance 0,
    .advance 1]

instance (output initial : String) (appended : List String) :
    Decidable (∃ chunks, chunks.Perm appended ∧ output = storedOutput initial chunks) :=
  decidable_of_iff (∃ chunks ∈ appended.permutations', output = storedOutput initial chunks) <| by
    simp only [List.mem_permutations']

instance (start world : World) : Decidable (Lossless start world) :=
  inferInstanceAs (Decidable (∀ l ∈ start.db.deployLog, ∃ l' ∈ world.db.deployLog, _ ∧ _))

/-- The update behind the completion opens the log again; of the two lines one is lost. -/
theorem append_reopens_and_loses :
    (∃ t u, Stepping.Reach (Pool.step (deployService plainHost)) Stepping.anyStep deployStart t ∧
      Stepping.Reach (Pool.step (deployService plainHost)) Stepping.anyStep t u ∧
        ¬ Settled t.store u.store) ∧
    ∃ u, Stepping.Reach (Pool.step (deployService plainHost)) Stepping.anyStep deployStart u ∧
      ¬ Lossless deployStart.store u.store := by
  constructor
  · have hcomp : (Stepping.run (Pool.step (deployService plainHost)) Stepping.anyStep
        deployStart completedBetween).any (fun t : DeployPool =>
          decide (∃ l ∈ t.store.db.deployLog, l.status = .success)) = true := by
      decide
    have hreopened : (Stepping.run (Pool.step (deployService plainHost)) Stepping.anyStep
        deployStart (completedBetween ++ [.advance 0])).any (fun u : DeployPool =>
          decide (∀ l ∈ u.store.db.deployLog, l.status = .inProgress)) = true := by
      decide
    obtain ⟨t, u, ht, hu, ⟨l, hl, hsuc⟩, hopen⟩ :=
      Stepping.Reach.of_run_append hcomp hreopened
    refine ⟨t, u, ht, hu, fun hset => ?_⟩
    obtain ⟨l', hl', -, hst⟩ := hset l hl
    have hkept := hst (by simp [finished, hsuc])
    rw [hopen l' hl', hsuc] at hkept
    exact absurd hkept (by simp)
  · have hlost : (Stepping.run (Pool.step (deployService plainHost)) Stepping.anyStep
        deployStart readTogether).any (fun u : DeployPool =>
          decide (¬ Lossless deployStart.store u.store)) = true := by
      decide
    exact Stepping.Reach.of_run_any hlost

/-- A line of output, and then the completion. -/
def appended : List (Event Outside DeployEvent) := [.call (.log "deploy" "a"), .advance 0, .advance 0]

def completed : List (Event Outside DeployEvent) :=
  [.call (.complete "deploy" true none none), .advance 1, .advance 1]

/-- One event after the other. -/
theorem deploy_logs_settle_in_order : ∃ s t : DeployPool,
    (Settled s.store t.store ∧ Lossless deployStart.store t.store) ∧
      (∀ l ∈ s.store.db.deployLog, l.output = "a\n") ∧
        ∀ l ∈ t.store.db.deployLog, l.status = .success := by
  have happended : (Stepping.run (Pool.step (deployService plainHost)) (Pool.Within Sound)
      deployStart appended).any (fun s : DeployPool =>
        decide (∀ l ∈ s.store.db.deployLog, l.output = "a\n")) = true := by
    decide
  have hcomp : (Stepping.run (Pool.step (deployService plainHost)) (Pool.Within Sound)
      deployStart (appended ++ completed)).any (fun t : DeployPool =>
        decide (∀ l ∈ t.store.db.deployLog, l.status = .success)) = true := by
    decide
  obtain ⟨s, t, hs, ht, hout, hst⟩ :=
    Stepping.Reach.of_run_append happended hcomp
  exact ⟨s, t, deploy_logs_settle plainHost rfl hs ht, hout, hst⟩

end Meowbox.Deploys
