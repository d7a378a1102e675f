import Mathlib.Data.List.Nodup
import Meowbox.Federation.RolloutRows

/-!
# Rollouts stay safe

`RolloutInv` is what every step keeps: the switches of a server fit its stage, the time in its row
is the time it came to the stage, its stages were soaked as a ladder asks, and of the requests that
were applied to a server each expects a generation that the one before has made.

* `RolloutInv.kept`: the steps that write neither stage nor switches.
* `RolloutInv.wrote`: a write of both on one server, at a level that the ladder permits.
* `rollout_safety`: what follows for every state and every step of every run.
-/

namespace Meowbox.Registry

open FederationRolloutStage Ladder Stepping

/-! ## The invariant -/

/-- How long a level has to last before the next. -/
def soak (level : Nat) : Nat :=
  if level = canary5.index ∨ level = canary25.index then STAGE_WINDOW else 0

structure StageSafe (stage : FederationRolloutStage) (switches : TrafficSwitches) : Prop where
  idle : stage = disabled ∨ stage = observe → switches = .off
  canary : switches.wsEnabled = true ∨ switches.publicEnabled = true →
    canary5.index ≤ stage.index

structure ServerInv (startedAt : Option Nat) (climb : Climb) (clock : Nat) (row : RemoteServer) :
    Prop where
  stage : ∃ stage : FederationRolloutStage, row.rolloutStage = stage.name ∧
    stage.index = climb.level ∧ StageSafe stage row.switches
  started : climb.level ≠ 0 → startedAt = some climb.entered
  soaked : climb.Soaked soak
  dated : climb.Dated clock

structure RolloutInv (x : RolloutDb) : Prop where
  servers : ∀ id row, x.registry.findServer id = some row →
    ServerInv (x.columns id).rolloutStageStartedAt (x.climbs id) x.clock row
  counted : ∀ id row, x.registry.findServer id = some row →
    row.registryGeneration < x.registry.nextGeneration
  applied : ∀ c ∈ x.applied, c.generation < x.registry.nextGeneration ∧
    c.input.expectedRegistryGeneration < c.generation ∧
    ∀ row, x.registry.findServer c.input.serverId = some row → c.generation ≤ row.registryGeneration
  ordered : x.applied.Pairwise fun newer older => newer.input.serverId = older.input.serverId →
    older.generation ≤ newer.input.expectedRegistryGeneration

variable {x x' : RolloutDb} {H : RolloutHost} {id serverId : String} {now : Nat}
  {row row' server : RemoteServer} {stage stage' : FederationRolloutStage}

theorem name_inj (h : stage.name = stage'.name) : stage = stage' := by
  have hsame := congrArg ofName? h
  rw [ofName?_name, ofName?_name] at hsame
  exact Option.some.inj hsame

variable {startedAt : Option Nat}

/-- A row in the first stage with everything off. -/
theorem ServerInv.fresh {before clock : Nat} (hclk : before ≤ clock)
    (hstg : row.rolloutStage = disabled.name) (hsw : row.switches = .off) :
    ServerInv startedAt (.start before) clock row := by
  refine ⟨⟨disabled, hstg, rfl, fun _ => hsw, fun hon => ?_⟩, fun hne => ?_,
    Climb.soaked_start, Climb.dated_start.later hclk⟩
  · rw [hsw] at hon
    rcases hon with hws | hpub
    · cases hws
    · cases hpub
  · exact absurd Climb.start_level hne

/-! ## Steps that keep the stages -/

/-- **The other writers.** -/
theorem RolloutInv.kept (h : RolloutInv x) (hkept : StagesKept x.registry x'.registry)
    (hclk : x.clock ≤ x'.clock) (happ : x'.applied = x.applied)
    (hold : ∀ id row, x.registry.findServer id = some row →
      (x'.columns id).rolloutStageStartedAt = (x.columns id).rolloutStageStartedAt ∧
        x'.climbs id = x.climbs id)
    (hnew : ∀ id row', x.registry.findServer id = none → x'.registry.findServer id = some row' →
      x'.climbs id = .start x.clock) : RolloutInv x' := by
  obtain ⟨hnext, fresh, hfat, hfr⟩ := hkept
  have hwr : ∀ {g : Nat}, some g = fresh →
      x.registry.nextGeneration ≤ g ∧ g < x'.registry.nextGeneration :=
    fun hg => hfr _ hg.symm
  refine ⟨fun id row' hrow' => ?_, fun id row' hrow' => ?_, ?_, ?_⟩
  · have hfate := hfat id
    rw [hrow'] at hfate
    cases hfnd : x.registry.findServer id with
    | none =>
      rw [hfnd] at hfate
      rw [hnew id row' hfnd hrow']
      cases hfate with
      | created _ hstg hsw _ => exact .fresh hclk hstg hsw
    | some row =>
      rw [hfnd] at hfate
      obtain ⟨hsta, hclimb⟩ := hold id row hfnd
      obtain ⟨⟨stage, hstg, hlev, hsafe⟩, hent, hsoaked, hdt⟩ := h.servers id row hfnd
      rw [hsta, hclimb]
      cases hfate with
      | kept _ _ hsame hsw _ =>
        refine ⟨⟨stage, hsame.trans hstg, hlev, ?_⟩, hent, hsoaked, hdt.later hclk⟩
        rw [hsw]
        exact hsafe
  · have hfate := hfat id
    rw [hrow'] at hfate
    cases hfnd : x.registry.findServer id with
    | none =>
      rw [hfnd] at hfate
      cases hfate with
      | created _ _ _ hcnt => exact (hwr hcnt).2
    | some row =>
      rw [hfnd] at hfate
      have hbef := h.counted id row hfnd
      cases hfate with
      | kept _ _ _ _ hcnt =>
        rcases hcnt with hsame | hg
        · omega
        · exact (hwr hg).2
  · rw [happ]
    intro c hc
    obtain ⟨hbd, hexpd, hrow⟩ := h.applied c hc
    refine ⟨by omega, hexpd, fun row' hrow' => ?_⟩
    have hfate := hfat c.input.serverId
    rw [hrow'] at hfate
    cases hfnd : x.registry.findServer c.input.serverId with
    | none =>
      rw [hfnd] at hfate
      cases hfate with
      | created _ _ _ hcnt =>
        have := (hwr hcnt).1
        omega
    | some row =>
      rw [hfnd] at hfate
      have hbef := hrow row hfnd
      cases hfate with
      | kept _ _ _ _ hcnt =>
        rcases hcnt with hsame | hg
        · omega
        · have := (hwr hg).1
          omega
  · rw [happ]
    exact h.ordered

theorem RolloutInv.advance (h : RolloutInv x) {registry : RegistryDb} (status : ServerStatus)
    (hkept : StagesKept x.registry registry) : RolloutInv (x.advance registry status) := by
  refine h.kept hkept (Nat.le_refl _) rfl (fun id row hrow => ?_) fun id row' hnone hrow' => ?_
  · have hcr : ¬rowCreated x.registry registry id = true := by
      unfold rowCreated
      rw [hrow]
      exact Bool.false_ne_true
    unfold RolloutDb.advance
    dsimp only
    rw [if_neg hcr, if_neg hcr]
    exact ⟨rfl, rfl⟩
  · have hcr : rowCreated x.registry registry id = true := by
      unfold rowCreated
      change registry.findServer id = some row' at hrow'
      rw [hnone, hrow']
      rfl
    exact if_pos hcr

theorem RolloutInv.later (h : RolloutInv x) (hclk : x.clock ≤ now) :
    RolloutInv { x with clock := now } := by
  refine h.kept (.of_same (fun _ => .of_eq rfl) rfl) hclk rfl (fun _ _ _ => ⟨rfl, rfl⟩)
    fun id row' hnone hrow' => ?_
  change x.registry.findServer id = some row' at hrow'
  rw [hnone] at hrow'
  cases hrow'

/-! ## Writes of a stage -/

/-- **A write of the stage and the switches of one server.** -/
theorem RolloutInv.wrote (h : RolloutInv x) (stage : FederationRolloutStage) (now : Nat) {f : RemoteServer → RemoteServer}
    (hsrv : x.registry.findServer serverId = some server) (hid : ∀ row, (f row).id = row.id)
    (hrows : x'.registry.remoteServer = (x.registry.updateServer serverId f).remoteServer)
    (hnext : x'.registry.nextGeneration = x.registry.nextGeneration + 1)
    (hgen : (f server).registryGeneration = x.registry.nextGeneration)
    (hclk : x.clock ≤ now) (hnow : x'.clock = now)
    (hothers : ∀ id, id ≠ serverId → x'.columns id = x.columns id ∧ x'.climbs id = x.climbs id)
    (hclimb : x'.climbs serverId = (x.climbs serverId).move stage.index now)
    (hstg : (f server).rolloutStage = stage.name) (hsafe : StageSafe stage (f server).switches)
    (hpermitted : (x.climbs serverId).Permitted soak stage.index now)
    (hsta : stage.index ≠ 0 → (x'.columns serverId).rolloutStageStartedAt =
      some (x'.climbs serverId).entered)
    (happ : x'.applied = x.applied ∨ ∃ input, input.serverId = serverId ∧
      input.expectedRegistryGeneration = server.registryGeneration ∧
      x'.applied = ⟨input, x.registry.nextGeneration⟩ :: x.applied) : RolloutInv x' := by
  have hfnd : ∀ id, x'.registry.findServer id =
      (x.registry.findServer id).map fun row => if row.id == serverId then f row else row := by
    intro id
    rw [← findServer_updateServer serverId hid]
    unfold RegistryDb.findServer
    rw [hrows]
  have hself : x'.registry.findServer serverId = some (f server) := by
    rw [hfnd, hsrv, Option.map_some, findServer_id hsrv, if_pos (beq_self_eq_true _)]
  have hother : ∀ id, id ≠ serverId → x'.registry.findServer id = x.registry.findServer id := by
    intro id hne
    rw [hfnd]
    cases hrow : x.registry.findServer id with
    | none => rfl
    | some row =>
      have hnot : ¬(id == serverId) = true := by simpa using hne
      rw [Option.map_some, findServer_id hrow, if_neg hnot]
  have hbef := h.servers serverId server hsrv
  have hcount := h.counted serverId server hsrv
  refine ⟨fun id row hrow => ?_, fun id row hrow => ?_, ?_, ?_⟩
  · by_cases hsame : id = serverId
    · subst hsame
      rw [hself] at hrow
      cases hrow
      refine ⟨⟨stage, hstg, ?_, hsafe⟩, ?_, ?_, ?_⟩
      · rw [hclimb, Climb.move_level]
      · rw [hclimb, Climb.move_level] at *
        exact hsta
      · rw [hclimb]
        exact hbef.soaked.move hpermitted
      · rw [hclimb, hnow]
        exact hbef.dated.move hclk
    · rw [hother id hsame] at hrow
      rw [(hothers id hsame).1, (hothers id hsame).2, hnow]
      obtain ⟨hat, hent, hsoaked, hdt⟩ := h.servers id row hrow
      exact ⟨hat, hent, hsoaked, hdt.later hclk⟩
  · by_cases hsame : id = serverId
    · subst hsame
      rw [hself] at hrow
      cases hrow
      omega
    · rw [hother id hsame] at hrow
      have := h.counted id row hrow
      omega
  · have hold : ∀ c ∈ x.applied, c.generation < x'.registry.nextGeneration ∧
        c.input.expectedRegistryGeneration < c.generation ∧ ∀ row,
          x'.registry.findServer c.input.serverId = some row →
            c.generation ≤ row.registryGeneration := by
      intro c hc
      obtain ⟨hbd, hexpd, hrow⟩ := h.applied c hc
      refine ⟨by omega, hexpd, fun row hfinds => ?_⟩
      by_cases hsame : c.input.serverId = serverId
      · rw [hsame, hself] at hfinds
        cases hfinds
        omega
      · rw [hother _ hsame] at hfinds
        exact hrow row hfinds
    rcases happ with heq | ⟨input, hin, hexpd, heq⟩
    · rw [heq]
      exact hold
    · rw [heq]
      intro c hc
      rcases List.mem_cons.mp hc with rfl | hc
      · refine ⟨by dsimp only; omega, by dsimp only; omega, fun row hfinds => ?_⟩
        dsimp only at hfinds
        rw [hin, hself] at hfinds
        cases hfinds
        exact Nat.le_of_eq hgen.symm
      · exact hold c hc
  · rcases happ with heq | ⟨input, hin, hexpd, heq⟩
    · rw [heq]
      exact h.ordered
    · rw [heq]
      refine List.pairwise_cons.mpr ⟨fun older holder hsame => ?_, h.ordered⟩
      dsimp only at hsame ⊢
      rw [hexpd]
      exact (h.applied older holder).2.2 server (by rw [← hsame, hin]; exact hsrv)

/-! ### `updateFederationRollout` -/

/-- What `updateFederationRollout` writes on the row. -/
def RemoteServer.rolledOut (generation : Nat) (settings : RolloutSwitches) (row : RemoteServer) :
    RemoteServer :=
  { row with
    registryGeneration := generation
    rolloutStage := settings.stage
    activationMode := settings.activationMode
    httpEnabled := settings.httpEnabled
    wsEnabled := settings.wsEnabled
    publicEnabled := settings.publicEnabled
    legacyEnabled := false
    reasonCode := some settings.reasonCode }

theorem updateFederationRollout_changed {R : RegistryHost} {y after : RegistryDb}
    {generation : Nat} {input : RolloutRequest} {value : RegistryValue}
    (hm : updateFederationRollout R y generation input now = .ok (true, value, after)) :
    ∃ server settings, y.findServer input.serverId = some server ∧
      server.registryGeneration = input.expectedRegistryGeneration ∧
      R.rolloutDecision server input now = .ok settings ∧
      after.remoteServer = (y.updateServer input.serverId
        (RemoteServer.rolledOut generation settings)).remoteServer := by
  unfold updateFederationRollout at hm
  split at hm
  · cases hm
  rename_i server hsrv
  split at hm
  · cases hm
  split at hm
  · cases hm
  · cases hm
  split at hm
  · exact absurd hm conflict_ne_ok
  rename_i hgen
  split at hm
  · cases hm
  · rename_i settings hset
    cases hm
    refine ⟨server, settings, hsrv, not_not.mp hgen, hset, ?_⟩
    rw [findServer_id hsrv]
    rfl

/-- What a request does to the row of its server. -/
structure UpdateEffect (x x' : RolloutDb) (input : UpdateFederationRolloutInput)
    (server : RemoteServer) (f : RemoteServer → RemoteServer) (stage : FederationRolloutStage)
    (switches : TrafficSwitches) (now : Nat) : Prop where
  found : x.registry.findServer input.serverId = some server
  expected : input.expectedRegistryGeneration = server.registryGeneration
  at_stage : server.rolloutStage = stage.name
  granted : Granted stage (x.columns input.serverId).rolloutStageStartedAt now input.stage switches
  id : ∀ row, (f row).id = row.id
  rows : x'.registry.remoteServer = (x.registry.updateServer input.serverId f).remoteServer
  next : x'.registry.nextGeneration = x.registry.nextGeneration + 1
  counted : (f server).registryGeneration = x.registry.nextGeneration
  stage : (f server).rolloutStage = input.stage.name
  switches : (f server).switches = switches

theorem ofName?_some {text : String} (h : ofName? text = some stage) : text = stage.name := by
  unfold ofName? at h
  split at h
  · cases h
    rfl
  · cases h
    rfl
  · cases h
    rfl
  · cases h
    rfl
  · cases h
    rfl
  · cases h
    rfl
  · cases h

/-- **A request is applied, or changes nothing.** -/
theorem update_cases (H : RolloutHost) (x : RolloutDb) (input : UpdateFederationRolloutInput)
    (now : Nat) : (x.update H input now).2 = x ∨
      ∃ server f stage switches decision,
        UpdateEffect x (x.update H input now).2 input server f stage switches now ∧
        (x.update H input now).2 = { x with
          registry := (x.update H input now).2.registry
          columns := Function.update x.columns input.serverId
            (updatedColumns H x input server now switches decision)
          climbs := Function.update x.climbs input.serverId
            ((x.climbs input.serverId).move input.stage.index now)
          applied := ⟨input, x.registry.nextGeneration⟩ :: x.applied } := by
  unfold RolloutDb.update
  split
  · exact .inl rfl
  unfold rolloutTransact
  rcases transact_cases (H := rolloutHost H x input) (x := x.registry)
    (.updateFederationRollout ⟨input.serverId, input.requestKeyHash,
      input.expectedRegistryGeneration, input.stage.name⟩ now) with
    ⟨hsame, hnone⟩ | ⟨value, after, projection, hm, heq⟩
  · refine .inl ?_
    split
    · rename_i htransact _
      have hproj := hnone _ (congrArg Prod.fst htransact)
      cases hproj
    · rfl
  · obtain ⟨server, settings, hsrv, hexpd, hset, hrows⟩ :=
      updateFederationRollout_changed hm
    rw [heq]
    dsimp only at hsrv hexpd
    rw [hsrv]
    have hat := findServer_id hsrv
    have hpolicy : ∃ switches decision, rolloutPolicy x input server now =
        .ok (switches, decision) ∧ settings.stage = input.stage.name ∧
          settings.httpEnabled = switches.httpEnabled ∧ settings.wsEnabled = switches.wsEnabled ∧
          settings.publicEnabled = switches.publicEnabled := by
      unfold rolloutHost at hset
      dsimp only at hset
      split at hset
      · cases hset
      · rename_i switches decision hdec
        cases hset
        exact ⟨switches, decision, hdec, rfl, rfl, rfl, rfl⟩
    obtain ⟨switches, decision, hdec, hstg, hhttp, hws, hpub⟩ := hpolicy
    have hgranted : ∃ stage, server.rolloutStage = stage.name ∧
        Granted stage (x.columns input.serverId).rolloutStageStartedAt now input.stage switches := by
      unfold rolloutPolicy at hdec
      split at hdec
      · cases hdec
      · rename_i stage hname
        rw [hat] at hdec
        exact ⟨stage, ofName?_some hname, decideRollout_granted hdec⟩
    obtain ⟨stage, hname, hgranted⟩ := hgranted
    dsimp only
    rw [hdec]
    refine .inr ⟨server, RemoteServer.rolledOut x.registry.nextGeneration settings, stage, switches,
      decision, ⟨hsrv, hexpd.symm, hname, hgranted, fun _ => rfl, hrows, rfl, rfl, hstg, ?_⟩,
      rfl⟩
    unfold RemoteServer.switches RemoteServer.rolledOut
    dsimp only
    rw [hhttp, hws, hpub]

/-- What the policy grants is permitted on the ladder. -/
theorem Granted.permitted {climb : Climb} {clock : Nat} {switches : TrafficSwitches}
    (h : Granted stage startedAt now stage' switches) (hlev : stage.index = climb.level)
    (hsta : climb.level ≠ 0 → startedAt = some climb.entered) (hdt : climb.Dated clock)
    (hnow : clock ≤ now) : climb.Permitted soak stage'.index now := by
  rw [Climb.Permitted, ← hlev]
  refine ⟨h.step, fun hup => ?_⟩
  unfold soak
  split
  · rename_i hcanary
    have hne : climb.level ≠ 0 := by
      rw [← hlev]
      rcases hcanary with hat | hat <;> rw [hat] <;> decide
    have htgt : stage' = canary25 ∨ stage' = broad := by
      rcases hcanary with hat | hat
      · exact .inl (index_inj (hup.trans (by rw [hat]; rfl)))
      · exact .inr (index_inj (hup.trans (by rw [hat]; rfl)))
    obtain ⟨t, ht, hlong⟩ := h.window hup htgt
    rw [hsta hne] at ht
    cases ht
    exact hlong
  · have := hdt.2
    omega

theorem Granted.safe {switches : TrafficSwitches}
    (h : Granted stage startedAt now stage' switches) : StageSafe stage' switches :=
  ⟨h.idle, h.canary⟩

/-- **A rollout request.** -/
theorem RolloutInv.update (h : RolloutInv x) (input : UpdateFederationRolloutInput)
    (hnow : x.clock ≤ now) : RolloutInv { (x.update H input now).2 with clock := now } := by
  rcases update_cases H x input now with
    hsame | ⟨server, f, stage, switches, decision, heff, hst⟩
  · rw [hsame]
    exact h.later hnow
  · have hbef := h.servers input.serverId server heff.found
    obtain ⟨⟨at?, hname, hlev, -⟩, hsta, hsoaked, hdt⟩ := hbef
    have hstg : at? = stage := name_inj (hname.symm.trans heff.at_stage)
    rw [hstg] at hlev
    have hid := findServer_id heff.found
    have hcolumns : (x.update H input now).2.columns = Function.update x.columns input.serverId
        (updatedColumns H x input server now switches decision) := by rw [hst]
    have hclimbs : (x.update H input now).2.climbs = Function.update x.climbs input.serverId
        ((x.climbs input.serverId).move input.stage.index now) := by rw [hst]
    have happ : (x.update H input now).2.applied =
        ⟨input, x.registry.nextGeneration⟩ :: x.applied := by rw [hst]
    refine h.wrote input.stage now heff.found heff.id heff.rows
      heff.next heff.counted hnow rfl (fun id hne => ?_) ?_ heff.stage ?_
      (heff.granted.permitted hlev hsta hdt hnow) (fun hne => ?_)
      (.inr ⟨input, rfl, heff.expected, happ⟩)
    · dsimp only
      rw [hcolumns, hclimbs, Function.update_of_ne hne, Function.update_of_ne hne]
      exact ⟨rfl, rfl⟩
    · dsimp only
      rw [hclimbs, Function.update_self]
    · rw [heff.switches]
      exact heff.granted.safe
    · -- the time in the row is that of the last change of the stage
      dsimp only
      rw [hcolumns, hclimbs, Function.update_self, Function.update_self]
      unfold updatedColumns
      dsimp only
      rw [hid, heff.at_stage]
      by_cases hsty : input.stage = stage
      · rw [hsty] at hne ⊢
        rw [hlev] at hne ⊢
        rw [Climb.move_self, hsta hne, if_neg (by simp)]
      · have hmoves : input.stage.index ≠ (x.climbs input.serverId).level := by
          rw [← hlev]
          exact fun heq => hsty (index_inj heq)
        rw [Climb.move_ne hmoves, if_pos (.inl fun heq => hsty (name_inj heq).symm)]

/-! ### `revokeFederationTrust` -/

/-- What `revokeFederationTrust` writes on the row. -/
def RemoteServer.trustRevoked (generation : Nat) (row : RemoteServer) : RemoteServer :=
  { row with
    registryGeneration := generation
    activationMode := "DISABLED"
    rolloutStage := "DISABLED"
    httpEnabled := false
    wsEnabled := false
    publicEnabled := false
    legacyEnabled := false
    trustState := .revoked
    trustReasonCode := some "TRUST_REVOKED"
    reasonCode := some "TRUST_REVOKED" }

theorem revokeFederationTrust_changed {y after : RegistryDb} {generation : Nat}
    {value : RegistryValue}
    (hm : revokeFederationTrust y generation serverId now = .ok (true, value, after)) :
    ∃ server f, y.findServer serverId = some server ∧ (∀ row : RemoteServer, (f row).id = row.id) ∧
      after.remoteServer = (y.updateServer serverId f).remoteServer ∧
      (f server).registryGeneration = generation ∧
      (f server).rolloutStage = disabled.name ∧ (f server).switches = .off := by
  unfold revokeFederationTrust at hm
  split at hm
  · cases hm
  rename_i server hsrv
  split at hm
  · cases hm
  split at hm
  · cases hm
  · cases hm
    refine ⟨server, RemoteServer.trustRevoked generation, hsrv, fun _ => rfl, ?_, rfl, rfl, rfl⟩
    rw [← findServer_id hsrv]
    rfl

/-- **A revocation is made, or changes nothing.** -/
theorem revoke_cases (H : RolloutHost) (x : RolloutDb) (serverId : String) (now : Nat) :
    x.revoke H serverId now = x ∨ ∃ server f,
      x.registry.findServer serverId = some server ∧ (∀ row : RemoteServer, (f row).id = row.id) ∧
      (x.revoke H serverId now).registry.remoteServer =
        (x.registry.updateServer serverId f).remoteServer ∧
      (x.revoke H serverId now).registry.nextGeneration = x.registry.nextGeneration + 1 ∧
      (f server).registryGeneration = x.registry.nextGeneration ∧
      (f server).rolloutStage = disabled.name ∧ (f server).switches = .off ∧
      x.revoke H serverId now = { x with
        registry := (x.revoke H serverId now).registry
        columns := Function.update x.columns serverId { x.columns serverId with
          rolloutStageStartedAt := some now
          rolloutEvidence := none
          rolloutApprovedAt := none }
        climbs := Function.update x.climbs serverId
          ((x.climbs serverId).move disabled.index now) } := by
  unfold RolloutDb.revoke
  rcases transact_cases (H := H.base) (x := x.registry) (.revokeFederationTrust serverId now) with
    ⟨-, hnone⟩ | ⟨value, after, projection, hm, heq⟩
  · refine .inl ?_
    split
    · rename_i htransact
      have hproj := hnone _ (congrArg Prod.fst htransact)
      cases hproj
    · rfl
  · obtain ⟨server, f, hsrv, hid, hrows, hcnt, hstg, hsw⟩ :=
      revokeFederationTrust_changed hm
    rw [heq]
    exact .inr ⟨server, f, hsrv, hid, hrows, rfl, hcnt, hstg, hsw, rfl⟩

theorem RolloutInv.revoke (h : RolloutInv x) (serverId : String) (hnow : x.clock ≤ now) :
    RolloutInv { x.revoke H serverId now with clock := now } := by
  rcases revoke_cases H x serverId now with
    hsame | ⟨server, f, hsrv, hid, hrows, hnext, hcnt, hstg, hsw, hst⟩
  · rw [hsame]
    exact h.later hnow
  · have hcolumns : (x.revoke H serverId now).columns = Function.update x.columns serverId
        { x.columns serverId with
          rolloutStageStartedAt := some now
          rolloutEvidence := none
          rolloutApprovedAt := none } := by rw [hst]
    have hclimbs : (x.revoke H serverId now).climbs = Function.update x.climbs serverId
        ((x.climbs serverId).move disabled.index now) := by rw [hst]
    have happ : (x.revoke H serverId now).applied = x.applied := by rw [hst]
    refine h.wrote disabled now hsrv hid hrows hnext hcnt hnow
      rfl (fun id hne => ?_) ?_ hstg ⟨fun _ => hsw, fun hon => ?_⟩ ⟨?_, fun hup => ?_⟩
      (fun hne => absurd rfl hne) (.inl happ)
    · dsimp only
      rw [hcolumns, hclimbs, Function.update_of_ne hne, Function.update_of_ne hne]
      exact ⟨rfl, rfl⟩
    · dsimp only
      rw [hclimbs, Function.update_self]
    · rw [hsw] at hon
      rcases hon with hws | hpub
      · cases hws
      · cases hpub
    · exact Nat.zero_le _
    · cases hup

/-! ## Steps -/

/-- A step that leaves the columns of the rollout as they are, where there is a server. -/
theorem RolloutInv.registered (h : RolloutInv x) {registry : RegistryDb}
    (hkept : StagesKept x.registry registry)
    (hnone : ∀ id, x.registry.findServer id = none → registry.findServer id = none) :
    RolloutInv { x with registry := registry } := by
  refine h.kept hkept (Nat.le_refl _) rfl (fun _ _ _ => ⟨rfl, rfl⟩) fun id row' habsent hrow' => ?_
  change registry.findServer id = some row' at hrow'
  rw [hnone id habsent] at hrow'
  cases hrow'

/-- Statements that write no generation create no row. -/
theorem Fates.absent {y y' : RegistryDb} (h : Fates none y y') (hnone : y.findServer id = none) :
    y'.findServer id = none := by
  have hfate := h id
  rw [hnone] at hfate
  cases hrow : y'.findServer id with
  | none => rfl
  | some row' =>
    rw [hrow] at hfate
    cases hfate with
    | created _ _ _ hcnt => cases hcnt

/-- **Every step keeps the invariant.** -/
theorem RolloutInv.step (h : RolloutInv x) {event : RolloutEvent}
    (hstep : x.step H event = some x') : RolloutInv x' := by
  cases event with
  | updateFederationRollout input now =>
    unfold RolloutDb.step at hstep
    dsimp only at hstep
    split at hstep
    · cases hstep
    · rename_i hnow
      cases hstep
      exact h.update input (Nat.le_of_not_lt hnow)
  | revokeFederationTrust serverId now =>
    unfold RolloutDb.step at hstep
    dsimp only at hstep
    split at hstep
    · cases hstep
    · rename_i hnow
      cases hstep
      exact h.revoke serverId (Nat.le_of_not_lt hnow)
  | mutation m status =>
    unfold RolloutDb.step at hstep
    dsimp only at hstep
    split at hstep
    · cases hstep
    · rename_i hother
      cases hstep
      exact h.advance status (transact_kept (Bool.eq_false_of_not_eq_true hother))
  | statement i =>
    unfold RolloutDb.step at hstep
    dsimp only at hstep
    split at hstep
    · cases hstep
    · rename_i hi
      cases hstep
      have hpl := Bool.eq_false_of_not_eq_true hi
      exact h.registered (answer_kept i hpl) fun _ => (answer_fates none i hpl).1.absent
  | outside change =>
    cases hstep
    exact h.registered (outside_kept change) fun _ => (outside_fates none change).1.absent
  | probe serverId status =>
    cases hstep
    refine h.kept (.of_same (fun _ => .of_eq rfl) rfl) (Nat.le_refl _) rfl (fun id row _ => ?_)
      fun id row' hnone hrow' => ?_
    · refine ⟨?_, rfl⟩
      dsimp only
      by_cases hsame : id = serverId
      · rw [hsame, Function.update_self]
      · rw [Function.update_of_ne hsame]
    · change x.registry.findServer id = some row' at hrow'
      rw [hnone] at hrow'
      cases hrow'
  | importAuthoritativeJson records status =>
    unfold RolloutDb.step at hstep
    dsimp only at hstep
    split at hstep
    · cases hstep
      exact h
    · rename_i registry himport
      cases hstep
      obtain ⟨hfat, hnext⟩ := importAuthoritativeJson_fates himport
      exact h.advance status (.of_next hfat hnext)
  | rollbackAuthorityToJson =>
    cases hstep
    have hfz : Fates none x.registry (x.registry.setFrozen none) := .setFrozen none
    exact h.registered (.of_next rollbackAuthorityToJson_fates.1 rollbackAuthorityToJson_fates.2)
      fun _ => hfz.absent

/-- What a step may do to the row of a server. -/
structure SafeChange (row row' : RemoteServer) : Prop where
  stage : ∀ stage stage' : FederationRolloutStage, row.rolloutStage = stage.name →
    row'.rolloutStage = stage'.name →
      stage'.index ≤ stage.index + 1 ∧ (stage'.index < stage.index → row'.switches = .off)
  counted : row.registryGeneration ≤ row'.registryGeneration
  fresh : row'.rolloutStage ≠ row.rolloutStage ∨ row'.switches ≠ row.switches →
    row.registryGeneration < row'.registryGeneration

theorem SafeChange.of_same (hstg : row'.rolloutStage = row.rolloutStage)
    (hsw : row'.switches = row.switches)
    (hcnt : row.registryGeneration ≤ row'.registryGeneration) : SafeChange row row' := by
  refine ⟨fun stage stage' hname hname' => ?_, hcnt, fun hch => ?_⟩
  · have hsame : stage' = stage := name_inj (hname'.symm.trans (hstg.trans hname))
    rw [hsame]
    exact ⟨Nat.le_succ _, fun hlt => absurd hlt (Nat.lt_irrefl _)⟩
  · rcases hch with hne | hne
    · exact absurd hstg hne
    · exact absurd hsw hne

/-- The other writers change no stage. -/
theorem StagesKept.change {y y' : RegistryDb} (h : StagesKept y y')
    (hcnt : row.registryGeneration < y.nextGeneration) (hrow : y.findServer id = some row)
    (hrow' : y'.findServer id = some row') : SafeChange row row' := by
  obtain ⟨-, fresh, hfat, hfr⟩ := h
  have hfate := hfat id
  rw [hrow, hrow'] at hfate
  cases hfate with
  | kept _ _ hstg hsw hwr =>
    refine .of_same hstg hsw ?_
    rcases hwr with hsame | hg
    · exact Nat.le_of_eq hsame.symm
    · have := (hfr _ hg.symm).1
      omega

/-- A write on one server, seen from any. -/
theorem change_of_write {y y' : RegistryDb} {f : RemoteServer → RemoteServer}
    (hid : ∀ row, (f row).id = row.id) (hsrv : y.findServer serverId = some server)
    (hrows : y'.remoteServer = (y.updateServer serverId f).remoteServer)
    (hchg : SafeChange server (f server)) (hrow : y.findServer id = some row)
    (hrow' : y'.findServer id = some row') : SafeChange row row' := by
  have hfnd : y'.findServer id = (y.updateServer serverId f).findServer id := by
    unfold RegistryDb.findServer
    rw [hrows]
  rw [hfnd, findServer_updateServer serverId hid, hrow, Option.map_some] at hrow'
  cases hrow'
  split
  · rename_i hsame
    have hat : id = serverId := by rw [← findServer_id hrow, ← beq_iff_eq, hsame]
    rw [hat, hsrv] at hrow
    cases hrow
    exact hchg
  · exact .of_same rfl rfl (Nat.le_refl _)

/-- **What every step does to every server.** -/
theorem RolloutInv.change (h : RolloutInv x) {event : RolloutEvent}
    (hstep : x.step H event = some x') (hrow : x.registry.findServer id = some row)
    (hrow' : x'.registry.findServer id = some row') : SafeChange row row' := by
  have hcnt := h.counted id row hrow
  have hsame : x'.registry = x.registry → SafeChange row row' := by
    intro heq
    rw [heq, hrow] at hrow'
    cases hrow'
    exact .of_same rfl rfl (Nat.le_refl _)
  cases event with
  | updateFederationRollout input now =>
    unfold RolloutDb.step at hstep
    dsimp only at hstep
    split at hstep
    · cases hstep
    cases hstep
    rcases update_cases H x input now with heq | ⟨server, f, stage, switches, decision, heff, -⟩
    · exact hsame (by dsimp only; rw [heq])
    · refine change_of_write heff.id heff.found heff.rows ?_ hrow hrow'
      have hbd := h.counted input.serverId server heff.found
      refine ⟨fun before after hname hname' => ?_, ?_, fun _ => ?_⟩
      · rw [name_inj (hname.symm.trans heff.at_stage),
          name_inj (hname'.symm.trans heff.stage), heff.switches]
        exact ⟨heff.granted.step, heff.granted.demoted⟩
      · rw [heff.counted]
        omega
      · rw [heff.counted]
        exact hbd
  | revokeFederationTrust serverId now =>
    unfold RolloutDb.step at hstep
    dsimp only at hstep
    split at hstep
    · cases hstep
    cases hstep
    rcases revoke_cases H x serverId now with
      heq | ⟨server, f, hsrv, hid, hrows, -, hgen, hstg, hsw, -⟩
    · exact hsame (by dsimp only; rw [heq])
    · refine change_of_write hid hsrv hrows ?_ hrow hrow'
      have hbd := h.counted serverId server hsrv
      refine ⟨fun before after _ hname' => ?_, by omega, fun _ => by omega⟩
      rw [name_inj (hname'.symm.trans hstg)]
      exact ⟨Nat.zero_le _, fun _ => hsw⟩
  | mutation m status =>
    unfold RolloutDb.step at hstep
    dsimp only at hstep
    split at hstep
    · cases hstep
    · rename_i hother
      cases hstep
      exact (transact_kept (Bool.eq_false_of_not_eq_true hother)).change hcnt hrow hrow'
  | statement i =>
    unfold RolloutDb.step at hstep
    dsimp only at hstep
    split at hstep
    · cases hstep
    · rename_i hi
      cases hstep
      exact (answer_kept i (Bool.eq_false_of_not_eq_true hi)).change hcnt hrow hrow'
  | outside change =>
    cases hstep
    exact (outside_kept change).change hcnt hrow hrow'
  | probe serverId status =>
    cases hstep
    exact hsame rfl
  | importAuthoritativeJson records status =>
    unfold RolloutDb.step at hstep
    dsimp only at hstep
    split at hstep
    · cases hstep
      exact hsame rfl
    · rename_i registry himport
      cases hstep
      obtain ⟨hfat, hnext⟩ := importAuthoritativeJson_fates himport
      exact (StagesKept.of_next hfat hnext).change hcnt hrow hrow'
  | rollbackAuthorityToJson =>
    cases hstep
    exact (StagesKept.of_next rollbackAuthorityToJson_fates.1
      rollbackAuthorityToJson_fates.2).change hcnt hrow hrow'

/-! ## Runs -/

/-- Servers on which no rollout was made. -/
structure BeforeRollouts (x : RolloutDb) : Prop where
  rows : ∀ id row, x.registry.findServer id = some row →
    row.rolloutStage = disabled.name ∧ row.switches = .off ∧
      row.registryGeneration < x.registry.nextGeneration
  climbs : ∀ id, x.climbs id = .start x.clock
  applied : x.applied = []

theorem BeforeRollouts.inv (h : BeforeRollouts x) : RolloutInv x := by
  refine ⟨fun id row hrow => ?_, fun id row hrow => (h.rows id row hrow).2.2, ?_, ?_⟩
  · rw [h.climbs]
    exact .fresh (Nat.le_refl _) (h.rows id row hrow).1 (h.rows id row hrow).2.1
  · rw [h.applied]
    exact fun c hc => absurd hc List.not_mem_nil
  · rw [h.applied]
    exact .nil

/-- The two stays behind a server in the stage `BROAD`, one after the other. -/
def SoakedCanaries (climb : Climb) (clock : Nat) : Prop :=
  ∃ low ∈ climb.visits, ∃ high ∈ climb.visits,
    low.level = canary5.index ∧ high.level = canary25.index ∧
    low.entered + STAGE_WINDOW ≤ low.left ∧ low.left ≤ high.entered ∧
    high.entered + STAGE_WINDOW ≤ high.left ∧ high.left ≤ clock

theorem soaked_canaries {climb : Climb} {clock : Nat} (h : climb.Soaked soak)
    (hdt : climb.Dated clock) (hlev : broad.index = climb.level) :
    SoakedCanaries climb clock := by
  obtain ⟨low, hlow, high, hhigh, hat, hat', hstay, hbetween, hstay', hend⟩ :=
    h.twice hdt (l := canary5.index) (by rw [← hlev]; decide)
  exact ⟨low, hlow, high, hhigh, hat, hat', hstay, hbetween, hstay', hend⟩

/-- Of the requests to one server, each expects another generation. -/
theorem RolloutInv.distinct (h : RolloutInv x) : (x.applied.map fun c =>
    (c.input.serverId, c.input.expectedRegistryGeneration)).Nodup := by
  refine List.pairwise_map.mpr ?_
  refine h.ordered.imp_of_mem fun {newer older} _ holder horder hsame => ?_
  have hsrv := congrArg Prod.fst hsame
  have hexpd := congrArg Prod.snd hsame
  have hmade := horder hsrv
  have hbel := (h.applied older holder).2.1
  dsimp only at hexpd
  omega

variable {x₀ : RolloutDb}

/-- **Rollouts stay safe.** -/
theorem rollout_safety (h0 : BeforeRollouts x₀) (hs : Reach (RolloutDb.step H) anyStep x₀ x) :
    (∀ id row, x.registry.findServer id = some row →
      ∃ stage : FederationRolloutStage, row.rolloutStage = stage.name ∧
        (row.wsEnabled = true ∨ row.publicEnabled = true → canary5.index ≤ stage.index) ∧
        (stage = disabled ∨ stage = observe → row.switches = .off) ∧
        (stage = broad → SoakedCanaries (x.climbs id) x.clock)) ∧
    (∀ event x', x.step H event = some x' → ∀ id row row',
      x.registry.findServer id = some row → x'.registry.findServer id = some row' →
        SafeChange row row') ∧
    (x.applied.map RolloutChange.input).Nodup := by
  have hinv : RolloutInv x := hs.invariant h0.inv fun _ _ _ h _ hstep => h.step hstep
  refine ⟨fun id row hrow => ?_, fun event x' hstep id row row' => hinv.change hstep, ?_⟩
  · obtain ⟨⟨stage, hname, hlev, hsafe⟩, -, hsoaked, hdt⟩ := hinv.servers id row hrow
    refine ⟨stage, hname, hsafe.canary, hsafe.idle, fun hbroad => ?_⟩
    rw [hbroad] at hlev
    exact soaked_canaries hsoaked hdt hlev
  · have hdist := hinv.distinct
    have hmap : (x.applied.map fun c =>
        (c.input.serverId, c.input.expectedRegistryGeneration)) =
          (x.applied.map RolloutChange.input).map fun input =>
            (input.serverId, input.expectedRegistryGeneration) := by
      rw [List.map_map]
      rfl
    rw [hmap] at hdist
    exact List.Nodup.of_map _ hdist

namespace SampleRollout

def host : RolloutHost := ⟨Sample.host, fun _ => "fingerprint"⟩

def status : ServerStatus where
  protocolVersion := some 1
  transportState := "ONLINE"
  transportFreshUntil := some 900000000
  trustFreshUntil := some 900000000
  capabilityState := "FRESH"
  latestManifest := some ⟨"v1-enabled", "VALID", 900000000, "READY"⟩

def evidence : FederationCanaryEvidence :=
  ⟨86400, 5, 200, 0, 0, 0, 0, 0, 0, 0, 0, 0, 0, 0, 0, 0, 0, 0, 0, 0, 0, 0, 0, 0⟩

def start : RolloutDb :=
  ⟨Sample.registry, fun _ => .initial status, 0, fun _ => .start 0, []⟩

/-- The request for a stage, with a key of its own. -/
def request (stage : FederationRolloutStage) (generation : Nat) (digit : Char) :
    UpdateFederationRolloutInput where
  stage := stage
  expectedRegistryGeneration := generation
  reason := "scheduled rollout"
  httpEnabled := none
  wsEnabled := some true
  publicEnabled := none
  evidence := some evidence
  serverId := "server-1"
  requestKeyHash := String.ofList (digit :: List.replicate 63 '0')

/-- A server is enrolled and taken to the last stage. -/
def promotions : List RolloutEvent :=
  [.mutation (.commitFederatedEnrollment ⟨"server-1", "issuer-1", "Target", "target-1",
      "manifest-1", "spki", Sample.address "https://target.example", 0⟩) status,
    .updateFederationRollout (request observe 2 '1') 1,
    .updateFederationRollout { request readOnly 3 '2' with wsEnabled := none } 2,
    .updateFederationRollout (request canary5 4 '3') 3,
    .updateFederationRollout (request canary25 5 '4') 86400003,
    .updateFederationRollout (request broad 6 '5') 172800003]

/-- The server is in the last stage, with web sockets on. -/
theorem rollout_safety_broad : ∃ x : RolloutDb,
    (x.registry.findServer "server-1").map (fun row => (row.rolloutStage, row.wsEnabled)) =
      some ("BROAD", true) ∧
    (∀ id row, x.registry.findServer id = some row →
      ∃ stage : FederationRolloutStage, row.rolloutStage = stage.name ∧
        (row.wsEnabled = true ∨ row.publicEnabled = true → canary5.index ≤ stage.index) ∧
        (stage = disabled ∨ stage = observe → row.switches = .off) ∧
        (stage = broad → SoakedCanaries (x.climbs id) x.clock)) ∧
    (∀ event x', x.step host event = some x' → ∀ id row row',
      x.registry.findServer id = some row → x'.registry.findServer id = some row' →
        SafeChange row row') ∧
    (x.applied.map RolloutChange.input).Nodup := by
  have hrun : ∃ x, Reach (RolloutDb.step host) anyStep start x ∧
      (x.registry.findServer "server-1").map (fun row => (row.rolloutStage, row.wsEnabled)) =
        some ("BROAD", true) :=
    Reach.of_run_any (l := promotions) (by decide +kernel)
  have hbef : BeforeRollouts start := by
    refine ⟨fun id row hsome => ?_, fun _ => rfl, rfl⟩
    cases hsome
  obtain ⟨x, hx, hrow⟩ := hrun
  exact ⟨x, hrow, rollout_safety hbef hx⟩

end SampleRollout

end Meowbox.Registry
