import Meowbox.Federation.RegistryStore
import Meowbox.Lib.Except

/-!
# The rollout policy

Model of `api/src/federation/federation-rollout-policy.ts` behind the parsing of requests, and of
the checks that `updateFederationRollout` makes between the generation of a server and its update:
which switches a change of stage leaves on (`rolloutSwitches`), what an activation asks of the
target (`activationChecks`) and of the canary (`canaryDecision`), and the 24 hours on a canary stage
(`stageWindow`).

The measurements of a canary are finite doubles, which are rational numbers. `Granted` is what a
decision of the policy says of the stage and the switches.
-/

namespace Meowbox.Registry

inductive FederationRolloutStage
  | disabled
  | observe
  | readOnly
  | canary5
  | canary25
  | broad
deriving DecidableEq

namespace FederationRolloutStage

def name : FederationRolloutStage → String
  | disabled => "DISABLED"
  | observe => "OBSERVE"
  | readOnly => "READ_ONLY"
  | canary5 => "CANARY_5"
  | canary25 => "CANARY_25"
  | broad => "BROAD"

/-- `isRolloutStage`, with the stage. -/
def ofName? : String → Option FederationRolloutStage
  | "DISABLED" => some disabled
  | "OBSERVE" => some observe
  | "READ_ONLY" => some readOnly
  | "CANARY_5" => some canary5
  | "CANARY_25" => some canary25
  | "BROAD" => some broad
  | _ => none

/-- `rolloutStageIndex`. -/
def index : FederationRolloutStage → Nat
  | disabled => 0
  | observe => 1
  | readOnly => 2
  | canary5 => 3
  | canary25 => 4
  | broad => 5

/-- `ACTIVATION_MODE_BY_STAGE`. -/
def activationMode : FederationRolloutStage → String
  | disabled => "DISABLED"
  | observe => "OBSERVE"
  | readOnly => "V1_READ_ONLY"
  | canary5 => "V1_ENABLED"
  | canary25 => "V1_ENABLED"
  | broad => "V1_ENABLED"

@[simp] theorem ofName?_name (stage : FederationRolloutStage) :
    ofName? stage.name = some stage := by
  cases stage <;> rfl

theorem index_inj {a b : FederationRolloutStage} (h : a.index = b.index) : a = b := by
  cases a <;> cases b <;> first | rfl | cases h

end FederationRolloutStage

open FederationRolloutStage

structure FederationCanaryEvidence where
  observedSeconds : Rat
  eligiblePercent : Rat
  requests15m : Rat
  featureFailurePct : Rat
  errorDeltaPoints : Rat
  p95DeltaMs : Rat
  queueDepth : Rat
  queueOldestSeconds : Rat
  sqliteBusyPct : Rat
  leaseP95Ms : Rat
  leaseReclaimPct : Rat
  nonRetrySafeReclaims : Rat
  wsAttempts10m : Rat
  wsReadyFailurePct : Rat
  wsReconnectsMax : Rat
  adminerLaunches : Rat
  adminerFailurePct : Rat
  transferAttempts : Rat
  transferFailurePct : Rat
  checksumMismatches : Rat
  rssDeltaMiB : Rat
  webhookBacklog : Rat
  webhookOldestSeconds : Rat
  securityStops : Rat
deriving DecidableEq

structure FederationRolloutRequest where
  stage : FederationRolloutStage
  expectedRegistryGeneration : Nat
  reason : String
  httpEnabled : Option Bool
  wsEnabled : Option Bool
  publicEnabled : Option Bool
  evidence : Option FederationCanaryEvidence
deriving DecidableEq

structure UpdateFederationRolloutInput extends FederationRolloutRequest where
  serverId : String
  requestKeyHash : String
deriving DecidableEq

structure FederationCanaryDecision where
  stopReasons : List String
  insufficientReasons : List String
deriving DecidableEq

/-- `promotionReady`. -/
def FederationCanaryDecision.promotionReady (d : FederationCanaryDecision) : Bool :=
  d.stopReasons.isEmpty && d.insufficientReasons.isEmpty

/-- The reason, when it holds. -/
def reasonIf (p : Prop) [Decidable p] (reason : String) : List String :=
  if p then [reason] else []

/-- `evaluateFederationCanary`. -/
def evaluateFederationCanary (evidence : FederationCanaryEvidence)
    (targetStage : FederationRolloutStage) : FederationCanaryDecision where
  stopReasons :=
    reasonIf (evidence.securityStops > 0) "SECURITY_STOP" ++
    reasonIf (evidence.requests15m ≥ 200 ∧ (evidence.featureFailurePct > 1 / 2 ∨
      evidence.errorDeltaPoints > 2 ∨ evidence.p95DeltaMs > 100)) "HTTP_REGRESSION" ++
    reasonIf (evidence.queueDepth ≥ 102 ∨ evidence.queueOldestSeconds > 120) "OPERATION_QUEUE" ++
    reasonIf (evidence.sqliteBusyPct > 1 ∨ evidence.leaseP95Ms > 100) "SQLITE_LEASE" ++
    reasonIf (evidence.leaseReclaimPct > 1 / 2 ∨ evidence.nonRetrySafeReclaims > 0)
      "UNSAFE_RECLAIM" ++
    reasonIf ((evidence.wsAttempts10m ≥ 100 ∧ evidence.wsReadyFailurePct > 1) ∨
      evidence.wsReconnectsMax > 5) "WS_READINESS" ++
    reasonIf (evidence.adminerLaunches ≥ 50 ∧ evidence.adminerFailurePct > 1) "ADMINER_FAILURE" ++
    reasonIf ((evidence.transferAttempts ≥ 50 ∧ evidence.transferFailurePct > 1) ∨
      evidence.checksumMismatches > 0 ∨ evidence.rssDeltaMiB > 128) "TRANSFER_FAILURE" ++
    reasonIf (evidence.webhookBacklog ≥ 800 ∨ evidence.webhookOldestSeconds > 300)
      "WEBHOOK_BACKLOG" ++
    reasonIf (targetStage = canary5 ∧ evidence.eligiblePercent > 5) "CANARY_VOLUME_GT_5" ++
    reasonIf (targetStage = canary25 ∧ evidence.eligiblePercent > 25) "CANARY_VOLUME_GT_25"
  insufficientReasons :=
    reasonIf ((targetStage = canary25 ∨ targetStage = broad) ∧ evidence.observedSeconds < 86400)
      "OBSERVATION_WINDOW_LT_24H" ++
    reasonIf ((targetStage = canary25 ∨ targetStage = broad) ∧ evidence.requests15m < 200)
      "HTTP_SAMPLE_LT_200"

structure TrafficSwitches where
  httpEnabled : Bool
  wsEnabled : Bool
  publicEnabled : Bool
deriving DecidableEq

def TrafficSwitches.off : TrafficSwitches := ⟨false, false, false⟩

/-- `enablesTraffic`. -/
def TrafficSwitches.enablesTraffic (s : TrafficSwitches) : Bool :=
  s.httpEnabled || s.wsEnabled || s.publicEnabled

/-- The switches that are on in the row. -/
def RemoteServer.switches (row : RemoteServer) : TrafficSwitches :=
  ⟨row.httpEnabled, row.wsEnabled, row.publicEnabled⟩

/-- `rolloutSwitches`, on a server in the given stage. -/
def rolloutSwitches (currentStage : FederationRolloutStage) (current : TrafficSwitches)
    (input : FederationRolloutRequest) : TrafficSwitches :=
  if input.stage = disabled ∨ input.stage = observe then .off
  else if input.stage.index < currentStage.index then .off
  else
    let defaults :=
      if input.stage.index = currentStage.index then current else ⟨true, false, false⟩
    { httpEnabled := input.httpEnabled.getD defaults.httpEnabled
      wsEnabled := input.wsEnabled.getD defaults.wsEnabled
      publicEnabled := input.publicEnabled.getD defaults.publicEnabled }

/-- The newest manifest of a server. -/
structure RemoteManifestSnapshot where
  protocolMode : String
  validationState : String
  validUntil : Nat
  endpointState : String
deriving DecidableEq

/-- What the probes of a server record, and the policy reads. -/
structure ServerStatus where
  protocolVersion : Option Nat
  transportState : String
  transportFreshUntil : Option Nat
  trustFreshUntil : Option Nat
  capabilityState : String
  latestManifest : Option RemoteManifestSnapshot
deriving DecidableEq

/-- `activeEndpoint` of the checks: it is verified. -/
def RemoteServer.hasActivationEndpoint (row : RemoteServer) : Bool :=
  row.endpoints.any fun e =>
    decide (some e.generation = row.activeEndpointGeneration) && decide (e.state = .active) &&
      e.verifiedAt.isSome

/-- The manifest that an activation accepts. -/
def RemoteManifestSnapshot.current (m : RemoteManifestSnapshot) (now : Nat) : Bool :=
  (m.validationState == "VALID" || m.validationState == "PARTIAL") && decide (now < m.validUntil) &&
    m.endpointState == "READY"

/-- The checks under `needsActivationChecks`. -/
def activationChecks (server : RemoteServer) (status : ServerStatus)
    (stage : FederationRolloutStage) (switches : TrafficSwitches) (now : Nat) :
    Except RegistryError Unit :=
  if server.topologyMode ≠ "PUBLIC" ∨ status.protocolVersion ≠ some 1 ∨
      !server.hasActivationEndpoint ∨ server.targetManifestKid.all (· = "") ∨
      server.targetManifestPublicKeySpki.all (· = "") then
    conflict "Federated target identity or public endpoint is not activation-ready"
  else if status.transportState ≠ "ONLINE" ∨ status.transportFreshUntil.all (· ≤ now) then
    conflict "Federated target transport is not fresh and online"
  else if server.trustState ≠ .active ∨ status.trustFreshUntil.all (· ≤ now) then
    conflict "Federated target trust is not fresh and active"
  else if status.capabilityState ≠ "FRESH" ∧ status.capabilityState ≠ "PARTIAL" then
    conflict "Federated target capabilities are not activation-ready"
  else
    match status.latestManifest with
    | none => conflict "Federated target manifest is not current and valid"
    | some manifest =>
      if !manifest.current now then
        conflict "Federated target manifest is not current and valid"
      else if stage = readOnly ∧ manifest.protocolMode ≠ "v1-read-only" ∧
          manifest.protocolMode ≠ "v1-enabled" then
        conflict "Target has not enabled federation read-only mode"
      else if canary5.index ≤ stage.index ∧ manifest.protocolMode ≠ "v1-enabled" then
        conflict "Target has not enabled federation protocol 1"
      else if stage.index < canary5.index ∧ (switches.wsEnabled ∨ switches.publicEnabled) then
        conflict "WS and public delivery require a canary rollout stage"
      else .ok ()

/-- The decision on the evidence, where it is required; `promotes` is whether the stage rises. -/
def canaryDecision (input : FederationRolloutRequest) (promotes : Bool) :
    Except RegistryError (Option FederationCanaryDecision) :=
  match input.evidence with
  | none => .error ⟨.badRequest, "Canary evidence is required"⟩
  | some evidence =>
    let decision := evaluateFederationCanary evidence input.stage
    if decision.stopReasons.isEmpty = false then
      conflict ("Federation canary stop: " ++ String.intercalate "," decision.stopReasons)
    else if promotes ∧ !decision.promotionReady then
      conflict ("Federation canary evidence is insufficient: " ++
        String.intercalate "," decision.insufficientReasons)
    else .ok (some decision)

/-- The 24 hours, in milliseconds. -/
def STAGE_WINDOW : Nat := 86400000

/-- The check on the time that the current stage has lasted. -/
def stageWindow (stage : FederationRolloutStage) (promotes : Bool) (startedAt : Option Nat)
    (now : Nat) : Except RegistryError Unit :=
  if promotes ∧ (stage = canary25 ∨ stage = broad) ∧
      startedAt.all (fun t => decide (now < t + STAGE_WINDOW)) then
    conflict "Current canary stage has not completed its 24-hour window"
  else .ok ()

/-- `needsActivationChecks`. -/
def needsActivationChecks (currentStage stage : FederationRolloutStage)
    (switches : TrafficSwitches) : Bool :=
  decide (currentStage.index < stage.index) ||
    (decide (stage.index = currentStage.index) && switches.enablesTraffic)

/-- `evidenceRequired`. -/
def evidenceRequired (currentStage stage : FederationRolloutStage) (switches : TrafficSwitches) :
    Bool :=
  needsActivationChecks currentStage stage switches &&
    (decide (canary5.index ≤ stage.index) || switches.wsEnabled || switches.publicEnabled)

/-- The checks of `updateFederationRollout` behind the generation, with the switches and the
decision they come to. -/
def decideRollout (server : RemoteServer) (currentStage : FederationRolloutStage)
    (status : ServerStatus) (startedAt : Option Nat) (input : FederationRolloutRequest)
    (now : Nat) : Except RegistryError (TrafficSwitches × Option FederationCanaryDecision) :=
  let promotes := decide (currentStage.index < input.stage.index)
  let switches := rolloutSwitches currentStage server.switches input
  if currentStage.index + 1 < input.stage.index then
    conflict "Federation rollout stages must advance one step at a time"
  else
    match (if needsActivationChecks currentStage input.stage switches then
      activationChecks server status input.stage switches now else .ok ()) with
    | .error e => .error e
    | .ok () =>
      match (if evidenceRequired currentStage input.stage switches then
        canaryDecision input promotes else .ok none) with
      | .error e => .error e
      | .ok decision =>
        match stageWindow input.stage promotes startedAt now with
        | .error e => .error e
        | .ok () => .ok (switches, decision)

/-! ## What a decision grants -/

/-- The stage and the switches that the policy lets a server go to. -/
structure Granted (currentStage : FederationRolloutStage) (startedAt : Option Nat) (now : Nat)
    (stage : FederationRolloutStage) (switches : TrafficSwitches) : Prop where
  step : stage.index ≤ currentStage.index + 1
  demoted : stage.index < currentStage.index → switches = .off
  idle : stage = disabled ∨ stage = observe → switches = .off
  canary : switches.wsEnabled = true ∨ switches.publicEnabled = true →
    canary5.index ≤ stage.index
  window : stage.index = currentStage.index + 1 → stage = canary25 ∨ stage = broad →
    ∃ t, startedAt = some t ∧ t + STAGE_WINDOW ≤ now

variable {server : RemoteServer} {status : ServerStatus} {stage currentStage : FederationRolloutStage}
  {switches : TrafficSwitches} {startedAt : Option Nat} {now : Nat} {input : FederationRolloutRequest}

theorem activationChecks_ok (h : activationChecks server status stage switches now = .ok ())
    (hswitch : switches.wsEnabled = true ∨ switches.publicEnabled = true) :
    canary5.index ≤ stage.index := by
  unfold activationChecks at h
  obtain ⟨-, h⟩ := Failing.unless_ok h
  obtain ⟨-, h⟩ := Failing.unless_ok h
  obtain ⟨-, h⟩ := Failing.unless_ok h
  obtain ⟨-, h⟩ := Failing.unless_ok h
  split at h
  · exact absurd h conflict_ne_ok
  obtain ⟨-, h⟩ := Failing.unless_ok h
  obtain ⟨-, h⟩ := Failing.unless_ok h
  obtain ⟨-, h⟩ := Failing.unless_ok h
  obtain ⟨hlow, h⟩ := Failing.unless_ok h
  by_contra hnot
  exact hlow ⟨Nat.lt_of_not_le hnot, hswitch⟩

theorem stageWindow_ok (h : stageWindow stage true startedAt now = .ok ())
    (hstg : stage = canary25 ∨ stage = broad) :
    ∃ t, startedAt = some t ∧ t + STAGE_WINDOW ≤ now := by
  unfold stageWindow at h
  obtain ⟨hnot, h⟩ := Failing.unless_ok h
  cases startedAt with
  | none => exact absurd ⟨rfl, hstg, rfl⟩ hnot
  | some t =>
    refine ⟨t, rfl, Nat.le_of_not_lt fun hlt => hnot ⟨rfl, hstg, ?_⟩⟩
    rw [Option.all_some]
    exact decide_eq_true hlt

theorem rolloutSwitches_demoted {current : TrafficSwitches}
    (h : input.stage.index < currentStage.index) :
    rolloutSwitches currentStage current input = .off := by
  unfold rolloutSwitches
  by_cases hidle : input.stage = disabled ∨ input.stage = observe
  · rw [if_pos hidle]
  · rw [if_neg hidle, if_pos h]

theorem rolloutSwitches_idle {current : TrafficSwitches}
    (h : input.stage = disabled ∨ input.stage = observe) :
    rolloutSwitches currentStage current input = .off := if_pos h

/-- **What a decision grants.** -/
theorem decideRollout_granted {decision : Option FederationCanaryDecision}
    (h : decideRollout server currentStage status startedAt input now = .ok (switches, decision)) :
    Granted currentStage startedAt now input.stage switches := by
  unfold decideRollout at h
  dsimp only at h
  obtain ⟨hone, h⟩ := Failing.unless_ok h
  split at h
  · cases h
  rename_i hchecks
  split at h
  · cases h
  split at h
  · cases h
  rename_i hwindow
  cases h
  refine ⟨by omega, rolloutSwitches_demoted, rolloutSwitches_idle, fun hswitch => ?_,
    fun hup hstg => ?_⟩
  · -- without the checks the stage falls, and the switches are off
    by_cases hneeded : needsActivationChecks currentStage input.stage
      (rolloutSwitches currentStage server.switches input) = true
    · rw [if_pos hneeded] at hchecks
      exact activationChecks_ok hchecks hswitch
    · have hfall : input.stage.index < currentStage.index := by
        by_contra hnot
        refine hneeded ?_
        unfold needsActivationChecks TrafficSwitches.enablesTraffic
        rcases Nat.lt_or_ge currentStage.index input.stage.index with hlt | hge
        · simp [hlt]
        · have heq : input.stage.index = currentStage.index := by omega
          rcases hswitch with hws | hpub
          · simp [heq, hws]
          · simp [heq, hpub]
      rw [rolloutSwitches_demoted hfall] at hswitch
      rcases hswitch with hws | hpub
      · cases hws
      · cases hpub
  · have hpromotes : decide (currentStage.index < input.stage.index) = true :=
      decide_eq_true (by omega)
    rw [hpromotes] at hwindow
    exact stageWindow_ok hwindow hstg

end Meowbox.Registry
