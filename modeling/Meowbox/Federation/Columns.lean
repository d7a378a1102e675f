import Meowbox.Federation.Registry
import Meowbox.Federation.RolloutPolicy

/-!
# Mutations of one row

Nine mutations update one row and leave its stage, its switches and its freeze alone
(`mutate_rewritten`); of the trust in a server only the activation of a rotated key changes
anything, and it has found an active issuer of the server.
-/

namespace Meowbox.Registry

/-- The trust in the server was revoked, and it was not enrolled since. -/
def revoked : List RegistryEvent → String → Bool
  | [], _ => false
  | .revoked other :: rest, id => other == id || revoked rest id
  | .enrolled other :: rest, id => other != id && revoked rest id
  | .prepared _ _ :: rest, id => revoked rest id
  | .rolledBack _ _ :: rest, id => revoked rest id

/-- A row whose endpoints and cutovers are those of another. -/
structure SameEndpoints (row row' : RemoteServer) : Prop where
  id : row'.id = row.id
  installationId : row'.installationId = row.installationId
  endpoints : row'.endpoints = row.endpoints
  cutovers : row'.cutovers = row.cutovers
  active : row'.activeEndpointGeneration = row.activeEndpointGeneration
  candidate : row'.candidateEndpointGeneration = row.candidateEndpointGeneration

namespace Mutation

def rewrites : Mutation → Bool
  | updateFederationRollout _ _ | revokeFederationTrust _ _ | addLegacyServer _ _
  | removeLegacyServer _ | commitFederatedEnrollment _ => false
  | _ => true

def keepsEndpoints : Mutation → Bool
  | prepareFederationKeyRotation _ _ _ _ | activateFederationKeyRotation _ _ _ _
  | updateLegacyServer _ _ => true
  | _ => false

end Mutation

/-- What an update writes besides the stage, the switches and the freeze; `fresh` is the generation
that is written, if one is. -/
structure OtherColumns (fresh : Option Nat) (f : RemoteServer → RemoteServer) : Prop where
  id : ∀ row, (f row).id = row.id
  stage : ∀ row, (f row).rolloutStage = row.rolloutStage
  switches : ∀ row, (f row).switches = row.switches
  frozen : ∀ row, (f row).mutationFrozenAt = row.mutationFrozenAt
  counted : ∀ row, (f row).registryGeneration = row.registryGeneration ∨
    some (f row).registryGeneration = fresh

/-- What such a mutation leaves: nothing has happened, or one row is updated. -/
inductive Rewritten (m : Mutation) (generation : Nat) (x x' : RegistryDb) : Prop
  | same (eq : x' = x)
  | row (id : String) (f : RemoteServer → RemoteServer)
      (rows : x'.remoteServer = (x.updateServer id f).remoteServer)
      (columns : OtherColumns (some generation) f)
      (endpoints : m.keepsEndpoints = true →
        (∀ row, SameEndpoints row (f row)) ∧ x'.history = x.history)
      (trust : (∀ row, (f row).trustState = row.trustState) ∨
        ∃ issuer ∈ x.issuersOf id, issuer.revokedAt = none)
      (issuers : ∀ issuer' ∈ x'.federationIssuer, ∃ issuer ∈ x.federationIssuer,
        issuer'.remoteServerId = issuer.remoteServerId ∧ issuer'.revokedAt = issuer.revokedAt)
      (revoked : ∀ id, revoked x'.history id = revoked x.history id)
      (rest : x'.journal = x.journal ∧ x'.file = x.file ∧ x'.identity = x.identity)

variable {x x' : RegistryDb} {H : RegistryHost} {generation : Nat} {changed : Bool}
  {value : RegistryValue} {server : RemoteServer}

theorem trustedIssuer_some {issuer : FederationIssuer}
    (h : trustedIssuer x server = some issuer) :
    issuer ∈ x.issuersOf server.id ∧ issuer.revokedAt = none := by
  have hprop := List.find?_some h
  simp only [Bool.and_eq_true, Option.isNone_iff_eq_none] at hprop
  exact ⟨List.mem_of_find?_eq_some h, hprop.2⟩

/-- The keys of an issuer change. -/
theorem issuers_updateIssuers (p : FederationIssuer → Bool)
    {g : FederationIssuer → FederationIssuer}
    (hg : ∀ i, (g i).remoteServerId = i.remoteServerId ∧ (g i).revokedAt = i.revokedAt) :
    ∀ issuer' ∈ (x.updateIssuers p g).federationIssuer, ∃ issuer ∈ x.federationIssuer,
      issuer'.remoteServerId = issuer.remoteServerId ∧
        issuer'.revokedAt = issuer.revokedAt := by
  intro issuer' his'
  obtain ⟨issuer, his, rfl⟩ := List.mem_map.mp his'
  refine ⟨issuer, his, ?_⟩
  split
  · exact hg issuer
  · exact ⟨rfl, rfl⟩

/-- **The mutations of one row.** -/
theorem mutate_rewritten {m : Mutation} (hrewrites : m.rewrites = true)
    (hm : mutate H x generation m = .ok (changed, value, x')) : Rewritten m generation x x' := by
  cases m with
  | updateFederationRollout | revokeFederationTrust | addLegacyServer | removeLegacyServer
  | commitFederatedEnrollment => cases hrewrites
  | prepareFederationKeyRotation serverId target key now =>
    simp only [mutate, prepareFederationKeyRotation] at hm
    repeat' split at hm
    all_goals first
      | exact absurd hm conflict_ne_ok
      | cases hm
    · exact .same rfl
    · refine .row _ _ rfl ⟨?_, ?_, ?_, ?_, fun _ => .inr rfl⟩ (fun _ => ⟨fun _ => ?_, rfl⟩) (.inl ?_)
        (issuers_updateIssuers _ ?_) (fun _ => rfl) ⟨rfl, rfl, rfl⟩
      all_goals first
        | exact fun _ => rfl
        | exact ⟨rfl, rfl, rfl, rfl, rfl, rfl⟩
        | exact fun _ => ⟨rfl, rfl⟩
  | activateFederationKeyRotation serverId newKid graceUntil now =>
    simp only [mutate, activateFederationKeyRotation] at hm
    repeat' split at hm
    all_goals first
      | exact absurd hm conflict_ne_ok
      | cases hm
    · exact .same rfl
    · rename_i his _ _ _ _ _ _
      refine .row _ _ rfl ⟨?_, ?_, ?_, ?_, fun _ => .inr rfl⟩ (fun _ => ⟨fun _ => ?_, rfl⟩)
        (.inr ⟨_, trustedIssuer_some his⟩) (issuers_updateIssuers _ ?_) (fun _ => rfl)
        ⟨rfl, rfl, rfl⟩
      all_goals first
        | exact fun _ => rfl
        | exact ⟨rfl, rfl, rfl, rfl, rfl, rfl⟩
        | exact fun _ => ⟨rfl, rfl⟩
  | updateLegacyServer next tokenEnc =>
    simp only [mutate, updateLegacyServer] at hm
    split at hm
    · cases hm
    · cases hm
      refine .row _ _ rfl ⟨?_, ?_, ?_, ?_, fun _ => .inr rfl⟩ (fun _ => ⟨fun _ => ?_, rfl⟩) (.inl ?_)
        (fun i hi => ⟨i, hi, rfl, rfl⟩) (fun _ => rfl) ⟨rfl, rfl, rfl⟩
      all_goals first
        | exact fun _ => rfl
        | exact ⟨rfl, rfl, rfl, rfl, rfl, rfl⟩
  | rollbackEndpointCutover cutoverId code =>
    simp only [mutate, rollbackEndpointCutover] at hm
    repeat' split at hm
    all_goals first
      | exact absurd hm conflict_ne_ok
      | cases hm
    · exact .same rfl
    · refine .row _ _ rfl ⟨fun row => ?_, fun row => ?_, fun row => ?_, fun row => ?_,
          fun _ => .inr rfl⟩         (fun h => by cases h) (.inl fun row => ?_) (fun i hi => ⟨i, hi, rfl, rfl⟩) (fun _ => rfl)
        ⟨rfl, rfl, rfl⟩
      all_goals
        unfold RemoteServer.setCutover RemoteServer.restore
        dsimp only
        split <;> rfl
  | prepareEndpointCutover | stageEndpointCutover | activateEndpointCutover
  | finalizeEndpointCutover | markEndpointCutoverNeedsAttention =>
    simp only [mutate, prepareEndpointCutover, stageEndpointCutover, activateEndpointCutover,
      finalizeEndpointCutover, markEndpointCutoverNeedsAttention] at hm
    repeat' split at hm
    all_goals first
      | exact absurd hm conflict_ne_ok
      | cases hm
    all_goals first
      | exact .same rfl
      | refine .row _ _ rfl ⟨?_, ?_, ?_, ?_, fun _ => .inr rfl⟩ (fun h => by cases h) (.inl ?_)
          (fun i hi => ⟨i, hi, rfl, rfl⟩) (fun _ => rfl) ⟨rfl, rfl, rfl⟩
        all_goals exact fun _ => rfl

end Meowbox.Registry
