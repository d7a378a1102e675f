import Meowbox.Federation.Columns
import Meowbox.Lib.Phases

/-!
# The stages of a mutation

What a mutation leaves alone (`mutate_frame`), which columns the legacy file shows
(`renderRows_map`), and where a call is between its transaction and the end of its journal entry, or
a repair between its look at the journal and its own commit (`Stage`, `projecting`).

* `request_stages`: every program keeps to its stages.
-/

namespace Meowbox.Registry

open Interleaved Fallible

variable {x x' : RegistryDb} {H : RegistryHost} {serverId : String} {generation : Nat}
  {changed : Bool} {value : RegistryValue}

/-! ## Rendering -/

/-- The columns that the legacy file shows. -/
def RemoteServer.legacyColumns (row : RemoteServer) :
    String × String × Bool × Option String × Option String :=
  (row.id, row.displayName, row.legacyEnabled, row.legacyUrl, row.legacyTokenEnc)

theorem toLegacyRecord_eq {row row' : RemoteServer} (h : row'.legacyColumns = row.legacyColumns) :
    toLegacyRecord H row' = toLegacyRecord H row := by
  simp only [RemoteServer.legacyColumns, Prod.mk.injEq] at h
  obtain ⟨hid, hname, -, hurl, htok⟩ := h
  unfold toLegacyRecord
  rw [hid, hname, hurl, htok]

/-- **Other columns do not show.** -/
theorem renderRows_map {f : RemoteServer → RemoteServer}
    (hf : ∀ row, (f row).legacyColumns = row.legacyColumns) (rows : List RemoteServer) :
    renderRows H (rows.map f) = renderRows H rows := by
  have hid : ∀ row, (f row).id = row.id := fun row => congrArg Prod.fst (hf row)
  have hen : ∀ row, (f row).legacyEnabled = row.legacyEnabled :=
    fun row => congrArg (fun c => c.2.2.1) (hf row)
  have hrcs : ∀ rows : List RemoteServer,
      rowsToLegacyRecords H (rows.map f) = rowsToLegacyRecords H rows := by
    intro rows
    unfold rowsToLegacyRecords
    rw [List.filter_map, List.mapM_map]
    have hsame : RemoteServer.legacyEnabled ∘ f = RemoteServer.legacyEnabled := funext hen
    have hrcd : toLegacyRecord H ∘ f = toLegacyRecord H :=
      funext fun row => toLegacyRecord_eq (hf row)
    rw [hsame]
    exact congrArg (fun g => List.mapM g (rows.filter RemoteServer.legacyEnabled)) hrcd
  have hsort : (rows.map f).mergeSort (fun a b => decide (a.id ≤ b.id)) =
      (rows.mergeSort fun a b => decide (a.id ≤ b.id)).map f := by
    refine (List.map_mergeSort fun a _ b _ => ?_).symm
    rw [hid, hid]
  unfold renderRows
  rw [hsort, hrcs]

/-! ## What a mutation leaves alone -/

/-- The journal, the file and the identity are as they were, and no row was frozen. -/
structure Frame (x x' : RegistryDb) : Prop where
  journal : x'.journal = x.journal
  file : x'.file = x.file
  identity : x'.identity = x.identity
  thawed : (∀ row ∈ x.remoteServer, row.mutationFrozenAt = none) →
    ∀ row ∈ x'.remoteServer, row.mutationFrozenAt = none

theorem Frame.refl (x : RegistryDb) : Frame x x := ⟨rfl, rfl, rfl, fun h => h⟩

theorem Frame.columns (id : String) {f : RemoteServer → RemoteServer}
    (hf : ∀ row, (f row).mutationFrozenAt = row.mutationFrozenAt)
    (hrows : x'.remoteServer = (x.updateServer id f).remoteServer)
    (hrest : x'.journal = x.journal ∧ x'.file = x.file ∧ x'.identity = x.identity) :
    Frame x x' := by
  refine ⟨hrest.1, hrest.2.1, hrest.2.2, fun h row' hrow' => ?_⟩
  rw [hrows] at hrow'
  obtain ⟨row, hrow, rfl⟩ := List.mem_map.mp hrow'
  split
  · exact (hf row).trans (h row hrow)
  · exact h row hrow

theorem Frame.append {server : RemoteServer} (hsrv : server.mutationFrozenAt = none)
    (hrows : x'.remoteServer = x.remoteServer ++ [server])
    (hrest : x'.journal = x.journal ∧ x'.file = x.file ∧ x'.identity = x.identity) :
    Frame x x' := by
  refine ⟨hrest.1, hrest.2.1, hrest.2.2, fun h row' hrow' => ?_⟩
  rw [hrows] at hrow'
  rcases List.mem_snoc.mp hrow' with hold | rfl
  · exact h row' hold
  · exact hsrv

/-- **A mutation**: it changes columns of one server, adds a server that is not frozen, or removes
one. -/
theorem mutate_frame {m : Mutation} (hm : mutate H x generation m = .ok (changed, value, x')) :
    Frame x x' := by
  cases m with
  | addLegacyServer record tokenEnc =>
    simp only [mutate, addLegacyServer] at hm
    split at hm
    · cases hm
    · cases hm
      exact .append rfl rfl ⟨rfl, rfl, rfl⟩
  | removeLegacyServer id =>
    simp only [mutate, removeLegacyServer] at hm
    split at hm
    · cases hm
    · cases hm
      exact ⟨rfl, rfl, rfl, fun h row hrow => h row (List.mem_filter.mp hrow).1⟩
  | commitFederatedEnrollment input =>
    simp only [mutate, commitFederatedEnrollment] at hm
    repeat' split at hm
    all_goals first
      | exact absurd hm conflict_ne_ok
      | cases hm
    exact .append rfl rfl ⟨rfl, rfl, rfl⟩
  | updateFederationRollout | revokeFederationTrust =>
    simp only [mutate, updateFederationRollout, revokeFederationTrust] at hm
    repeat' split at hm
    all_goals first
      | exact absurd hm conflict_ne_ok
      | cases hm
    all_goals first
      | exact .refl x
      | refine .columns _ ?_ rfl ⟨rfl, rfl, rfl⟩
        exact fun _ => rfl
  | prepareFederationKeyRotation | activateFederationKeyRotation | updateLegacyServer
  | prepareEndpointCutover | stageEndpointCutover | activateEndpointCutover
  | finalizeEndpointCutover | markEndpointCutoverNeedsAttention | rollbackEndpointCutover =>
    cases mutate_rewritten rfl hm with
    | same eq => exact eq ▸ .refl x
    | row id f rows columns _ _ _ _ rest => exact .columns id columns.frozen rows rest

/-! ## Stages of a call -/

inductive Stage
  | idle
  /-- The panel is a control plane. -/
  | control
  /-- The rows are committed, with this entry and projection. -/
  | prepared (journalId : Nat) (projection : String)
  | written (journalId : Nat)
  | failing (journalId : Nat)
  | repair
  | repairControl
  /-- A repair has found this entry. -/
  | repairing (journalId : Nat)
  | rendered (journalId : Nat) (projection : String)
  | repaired (journalId : Nat)
deriving DecidableEq

/-- The entry a call works on. -/
def Stage.journal? : Stage → Option Nat
  | prepared journalId _ | written journalId | failing journalId => some journalId
  | repairing journalId | rendered journalId _ | repaired journalId => some journalId
  | idle | control | repair | repairControl => none

/-- The entry of the call's own mutation. -/
def Stage.owns? : Stage → Option Nat
  | prepared journalId _ | written journalId | failing journalId => some journalId
  | repairing _ | rendered _ _ | repaired _ | idle | control | repair | repairControl => none

/-- The entry whose projection the call has written. -/
def Stage.written? : Stage → Option Nat
  | written journalId | repaired journalId => some journalId
  | prepared _ _ | failing _ | repairing _ | rendered _ _ | idle | control | repair
  | repairControl => none

/-- The projection a call has rendered, with its entry. -/
def Stage.projection? : Stage → Option (Nat × String)
  | prepared journalId projection | rendered journalId projection => some (journalId, projection)
  | written _ | failing _ | repairing _ | repaired _ | idle | control | repair
  | repairControl => none

/-- A call that has not seen a control plane. -/
def Stage.passive : Stage → Bool
  | idle | repair => true
  | _ => false

/-- What a call performs at a stage. -/
def Stage.allows : Stage → RegistryInstr → Prop
  | idle, i | repair, i =>
    match i with
    | .getLocalIdentity | .findServer _ | .recordTrust _ _ _ => True
    | _ => False
  | control, i =>
    match i with
    | .getLocalIdentity | .findServer _ | .recordTrust _ _ _ | .latestJournal
    | .transact _ => True
    | _ => False
  | prepared _ projection, i => i = .writeFile projection
  | written journalId, i => i = .commitJournal journalId
  | failing journalId, i => i = .freezeProjection journalId
  | repairControl, i => i = .latestJournal
  | repairing _, i => i = .renderDbProjection
  | rendered _ projection, i => i = .writeFile projection
  | repaired journalId, i => i = .repairJournal journalId

def Stage.after : Stage → (i : RegistryInstr) → Answer i → Stage
  | idle, .getLocalIdentity, identity =>
    if identity.installationRole ≠ "MASTER" then .idle else .control
  | repair, .getLocalIdentity, identity =>
    if identity.installationRole ≠ "MASTER" then .repair else .repairControl
  | control, .transact _, .ok ⟨some (journalId, projection), _⟩ => .prepared journalId projection
  | prepared journalId _, .writeFile _, .ok _ => .written journalId
  | prepared journalId _, .writeFile _, .error _ => .failing journalId
  | written _, .commitJournal _, .ok _ => .control
  | written journalId, .commitJournal _, .error _ => .failing journalId
  | failing _, .freezeProjection _, _ => .control
  | repairControl, .latestJournal, some latest =>
    if latest.state ≠ .prepared ∧ latest.state ≠ .failed then .repairControl
    else .repairing latest.registryGeneration
  | repairing journalId, .renderDbProjection, .ok projection => .rendered journalId projection
  | repairing _, .renderDbProjection, .error _ => .repairControl
  | rendered journalId _, .writeFile _, .ok _ => .repaired journalId
  | rendered _ _, .writeFile _, .error _ => .repairControl
  | repaired _, .repairJournal _, _ => .repairControl
  | y, _, _ => y

def projecting : Protocol Stage RegistryInstr Answer where
  allows := Stage.allows
  after := Stage.after

/-- Where a call begins. -/
def RegistryRequest.stage : RegistryRequest → Stage
  | .repairProjection => .repair
  | _ => .idle

/-! ### The programs keep to their stages -/

/-- A call may end everywhere. -/
abbrev anyStage (_ : Stage) (_ : Except RegistryError RegistryValue) : Prop := True

/-- The file is written and the journal committed, or the attempt has failed. -/
theorem writeFile_stages (journalId : Nat) (projection : String) :
    Fallible.Follows projecting
      (fun y (r : Except RegistryError Unit) => match r with
        | .ok _ => y = .control
        | .error _ => y = .failing journalId)
      (.prepared journalId projection) (do
        ask? (.writeFile projection) id
        ask? (.commitJournal journalId) id) := by
  refine follows_ask? rfl (fun r _ hr => ?_) fun r e hr => ?_
  · cases r with
    | error e => cases hr
    | ok _ =>
      refine follows_ask?_end rfl fun r => ?_
      cases r with
      | ok _ => rfl
      | error e => rfl
  · cases r with
    | error e => cases hr; rfl
    | ok _ => cases hr

theorem commitPrepared_stages (m : Mutation) :
    Fallible.Follows projecting anyStage .control (commitPrepared m) := by
  unfold commitPrepared
  refine follows_ask? trivial (fun r prepared hprep => ?_) fun _ _ _ => trivial
  cases r with
  | error e => cases hprep
  | ok prepared =>
    cases hprep
    obtain ⟨projection, value⟩ := prepared
    cases projection with
    | none => exact follows_pure trivial
    | some projection =>
      obtain ⟨journalId, projection⟩ := projection
      refine follows_attempt (writeFile_stages journalId projection) fun y r hr => ?_
      cases r with
      | ok _ => exact follows_pure trivial
      | error e =>
        subst hr
        exact follows_ask? rfl (fun _ _ _ => follows_throw trivial) fun _ _ _ => trivial

/-- Behind the check of the role the panel is a control plane. -/
abbrev controlStage (z : Stage) (y : Stage) (r : Except RegistryError Unit) : Prop :=
  r = .ok () → y = z

theorem assertControlPlane_stages {y z : Stage}
    (hy : (y = .repair ∧ z = .repairControl) ∨ ((y = .idle ∨ y = .control) ∧ z = .control)) :
    Fallible.Follows projecting (controlStage z) y assertControlPlane := by
  unfold assertControlPlane
  refine follows_ask ?_ fun identity => ?_
  · rcases hy with ⟨rfl, -⟩ | ⟨rfl | rfl, -⟩ <;> trivial
  · by_cases hrole : identity.installationRole ≠ "MASTER"
    · rw [if_pos hrole]
      exact follows_throw fun h => by cases h
    · rw [if_neg hrole]
      refine follows_pure fun _ => ?_
      rcases hy with ⟨rfl, rfl⟩ | ⟨rfl | rfl, rfl⟩
      · exact if_neg hrole
      · exact if_neg hrole
      · rfl

/-- A mutation called where the role was checked, or not. -/
theorem commitMutationDecision_stages (m : Mutation) {y : Stage} (hy : y = .idle ∨ y = .control) :
    Fallible.Follows projecting anyStage y (commitMutationDecision m) := by
  unfold commitMutationDecision
  refine follows_bind (assertControlPlane_stages (.inr ⟨hy, rfl⟩)) ?_ fun _ _ _ => trivial
  rintro y ⟨⟩ hctl
  obtain rfl := hctl rfl
  refine follows_ask trivial fun latest => ?_
  split
  · exact follows_throw trivial
  · exact commitPrepared_stages m

theorem repairProjection_stages :
    Fallible.Follows projecting anyStage .repair repairProjection := by
  unfold repairProjection
  refine follows_bind (assertControlPlane_stages (.inl ⟨rfl, rfl⟩)) ?_ fun _ _ _ => trivial
  rintro y ⟨⟩ hctl
  obtain rfl := hctl rfl
  refine follows_ask rfl fun latest => ?_
  cases latest with
  | none => exact follows_throw trivial
  | some latest =>
    by_cases hst : latest.state ≠ .prepared ∧ latest.state ≠ .failed
    · dsimp only
      rw [if_pos hst]
      exact follows_throw trivial
    · have hstg : projecting.after .repairControl .latestJournal (some latest) =
          .repairing latest.registryGeneration := if_neg hst
      dsimp only
      rw [if_neg hst, hstg]
      refine follows_ask? rfl (fun r projection hr => ?_) fun _ _ _ => trivial
      cases hr
      refine follows_ask? rfl (fun r _ hr => ?_) fun _ _ _ => trivial
      cases hr
      exact follows_ask? rfl (fun _ _ _ => follows_pure trivial) fun _ _ _ => trivial

/-- The stages in front of a mutation. -/
def Stage.mutates (y : Stage) : Prop := y = .idle ∨ y = .control

section Before

variable {y : Stage} {final : Stage → Except RegistryError RegistryValue → Prop}

theorem follows_identity {f : PanelIdentity → RegistryCall RegistryValue} (hy : y.mutates)
    (hf : ∀ identity z, z.mutates → Fallible.Follows projecting final z (f identity)) :
    Fallible.Follows projecting final y (perform .getLocalIdentity >>= f) := by
  refine follows_ask ?_ fun identity => hf identity _ ?_
  · rcases hy with rfl | rfl <;> trivial
  · rcases hy with rfl | rfl
    · show (if identity.installationRole ≠ "MASTER" then Stage.idle else .control).mutates
      split
      · exact .inl rfl
      · exact .inr rfl
    · exact .inr rfl

theorem follows_findServer {f : Option (RemoteServer × List FederationIssuer) →
    RegistryCall RegistryValue} (hy : y.mutates)
    (hf : ∀ found, Fallible.Follows projecting final y (f found)) :
    Fallible.Follows projecting final y (perform (.findServer serverId) >>= f) := by
  rcases hy with rfl | rfl
  · exact follows_ask trivial hf
  · exact follows_ask trivial hf

/-- A check, and then what it guards. -/
theorem follows_check {p : Prop} [Decidable p] {e : RegistryError}
    {c : RegistryCall RegistryValue} (hthrow : final y (.error e))
    (hc : Fallible.Follows projecting final y c) :
    Fallible.Follows projecting final y (if p then throw e else c) := by
  split
  · exact follows_throw hthrow
  · exact hc

theorem follows_recordTrust {trustState : TrustState} {trustReasonCode : Option String}
    {c : RegistryCall RegistryValue} (hy : y.mutates)
    (hc : Fallible.Follows projecting anyStage y c) :
    Fallible.Follows projecting anyStage y (do
      ask? (.recordTrust serverId trustState trustReasonCode) id
      c) := by
  rcases hy with rfl | rfl
  · exact follows_ask? trivial (fun _ _ _ => hc) fun _ _ _ => trivial
  · exact follows_ask? trivial (fun _ _ _ => hc) fun _ _ _ => trivial

end Before

theorem request_stages (H : RegistryHost) (request : RegistryRequest) :
    ((registry H).program request).Follows projecting anyStage request.stage := by
  cases request with
  | updateFederationRollout input now => exact commitMutationDecision_stages _ (.inl rfl)
  | revokeFederationTrust serverId now => exact commitMutationDecision_stages _ (.inl rfl)
  | activateEndpointCutover cutoverId now => exact commitMutationDecision_stages _ (.inl rfl)
  | finalizeEndpointCutover cutoverId => exact commitMutationDecision_stages _ (.inl rfl)
  | markEndpointCutoverNeedsAttention cutoverId code =>
    exact commitMutationDecision_stages _ (.inl rfl)
  | rollbackEndpointCutover cutoverId code => exact commitMutationDecision_stages _ (.inl rfl)
  | repairProjection => exact repairProjection_stages
  | prepareFederationKeyRotation serverId key now =>
    show Fallible.Follows projecting anyStage .idle (prepareKeyRotation serverId key now)
    unfold prepareKeyRotation
    refine follows_identity (.inl rfl) fun identity y hy => follows_check trivial ?_
    refine follows_findServer hy fun found => ?_
    split
    · exact follows_throw trivial
    · exact commitMutationDecision_stages _ hy
  | activateFederationKeyRotation serverId newKid graceUntil now =>
    show Fallible.Follows projecting anyStage .idle
      (activateKeyRotation serverId newKid graceUntil now)
    unfold activateKeyRotation
    refine follows_check trivial ?_
    refine follows_identity (.inl rfl) fun identity y hy => follows_check trivial ?_
    exact commitMutationDecision_stages _ hy
  | addLegacyServer input =>
    show Fallible.Follows projecting anyStage .idle (addLegacy H input)
    unfold addLegacy
    refine follows_ofExcept_bind (fun record _ => ?_) fun _ _ => trivial
    refine follows_ofExcept_bind (fun _ _ => ?_) fun _ _ => trivial
    refine follows_ofExcept_bind (fun tokenEnc _ => ?_) fun _ _ => trivial
    exact commitMutationDecision_stages _ (.inl rfl)
  | updateLegacyServer id patch =>
    show Fallible.Follows projecting anyStage .idle (updateLegacy H id patch)
    unfold updateLegacy
    refine follows_findServer (.inl rfl) fun found => ?_
    split
    · exact follows_throw trivial
    · refine follows_ofExcept_bind (fun current _ => ?_) fun _ _ => trivial
      refine follows_ofExcept_bind (fun next _ => ?_) fun _ _ => trivial
      have hrest : Fallible.Follows projecting anyStage .idle (do
          let tokenEnc ← Fallible.ofExcept
            (H.encryptLegacyToken id next.token next.tlsCaCertificatePem)
          commitMutationDecision (.updateLegacyServer next tokenEnc)) :=
        follows_ofExcept_bind (fun tokenEnc _ => commitMutationDecision_stages _ (.inl rfl))
          fun _ _ => trivial
      split
      · exact follows_ofExcept_bind (fun _ _ => hrest) fun _ _ => trivial
      · exact hrest
  | removeLegacyServer id enrolled =>
    show Fallible.Follows projecting anyStage .idle (removeLegacy id enrolled)
    unfold removeLegacy
    refine follows_findServer (.inl rfl) fun found => ?_
    split
    · exact follows_throw trivial
    · exact follows_check trivial (commitMutationDecision_stages _ (.inl rfl))
  | commitFederatedEnrollment input activationSafe =>
    exact follows_check trivial (commitMutationDecision_stages _ (.inl rfl))
  | prepareEndpointCutover cutoverId remoteServerId deadlineAt now =>
    exact follows_check trivial (commitMutationDecision_stages _ (.inl rfl))
  | stageEndpointCutover cutoverId address now =>
    show Fallible.Follows projecting anyStage .idle (stageCutover H cutoverId address now)
    unfold stageCutover
    refine follows_ofExcept_bind (fun _ _ => ?_) fun _ _ => trivial
    exact commitMutationDecision_stages _ (.inl rfl)
  | ingestManifest remoteServerId manifest now =>
    show Fallible.Follows projecting anyStage .idle (ingestManifest H remoteServerId manifest now)
    unfold ingestManifest
    refine follows_findServer (.inl rfl) fun found => ?_
    refine follows_identity (.inl rfl) fun identity y hy => ?_
    split
    · exact follows_throw trivial
    · refine follows_check trivial (follows_check trivial (follows_check trivial ?_))
      split
      · exact follows_recordTrust hy (follows_pure trivial)
      · exact follows_recordTrust hy (follows_throw trivial)
      · exact follows_recordTrust hy (follows_throw trivial)
      · exact follows_throw trivial

end Meowbox.Registry
