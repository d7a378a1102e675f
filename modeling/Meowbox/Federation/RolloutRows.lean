import Meowbox.Federation.Columns
import Meowbox.Federation.Rollout

/-!
# What the registry does to the stage of a server

Two writers change the stage and the switches of a row that is there: `updateFederationRollout` and
`revokeFederationTrust`. `RowFate` is what all the others do to the row of a server (`mutate_fates`,
`answer_fates`, `importAuthoritativeJson_fates`): they keep its stage and its switches, and leave
its generation or set it to the next one; a row they create is in the stage `DISABLED` with
everything off.
-/

namespace Meowbox.Registry

open FederationRolloutStage

/-- What becomes of the row of a server; `fresh` is the generation that is written, if one is. -/
inductive RowFate (fresh : Option Nat) : Option RemoteServer → Option RemoteServer → Prop
  | absent : RowFate fresh none none
  | kept (row row' : RemoteServer) (stage : row'.rolloutStage = row.rolloutStage)
      (switches : row'.switches = row.switches)
      (counted : row'.registryGeneration = row.registryGeneration ∨
        some row'.registryGeneration = fresh) : RowFate fresh (some row) (some row')
  | created (row' : RemoteServer) (stage : row'.rolloutStage = disabled.name)
      (switches : row'.switches = .off) (counted : some row'.registryGeneration = fresh) :
      RowFate fresh none (some row')
  | removed (row : RemoteServer) : RowFate fresh (some row) none

def Fates (fresh : Option Nat) (x x' : RegistryDb) : Prop :=
  ∀ id, RowFate fresh (x.findServer id) (x'.findServer id)

variable {x x' x'' : RegistryDb} {H : RegistryHost} {generation : Nat} {fresh : Option Nat}
  {changed : Bool} {value : RegistryValue} {f : RemoteServer → RemoteServer}

theorem RowFate.refl (row? : Option RemoteServer) : RowFate fresh row? row? := by
  cases row? with
  | none => exact .absent
  | some row => exact .kept row row rfl rfl (.inl rfl)

/-- Only the rows matter. -/
theorem Fates.of_eq (h : x'.remoteServer = x.remoteServer) : Fates fresh x x' := by
  intro id
  unfold RegistryDb.findServer
  rw [h]
  exact .refl _

variable {row : RemoteServer}

/-- A server that is not removed keeps its fate when it is only updated. -/
theorem RowFate.trans_kept {a : Option RemoteServer} {row' : RemoteServer}
    (h : RowFate fresh a (some row)) (hstg : row'.rolloutStage = row.rolloutStage)
    (hsw : row'.switches = row.switches)
    (hcnt : row'.registryGeneration = row.registryGeneration ∨ some row'.registryGeneration = fresh) :
    RowFate fresh a (some row') := by
  cases h with
  | kept old row hold holdSwitches holdCounted =>
    refine .kept old row' (hstg.trans hold) (hsw.trans holdSwitches) ?_
    rcases hcnt with hsame | hnew
    · rw [hsame]
      exact holdCounted
    · exact .inr hnew
  | created row hold holdSwitches holdCounted =>
    refine .created row' (hstg.trans hold) (hsw.trans holdSwitches) ?_
    rcases hcnt with hsame | hnew
    · rw [hsame]
      exact holdCounted
    · exact hnew

/-! ## Updates, new rows and deletions -/

theorem findServer_id {id : String} (h : x.findServer id = some row) : row.id = id := by
  simpa using List.find?_some h

/-- An update of one server, looked up. -/
theorem findServer_updateServer (id : String) (hf : ∀ row, (f row).id = row.id) (other : String) :
    (x.updateServer id f).findServer other =
      (x.findServer other).map fun row => if row.id == id then f row else row := by
  unfold RegistryDb.findServer RegistryDb.updateServer
  rw [List.find?_map]
  congr 2
  funext row
  simp only [Function.comp]
  split
  · rw [hf]
  · rfl

theorem RowFate.update (hf : OtherColumns fresh f) (p : RemoteServer → Bool)
    (row? : Option RemoteServer) :
    RowFate fresh row? (row?.map fun row => if p row = true then f row else row) := by
  cases row? with
  | none => exact .absent
  | some row =>
    rw [Option.map_some]
    split
    · exact .kept row (f row) (hf.stage row) (hf.switches row) (hf.counted row)
    · exact .refl _

/-- One server is updated in other columns. -/
theorem Fates.columns (id : String) (hf : OtherColumns fresh f)
    (hrows : x'.remoteServer = (x.updateServer id f).remoteServer) : Fates fresh x x' := by
  intro other
  have hfnd : x'.findServer other = (x.updateServer id f).findServer other := by
    unfold RegistryDb.findServer
    rw [hrows]
  rw [hfnd, findServer_updateServer id hf.id]
  exact .update hf _ _

theorem Fates.rewritten {m : Mutation} (h : Rewritten m generation x x') :
    Fates (some generation) x x' := by
  cases h with
  | same eq => exact .of_eq (congrArg _ eq)
  | row id f rows columns => exact .columns id columns rows

/-- A row with the defaults of its columns. -/
structure NewRow (generation : Nat) (row : RemoteServer) : Prop where
  stage : row.rolloutStage = disabled.name
  switches : row.switches = .off
  counted : row.registryGeneration = generation

theorem findServer_append (hrows : x'.remoteServer = x.remoteServer ++ [row]) (id : String) :
    x'.findServer id = (x.findServer id).or (if row.id == id then some row else none) := by
  unfold RegistryDb.findServer
  rw [hrows, List.find?_append, List.find?_singleton]

/-- A server is created. -/
theorem Fates.append (hrow : NewRow generation row)
    (hrows : x'.remoteServer = x.remoteServer ++ [row]) : Fates (some generation) x x' := by
  intro id
  rw [findServer_append hrows]
  cases x.findServer id with
  | some old => exact .refl _
  | none =>
    rw [Option.none_or]
    split
    · exact .created row hrow.stage hrow.switches (congrArg some hrow.counted)
    · exact .absent

/-- A server is removed. -/
theorem Fates.remove (id : String)
    (hrows : x'.remoteServer = x.remoteServer.filter fun row => row.id != id) :
    Fates fresh x x' := by
  intro other
  unfold RegistryDb.findServer
  rw [hrows, List.find?_filter]
  by_cases hsame : other = id
  · have hnone : (x.remoteServer.find? fun row =>
        decide ((row.id != id) = true ∧ (row.id == other) = true)) = none := by
      rw [List.find?_eq_none]
      intro row _ hboth
      simp [hsame] at hboth
    rw [hnone]
    cases hfnd : x.remoteServer.find? fun row => row.id == other with
    | none => exact .absent
    | some row => exact .removed row
  · have hpredicate : (fun row : RemoteServer =>
        decide ((row.id != id) = true ∧ (row.id == other) = true)) =
          fun row => row.id == other := by
      funext row
      by_cases hrow : row.id = other
      · simp [hrow, hsame]
      · simp [hrow]
    rw [hpredicate]
    exact .refl _

/-! ## The mutations -/

theorem addLegacyServer_row {record : LegacyServerRecord} {tokenEnc : String}
    (hm : addLegacyServer x generation record tokenEnc = .ok (changed, value, x')) :
    ∃ row, NewRow generation row ∧ x'.remoteServer = x.remoteServer ++ [row] := by
  unfold addLegacyServer at hm
  obtain ⟨-, hm⟩ := Failing.unless_ok hm
  cases hm
  exact ⟨_, ⟨rfl, rfl, rfl⟩, rfl⟩

theorem addLegacyServer_fates {record : LegacyServerRecord} {tokenEnc : String}
    (hm : addLegacyServer x generation record tokenEnc = .ok (changed, value, x')) :
    Fates (some generation) x x' := by
  obtain ⟨row, hrow, hrows⟩ := addLegacyServer_row hm
  exact .append hrow hrows

theorem removeLegacyServer_fates {id : String}
    (hm : removeLegacyServer x id = .ok (changed, value, x')) : Fates (some generation) x x' := by
  unfold removeLegacyServer at hm
  obtain ⟨-, hm⟩ := Failing.unless_ok hm
  cases hm
  exact .remove id rfl

theorem commitFederatedEnrollment_fates {input : EnrollmentCommit}
    (hm : commitFederatedEnrollment x generation input = .ok (changed, value, x')) :
    Fates (some generation) x x' := by
  unfold commitFederatedEnrollment at hm
  split at hm
  · split at hm
    · split at hm
      · exact absurd hm conflict_ne_ok
      obtain ⟨-, hm⟩ := Failing.unless_ok hm
      cases hm
      exact .append ⟨rfl, rfl, rfl⟩ rfl
    · exact absurd hm conflict_ne_ok
  · exact absurd hm conflict_ne_ok

/-- **The mutations that write neither stage nor switches.** -/
theorem mutate_fates {m : Mutation} (hother : m.writesRollout = false)
    (hm : mutate H x generation m = .ok (changed, value, x')) : Fates (some generation) x x' := by
  cases m with
  | updateFederationRollout | revokeFederationTrust => cases hother
  | addLegacyServer record tokenEnc => exact addLegacyServer_fates hm
  | removeLegacyServer id => exact removeLegacyServer_fates hm
  | commitFederatedEnrollment input => exact commitFederatedEnrollment_fates hm
  | prepareFederationKeyRotation | activateFederationKeyRotation | updateLegacyServer
  | prepareEndpointCutover | stageEndpointCutover | activateEndpointCutover
  | finalizeEndpointCutover | markEndpointCutoverNeedsAttention | rollbackEndpointCutover =>
    exact .rewritten (mutate_rewritten rfl hm)

/-! ## Statements and changes of authority -/

theorem Fates.setFrozen (at? : Option Nat) : Fates fresh x (x.setFrozen at?) := by
  intro id
  unfold RegistryDb.findServer RegistryDb.setFrozen
  rw [List.find?_map]
  change RowFate fresh _ ((x.remoteServer.find? fun row => row.id == id).map _)
  cases hfnd : x.remoteServer.find? fun row => row.id == id with
  | none => exact .absent
  | some row => exact .kept row _ rfl rfl (.inl rfl)

theorem Fates.statement {after : RegistryDb} (h : Fates fresh x after) :
    Fates fresh x (x.statement after).2 := by
  unfold RegistryDb.statement
  split
  · exact .of_eq rfl
  · exact h

theorem nextGeneration_setJournal (journalId : Nat) (state : JournalState) :
    (x.setJournal journalId state).nextGeneration = x.nextGeneration := by
  unfold RegistryDb.nextGeneration RegistryDb.setJournal
  dsimp only
  rw [List.head?_map, Option.map_map]
  congr 3
  funext j
  simp only [Function.comp]
  split
  · rfl
  · rfl

theorem nextGeneration_statement {after : RegistryDb}
    (h : after.nextGeneration = x.nextGeneration) :
    (x.statement after).2.nextGeneration = x.nextGeneration := by
  unfold RegistryDb.statement
  split
  · rfl
  · exact h

/-- **The statements outside transactions.** -/
theorem answer_fates (fresh : Option Nat) (i : RegistryInstr) (hi : i.isTransact = false) :
    Fates fresh x (answer H i x).2 ∧ (answer H i x).2.nextGeneration = x.nextGeneration := by
  cases i with
  | getLocalIdentity => exact ⟨.of_eq rfl, rfl⟩
  | latestJournal => exact ⟨.of_eq rfl, rfl⟩
  | transact m => cases hi
  | writeFile content =>
    change Fates fresh x (x.writeFile content).2 ∧ _
    unfold RegistryDb.writeFile
    constructor
    · split
      · exact .of_eq rfl
      · exact .of_eq rfl
      · exact .of_eq rfl
    · dsimp only [answer]
      unfold RegistryDb.writeFile
      split
      · rfl
      · rfl
      · rfl
  | commitJournal journalId =>
    exact ⟨.statement (.of_eq rfl), nextGeneration_statement (nextGeneration_setJournal _ _)⟩
  | freezeProjection journalId =>
    refine ⟨.statement ?_, nextGeneration_statement (nextGeneration_setJournal journalId .failed)⟩
    exact Fates.setFrozen (x := x.setJournal journalId .failed) (some 0)
  | renderDbProjection => exact ⟨.of_eq rfl, rfl⟩
  | repairJournal journalId =>
    refine ⟨.statement ?_,
      nextGeneration_statement (nextGeneration_setJournal journalId .committed)⟩
    exact Fates.setFrozen (x := x.setJournal journalId .committed) none
  | findServer id => exact ⟨.of_eq rfl, rfl⟩
  | recordTrust id trustState trustReasonCode =>
    dsimp only [answer]
    unfold RegistryDb.updateTrust
    split
    · exact ⟨.of_eq rfl, rfl⟩
    · refine ⟨.columns id ⟨?_, ?_, ?_, ?_, ?_⟩ rfl, rfl⟩
      all_goals first
        | exact fun _ => rfl
        | exact fun _ => .inl rfl

theorem outside_fates (fresh : Option Nat) (change : RegistryChange) :
    Fates fresh x (x.outside change) ∧
      (x.outside change).nextGeneration = x.nextGeneration := by
  cases change with
  | setDisk disk down => exact ⟨.of_eq rfl, rfl⟩
  | createIssuer id issuerInstallationId targetInstallationId key =>
    dsimp only [RegistryDb.outside]
    split
    · exact ⟨.of_eq rfl, rfl⟩
    · exact ⟨.of_eq rfl, rfl⟩
  | revokeIssuer id now => exact ⟨.of_eq rfl, rfl⟩
  | setEnrollments enrollments => exact ⟨.of_eq rfl, rfl⟩

/-- One record that is imported, after others. -/
theorem importRecord_fates {record : LegacyServerRecord × String}
    (hbef : Fates (some generation) x x' ∧ ∀ id, x'.findServer id = none → x.findServer id = none)
    (h : importRecord generation x' record = .ok x'') :
    Fates (some generation) x x'' ∧ ∀ id, x''.findServer id = none → x.findServer id = none := by
  obtain ⟨hfat, hpresent⟩ := hbef
  unfold importRecord at h
  split at h
  · split at h
    · exact absurd h conflict_ne_ok
    obtain ⟨-, h⟩ := Failing.unless_ok h
    cases h
    have hother : OtherColumns (some generation) fun row : RemoteServer => { row with
        displayName := record.1.name
        registryGeneration := generation
        legacyEnabled := true
        legacyUrl := some record.1.url
        legacyTokenEnc := some record.2 } :=
      ⟨fun _ => rfl, fun _ => rfl, fun _ => rfl, fun _ => rfl, fun _ => .inr rfl⟩
    constructor
    · intro id
      rw [findServer_updateServer _ hother.id]
      have hfate := hfat id
      cases hrow : x'.findServer id with
      | none =>
        rw [hrow] at hfate
        exact hfate
      | some row =>
        rw [hrow] at hfate
        rw [Option.map_some]
        split
        · exact hfate.trans_kept rfl rfl (.inr rfl)
        · exact hfate
    · intro id hnone
      rw [findServer_updateServer _ hother.id, Option.map_eq_none_iff] at hnone
      exact hpresent id hnone
  · rename_i habsent
    split at h
    · rename_i hadded
      cases h
      obtain ⟨row, hrow, hrows⟩ := addLegacyServer_row hadded
      constructor
      · intro id
        have hfate := hfat id
        rw [findServer_append hrows]
        cases hfnd : x'.findServer id with
        | some old =>
          rw [hfnd] at hfate
          exact hfate
        | none =>
          rw [Option.none_or, hpresent id hfnd]
          split
          · exact .created row hrow.stage hrow.switches (congrArg some hrow.counted)
          · exact .absent
      · intro id hnone
        rw [findServer_append hrows, Option.or_eq_none_iff] at hnone
        exact hpresent id hnone.1
    · exact absurd h conflict_ne_ok

theorem importAuthoritativeJson_fates {records : List (LegacyServerRecord × String)}
    (h : importAuthoritativeJson x records = .ok x') :
    Fates (some x.nextGeneration) x x' ∧ x'.nextGeneration = x.nextGeneration + 1 := by
  unfold importAuthoritativeJson at h
  obtain ⟨-, h⟩ := Failing.unless_ok h
  split at h
  · cases h
  · rename_i imported hrcs
    cases h
    have hall := Failing.foldlM_keeps
      (I := fun x' => Fates (some x.nextGeneration) x x' ∧
        ∀ id, x'.findServer id = none → x.findServer id = none) hrcs
      ⟨.of_eq rfl, fun _ hnone => hnone⟩ fun _ _ _ hbef => importRecord_fates hbef
    exact ⟨hall.1, rfl⟩

theorem rollbackAuthorityToJson_fates :
    Fates (some x.nextGeneration) x (rollbackAuthorityToJson x) ∧
      (rollbackAuthorityToJson x).nextGeneration = x.nextGeneration + 1 :=
  ⟨fun id => Fates.setFrozen none id, rfl⟩

/-! ## Transactions -/

/-- What a transaction leaves: nothing has happened, or the mutation has, under the next
generation. -/
theorem transact_cases (m : Mutation) :
    (transact H m x).2 = x ∧ (∀ p, (transact H m x).1 = .ok p → p.projection = none) ∨
      ∃ value after projection, mutate H x x.nextGeneration m = .ok (true, value, after) ∧
        transact H m x = (.ok ⟨some (x.nextGeneration, projection), value⟩,
          { after with journal := ⟨x.nextGeneration, .prepared⟩ :: after.journal }) := by
  unfold transact
  split
  · refine .inl ⟨rfl, fun p hp => ?_⟩
    cases hp
  split
  · refine .inl ⟨rfl, fun p hp => ?_⟩
    cases hp
  · refine .inl ⟨rfl, fun p hp => ?_⟩
    cases hp
    rfl
  · rename_i hm
    split
    · refine .inl ⟨rfl, fun p hp => ?_⟩
      cases hp
    · exact .inr ⟨_, _, _, hm, rfl⟩

/-- What every writer besides the two does: the stages and the switches stay, and the generations
that are written are next ones. -/
def StagesKept (x x' : RegistryDb) : Prop :=
  x.nextGeneration ≤ x'.nextGeneration ∧ ∃ fresh, Fates fresh x x' ∧
    ∀ g, fresh = some g → x.nextGeneration ≤ g ∧ g < x'.nextGeneration

theorem StagesKept.of_same (h : ∀ fresh, Fates fresh x x')
    (hnext : x'.nextGeneration = x.nextGeneration) : StagesKept x x' := by
  refine ⟨Nat.le_of_eq hnext.symm, none, h none, fun g hg => ?_⟩
  cases hg

theorem StagesKept.of_next (h : Fates (some x.nextGeneration) x x')
    (hnext : x'.nextGeneration = x.nextGeneration + 1) : StagesKept x x' := by
  refine ⟨by omega, _, h, fun g hg => ?_⟩
  cases hg
  exact ⟨Nat.le_refl _, by omega⟩

/-- **A transaction of another mutation.** -/
theorem transact_kept {m : Mutation} (hother : m.writesRollout = false) :
    StagesKept x (transact H m x).2 := by
  rcases transact_cases (H := H) (x := x) m with ⟨hsame, -⟩ | ⟨value, after, projection, hm, heq⟩
  · rw [hsame]
    exact .of_same (fun _ => .of_eq rfl) rfl
  · rw [heq]
    exact .of_next (fun id => mutate_fates hother hm id) rfl

theorem answer_kept (i : RegistryInstr) (hi : i.isTransact = false) :
    StagesKept x (answer H i x).2 :=
  .of_same (fun fresh => (answer_fates fresh i hi).1) (answer_fates none i hi).2

theorem outside_kept (change : RegistryChange) : StagesKept x (x.outside change) :=
  .of_same (fun fresh => (outside_fates fresh change).1) (outside_fates none change).2

end Meowbox.Registry
