import Meowbox.Federation.Columns

/-!
# Revoked trust

`revokeFederationTrust` revokes every issuer of a server and sets its `trustState`. Three writers
set `trustState` to `ACTIVE`: an enrolment, on a row of its own; the activation of a rotated key,
which finds an active issuer of the server in its own transaction; and `ingestManifest`, which has
looked for one before it verified the manifest and does not look again.

* `TrustGuard`: the server still has an active issuer when an ingestion records its trust.
* `sticky_revocation`: in runs of which every ingestion is so, a revoked server is not trusted
  again, unless it is enrolled anew.
* `trust_restored`: the revocation commits between the read and the write of an ingestion.
-/

namespace Meowbox.Registry

open Interleaved Stepping

/-- No row of the server is trusted, and all its issuers are revoked. -/
structure Untrusted (x : RegistryDb) (id : String) : Prop where
  row : ∀ row ∈ x.remoteServer, row.id = id → row.trustState ≠ .active
  issuers : ∀ issuer ∈ x.federationIssuer, issuer.remoteServerId = some id →
    issuer.revokedAt.isSome = true

/-- Servers whose trust was revoked are not trusted. -/
def TrustSound (x : RegistryDb) : Prop := ∀ id, revoked x.history id = true → Untrusted x id

/-- The server still has an active issuer when an ingestion records its trust. -/
def TrustGuard (x : RegistryDb) : RegistryInstr → Prop
  | .recordTrust id _ _ => ∃ issuer ∈ x.issuersOf id, issuer.state = .active ∧
      issuer.revokedAt = none
  | _ => True

instance (x : RegistryDb) (i : RegistryInstr) : Decidable (TrustGuard x i) := by
  apply RegistryInstr.casesOn (motive := fun i => Decidable (TrustGuard x i)) i <;> intros <;>
    dsimp only [TrustGuard] <;> infer_instance

variable {x x' : RegistryDb} {H : RegistryHost} {id : String} {generation : Nat} {changed : Bool}
  {value : RegistryValue} {server : RemoteServer}

/-! ## What is kept -/

/-- Rows whose trust nobody raises, and issuers that are linked and revoked as they were. -/
structure TrustKept (x x' : RegistryDb) : Prop where
  rows : ∀ row' ∈ x'.remoteServer, row'.trustState ≠ .active ∨
    ∃ row ∈ x.remoteServer, row'.id = row.id ∧ row'.trustState = row.trustState
  issuers : ∀ issuer' ∈ x'.federationIssuer, issuer'.remoteServerId = none ∨
    issuer'.revokedAt.isSome = true ∨ ∃ issuer ∈ x.federationIssuer,
      issuer'.remoteServerId = issuer.remoteServerId ∧ issuer'.revokedAt = issuer.revokedAt

theorem Untrusted.kept (h : Untrusted x id) (hkept : TrustKept x x') : Untrusted x' id := by
  constructor
  · intro row' hrow' hid
    rcases hkept.rows row' hrow' with hlow | ⟨row, hrow, hsame, htrust⟩
    · exact hlow
    · rw [htrust]
      exact h.row row hrow (hsame.symm.trans hid)
  · intro issuer' his' hlk
    rcases hkept.issuers issuer' his' with hnone | hrev | ⟨issuer, his, hlink, hsame⟩
    · rw [hnone] at hlk
      cases hlk
    · exact hrev
    · rw [hsame]
      exact h.issuers issuer his (hlink.symm.trans hlk)

theorem TrustKept.of_eq (hrows : x'.remoteServer = x.remoteServer)
    (hiss : x'.federationIssuer = x.federationIssuer) : TrustKept x x' := by
  refine ⟨fun row hrow => .inr ⟨row, hrows ▸ hrow, rfl, rfl⟩,
    fun issuer his => .inr (.inr ⟨issuer, hiss ▸ his, rfl, rfl⟩)⟩

variable {f : RemoteServer → RemoteServer}

/-- An update of servers in other columns. -/
theorem TrustKept.update (p : RemoteServer → Bool)
    (hf : ∀ row, (f row).id = row.id ∧ (f row).trustState = row.trustState)
    (hrows : x'.remoteServer = x.remoteServer.map fun row => if p row = true then f row else row)
    (hiss : x'.federationIssuer = x.federationIssuer) : TrustKept x x' := by
  refine ⟨fun row' hrow' => ?_,
    fun issuer his => .inr (.inr ⟨issuer, hiss ▸ his, rfl, rfl⟩)⟩
  rw [hrows] at hrow'
  obtain ⟨row, hrow, rfl⟩ := List.mem_map.mp hrow'
  refine .inr ⟨row, hrow, ?_⟩
  split
  · exact hf row
  · exact ⟨rfl, rfl⟩

theorem TrustSound.kept (h : TrustSound x) (hkept : TrustKept x x')
    (hhist : ∀ id, revoked x'.history id = revoked x.history id) : TrustSound x' := by
  intro id hrev
  rw [hhist] at hrev
  exact (h id hrev).kept hkept

/-- An update of one server in other columns. -/
theorem TrustSound.columns (h : TrustSound x) (id : String)
    (hf : ∀ row, (f row).id = row.id ∧ (f row).trustState = row.trustState)
    (hrows : x'.remoteServer = (x.updateServer id f).remoteServer)
    (hiss : x'.federationIssuer = x.federationIssuer)
    (hhist : ∀ id, revoked x'.history id = revoked x.history id) : TrustSound x' :=
  h.kept (.update (fun row => row.id == id) hf hrows hiss) hhist

/-- The trust in one server is revoked. -/
theorem TrustSound.revoke (h : TrustSound x) (haft : Untrusted x' id ∧ TrustKept x x')
    (hhist : ∀ other, revoked x'.history other = (id == other || revoked x.history other)) :
    TrustSound x' := by
  intro other hrev
  rw [hhist] at hrev
  by_cases hsame : id = other
  · exact hsame ▸ haft.1
  · have hbef : revoked x.history other = true := by simpa [hsame] using hrev
    exact (h other hbef).kept haft.2

/-- The trust in a server that was not revoked changes. -/
theorem TrustSound.raise (h : TrustSound x) (id : String) (hf : ∀ row, (f row).id = row.id)
    (hnot : revoked x.history id = false)
    (hrows : x'.remoteServer = (x.updateServer id f).remoteServer)
    (hiss : x'.federationIssuer = x.federationIssuer) (hhist : x'.history = x.history) :
    TrustSound x' := by
  intro other hrev
  rw [hhist] at hrev
  have hother := h other hrev
  refine ⟨fun row' hrow' hid => ?_, hiss ▸ hother.issuers⟩
  rw [hrows] at hrow'
  obtain ⟨row, hrow, rfl⟩ := List.mem_map.mp hrow'
  by_cases hsame : row.id = id
  · have hto : (row.id == id) = true := by simpa using hsame
    rw [if_pos hto, hf row, hsame] at hid
    rw [← hid, hnot] at hrev
    cases hrev
  · have hto : ¬(row.id == id) = true := by simpa using hsame
    rw [if_neg hto] at hid ⊢
    exact hother.row row hrow hid

/-- A server with an issuer that is not revoked was not revoked itself. -/
theorem TrustSound.not_revoked (h : TrustSound x) {issuer : FederationIssuer}
    (his : issuer ∈ x.issuersOf id) (hnone : issuer.revokedAt = none) :
    revoked x.history id = false := by
  by_contra hrev
  obtain ⟨hmem, hlk⟩ := List.mem_filter.mp his
  have hsome := (h id (by simpa using hrev)).issuers issuer hmem (by simpa using hlk)
  rw [hnone] at hsome
  cases hsome

/-! ## The mutations -/

/-- **A mutation of one row**: a rotated key is activated only for a server with an active issuer. -/
theorem TrustSound.rewritten {m : Mutation} (h : TrustSound x)
    (hm : Rewritten m generation x x') : TrustSound x' := by
  cases hm with
  | same eq => exact eq ▸ h
  | row id f rows columns _ trust issuers hrev _ =>
    have hiss : TrustSound { x with federationIssuer := x'.federationIssuer } := by
      refine h.kept ⟨fun row hrow => .inr ⟨row, hrow, rfl, rfl⟩, fun i hi => ?_⟩ fun _ => rfl
      exact .inr (.inr (issuers i hi))
    have hrow : TrustSound ({ x with federationIssuer := x'.federationIssuer }.updateServer id f) := by
      rcases trust with hsame | ⟨issuer, hlk, hnone⟩
      · exact hiss.columns id (fun row => ⟨columns.id row, hsame row⟩) rfl rfl fun _ => rfl
      · exact hiss.raise id columns.id (h.not_revoked hlk hnone) rfl rfl rfl
    exact hrow.kept (.of_eq rows rfl) hrev

/-- All issuers of a server are revoked, and its row with them. -/
theorem untrusted_of_revoke {g : FederationIssuer → FederationIssuer}
    (hf : ∀ row, (f row).id = row.id ∧ (f row).trustState ≠ .active)
    (hg : ∀ i, (g i).remoteServerId = i.remoteServerId ∧ (g i).revokedAt.isSome = true)
    (hrows : x'.remoteServer = (x.updateServer id f).remoteServer)
    (hiss : x'.federationIssuer = (x.updateIssuers (fun i => i.remoteServerId == some id && i.revokedAt.isNone) g).federationIssuer) :
    Untrusted x' id ∧ TrustKept x x' := by
  have hrow : ∀ row' ∈ x'.remoteServer, row'.trustState ≠ .active ∨
      (row'.id ≠ id ∧ row' ∈ x.remoteServer) := by
    intro row' hrow'
    rw [hrows] at hrow'
    obtain ⟨row, hrow, rfl⟩ := List.mem_map.mp hrow'
    by_cases hsame : row.id = id
    · have hto : (row.id == id) = true := by simpa using hsame
      rw [if_pos hto]
      exact .inl (hf row).2
    · have hto : ¬(row.id == id) = true := by simpa using hsame
      rw [if_neg hto]
      exact .inr ⟨hsame, hrow⟩
  have his : ∀ i' ∈ x'.federationIssuer, i'.revokedAt.isSome = true ∨
      (i'.remoteServerId ≠ some id ∧ i' ∈ x.federationIssuer) := by
    intro i' hi'
    rw [hiss] at hi'
    obtain ⟨i, hi, rfl⟩ := List.mem_map.mp hi'
    by_cases hlk : i.remoteServerId = some id
    · refine .inl ?_
      split
      · exact (hg i).2
      · rename_i hnot
        by_contra hnone
        exact hnot (by simp [hlk, Option.not_isSome_iff_eq_none.mp hnone])
    · refine .inr ?_
      have hnot : ¬(i.remoteServerId == some id && i.revokedAt.isNone) = true := by
        simp [hlk]
      rw [if_neg hnot]
      exact ⟨hlk, hi⟩
  constructor
  · constructor
    · intro row' hrow' hid
      rcases hrow row' hrow' with hlow | ⟨hne, -⟩
      · exact hlow
      · exact absurd hid hne
    · intro i' hi' hlk
      rcases his i' hi' with hsome | ⟨hne, -⟩
      · exact hsome
      · exact absurd hlk hne
  · constructor
    · intro row' hrow'
      rcases hrow row' hrow' with hlow | ⟨-, hold⟩
      · exact .inl hlow
      · exact .inr ⟨row', hold, rfl, rfl⟩
    · intro i' hi'
      rcases his i' hi' with hsome | ⟨-, hold⟩
      · exact .inr (.inl hsome)
      · exact .inr (.inr ⟨i', hold, rfl, rfl⟩)

/-- **A revocation revokes every issuer of the server.** -/
theorem revokeFederationTrust_trust {serverId : String} {now : Nat} (h : TrustSound x)
    (hm : revokeFederationTrust x generation serverId now = .ok (changed, value, x')) :
    TrustSound x' := by
  unfold revokeFederationTrust at hm
  split at hm
  · cases hm
  rename_i server hfnd
  split at hm
  · cases hm
  split at hm
  · cases hm
    exact h
  · cases hm
    refine TrustSound.revoke h (?_ : Untrusted _ server.id ∧ _) fun _ => rfl
    refine untrusted_of_revoke ?_ ?_ rfl rfl
    · exact fun row => ⟨rfl, by simp⟩
    · exact fun i => ⟨rfl, rfl⟩

theorem updateFederationRollout_trust {input : RolloutRequest} {now : Nat} (h : TrustSound x)
    (hm : updateFederationRollout H x generation input now = .ok (changed, value, x')) :
    TrustSound x' := by
  unfold updateFederationRollout at hm
  split at hm
  · cases hm
  split at hm
  · cases hm
  split at hm
  · cases hm
  · cases hm
    exact h
  split at hm
  · exact absurd hm conflict_ne_ok
  split at hm
  · cases hm
  · cases hm
    refine h.columns _ ?_ rfl rfl fun _ => rfl
    exact fun row => ⟨rfl, rfl⟩

theorem addLegacyServer_trust {record : LegacyServerRecord} {tokenEnc : String} (h : TrustSound x)
    (hm : addLegacyServer x generation record tokenEnc = .ok (changed, value, x')) :
    TrustSound x' := by
  unfold addLegacyServer at hm
  split at hm
  · cases hm
  · cases hm
    refine h.kept ⟨fun row hrow => ?_, fun i hi => .inr (.inr ⟨i, hi, rfl, rfl⟩)⟩ fun _ => rfl
    rcases List.mem_snoc.mp hrow with hold | rfl
    · exact .inr ⟨row, hold, rfl, rfl⟩
    · exact .inl (by simp)

theorem removeLegacyServer_trust (h : TrustSound x)
    (hm : removeLegacyServer x id = .ok (changed, value, x')) : TrustSound x' := by
  unfold removeLegacyServer at hm
  split at hm
  · cases hm
  · cases hm
    refine h.kept ⟨fun row hrow => ?_, fun i' hi' => ?_⟩ fun _ => rfl
    · exact .inr ⟨row, (List.mem_filter.mp hrow).1, rfl, rfl⟩
    · obtain ⟨i, hi, rfl⟩ := List.mem_map.mp hi'
      split
      · exact .inl rfl
      · exact .inr (.inr ⟨i, hi, rfl, rfl⟩)

/-- **An enrolment links its issuer to a server of its own.** -/
theorem commitFederatedEnrollment_trust {input : EnrollmentCommit} (h : TrustSound x)
    (hm : commitFederatedEnrollment x generation input = .ok (changed, value, x')) :
    TrustSound x' := by
  unfold commitFederatedEnrollment at hm
  split at hm
  · split at hm
    · split at hm
      · exact absurd hm conflict_ne_ok
      split at hm
      · cases hm
      · cases hm
        intro id hrev
        obtain ⟨hne, hbef⟩ : input.enrollmentId ≠ id ∧ revoked x.history id = true := by
          simpa [revoked] using hrev
        have hid := h id hbef
        constructor
        · intro row hrow hsame
          rcases List.mem_snoc.mp hrow with hold | rfl
          · exact hid.row row hold hsame
          · exact absurd hsame hne
        · intro i' hi' hlk
          obtain ⟨i, hi, rfl⟩ := List.mem_map.mp hi'
          split at hlk
          · exact absurd (Option.some.inj hlk) hne
          · rename_i hother
            rw [if_neg hother]
            exact hid.issuers i hi hlk
    · exact absurd hm conflict_ne_ok
  · exact absurd hm conflict_ne_ok

/-! ## Runs -/

/-- **One mutation.** -/
theorem mutate_trust {m : Mutation} (h : TrustSound x)
    (hm : mutate H x generation m = .ok (changed, value, x')) : TrustSound x' := by
  cases m with
  | updateFederationRollout input now => exact updateFederationRollout_trust h hm
  | revokeFederationTrust serverId now => exact revokeFederationTrust_trust h hm
  | addLegacyServer record tokenEnc => exact addLegacyServer_trust h hm
  | removeLegacyServer id => exact removeLegacyServer_trust h hm
  | commitFederatedEnrollment input => exact commitFederatedEnrollment_trust h hm
  | prepareFederationKeyRotation | activateFederationKeyRotation | updateLegacyServer
  | prepareEndpointCutover | stageEndpointCutover | activateEndpointCutover
  | finalizeEndpointCutover | markEndpointCutoverNeedsAttention | rollbackEndpointCutover =>
    exact h.rewritten (mutate_rewritten rfl hm)

theorem transact_trust (m : Mutation) (h : TrustSound x) : TrustSound (transact H m x).2 := by
  unfold transact
  split
  · exact h
  split
  · exact h
  · exact h
  · rename_i hm
    split
    · exact h
    · exact (mutate_trust h hm).kept (.of_eq rfl rfl) fun _ => rfl

theorem statement_trust (h : TrustSound x) (h' : TrustSound x') :
    TrustSound (x.statement x').2 := by
  unfold RegistryDb.statement
  split
  · exact h
  · exact h'

/-- The freeze of all servers, and its end. -/
theorem setFrozen_trust (at? : Option Nat) (h : TrustSound x) : TrustSound (x.setFrozen at?) := by
  refine h.kept (TrustKept.update (fun _ => true) (f := fun row =>
    { row with mutationFrozenAt := at? }) ?_ ?_ rfl) fun _ => rfl
  · exact fun row => ⟨rfl, rfl⟩
  · simp [RegistryDb.setFrozen]

/-- **One instruction.** -/
theorem answer_trust (i : RegistryInstr) (h : TrustSound x) (hguard : TrustGuard x i) :
    TrustSound (answer H i x).2 := by
  cases i with
  | getLocalIdentity | latestJournal | renderDbProjection | findServer id => exact h
  | transact m => exact transact_trust m h
  | writeFile content =>
    simp only [answer, RegistryDb.writeFile]
    split
    · exact h.kept (.of_eq rfl rfl) fun _ => rfl
    · exact h
    · exact h.kept (.of_eq rfl rfl) fun _ => rfl
  | commitJournal journalId =>
    exact statement_trust h (h.kept (.of_eq rfl rfl) fun _ => rfl)
  | freezeProjection journalId =>
    exact statement_trust h (setFrozen_trust _ (h.kept (.of_eq rfl rfl) fun _ => rfl))
  | repairJournal journalId =>
    exact statement_trust h (setFrozen_trust _ (h.kept (.of_eq rfl rfl) fun _ => rfl))
  | recordTrust id trustState trustReasonCode =>
    obtain ⟨issuer, his, -, hnone⟩ := hguard
    simp only [answer, RegistryDb.updateTrust]
    split
    · exact h
    · refine h.raise id ?_ (h.not_revoked his hnone) rfl rfl rfl
      exact fun row => rfl

theorem outside_trust (change : RegistryChange) (h : TrustSound x) :
    TrustSound (x.outside change) := by
  cases change with
  | setDisk disk down => exact h.kept (.of_eq rfl rfl) fun _ => rfl
  | createIssuer id issuerInstallationId targetInstallationId key =>
    simp only [RegistryDb.outside]
    split
    · exact h
    · refine h.kept ⟨fun row hrow => .inr ⟨row, hrow, rfl, rfl⟩, fun i hi => ?_⟩ fun _ => rfl
      rcases List.mem_snoc.mp hi with hold | rfl
      · exact .inr (.inr ⟨i, hold, rfl, rfl⟩)
      · exact .inl rfl
  | revokeIssuer id now =>
    refine h.kept ⟨fun row hrow => .inr ⟨row, hrow, rfl, rfl⟩, fun i' hi' => ?_⟩ fun _ => rfl
    obtain ⟨i, hi, rfl⟩ := List.mem_map.mp hi'
    split
    · exact .inr (.inl rfl)
    · exact .inr (.inr ⟨i, hi, rfl, rfl⟩)
  | setEnrollments enrollments => exact h.kept (.of_eq rfl rfl) fun _ => rfl

variable {x₀ : RegistryDb} {s : Pool RegistryDb RegistryInstr Answer
  (Except RegistryError RegistryValue)}

/-- **Trust that was revoked stays revoked.** -/
theorem sticky_revocation (h0 : TrustSound x₀)
    (hs : Reach (Pool.step (registry H)) (Pool.Within TrustGuard) ⟨x₀, []⟩ s) :
    ∀ row ∈ s.store.remoteServer, revoked s.store.history row.id = true →
      row.trustState ≠ .active := by
  have hsound : TrustSound s.store := by
    induction hs with
    | init => exact h0
    | step _ hok hstep ih =>
      rcases Pool.step_store hstep with ⟨change, -, hsto⟩ | ⟨-, hsto⟩ | ⟨i, hissued, hsto⟩
      · rw [hsto]
        exact outside_trust change ih
      · rw [hsto]
        exact ih
      · rw [hsto]
        exact answer_trust i ih (hok i hissued)
  exact fun row hrow hrev => (hsound row.id hrev).row row hrow rfl

/-- An ingestion, and then a revocation. -/
theorem sticky_revocation_sample : ∃ s : Pool RegistryDb RegistryInstr Answer
      (Except RegistryError RegistryValue),
    s.store.remoteServer.map RemoteServer.id = ["server-1"] ∧
      revoked s.store.history "server-1" = true ∧
      ∀ row ∈ s.store.remoteServer, revoked s.store.history row.id = true →
        row.trustState ≠ .active := by
  have hrun : ∃ s, Reach (Pool.step (registry Sample.host)) (Pool.Within TrustGuard)
      ⟨Sample.registry, []⟩ s ∧ s.store.remoteServer.map RemoteServer.id = ["server-1"] ∧
        revoked s.store.history "server-1" = true :=
    Reach.of_run_any (l := Sample.sequence 0 [(Sample.enrollment, 5),
      (.ingestManifest "server-1" "manifest" 1, 3), (.revokeFederationTrust "server-1" 2, 5)])
      (by decide +kernel)
  obtain ⟨s, hs, hids, hrev⟩ := hrun
  refine ⟨s, hids, hrev, sticky_revocation ?_ hs⟩
  intro id hrev'
  cases hrev'

/-- **A revocation is undone**: an ingestion has found the issuer active, the trust is revoked, and
the ingestion records the server as trusted. -/
theorem trust_restored : ∃ s, Reach (Pool.step (registry Sample.host)) anyStep
    ⟨Sample.registry, []⟩ s ∧ revoked s.store.history "server-1" = true ∧
      s.store.remoteServer.map (fun row => (row.id, row.trustState)) =
        [("server-1", .active)] :=
  Reach.of_run_any (l := Sample.sequence 0 [(Sample.enrollment, 5),
    (.ingestManifest "server-1" "manifest" 1, 2), (.revokeFederationTrust "server-1" 2, 5)] ++
      [.advance 1]) (by decide +kernel)

end Meowbox.Registry
