import Meowbox.Federation.ProjectionStages

/-!
# The legacy file and the rows

`commitMutationDecision` looks at the authority, commits its rows with a `PREPARED` entry, writes
the file and then commits the entry. Nothing keeps a second call from its transaction once it has
looked at the authority, so the file may be written by the older of two calls last, and an entry may
fail that is no longer the newest.

* `ProjectionGuard`: a projection is written while its entry is the newest, or while it is still
  what the rows render to, or before the newest entry is written; and an entry fails only when it is
  the newest or the newest has failed.
* `projection_current`: in runs of such steps the file is the rendering of the rows whenever the
  database has the authority, and a repair lifts every freeze.
* `projection_stale`: two updates whose files are written in the other order.
-/

namespace Meowbox.Registry

open Interleaved Stepping Fallible

variable {x x' : RegistryDb} {H : RegistryHost}

/-! ## The condition -/

/-- The generation of the newest entry. -/
def RegistryDb.newest (x : RegistryDb) : Nat :=
  (x.journal.head?.map Journal.registryGeneration).getD 0

def RegistryDb.newestState (x : RegistryDb) : Option JournalState :=
  x.journal.head?.map Journal.state

/-- Some server is frozen. -/
def RegistryDb.serversFrozen (x : RegistryDb) : Prop :=
  ∃ row ∈ x.remoteServer, row.mutationFrozenAt.isSome = true

/-- A projection is written while its entry is the newest, or while it is still the rendering of the
rows, or before the newest entry is written; and an entry fails when it is the newest, or the newest
has failed already. -/
def ProjectionGuard (H : RegistryHost) (x : RegistryDb) (l : List Stage) (k : Nat) :
    RegistryInstr → Prop
  | .writeFile content => (l[k]?).bind Stage.journal? = some x.newest ∨
      x.renderDbProjection H = .ok content ∨
      (x.authority ≠ .db ∧ ∀ y ∈ l, y.written? ≠ some x.newest)
  | .freezeProjection journalId => journalId = x.newest ∨ x.newestState = some .failed
  | _ => True

/-! ## The invariant -/

variable {l : List Stage} {k : Nat} {y y' : Stage}

structure ProjectionInv (H : RegistryHost) (x : RegistryDb) (l : List Stage) : Prop where
  renders : ∃ content, x.renderDbProjection H = .ok content
  /-- The newest entry is neither imported nor rolled back. -/
  started : x.authority ≠ .json
  bound : ∀ z ∈ l, ∀ j, z.journal? = some j → j ≤ x.newest
  current : ∀ z ∈ l, ∀ p, z.projection? = some (x.newest, p) → x.renderDbProjection H = .ok p
  file : (x.authority = .db ∨ ∃ z ∈ l, z.written? = some x.newest) →
    x.renderDbProjection H = .ok x.file
  owners : ∀ (m n : Nat) (z w : Stage) (j : Nat), l[m]? = some z → l[n]? = some w →
    z.owns? = some j → w.owns? = some j → m = n
  frozen : x.serversFrozen → x.newestState = some .failed
  failed : x.newestState = some .failed → ∀ z ∈ l, z.owns? ≠ some x.newest
  plane : x.identity.installationRole = "MASTER" ∨
    ((∀ z ∈ l, z.passive = true) ∧ x.authority = .db)

theorem authority_db : x.authority = .db ↔ x.newestState = some .committed := by
  unfold RegistryDb.authority RegistryDb.newestState authorityOf
  cases x.journal.head? with
  | none => simp
  | some j => cases hst : j.state <;> simp [hst]

theorem authority_json : x.authority ≠ .json ↔ ∃ state, x.newestState = some state ∧
    state ≠ .imported ∧ state ≠ .rolledBack := by
  unfold RegistryDb.authority RegistryDb.newestState authorityOf
  cases x.journal.head? with
  | none => simp
  | some j => cases hst : j.state <;> simp [hst]

theorem ProjectionInv.master (h : ProjectionInv H x l) (hk : l[k]? = some y)
    (hy : y.passive = false) : x.identity.installationRole = "MASTER" := by
  rcases h.plane with hrole | ⟨hpas, -⟩
  · exact hrole
  · have hthis := hpas y (List.mem_of_getElem? hk)
    rw [hy] at hthis
    cases hthis

/-- **A step that adds no entry**: the rows render as before, and what the call now holds suits the
newest entry. -/
theorem ProjectionInv.move (h : ProjectionInv H x l) (hk : l[k]? = some y)
    (hren : x'.renderDbProjection H = x.renderDbProjection H) (hnew : x'.newest = x.newest)
    (hrole : x'.identity = x.identity) (hsta : x'.authority ≠ .json)
    (hbd : ∀ j, y'.journal? = some j → j ≤ x.newest)
    (hcur : ∀ p, y'.projection? = some (x.newest, p) → x.renderDbProjection H = .ok p)
    (howns : ∀ j, y'.owns? = some j → y.owns? = some j)
    (hfile : (x'.authority = .db ∨ ∃ z ∈ l.set k y', z.written? = some x.newest) →
      x.renderDbProjection H = .ok x'.file)
    (hfz : x'.serversFrozen → x'.newestState = some .failed)
    (hfail : x'.newestState = some .failed → ∀ z ∈ l.set k y', z.owns? ≠ some x.newest)
    (hplane : x.identity.installationRole = "MASTER" ∨ (y'.passive = true ∧ x'.authority = .db)) :
    ProjectionInv H x' (l.set k y') := by
  have hold : ∀ {m z}, l[m]? = some z → z ∈ l := fun hm => List.mem_of_getElem? hm
  refine ⟨hren ▸ h.renders, hsta, fun z hz j hj => ?_, fun z hz p hp => ?_, fun hdue => ?_,
    fun m n z w j hm hn hz hw => ?_, hfz, fun hst => ?_, ?_⟩
  · rw [hnew]
    rcases mem_set_cases hz with rfl | ⟨m, -, hm⟩
    · exact hbd j hj
    · exact h.bound z (hold hm) j hj
  · rw [hnew] at hp
    rw [hren]
    rcases mem_set_cases hz with rfl | ⟨m, -, hm⟩
    · exact hcur p hp
    · exact h.current z (hold hm) p hp
  · rw [hnew] at hdue
    rw [hren]
    exact hfile hdue
  · have hm' : ∃ z', l[m]? = some z' ∧ z'.owns? = some j := by
      rcases getElem?_set_cases hm with ⟨rfl, rfl⟩ | ⟨-, hm⟩
      · exact ⟨y, hk, howns j hz⟩
      · exact ⟨z, hm, hz⟩
    have hn' : ∃ w', l[n]? = some w' ∧ w'.owns? = some j := by
      rcases getElem?_set_cases hn with ⟨rfl, rfl⟩ | ⟨-, hn⟩
      · exact ⟨y, hk, howns j hw⟩
      · exact ⟨w, hn, hw⟩
    obtain ⟨z', hm, hz⟩ := hm'
    obtain ⟨w', hn, hw⟩ := hn'
    exact h.owners m n z' w' j hm hn hz hw
  · rw [hnew]
    exact hfail hst
  · rw [hrole]
    rcases hplane with hrole | ⟨hpas, hauth⟩
    · exact .inl hrole
    · rcases h.plane with hrole | ⟨hall, -⟩
      · exact .inl hrole
      · refine .inr ⟨fun z hz => ?_, hauth⟩
        rcases mem_set_cases hz with rfl | ⟨m, -, hm⟩
        · exact hpas
        · exact hall z (hold hm)

/-- A change of columns that neither the journal nor the file shows. -/
theorem ProjectionInv.same (h : ProjectionInv H x l)
    (hren : x'.renderDbProjection H = x.renderDbProjection H)
    (hrest : x'.journal = x.journal ∧ x'.file = x.file ∧ x'.identity = x.identity)
    (hfz : x'.serversFrozen → x.serversFrozen) : ProjectionInv H x' l := by
  obtain ⟨hjournal, hfile, hidentity⟩ := hrest
  have hnew : x'.newest = x.newest := by rw [RegistryDb.newest, hjournal]; rfl
  have hst : x'.newestState = x.newestState := by rw [RegistryDb.newestState, hjournal]; rfl
  have hauth : x'.authority = x.authority := by rw [RegistryDb.authority, hjournal]; rfl
  refine ⟨hren ▸ h.renders, hauth ▸ h.started, hnew ▸ h.bound, ?_, ?_, h.owners, ?_, ?_,
    ?_⟩
  · rw [hnew, hren]
    exact h.current
  · rw [hauth, hnew, hren, hfile]
    exact h.file
  · rw [hst]
    exact fun hf => h.frozen (hfz hf)
  · rw [hst, hnew]
    exact h.failed
  · rw [hidentity, hauth]
    exact h.plane

/-! ### The statements -/

section Statements

variable (x) (journalId : Nat) (state : JournalState) (at? : Option Nat)

theorem newest_setJournal : (x.setJournal journalId state).newest = x.newest := by
  unfold RegistryDb.newest RegistryDb.setJournal
  rw [List.head?_map, Option.map_map]
  cases x.journal.head? with
  | none => rfl
  | some j =>
    simp only [Option.map_some, Function.comp_apply]
    split <;> rfl

theorem newestState_setJournal : (x.setJournal journalId state).newestState =
    x.newestState.map fun state' => if journalId = x.newest then state else state' := by
  unfold RegistryDb.newestState RegistryDb.newest RegistryDb.setJournal
  rw [List.head?_map, Option.map_map, Option.map_map]
  cases x.journal.head? with
  | none => rfl
  | some j =>
    simp only [Option.map_some, Function.comp_apply, Option.getD_some]
    by_cases hj : j.registryGeneration = journalId
    · rw [if_pos hj, if_pos hj.symm]
    · rw [if_neg hj, if_neg (Ne.symm hj)]

theorem render_setFrozen :
    (x.setFrozen at?).renderDbProjection H = x.renderDbProjection H :=
  renderRows_map (f := fun row => { row with mutationFrozenAt := at? }) (fun _ => rfl) _

theorem render_updateTrust (serverId : String) (trustState : TrustState)
    (trustReasonCode : Option String) :
    (x.updateTrust serverId trustState trustReasonCode).2.renderDbProjection H =
      x.renderDbProjection H := by
  unfold RegistryDb.updateTrust
  split
  · rfl
  · refine renderRows_map (f := fun row => if row.id == serverId then { row with
      trustState := trustState, trustReasonCode := trustReasonCode } else row) ?_ _
    intro row
    split <;> rfl

theorem frozen_updateTrust (serverId : String) (trustState : TrustState)
    (trustReasonCode : Option String)
    (h : (x.updateTrust serverId trustState trustReasonCode).2.serversFrozen) :
    x.serversFrozen := by
  unfold RegistryDb.updateTrust at h
  split at h
  · exact h
  · obtain ⟨row', hrow', hfz⟩ := h
    obtain ⟨row, hrow, rfl⟩ := List.mem_map.mp hrow'
    refine ⟨row, hrow, ?_⟩
    split at hfz <;> exact hfz

theorem not_frozen_setFrozen_none : ¬(x.setFrozen none).serversFrozen := by
  rintro ⟨row', hrow', hfz⟩
  obtain ⟨row, -, rfl⟩ := List.mem_map.mp hrow'
  cases hfz

end Statements

/-- The answers of a statement. -/
theorem statement_cases (x x' : RegistryDb) :
    x.statement x' = (.error statementError, x) ∨ x.statement x' = (.ok (), x') := by
  unfold RegistryDb.statement
  split
  · exact .inl rfl
  · exact .inr rfl

/-- The answers of a write of the file. -/
theorem writeFile_cases (x : RegistryDb) (content : String) :
    (∃ e, x.writeFile content = (.error e, x)) ∨
      ∃ r, x.writeFile content = (r, { x with file := content }) := by
  unfold RegistryDb.writeFile
  cases x.disk with
  | writes => exact .inr ⟨_, rfl⟩
  | fails => exact .inl ⟨_, rfl⟩
  | failsAfter => exact .inr ⟨_, rfl⟩

/-! ### The stages -/

namespace Stage

variable {j : Nat} {p : String}

theorem owns_journal (h : y.owns? = some j) : y.journal? = some j := by
  cases y <;> simp_all [owns?, journal?]

theorem written_journal (h : y.written? = some j) : y.journal? = some j := by
  cases y <;> simp_all [written?, journal?]

theorem projection_journal (h : y.projection? = some (j, p)) : y.journal? = some j := by
  cases y <;> simp_all [projection?, journal?]

end Stage

/-- A call goes to a stage without an entry. -/
theorem ProjectionInv.release (h : ProjectionInv H x l) (hk : l[k]? = some y)
    (hnone : y'.journal? = none)
    (hplane : x.identity.installationRole = "MASTER" ∨ y'.passive = true) :
    ProjectionInv H x (l.set k y') := by
  have hbla : ∀ {j}, y'.journal? ≠ some j := fun hj => by
    rw [hnone] at hj
    cases hj
  refine h.move hk rfl rfl rfl h.started (fun j hj => absurd hj hbla)
    (fun p hp => absurd (Stage.projection_journal hp) hbla)
    (fun j hj => absurd (Stage.owns_journal hj) hbla) ?_ h.frozen ?_ ?_
  · rintro (hdb | ⟨z, hz, hwr⟩)
    · exact h.file (.inl hdb)
    · rcases mem_set_cases hz with rfl | ⟨m, -, hm⟩
      · exact absurd (Stage.written_journal hwr) hbla
      · exact h.file (.inr ⟨z, List.mem_of_getElem? hm, hwr⟩)
  · intro hst z hz howns
    rcases mem_set_cases hz with rfl | ⟨m, -, hm⟩
    · exact hbla (Stage.owns_journal howns)
    · exact h.failed hst z (List.mem_of_getElem? hm) howns
  · rcases hplane with hrole | hpas
    · exact .inl hrole
    · exact h.plane.imp_right fun hall => ⟨hpas, hall.2⟩

/-- **The role is checked.** -/
theorem identity_projection (h : ProjectionInv H x l) (hk : l[k]? = some y) {y₁ y₂ : Stage}
    (hpas : y₁.passive = true) (hnone : y₁.journal? = none ∧ y₂.journal? = none)
    (haft : y' = if x.identity.installationRole ≠ "MASTER" then y₁ else y₂) :
    ProjectionInv H x (l.set k y') := by
  by_cases hrole : x.identity.installationRole ≠ "MASTER"
  · rw [haft, if_pos hrole]
    exact h.release hk hnone.1 (.inr hpas)
  · rw [haft, if_neg hrole]
    exact h.release hk hnone.2 (.inl (not_not.mp hrole))

theorem recordTrust_projection (h : ProjectionInv H x l) (serverId : String)
    (trustState : TrustState) (trustReasonCode : Option String) :
    ProjectionInv H (x.updateTrust serverId trustState trustReasonCode).2 l := by
  refine h.same (render_updateTrust _ _ _ _) ?_ (frozen_updateTrust _ _ _ _)
  unfold RegistryDb.updateTrust
  split <;> exact ⟨rfl, rfl, rfl⟩

variable {projection : String}

/-- **A new entry**: every call works on an older one. -/
theorem ProjectionInv.added (h : ProjectionInv H x l) (hk : l[k]? = some .control)
    (hframe : Frame x x') (hthawed : ∀ row ∈ x'.remoteServer, row.mutationFrozenAt = none)
    (hproj : x'.renderDbProjection H = .ok projection) :
    ProjectionInv H { x' with journal := ⟨x.newest + 1, .prepared⟩ :: x'.journal }
      (l.set k (.prepared (x.newest + 1) projection)) := by
  have hlat : ∀ {m : Nat} {z : Stage}, l[m]? = some z → z.journal? ≠ some (x.newest + 1) := by
    intro m z hm hj
    have hle := h.bound z (List.mem_of_getElem? hm) _ hj
    omega
  refine ⟨⟨projection, hproj⟩, ?_, fun z hz j hj => ?_, fun z hz p hp => ?_, ?_,
    fun m n z w j hm hn hz hw => ?_, ?_, fun hst => ?_, ?_⟩
  · intro hjson
    cases hjson
  · rcases mem_set_cases hz with rfl | ⟨m, -, hm⟩
    · cases hj
      exact Nat.le_refl _
    · exact Nat.le_succ_of_le (h.bound z (List.mem_of_getElem? hm) j hj)
  · rcases mem_set_cases hz with rfl | ⟨m, -, hm⟩
    · cases hp
      exact hproj
    · exact absurd (Stage.projection_journal hp) (hlat hm)
  · rintro (hdb | ⟨z, hz, hwr⟩)
    · cases hdb
    · rcases mem_set_cases hz with rfl | ⟨m, -, hm⟩
      · cases hwr
      · exact absurd (Stage.written_journal hwr) (hlat hm)
  · rcases getElem?_set_cases hm with ⟨rfl, rfl⟩ | ⟨-, hm'⟩
    · rcases getElem?_set_cases hn with ⟨rfl, rfl⟩ | ⟨-, hn'⟩
      · rfl
      · cases hz
        exact absurd (Stage.owns_journal hw) (hlat hn')
    · rcases getElem?_set_cases hn with ⟨rfl, rfl⟩ | ⟨-, hn'⟩
      · cases hw
        exact absurd (Stage.owns_journal hz) (hlat hm')
      · exact h.owners m n z w j hm' hn' hz hw
  · rintro ⟨row, hrow, hfz⟩
    rw [hthawed row hrow] at hfz
    cases hfz
  · cases hst
  · refine .inl ?_
    show x'.identity.installationRole = "MASTER"
    rw [hframe.identity]
    exact h.master hk rfl

/-- **A transaction** adds an entry, unless a server is frozen. -/
theorem transact_projection (m : Mutation) (h : ProjectionInv H x l)
    (hk : l[k]? = some .control) :
    ProjectionInv H (transact H m x).2
      (l.set k (Stage.after .control (.transact m) (transact H m x).1)) := by
  have hstay : l.set k Stage.control = l := set_getElem?_self hk
  unfold transact
  split
  · exact (congrArg (ProjectionInv H x) hstay).mpr h
  rename_i hthawed
  split
  · exact (congrArg (ProjectionInv H x) hstay).mpr h
  · exact (congrArg (ProjectionInv H x) hstay).mpr h
  rename_i value x' hm
  split
  · exact (congrArg (ProjectionInv H x) hstay).mpr h
  rename_i projection hproj
  have hframe := mutate_frame hm
  refine h.added hk hframe (hframe.thawed fun row hrow => ?_) hproj
  by_contra hsome
  refine hthawed (List.any_eq_true.mpr ⟨row, hrow, ?_⟩)
  exact Option.isSome_iff_ne_none.mpr hsome

/-! ### Writes of the file, and of the journal -/

/-- A write that fails takes its call to a stage that does not hold more. -/
theorem ProjectionInv.unwritten (h : ProjectionInv H x l) (hk : l[k]? = some y)
    (hy : y.passive = false) (hnone : y'.projection? = none ∧ y'.written? = none)
    (hjournal : ∀ j, y'.journal? = some j → y.journal? = some j)
    (howns : ∀ j, y'.owns? = some j → y.owns? = some j) : ProjectionInv H x (l.set k y') := by
  refine h.move hk rfl rfl rfl h.started (fun j hj => ?_) (fun p hp => ?_) howns ?_ h.frozen ?_
    (.inl (h.master hk hy))
  · exact h.bound y (List.mem_of_getElem? hk) j (hjournal j hj)
  · rw [hnone.1] at hp
    cases hp
  · rintro (hdb | ⟨z, hz, hwr⟩)
    · exact h.file (.inl hdb)
    · rcases mem_set_cases hz with rfl | ⟨m, -, hm⟩
      · rw [hnone.2] at hwr
        cases hwr
      · exact h.file (.inr ⟨z, List.mem_of_getElem? hm, hwr⟩)
  · intro hst z hz howner
    rcases mem_set_cases hz with rfl | ⟨m, -, hm⟩
    · exact h.failed hst y (List.mem_of_getElem? hk) (howns _ howner)
    · exact h.failed hst z (List.mem_of_getElem? hm) howner

variable {journalId : Nat}

/-- **A projection is written** that is current, or before the newest entry is. -/
theorem ProjectionInv.writes (h : ProjectionInv H x l) (hk : l[k]? = some y)
    (hproj : y.projection? = some (journalId, projection))
    (hg : ProjectionGuard H x l k (.writeFile projection)) (hnone : y'.projection? = none)
    (hwr : ∀ j, y'.written? = some j → j = journalId)
    (hjournal : ∀ j, y'.journal? = some j → y.journal? = some j)
    (howns : ∀ j, y'.owns? = some j → y.owns? = some j) :
    ProjectionInv H { x with file := projection } (l.set k y') := by
  have hpas : y.passive = false := by
    cases y <;> simp_all [Stage.projection?, Stage.passive]
  refine h.move hk rfl rfl rfl h.started (fun j hj => ?_) (fun p hp => ?_) howns ?_ h.frozen ?_
    (.inl (h.master hk hpas))
  · exact h.bound y (List.mem_of_getElem? hk) j (hjournal j hj)
  · rw [hnone] at hp
    cases hp
  · -- A projection of the newest entry is current; an older one is written under the condition.
    intro hdue
    by_cases hnew : journalId = x.newest
    · exact h.current y (List.mem_of_getElem? hk) _ (hnew ▸ hproj)
    · rcases hg with hown | hcur | ⟨hpend, hunwritten⟩
      · rw [hk, Option.bind_some, Stage.projection_journal hproj] at hown
        exact absurd (Option.some.inj hown) hnew
      · exact hcur
      · rcases hdue with hdb | ⟨z, hz, hz'⟩
        · exact absurd hdb hpend
        · rcases mem_set_cases hz with rfl | ⟨m, -, hm⟩
          · exact absurd (hwr _ hz').symm hnew
          · exact absurd hz' (hunwritten z (List.mem_of_getElem? hm))
  · intro hst z hz howner
    rcases mem_set_cases hz with rfl | ⟨m, -, hm⟩
    · exact h.failed hst y (List.mem_of_getElem? hk) (howns _ howner)
    · exact h.failed hst z (List.mem_of_getElem? hm) howner

/-- **An entry is committed** behind its write: the file is current if the entry is the newest. -/
theorem ProjectionInv.commits (h : ProjectionInv H x l) (hk : l[k]? = some (.written journalId)) :
    ProjectionInv H (x.setJournal journalId .committed) (l.set k .control) := by
  have hmem := List.mem_of_getElem? hk
  have hst := newestState_setJournal x journalId .committed
  have hcur : (x.setJournal journalId .committed).authority = .db →
      x.renderDbProjection H = .ok x.file := by
    intro hdb
    rw [authority_db, hst] at hdb
    by_cases hnew : journalId = x.newest
    · exact h.file (.inr ⟨_, hmem, congrArg some hnew⟩)
    · simp only [if_neg hnew, Option.map_id'] at hdb
      exact h.file (.inl (authority_db.mpr hdb))
  have hfail : (x.setJournal journalId .committed).newestState = some .failed →
      x.newestState = some .failed := by
    intro hfail
    rw [hst] at hfail
    by_cases hnew : journalId = x.newest
    · simp [hnew] at hfail
    · simpa [if_neg hnew] using hfail
  refine h.move hk rfl (newest_setJournal _ _ _) rfl ?_ (fun j hj => by cases hj)
    (fun p hp => by cases hp) (fun j hj => by cases hj) ?_ ?_ ?_ (.inl (h.master hk rfl))
  · obtain ⟨state, hsome, hne⟩ := authority_json.mp h.started
    rw [authority_json, hst, hsome]
    by_cases hnew : journalId = x.newest
    · exact ⟨.committed, by simp [hnew], by decide⟩
    · exact ⟨state, by simp [hnew], hne⟩
  · rintro (hdb | ⟨z, hz, hwr⟩)
    · exact hcur hdb
    · rcases mem_set_cases hz with rfl | ⟨m, -, hm⟩
      · cases hwr
      · exact h.file (.inr ⟨z, List.mem_of_getElem? hm, hwr⟩)
  · -- The newest entry cannot have failed while its call has still to commit it.
    intro hfz
    have hbef := h.frozen hfz
    rw [hst, hbef]
    by_cases hnew : journalId = x.newest
    · exact absurd (congrArg some hnew) (h.failed hbef _ hmem)
    · simp [hnew]
  · intro hdue z hz howner
    rcases mem_set_cases hz with rfl | ⟨m, -, hm⟩
    · cases howner
    · exact h.failed (hfail hdue) z (List.mem_of_getElem? hm) howner

/-- **An entry fails** that is the newest, or when the newest has failed. -/
theorem ProjectionInv.freezes (h : ProjectionInv H x l) (hk : l[k]? = some (.failing journalId))
    (hg : journalId = x.newest ∨ x.newestState = some .failed) :
    ProjectionInv H ((x.setJournal journalId .failed).setFrozen (some 0)) (l.set k .control) := by
  have hsome : x.newestState ≠ none := by
    obtain ⟨state, hsome, -⟩ := authority_json.mp h.started
    simp [hsome]
  have hst : ((x.setJournal journalId .failed).setFrozen (some 0)).newestState =
      some .failed := by
    show (x.setJournal journalId .failed).newestState = some .failed
    rw [newestState_setJournal]
    obtain ⟨state, hsome⟩ := Option.ne_none_iff_exists'.mp hsome
    rcases hg with rfl | hfail
    · simp [hsome]
    · simp [hfail]
  refine h.move hk (render_setFrozen (x.setJournal journalId .failed) (some 0))
    (newest_setJournal x journalId .failed) rfl ?_ (fun j hj => by cases hj)
    (fun p hp => by cases hp) (fun j hj => by cases hj) ?_ (fun _ => hst) ?_
    (.inl (h.master hk rfl))
  · rw [authority_json]
    exact ⟨.failed, hst, by decide⟩
  · rintro (hdb | ⟨z, hz, hwr⟩)
    · rw [authority_db, hst] at hdb
      cases hdb
    · rcases mem_set_cases hz with rfl | ⟨m, -, hm⟩
      · cases hwr
      · exact h.file (.inr ⟨z, List.mem_of_getElem? hm, hwr⟩)
  · -- No other call has the entry of this one.
    intro _ z hz howner
    rcases mem_set_cases hz with rfl | ⟨m, hne, hm⟩
    · cases howner
    · rcases hg with rfl | hfail
      · exact hne (h.owners m k z _ x.newest hm hk howner rfl)
      · exact h.failed hfail z (List.mem_of_getElem? hm) howner

/-- **A repair commits** its entry and ends every freeze. -/
theorem ProjectionInv.repairs (h : ProjectionInv H x l) (hk : l[k]? = some (.repaired journalId)) :
    ProjectionInv H ((x.setJournal journalId .committed).setFrozen none)
      (l.set k .repairControl) := by
  have hmem := List.mem_of_getElem? hk
  have hst : ((x.setJournal journalId .committed).setFrozen none).newestState =
      x.newestState.map fun state => if journalId = x.newest then .committed else state :=
    newestState_setJournal x journalId .committed
  refine h.move hk (render_setFrozen (x.setJournal journalId .committed) none)
    (newest_setJournal x journalId .committed) rfl ?_ (fun j hj => by cases hj)
    (fun p hp => by cases hp) (fun j hj => by cases hj) ?_
    (fun hfz => absurd hfz (not_frozen_setFrozen_none _)) ?_ (.inl (h.master hk rfl))
  · obtain ⟨state, hsome, hne⟩ := authority_json.mp h.started
    rw [authority_json, hst, hsome]
    by_cases hnew : journalId = x.newest
    · exact ⟨.committed, by simp [hnew], by decide⟩
    · exact ⟨state, by simp [hnew], hne⟩
  · rintro (hdb | ⟨z, hz, hwr⟩)
    · rw [authority_db, hst] at hdb
      by_cases hnew : journalId = x.newest
      · exact h.file (.inr ⟨_, hmem, congrArg some hnew⟩)
      · simp only [if_neg hnew, Option.map_id'] at hdb
        exact h.file (.inl (authority_db.mpr hdb))
    · rcases mem_set_cases hz with rfl | ⟨m, -, hm⟩
      · cases hwr
      · exact h.file (.inr ⟨z, List.mem_of_getElem? hm, hwr⟩)
  · intro hdue z hz howner
    rw [hst] at hdue
    by_cases hnew : journalId = x.newest
    · simp [hnew] at hdue
    · simp only [if_neg hnew, Option.map_id'] at hdue
      rcases mem_set_cases hz with rfl | ⟨m, -, hm⟩
      · cases howner
      · exact h.failed hdue z (List.mem_of_getElem? hm) howner

/-! ### Instructions -/

/-- A repair looks at the newest entry. -/
theorem ProjectionInv.found (h : ProjectionInv H x l) (hk : l[k]? = some .repairControl) :
    ProjectionInv H x (l.set k (Stage.after .repairControl .latestJournal x.journal.head?)) := by
  have hmaster := h.master hk rfl
  cases hjournal : x.journal.head? with
  | none =>
    show ProjectionInv H x (l.set k .repairControl)
    rw [set_getElem?_self hk]
    exact h
  | some latest =>
    have hnew : latest.registryGeneration = x.newest := by
      simp [RegistryDb.newest, hjournal]
    simp only [Stage.after]
    split
    · rw [set_getElem?_self hk]
      exact h
    · refine h.move hk rfl rfl rfl h.started (fun j hj => ?_) (fun p hp => by cases hp)
        (fun j hj => by cases hj) ?_ h.frozen ?_ (.inl hmaster)
      · cases hj
        exact Nat.le_of_eq hnew
      · rintro (hdb | ⟨z, hz, hwr⟩)
        · exact h.file (.inl hdb)
        · rcases mem_set_cases hz with rfl | ⟨m, -, hm⟩
          · cases hwr
          · exact h.file (.inr ⟨z, List.mem_of_getElem? hm, hwr⟩)
      · intro hfail z hz howner
        rcases mem_set_cases hz with rfl | ⟨m, -, hm⟩
        · cases howner
        · exact h.failed hfail z (List.mem_of_getElem? hm) howner

/-- A repair renders the rows. -/
theorem ProjectionInv.renderedBy (h : ProjectionInv H x l)
    (hk : l[k]? = some (.repairing journalId)) (hproj : x.renderDbProjection H = .ok projection) :
    ProjectionInv H x (l.set k (.rendered journalId projection)) := by
  refine h.move hk rfl rfl rfl h.started (fun j hj => ?_) (fun p hp => ?_)
    (fun j hj => by cases hj) ?_ h.frozen ?_ (.inl (h.master hk rfl))
  · exact h.bound _ (List.mem_of_getElem? hk) j hj
  · cases hp
    exact hproj
  · rintro (hdb | ⟨z, hz, hwr⟩)
    · exact h.file (.inl hdb)
    · rcases mem_set_cases hz with rfl | ⟨m, -, hm⟩
      · cases hwr
      · exact h.file (.inr ⟨z, List.mem_of_getElem? hm, hwr⟩)
  · intro hfail z hz howner
    rcases mem_set_cases hz with rfl | ⟨m, -, hm⟩
    · cases howner
    · exact h.failed hfail z (List.mem_of_getElem? hm) howner

/-- **One instruction.** -/
theorem answer_projection (i : RegistryInstr) (h : ProjectionInv H x l) (hk : l[k]? = some y)
    (halw : y.allows i) (hg : ProjectionGuard H x l k i) :
    ProjectionInv H (answer H i x).2 (l.set k (y.after i (answer H i x).1)) := by
  have hstay : l.set k y = l := set_getElem?_self hk
  cases y with
  | idle =>
    cases i with
    | getLocalIdentity => exact identity_projection h hk rfl ⟨rfl, rfl⟩ rfl
    | findServer serverId => exact (congrArg (ProjectionInv H x) hstay).mpr h
    | recordTrust serverId trustState trustReasonCode =>
      exact (congrArg (ProjectionInv H _) hstay).mpr (recordTrust_projection h _ _ _)
    | _ => exact halw.elim
  | repair =>
    cases i with
    | getLocalIdentity => exact identity_projection h hk rfl ⟨rfl, rfl⟩ rfl
    | findServer serverId => exact (congrArg (ProjectionInv H x) hstay).mpr h
    | recordTrust serverId trustState trustReasonCode =>
      exact (congrArg (ProjectionInv H _) hstay).mpr (recordTrust_projection h _ _ _)
    | _ => exact halw.elim
  | control =>
    cases i with
    | getLocalIdentity => exact (congrArg (ProjectionInv H x) hstay).mpr h
    | findServer serverId => exact (congrArg (ProjectionInv H x) hstay).mpr h
    | latestJournal => exact (congrArg (ProjectionInv H x) hstay).mpr h
    | recordTrust serverId trustState trustReasonCode =>
      exact (congrArg (ProjectionInv H _) hstay).mpr (recordTrust_projection h _ _ _)
    | transact m => exact transact_projection m h hk
    | _ => exact halw.elim
  | prepared journalId projection =>
    obtain rfl := halw
    simp only [answer]
    rcases writeFile_cases x projection with ⟨e, hwrite⟩ | ⟨r, hwrite⟩
    · rw [hwrite]
      exact h.unwritten hk rfl ⟨rfl, rfl⟩ (fun _ hj => hj) fun _ hj => hj
    · rw [hwrite]
      cases r with
      | ok _ =>
        exact h.writes hk rfl hg rfl (fun _ hj => (Option.some.inj hj).symm) (fun _ hj => hj)
          fun _ hj => hj
      | error e =>
        exact h.writes hk rfl hg rfl (fun _ hj => by cases hj) (fun _ hj => hj)
          fun _ hj => hj
  | written journalId =>
    obtain rfl := halw
    simp only [answer]
    rcases statement_cases x (x.setJournal journalId .committed) with hdown | hdone
    · rw [hdown]
      exact h.unwritten hk rfl ⟨rfl, rfl⟩ (fun _ hj => hj) fun _ hj => hj
    · rw [hdone]
      exact h.commits hk
  | failing journalId =>
    obtain rfl := halw
    simp only [answer]
    rcases statement_cases x ((x.setJournal journalId .failed).setFrozen (some 0)) with
      hdown | hdone
    · rw [hdown]
      exact h.release hk rfl (.inl (h.master hk rfl))
    · rw [hdone]
      exact h.freezes hk hg
  | repairControl =>
    obtain rfl := halw
    exact h.found hk
  | repairing journalId =>
    obtain rfl := halw
    simp only [answer]
    cases hproj : x.renderDbProjection H with
    | ok projection => exact h.renderedBy hk hproj
    | error e => exact h.release hk rfl (.inl (h.master hk rfl))
  | rendered journalId projection =>
    obtain rfl := halw
    simp only [answer]
    rcases writeFile_cases x projection with ⟨e, hwrite⟩ | ⟨r, hwrite⟩
    · rw [hwrite]
      exact h.release hk rfl (.inl (h.master hk rfl))
    · rw [hwrite]
      cases r with
      | ok _ =>
        exact h.writes hk rfl hg rfl (fun _ hj => (Option.some.inj hj).symm) (fun _ hj => hj)
          fun _ hj => hj
      | error e =>
        exact h.writes hk rfl hg rfl (fun _ hj => by cases hj) (fun _ hj => by cases hj)
          fun _ hj => by cases hj
  | repaired journalId =>
    obtain rfl := halw
    simp only [answer]
    rcases statement_cases x ((x.setJournal journalId .committed).setFrozen none) with
      hdown | hdone
    · rw [hdown]
      exact h.release hk rfl (.inl (h.master hk rfl))
    · rw [hdone]
      exact h.repairs hk

theorem outside_projection (change : RegistryChange) (h : ProjectionInv H x l) :
    ProjectionInv H (x.outside change) l := by
  refine h.same ?_ ?_ ?_
  · cases change with
    | createIssuer => simp only [RegistryDb.outside]; split <;> rfl
    | setDisk | revokeIssuer | setEnrollments => rfl
  · cases change with
    | createIssuer => simp only [RegistryDb.outside]; split <;> exact ⟨rfl, rfl, rfl⟩
    | setDisk | revokeIssuer | setEnrollments => exact ⟨rfl, rfl, rfl⟩
  · cases change with
    | createIssuer => simp only [RegistryDb.outside]; split <;> exact fun hfz => hfz
    | setDisk | revokeIssuer | setEnrollments => exact fun hfz => hfz

/-! ## Runs -/

/-- The registry before its mutations: the newest entry is committed, the file is the rendering of
the rows, and nobody is frozen. -/
structure AtRest (H : RegistryHost) (x : RegistryDb) : Prop where
  authority : x.authority = .db
  file : x.renderDbProjection H = .ok x.file
  thawed : ¬x.serversFrozen

theorem AtRest.inv (h : AtRest H x) : ProjectionInv H x [] where
  renders := ⟨_, h.file⟩
  started := by
    rw [h.authority]
    decide
  bound z hz := absurd hz List.not_mem_nil
  current z hz := absurd hz List.not_mem_nil
  file _ := h.file
  owners m n z w j hm := absurd hm (by simp)
  frozen hfz := absurd hfz h.thawed
  failed _ z hz := absurd hz List.not_mem_nil
  plane := .inr ⟨fun z hz => absurd hz List.not_mem_nil, h.authority⟩

theorem ProjectionInv.call (h : ProjectionInv H x l) (request : RegistryRequest) :
    ProjectionInv H x (l ++ [request.stage]) := by
  have hpas : request.stage.passive = true := by cases request <;> rfl
  have hnone : ∀ j, request.stage.journal? ≠ some j := by
    cases request <;> simp [RegistryRequest.stage, Stage.journal?]
  have hold : ∀ {z}, z ∈ l ++ [request.stage] → z ∈ l ∨ z = request.stage := fun hz =>
    (List.mem_append.mp hz).imp_right List.mem_singleton.mp
  refine ⟨h.renders, h.started, fun z hz j hj => ?_, fun z hz p hp => ?_, ?_,
    fun m n z w j hm hn hz hw => ?_, h.frozen, fun hfail z hz howner => ?_, ?_⟩
  · rcases hold hz with hz | rfl
    · exact h.bound z hz j hj
    · exact absurd hj (hnone j)
  · rcases hold hz with hz | rfl
    · exact h.current z hz p hp
    · exact absurd (Stage.projection_journal hp) (hnone _)
  · rintro (hdb | ⟨z, hz, hwr⟩)
    · exact h.file (.inl hdb)
    · rcases hold hz with hz | rfl
      · exact h.file (.inr ⟨z, hz, hwr⟩)
      · exact absurd (Stage.written_journal hwr) (hnone _)
  · rcases getElem?_append_cases hm with ⟨-, rfl⟩ | ⟨-, hm'⟩
    · exact absurd (Stage.owns_journal hz) (hnone _)
    rcases getElem?_append_cases hn with ⟨-, rfl⟩ | ⟨-, hn'⟩
    · exact absurd (Stage.owns_journal hw) (hnone _)
    · exact h.owners m n z w j hm' hn' hz hw
  · rcases hold hz with hz | rfl
    · exact h.failed hfail z hz howner
    · exact absurd (Stage.owns_journal howner) (hnone _)
  · rcases h.plane with hrole | ⟨hall, hdb⟩
    · exact .inl hrole
    · refine .inr ⟨fun z hz => ?_, hdb⟩
      rcases hold hz with hz | rfl
      · exact hall z hz
      · exact hpas

/-! ### Repairs -/

/-- What a repair that nobody interrupts and whose writes succeed comes to: it returns, no server is
frozen, the database has the authority, and the file is the rendering of the rows. -/
def RepairLifts (H : RegistryHost) (x : RegistryDb) : Prop :=
  ∃ x', Runs (answer H) repairProjection { x with disk := .writes, down := false } (.ok .done) x' ∧
    ¬x'.serversFrozen ∧ x'.authority = .db ∧ x'.renderDbProjection H = .ok x'.file

theorem authority_frozen (h : x.authority = .frozen) :
    ∃ latest, x.journal.head? = some latest ∧
      ¬(latest.state ≠ .prepared ∧ latest.state ≠ .failed) := by
  unfold RegistryDb.authority authorityOf at h
  split at h
  · cases h
  rename_i latest hlatest
  refine ⟨latest, hlatest, ?_⟩
  rintro ⟨hprep, hfail⟩
  cases hst : latest.state with
  | prepared => exact hprep hst
  | failed => exact hfail hst
  | imported | committed | rolledBack =>
    rw [hst] at h
    cases h

theorem assertControlPlane_runs (hrole : x.identity.installationRole = "MASTER") :
    Runs (answer H) assertControlPlane x (.ok ()) x := by
  unfold assertControlPlane
  refine runs_bind (runs_ask RegistryInstr.getLocalIdentity) ?_
  split
  · rename_i hother
    exact absurd hrole hother
  · exact runs_pure ()

theorem assertControlPlane_refuses (hrole : x.identity.installationRole ≠ "MASTER") :
    Runs (answer H) assertControlPlane x (.error ⟨.badRequest,
      "Remote registry exists only on a control-plane installation"⟩) x := by
  unfold assertControlPlane
  refine runs_bind (runs_ask RegistryInstr.getLocalIdentity) ?_
  split
  · exact runs_throw _
  · rename_i hother
    exact absurd hrole hother

/-- **A repair runs** wherever the newest entry is pending or has failed. -/
theorem repair_lifts (hrenders : ∃ content, x.renderDbProjection H = .ok content)
    (hrole : x.identity.installationRole = "MASTER") (hfz : x.authority = .frozen) :
    RepairLifts H x := by
  obtain ⟨content, hcont⟩ := hrenders
  obtain ⟨latest, hlatest, hpend⟩ := authority_frozen hfz
  let working : RegistryDb := { x with disk := .writes, down := false }
  let written : RegistryDb := { working with file := content }
  let repaired := (written.setJournal latest.registryGeneration .committed).setFrozen none
  have hren : repaired.renderDbProjection H = .ok content :=
    (render_setFrozen (written.setJournal latest.registryGeneration .committed) none).trans hcont
  refine ⟨repaired, ?_, not_frozen_setFrozen_none _, ?_, hren⟩
  · have hrendered : Runs (answer H) (ask? RegistryInstr.renderDbProjection id) working
        (.ok content) working := congrArg (fun r => some (r, working)) hcont
    have hwr : Runs (answer H) (ask? (RegistryInstr.writeFile content) id) working
        (.ok ()) written := rfl
    have hrepaired : Runs (answer H)
        (ask? (RegistryInstr.repairJournal latest.registryGeneration) id) written
        (.ok ()) repaired := rfl
    unfold repairProjection
    refine runs_bind (assertControlPlane_runs hrole) ?_
    refine runs_bind (runs_ask RegistryInstr.latestJournal) ?_
    simp only [answer, hlatest, if_neg hpend]
    exact runs_bind hrendered (runs_bind hwr (runs_bind hrepaired (runs_pure _)))
  · rw [authority_db]
    show (written.setJournal latest.registryGeneration .committed).newestState = _
    rw [newestState_setJournal]
    simp [RegistryDb.newestState, RegistryDb.newest, written, working, hlatest]

/-- No repair where the newest entry is committed. -/
theorem repair_refused (hdb : x.authority = .db) : ¬RepairLifts H x := by
  rintro ⟨x', hruns, -⟩
  obtain ⟨latest, hlatest, hcommitted⟩ := Option.map_eq_some_iff.mp (authority_db.mp hdb)
  let working : RegistryDb := { x with disk := .writes, down := false }
  have hend : ∃ e, Runs (answer H) repairProjection working (.error e) working := by
    unfold repairProjection
    by_cases hrole : x.identity.installationRole = "MASTER"
    · have href : latest.state ≠ .prepared ∧ latest.state ≠ .failed := by
        simp [hcommitted]
      refine ⟨⟨.conflict, "No failed registry projection requires repair"⟩,
        runs_bind (assertControlPlane_runs hrole) ?_⟩
      refine runs_bind (runs_ask RegistryInstr.latestJournal) ?_
      simp only [answer, working, hlatest, if_pos href]
      exact runs_throw _
    · exact ⟨_, runs_error (assertControlPlane_refuses hrole)⟩
  obtain ⟨e, hend⟩ := hend
  exact absurd (hruns.symm.trans hend) (by simp)

/-! ### The results -/

abbrev ProjectionRun : Type := Phased RegistryDb Stage RegistryInstr Answer
  (Except RegistryError RegistryValue)

/-- One step of the registry, with the stages of its calls. -/
def projectionStep (H : RegistryHost) (s : ProjectionRun)
    (a : Event RegistryChange RegistryRequest) : Option ProjectionRun :=
  Phased.step (registry H) projecting RegistryRequest.stage s a

/-- The steps that meet `ProjectionGuard`. -/
def InOrder (H : RegistryHost) (s : ProjectionRun) (a : Event RegistryChange RegistryRequest) :
    Prop :=
  Phased.Within (ProjectionGuard H) s a

variable {x₀ : RegistryDb} {s : ProjectionRun}

/-- **The legacy file follows the rows, and a freeze ends.** -/
theorem projection_current (h0 : AtRest H x₀)
    (hs : Reach (projectionStep H) (InOrder H) ⟨x₀, []⟩ s) :
    (s.store.authority = .db → s.store.renderDbProjection H = .ok s.store.file) ∧
      (s.store.serversFrozen ∨ s.store.authority = .frozen → RepairLifts H s.store) := by
  have h : ProjectionInv H s.store s.phases := (Phased.invariant (I := ProjectionInv H)
    (request_stages H) h0.inv (fun change x l h => outside_projection change h)
    (fun request x l h => h.call request)
    (fun x l k y i h hk halw hg => answer_projection i h hk halw hg) hs).1
  refine ⟨fun hdb => h.file (.inl hdb), fun hfz => ?_⟩
  have hpend : s.store.authority = .frozen := by
    rcases hfz with hfz | hauth
    · have hst := h.frozen hfz
      cases hauth : s.store.authority with
      | frozen => rfl
      | json => exact absurd hauth h.started
      | db =>
        rw [authority_db, hst] at hauth
        cases hauth
    · exact hauth
  refine repair_lifts h.renders ?_ hpend
  rcases h.plane with hrole | ⟨-, hdb⟩
  · exact hrole
  · rw [hpend] at hdb
    cases hdb

instance (H : RegistryHost) (x : RegistryDb) (l : List Stage) (k : Nat) (i : RegistryInstr) :
    Decidable (ProjectionGuard H x l k i) := by
  apply RegistryInstr.casesOn (motive := fun i => Decidable (ProjectionGuard H x l k i)) i <;>
    intros <;> dsimp only [ProjectionGuard] <;> infer_instance

instance (H : RegistryHost) (s : ProjectionRun) (a : Event RegistryChange RegistryRequest) :
    Decidable (InOrder H s a) :=
  inferInstanceAs (Decidable (Phased.Within (ProjectionGuard H) s a))

namespace Sample

/-- One server, called by a name. -/
def legacy (name : String) : RegistryRequest :=
  .addLegacyServer ⟨"server-2", name, "https://legacy.example", "token", none⟩

def rename (name : String) : RegistryRequest :=
  .updateLegacyServer "server-2" ⟨some name, none, none, none⟩

end Sample

/-- A server is added; it is renamed while the disk fails; and a repair. -/
theorem projection_current_repaired : ∃ s : ProjectionRun,
    s.store.file = "New=https://legacy.example" ∧ s.store.authority = .db ∧
      (s.store.authority = .db → s.store.renderDbProjection Sample.host = .ok s.store.file) ∧
      (s.store.serversFrozen ∨ s.store.authority = .frozen → RepairLifts Sample.host s.store) := by
  have hrun : ∃ s, Reach (projectionStep Sample.host) (InOrder Sample.host)
      ⟨Sample.registry, []⟩ s ∧ s.store.file = "New=https://legacy.example" ∧
        s.store.authority = .db :=
    Reach.of_run_any (l := [Event.call (Sample.legacy "Old")] ++
      List.replicate 5 (Event.advance 0) ++
      [Event.outside (RegistryChange.setDisk .fails false), .call (Sample.rename "New")] ++
      List.replicate 6 (Event.advance 1) ++
      [Event.outside (RegistryChange.setDisk .writes false), .call .repairProjection] ++
      List.replicate 5 (Event.advance 2)) (by decide +kernel)
  obtain ⟨s, hs, hfile, hauth⟩ := hrun
  refine ⟨s, hfile, hauth, projection_current ⟨?_, ?_, ?_⟩ hs⟩
  · rfl
  · decide +kernel
  · rintro ⟨row, hrow, -⟩
    cases hrow

/-- Two calls that have both looked at the authority; the second is done before the first goes
on. -/
def overtaken : List (Event RegistryChange RegistryRequest) :=
  [Event.call (Sample.legacy "Old")] ++ List.replicate 5 (Event.advance 0) ++
    [Event.call (Sample.rename "First"), .call (Sample.rename "Last")] ++
    List.replicate 3 (Event.advance 2) ++ List.replicate 4 (Event.advance 1) ++
    List.replicate 3 (Event.advance 2)

/-- **The file stays behind the rows**: the call that was overtaken writes last. **A freeze stays**:
the write of the call that was overtaken fails, and no repair is accepted. -/
theorem projection_stale :
    (∃ s, Reach (Pool.step (registry Sample.host)) anyStep ⟨Sample.registry, []⟩ s ∧
      s.store.authority = .db ∧ (s.store.journal.all fun j => decide (j.state = .committed)) ∧
      s.store.renderDbProjection Sample.host = .ok "Last=https://legacy.example" ∧
      s.store.file = "First=https://legacy.example") ∧
    ∃ s, Reach (Pool.step (registry Sample.host)) anyStep ⟨Sample.registry, []⟩ s ∧
      s.store.serversFrozen ∧ ¬RepairLifts Sample.host s.store := by
  constructor
  · exact Reach.of_run_any (l := overtaken ++ List.replicate 2 (.advance 1)) (by decide +kernel)
  · have hrun : ∃ s, Reach (Pool.step (registry Sample.host)) anyStep ⟨Sample.registry, []⟩ s ∧
        (s.store.remoteServer.any fun row => row.mutationFrozenAt.isSome) = true ∧
        s.store.authority = .db :=
      Reach.of_run_any (l := overtaken ++ [Event.outside (RegistryChange.setDisk .fails false)] ++
        List.replicate 2 (Event.advance 1)) (by decide +kernel)
    obtain ⟨s, hs, hfz, hdb⟩ := hrun
    exact ⟨s, hs, List.any_eq_true.mp hfz, repair_refused hdb⟩

end Meowbox.Registry
