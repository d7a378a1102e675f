import Meowbox.Backups.Retention
import Meowbox.Lib.Except
import Meowbox.Lib.Sequential

/-!
# The catalogue of a repository

A row is available as long as its `filePath` is not empty; the retention empties it when the
snapshot is gone. What is gone is the difference of two listings of one run, so what a run removes
and does not mark, no later run marks.

The runs of one configuration follow each other; in between and meanwhile backups may end. `Mends` is
the condition on an instruction of a run: it does not fail over a row whose snapshot is gone, and a
`forget` removes no snapshot of a row that the listing before it did not show.

* `catalogue_after_run`: between runs that meet the condition every available row has its snapshot.
* `half_run_never_marked`: a listing fails behind a `forget`, and the next run that succeeds leaves
  the row available.
-/

namespace Meowbox.Backups

open Interleaved ResticRepositoryRetentionService
open Operations (Fault)

/-- The configuration and the location the runs are about; its name gives the repository. -/
structure Repository where
  scope : RetentionScope
  configId : String
  locationId : String
  name : String

namespace Repository

variable (R : Repository)

def repoName : String := resticRepositoryName R.name R.scope.fallback

/-- The snapshots of the repository. -/
def snapshots (x : RetentionStore) : List String := x.snapshots R.locationId R.repoName

/-- A completed restic backup of the configuration that is not marked as removed. -/
def available (r : RetentionRow) : Bool :=
  RetentionStore.RetentionRow.of R.scope R.configId R.locationId r && r.engine == .restic &&
    r.status == .completed && r.filePath != ""

/-- The row refers to one of the snapshots. -/
def refersTo (ids : List String) (r : RetentionRow) : Bool := r.resticSnapshotId.any (ids.contains ·)

/-- Every available row refers to a snapshot of the repository or to one of `gone`. -/
def Accounted (gone : List String) (x : RetentionStore) : Prop :=
  ∀ r ∈ x.rows, R.available r = true →
    refersTo (R.snapshots x) r = true ∨ refersTo gone r = true

/-- **The catalogue is right**: every available row has its snapshot. -/
def Catalogued (x : RetentionStore) : Prop :=
  ∀ r ∈ x.rows, R.available r = true → refersTo (R.snapshots x) r = true

/-- Backups end: the snapshots stay, and a row that becomes available has one. -/
structure Later (x y : RetentionStore) : Prop where
  snapshots : ∀ id ∈ R.snapshots x, id ∈ R.snapshots y
  rows : ∀ r ∈ y.rows, R.available r = true → refersTo (R.snapshots y) r = true ∨
    ∃ r₀ ∈ x.rows, R.available r₀ = true ∧ r₀.resticSnapshotId = r.resticSnapshotId
  listed : y.listed = x.listed

/-- The answer makes the run fail. -/
def failing : (i : RetentionInstr) → i.Answer → Bool
  | .location _, r => !r.toBool
  | .agent (.repositorySnapshots _ _), .ok reply => reply.snapshotIds.isNone
  | .agent (.forgetRepository _ _ _), .ok reply => !reply.granted
  | .agent _, .error _ => true
  | .markPruned _ _ _ _, r => !r.toBool
  | _, _ => false

def isForget : RetentionInstr → Bool
  | .agent (.forgetRepository _ _ _) => true
  | _ => false

/-- The instruction fails over no row whose snapshot is gone; a `forget` removes only what was
listed. -/
def Mends (leaseMs : Nat) (x : RetentionStore) (i : RetentionInstr) : Prop :=
  (failing i (RetentionStore.answer leaseMs i x).1 = true →
    R.Catalogued (RetentionStore.answer leaseMs i x).2) ∧
  (isForget i = true → R.Accounted x.listed (RetentionStore.answer leaseMs i x).2)

instance (gone : List String) (x : RetentionStore) : Decidable (R.Accounted gone x) :=
  inferInstanceAs (Decidable (∀ r ∈ x.rows, _))

instance (x : RetentionStore) : Decidable (R.Catalogued x) :=
  inferInstanceAs (Decidable (∀ r ∈ x.rows, _))

instance (x y : RetentionStore) : Decidable (R.Later x y) :=
  decidable_of_iff ((∀ id ∈ R.snapshots x, id ∈ R.snapshots y) ∧
    (∀ r ∈ y.rows, R.available r = true → refersTo (R.snapshots y) r = true ∨
      ∃ r₀ ∈ x.rows, R.available r₀ = true ∧ r₀.resticSnapshotId = r.resticSnapshotId) ∧
    y.listed = x.listed) ⟨fun h => ⟨h.1, h.2.1, h.2.2⟩, fun h => ⟨h.snapshots, h.rows, h.listed⟩⟩

instance (leaseMs : Nat) (x : RetentionStore) (i : RetentionInstr) :
    Decidable (R.Mends leaseMs x i) :=
  inferInstanceAs (Decidable ((_ → _) ∧ (_ → _)))

/-- The runs of the configuration; a request is the policy of a run. -/
def service (leaseMs : Nat) : Service RetentionStore RetentionChange RetentionPolicy RetentionInstr
    RetentionInstr.Answer (Except Fault Unit) where
  program policy :=
    (applyRepository R.scope R.configId R.locationId ⟨R.name, .restic, policy⟩).run
  answer := RetentionStore.answer leaseMs
  outside change x := x.change change

end Repository

namespace Repository

section Facts

variable {R : Repository} {x y z : RetentionStore} {r : RetentionRow} {ids gone : List String}

theorem refersTo_iff : refersTo ids r = true ↔ ∃ id, r.resticSnapshotId = some id ∧ id ∈ ids := by
  unfold refersTo
  cases r.resticSnapshotId with
  | none => simp
  | some id => simp

theorem refersTo_mono {more : List String} (h : ∀ id ∈ ids, id ∈ more)
    (hr : refersTo ids r = true) : refersTo more r = true := by
  obtain ⟨id, hid, hmem⟩ := refersTo_iff.mp hr
  exact refersTo_iff.mpr ⟨id, hid, h id hmem⟩

theorem refersTo_same {r₀ : RetentionRow} (h : r₀.resticSnapshotId = r.resticSnapshotId) :
    refersTo ids r₀ = refersTo ids r := by
  rw [refersTo, h]
  rfl

theorem Later.refl (x : RetentionStore) : R.Later x x :=
  ⟨fun _ h => h, fun r hr ha => .inr ⟨r, hr, ha, rfl⟩, rfl⟩

theorem Later.trans (h : R.Later x y) (h' : R.Later y z) : R.Later x z where
  snapshots id hid := h'.snapshots id (h.snapshots id hid)
  rows r hr ha := by
    rcases h'.rows r hr ha with hhas | ⟨r₁, hr₁, ha₁, hsame₁⟩
    · exact .inl hhas
    · rcases h.rows r₁ hr₁ ha₁ with hhas | ⟨r₀, hr₀, ha₀, hsame₀⟩
      · exact .inl (refersTo_same hsame₁ ▸ refersTo_mono h'.snapshots hhas)
      · exact .inr ⟨r₀, hr₀, ha₀, hsame₀.trans hsame₁⟩
  listed := h'.listed.trans h.listed

/-- Whatever is accounted for stays so when backups end. -/
theorem Accounted.later (h : R.Accounted gone x) (hy : R.Later x y) : R.Accounted gone y := by
  intro r hr ha
  rcases hy.rows r hr ha with hhas | ⟨r₀, hr₀, ha₀, hsame⟩
  · exact .inl hhas
  · rcases h r₀ hr₀ ha₀ with hhas | hgone
    · exact .inl (refersTo_same hsame ▸ refersTo_mono hy.snapshots hhas)
    · exact .inr (refersTo_same hsame ▸ hgone)

theorem accounted_nil : R.Accounted [] x ↔ R.Catalogued x := by
  constructor
  · intro h r hr ha
    rcases h r hr ha with hhas | hnone
    · exact hhas
    · obtain ⟨id, -, hid⟩ := refersTo_iff.mp hnone
      exact absurd hid List.not_mem_nil
  · exact fun h r hr ha => .inl (h r hr ha)

theorem Catalogued.later (h : R.Catalogued x) (hy : R.Later x y) : R.Catalogued y :=
  accounted_nil.mp ((accounted_nil.mpr h).later hy)

/-- What a listing does not show any more accounts for what is missing. -/
theorem Accounted.listed (h : R.Accounted gone x) :
    R.Accounted (gone.filter fun id => !(R.snapshots x).contains id) x := by
  intro r hr ha
  rcases h r hr ha with hhas | hgone
  · exact .inl hhas
  · obtain ⟨id, hid, hmem⟩ := refersTo_iff.mp hgone
    by_cases hhas : id ∈ R.snapshots x
    · exact .inl (refersTo_iff.mpr ⟨id, hid, hhas⟩)
    · exact .inr (refersTo_iff.mpr ⟨id, hid, List.mem_filter.mpr ⟨hmem, by simpa using hhas⟩⟩)

/-- The update marks what is accounted for as gone. -/
theorem Accounted.pruned (h : R.Accounted gone x) :
    R.Catalogued { x with
      rows := x.rows.map (RetentionStore.pruned R.scope R.configId R.locationId gone) } := by
  intro r hr ha
  obtain ⟨r₀, hr₀, rfl⟩ := List.mem_map.mp hr
  unfold RetentionStore.pruned at ha ⊢
  split at ha
  · exact absurd ha (by simp [Repository.available])
  · rename_i hkept
    rw [if_neg hkept]
    rcases h r₀ hr₀ ha with hhas | hgone
    · exact hhas
    · refine absurd ?_ hkept
      simp only [Repository.available, Bool.and_eq_true] at ha
      simp only [Bool.and_eq_true]
      exact ⟨⟨ha.1.1, ha.1.2⟩, hgone⟩

end Facts

/-! ## A run -/

section Run

variable {R : Repository} {leaseMs : Nat} {x : RetentionStore} {gone : List String}
  {storage : StorageLocation}

/-- The program keeps to `post` while backups end. -/
abbrev Keeps (R : Repository) (leaseMs : Nat) {α : Type}
    (post : RetentionStore → Except Fault α → Prop) (c : Retention α) (x : RetentionStore) : Prop :=
  Safe R.Later (answered (R.service leaseMs) (R.Mends leaseMs)) (fun _ _ => True) post c.run x

/-- What a run knows behind a listing. -/
def Listed (R : Repository) (gone : List String) (y : RetentionStore) :
    Except Fault (List String) → Prop
  | .ok ids => y.listed = ids ∧ R.Accounted (gone.filter fun id => !ids.contains id) y
  | .error _ => R.Catalogued y

/-- What it knows behind the reply to one. -/
def Replied (R : Repository) (gone : List String) (y : RetentionStore) :
    Except Fault RetentionReply → Prop
  | .ok reply => (∀ ids, reply.snapshotIds = some ids → R.Listed gone y (.ok ids)) ∧
      (reply.snapshotIds = none → R.Catalogued y)
  | .error _ => R.Catalogued y

theorem Listed.later {r : Except Fault (List String)} {y z : RetentionStore} (h : R.Listed gone y r)
    (hz : R.Later y z) : R.Listed gone z r := by
  cases r with
  | ok ids => exact ⟨hz.listed.trans h.1, h.2.later hz⟩
  | error e => exact Catalogued.later h hz

theorem Replied.later {r : Except Fault RetentionReply} {y z : RetentionStore}
    (h : R.Replied gone y r) (hz : R.Later y z) : R.Replied gone z r := by
  cases r with
  | ok reply => exact ⟨fun ids hids => (h.1 ids hids).later hz, fun hnone => (h.2 hnone).later hz⟩
  | error e => exact Catalogued.later h hz

/-- The ids of a listing that is not refused are those of the snapshots. -/
theorem snapshotIds_of_listing {snapshots ids : List String}
    (h : (⟨true, none, some ⟨none, none, some (snapshots.map some)⟩⟩ : RetentionReply).snapshotIds =
      some ids) : ids = snapshots := by
  simp only [RetentionReply.snapshotIds, Option.bind_some] at h
  split at h
  · exact absurd h (by simp)
  · simpa [List.map_map, Function.comp_def] using h.symm

theorem replied_listing (hstor : storage.id = R.locationId) (h : R.Accounted gone x)
    {r : Except Fault RetentionReply} {y : RetentionStore}
    (heff : answered (R.service leaseMs) (R.Mends leaseMs)
      (.agent (.repositorySnapshots R.repoName storage)) x r y) : R.Replied gone y r := by
  obtain ⟨⟨hmends, -⟩, hans⟩ := heff
  have hans' : RetentionStore.answer leaseMs (.agent (.repositorySnapshots R.repoName storage)) x =
    (r, y) := hans
  rw [hans'] at hmends
  simp only [RetentionStore.answer, RetentionStore.agent] at hans'
  cases r with
  | error e => exact hmends rfl
  | ok reply =>
    refine ⟨fun ids hids => ?_, fun hnone => hmends (by simp [failing, hnone])⟩
    split at hans'
    · rename_i bad _
      have hbad := bad.2 reply (Prod.mk.inj hans').1
      rw [hids] at hbad
      exact absurd hbad (by simp)
    · obtain ⟨hrep, rfl⟩ := Prod.mk.inj hans'
      cases hrep
      have hsame := snapshotIds_of_listing hids
      have hlis : ids = R.snapshots x := by
        rw [hsame, hstor]
        rfl
      refine ⟨hsame.symm, ?_⟩
      rw [hlis]
      exact h.listed

/-- **A listing shows what is there.** -/
theorem keeps_listing (hstor : storage.id = R.locationId) (h : R.Accounted gone x) :
    R.Keeps leaseMs (R.Listed gone) (readRepositorySnapshotIds R.repoName storage) x := by
  refine Fallible.safe_bind (Q := R.Replied gone) Later.refl
    (Fallible.safe_ask? (fun _ _ => trivial) ?_) ?_ ?_
  · intro x' r y hx' heff z hz
    exact (replied_listing hstor (h.later hx') heff).later hz
  · intro y reply hpost
    split
    · rename_i ids hids
      exact Fallible.safe_pure fun z hz => (hpost.1 ids hids).later hz
    · rename_i hnone
      exact Fallible.safe_throw fun z hz => (hpost.2 hnone).later hz
  · intro y e hpost z hz
    exact Catalogued.later hpost hz

/-- What a run knows behind the `forget`: `gone` accounts for what was removed. -/
def Forgotten (R : Repository) (gone : List String) (y : RetentionStore) :
    Except Fault RetentionReply → Prop
  | .ok reply => R.Accounted gone y ∧ (reply.granted = false → R.Catalogued y)
  | .error _ => R.Catalogued y

theorem forgotten_forget {policy : RetentionPolicy} (hlis : x.listed = gone)
    {r : Except Fault RetentionReply} {y : RetentionStore}
    (heff : answered (R.service leaseMs) (R.Mends leaseMs)
      (.agent (.forgetRepository R.repoName storage policy)) x r y) : R.Forgotten gone y r := by
  obtain ⟨⟨hmends, hforget⟩, hans⟩ := heff
  have hans' : RetentionStore.answer leaseMs
    (.agent (.forgetRepository R.repoName storage policy)) x = (r, y) := hans
  rw [hans'] at hmends hforget
  cases r with
  | error e => exact hmends rfl
  | ok reply =>
    exact ⟨hlis ▸ hforget rfl, fun href => hmends (by simp [failing, href])⟩

/-- What a run knows when the agent is done: `removed` accounts for what is missing. -/
def Removed (R : Repository) (y : RetentionStore) : Except Fault (List String) → Prop
  | .ok removed => R.Accounted removed y
  | .error _ => R.Catalogued y

/-- **Listing, forgetting and listing again** accounts for every row. -/
theorem keeps_forgetRepository {policy : RetentionPolicy} (hstor : storage.id = R.locationId)
    (h : R.Catalogued x) :
    R.Keeps leaseMs R.Removed (forgetRepository R.repoName storage policy) x := by
  refine Fallible.safe_bind Later.refl (keeps_listing hstor (accounted_nil.mpr h)) ?_ ?_
  · intro y before hbef
    have hcatalogued : R.Catalogued y := accounted_nil.mp hbef.2
    refine Fallible.safe_bind (Q := R.Forgotten before) Later.refl
      (Fallible.safe_ask? (fun _ _ => trivial) ?_) ?_ ?_
    · intro y' r z hy' heff t ht
      have hforgotten := forgotten_forget (hy'.listed.trans hbef.1) heff
      cases r with
      | ok reply =>
        exact ⟨hforgotten.1.later ht, fun href => (hforgotten.2 href).later ht⟩
      | error e => exact Catalogued.later hforgotten ht
    · intro z reply hpost
      split
      · refine Fallible.safe_bind Later.refl (keeps_listing hstor hpost.1) ?_ ?_
        · intro t after haft
          exact Fallible.safe_pure fun u hu => haft.2.later hu
        · intro t e herr u hu
          exact Catalogued.later herr hu
      · rename_i href
        exact Fallible.safe_throw fun u hu => (hpost.2 (by simpa using href)).later hu
    · intro z e herr u hu
      exact Catalogued.later herr hu
  · intro y e herr z hz
    exact Catalogued.later herr hz

/-- What the location of a run is. -/
def Located (R : Repository) (y : RetentionStore) : Except Fault StorageLocation → Prop
  | .ok l => l.id = R.locationId ∧ R.Catalogued y
  | .error _ => R.Catalogued y

theorem keeps_location (h : R.Catalogued x) :
    R.Keeps leaseMs R.Located (Retention.location R.locationId) x := by
  refine Fallible.safe_ask? (fun _ _ => trivial) fun x' r y hx' heff t ht => ?_
  obtain ⟨-, hans⟩ := heff
  have hans' : RetentionStore.answer leaseMs (.location R.locationId) x' = (r, y) := hans
  obtain ⟨hlocation, rfl⟩ := Prod.mk.inj hans'
  have hlat := (Catalogued.later h hx').later ht
  cases r with
  | error e => exact hlat
  | ok l =>
    refine ⟨?_, hlat⟩
    obtain ⟨found, -, hl⟩ := Failing.bind_eq_ok.mp hlocation
    split at hl
    · cases hl
      rfl
    · exact absurd hl (by simp [throw, throwThe, MonadExceptOf.throw])

/-- What a run knows before the update. -/
def Ready (R : Repository) (y : RetentionStore) : Except Fault (Option (List String)) → Prop
  | .ok none => R.Catalogued y
  | .ok (some removed) => R.Accounted removed y
  | .error _ => R.Catalogued y

theorem keeps_runRepositoryRetention (policy : RetentionPolicy) (h : R.Catalogued x) :
    R.Keeps leaseMs R.Ready (runRepositoryRetention R.repoName R.locationId policy) x := by
  unfold runRepositoryRetention
  split
  · exact Fallible.safe_throw fun z hz => Catalogued.later h hz
  split
  · exact Fallible.safe_pure fun z hz => Catalogued.later h hz
  refine Fallible.safe_bind Later.refl (keeps_location h) ?_ ?_
  · intro y storage hstor
    split
    · exact Fallible.safe_throw fun z hz => hstor.2.later hz
    · refine Fallible.safe_bind Later.refl
        (keeps_forgetRepository hstor.1 hstor.2) ?_ ?_
      · intro z removed hrmv
        exact Fallible.safe_pure fun u hu => Accounted.later hrmv hu
      · intro z e herr u hu
        exact Catalogued.later herr hu
  · intro y e herr z hz
    exact Catalogued.later herr hz

theorem keeps_markPruned (h : R.Accounted gone x) :
    R.Keeps leaseMs (fun y _ => R.Catalogued y)
      (Retention.markPruned R.scope R.configId R.locationId gone) x := by
  refine Fallible.safe_ask? (fun _ _ => trivial) fun x' r y hx' heff t ht => ?_
  obtain ⟨⟨hmends, -⟩, hans⟩ := heff
  have hans' : RetentionStore.answer leaseMs
    (.markPruned R.scope R.configId R.locationId gone) x' = (r, y) := hans
  rw [hans'] at hmends
  cases r with
  | error e => exact (hmends rfl).later ht
  | ok _ =>
    refine Catalogued.later ?_ ht
    simp only [RetentionStore.answer, RetentionStore.perform] at hans'
    split at hans'
    · rw [← (Prod.mk.inj hans').2]
      exact (h.later hx').pruned
    · exact absurd (Prod.mk.inj hans').1 (by simp)
    · exact absurd (Prod.mk.inj hans').1 (by simp)

/-- **A run** that meets the condition leaves a right catalogue right, however it ends. -/
theorem keeps_applyRepository (policy : RetentionPolicy) (h : R.Catalogued x) :
    R.Keeps leaseMs (fun y _ => R.Catalogued y)
      (applyRepository R.scope R.configId R.locationId ⟨R.name, .restic, policy⟩) x := by
  refine Fallible.safe_bind Later.refl (keeps_runRepositoryRetention policy h) ?_ ?_
  · intro y removed hrdy
    split
    · exact Fallible.safe_pure fun z hz => Catalogued.later hrdy hz
    · exact Fallible.safe_pure fun z hz => (accounted_nil.mp hrdy).later hz
    · exact keeps_markPruned hrdy
  · intro y e herr z hz
    exact Catalogued.later herr hz

end Run

end Repository

abbrev CataloguePool := Pool RetentionStore RetentionInstr RetentionInstr.Answer (Except Fault Unit)

/-- The steps of a history of runs that meet the condition. -/
abbrev Repository.Mending (R : Repository) (leaseMs : Nat) :
    CataloguePool → Event RetentionChange RetentionPolicy → Prop :=
  Pool.Sequentially (R.service leaseMs) R.Later (R.Mends leaseMs)

/-- **Between the runs of a history every available row of the configuration has its snapshot**,
whatever fails, as long as no run fails over a row whose snapshot is gone and no `forget` removes a
snapshot that was not listed before it. -/
theorem catalogue_after_run (R : Repository) (leaseMs : Nat) {s₀ s : CataloguePool}
    (hcalls : s₀.calls = []) (hcatalogued : R.Catalogued s₀.store)
    (hs : Stepping.Reach (Pool.step (R.service leaseMs)) (R.Mending leaseMs) s₀ s) :
    s.Idle → R.Catalogued s.store :=
  Reach.sequential Repository.Later.refl (fun _ _ _ => Repository.Later.trans)
    (fun _ _ => Repository.Catalogued.later)
    (fun policy _ h => Repository.keeps_applyRepository policy h) hcatalogued hcalls hs

/-! ### Two runs -/

def panelData : Repository := ⟨.panel, "config", "disk", "panel"⟩

def snapshotRow (snapshotId : String) : RetentionRow where
  id := "row-" ++ snapshotId
  scope := .panel
  configId := "config"
  engine := .restic
  storageLocationId := some "disk"
  status := .completed
  filePath := "restic:" ++ snapshotId
  resticSnapshotId := some snapshotId
  errorMessage := none

/-- Two backups, of which the policy keeps the later. -/
def twoSnapshots : RetentionStore where
  clock := 0
  panelSetting := .empty
  rows := [snapshotRow "old", snapshotRow "new"]
  configs _ _ := none
  locations _ := some ⟨"LOCAL", some "secret"⟩
  snapshots _ _ := ["old", "new"]
  fate := .done
  unlisted := none
  keeps id := id == "new"
  forgotten := .ok ⟨true, none, none⟩
  works := []
  listed := []

def catalogueStart : CataloguePool := ⟨twoSnapshots, []⟩

/-- The agent does not list. -/
def timedOut : Unlisted := ⟨.error (.error "Agent timeout"), fun _ h => nomatch h⟩

def listingFails (unlisted : Option Unlisted) : Event RetentionChange RetentionPolicy :=
  .outside (.agent unlisted (fun id => id == "new") (.ok ⟨true, none, none⟩))

/-- A run that cannot list before it forgets, and one that nothing fails for. -/
def failsEarly : List (Event RetentionChange RetentionPolicy) :=
  [listingFails (some timedOut), .call ⟨1, 0, 0, 0⟩, .advance 0, .advance 0, listingFails none,
    .call ⟨1, 0, 0, 0⟩, .advance 1, .advance 1, .advance 1, .advance 1, .advance 1]

/-- A run that cannot list behind its `forget`, and one that nothing fails for. -/
def failsLate : List (Event RetentionChange RetentionPolicy) :=
  [.call ⟨1, 0, 0, 0⟩, .advance 0, .advance 0, .advance 0, listingFails (some timedOut), .advance 0,
    listingFails none, .call ⟨1, 0, 0, 0⟩, .advance 1, .advance 1, .advance 1, .advance 1]

/-- The last run ended successfully. -/
def succeeded (s : CataloguePool) : Bool :=
  match s.calls.getLast? with
  | some (.done (.ok _)) => true
  | _ => false

theorem catalogue_after_run_early : ∃ s : CataloguePool, s.Idle ∧ succeeded s = true ∧
    (s.store.rows.map panelData.available = [false, true]) ∧ panelData.Catalogued s.store := by
  have hrun : (Stepping.run (Pool.step (panelData.service 1)) (panelData.Mending 1) catalogueStart
      failsEarly).any (fun s : CataloguePool => decide (s.Idle ∧ succeeded s = true ∧
        s.store.rows.map panelData.available = [false, true])) = true := by
    decide
  obtain ⟨s, hs, hidle, hsucceeded, hrows⟩ := Stepping.Reach.of_run_any hrun
  exact ⟨s, hidle, hsucceeded, hrows, catalogue_after_run panelData 1 rfl (by decide) hs hidle⟩

/-- **The catalogue stays wrong**: a listing fails behind the `forget`, and the next run, which
nothing fails for, leaves the row of the removed snapshot available. -/
theorem half_run_never_marked : panelData.Catalogued catalogueStart.store ∧
    ∃ s : CataloguePool, Stepping.Reach (Pool.step (panelData.service 1)) Stepping.anyStep
      catalogueStart s ∧ s.Idle ∧ succeeded s = true ∧ ¬ panelData.Catalogued s.store := by
  refine ⟨by decide, ?_⟩
  have hrun : (Stepping.run (Pool.step (panelData.service 1)) Stepping.anyStep catalogueStart
      failsLate).any (fun s : CataloguePool => decide (s.Idle ∧ succeeded s = true ∧
        ¬ panelData.Catalogued s.store)) = true := by
    decide
  exact Stepping.Reach.of_run_any hrun

end Meowbox.Backups
