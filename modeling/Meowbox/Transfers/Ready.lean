import Meowbox.Transfers.Reaping

/-!
# An artifact that is ready has its file

The file of an artifact and its row are changed one after the other, and three requests remove
files: the reaper of stale stagings, which goes by the age of the row; a revocation; and the cleanup
of what has expired. Each removes the file first and marks the row afterwards.

* `inv_step`: an instruction keeps the invariant, under `Careful`.
* **`ready_stored`**: as long as no staging outlasts half an hour, and nothing is revoked or cleaned
  up while it is ready or being staged, an artifact that is ready has its file, and no staging loses
  its own.
* `SampleArtifacts.ready_lost`: a staging that does outlast it ends ready and without a file.
-/

namespace Meowbox.Transfers.Filing

open Interleaved Fallible Relational

/-- A staging may be given up at any time. -/
def givesUp : ArtifactInstr → Bool
  | .partialFirst | .unlinkPartial _ | .unlinkArtifact _ => true
  | _ => false

/-- The instruction takes something away from the artifact of a row. -/
def removes (a : TransferArtifact) : ArtifactInstr → Bool
  | .unlinkPartial id => id == a.id
  | .unlinkArtifact relativePath => relativePath == a.relativePath
  | .setDeleted id _ => id == a.id
  | _ => false

/-- The instruction is no part of a staging that is older than half an hour. -/
def OnTime (x : Spool) (y : Work) (i : ArtifactInstr) : Prop :=
  ∀ id ∈ y.staging, givesUp i = false → Recent x id

/-- What is revoked or has expired is not being staged; nor is it ready when its file is removed. -/
def Unattended (x : Spool) (l : List Work) (y : Work) (i : ArtifactInstr) : Prop :=
  ∀ a ∈ y.removed, removes a i = true →
    (∀ z ∈ l, z.staging = some a.id → ¬ Recent x a.id) ∧
    (i = .unlinkArtifact a.relativePath →
      ∀ row ∈ x.db.artifacts, row.id = a.id → row.state = .ready → row.deletedAt ≠ none)

/-- **No staging outlasts half an hour, and what is revoked or has expired is neither being staged
nor ready.** -/
def Careful (x : Spool) (l : List Work) (k : Nat) (i : ArtifactInstr) : Prop :=
  ∀ y ∈ l[k]?, OnTime x y i ∧ Unattended x l y i

section Steps

variable {H : ArtifactHost} {x : Spool} {l : List Work} {k : Nat} {y : Work} {job : Job}

/-- The invariant after the instruction. -/
abbrev After (H : ArtifactHost) (x : Spool) (l : List Work) (k : Nat) (y : Work)
    (i : ArtifactInstr) : Prop :=
  Inv H (artifactReply H i x).2 (l.set k ((filing H).after y i (artifactReply H i x).1))

variable {i : ArtifactInstr}

/-- An operation on the disk that fails changes nothing. -/
theorem after_error (h : Inv H x l) (hk : l[k]? = some y) {r : ArtifactReply i}
    (hrep : artifactReply H i x = (r, x)) (haft : (filing H).after y i r = y) :
    After H x l k y i := by
  unfold After
  rw [hrep]
  dsimp only
  rw [haft]
  exact h.stay hk

theorem Inv.openPartial (h : Inv H x l) (hk : l[k]? = some (.began job))
    (hrec : Recent x job.id) : After H x l k (.began job) (.openPartial job.id) := by
  have hplc := h.placed _ (List.mem_of_getElem? hk)
  obtain ⟨e, he⟩ | ⟨x', hop, hx⟩ := onDisk_cases x (x.openPartial job.id)
  · exact after_error h hk (r := .error e) he rfl
  · unfold Spool.openPartial at hop
    split at hop
    · exact absurd hop (by simp)
    · obtain rfl := Except.ok.inj hop
      have hrep : artifactReply H (.openPartial job.id) x = (.ok (), _) := hx
      unfold After
      rw [hrep]
      refine h.own hk rfl
        (beside_disk (x.partials.set job.id []) x.files (fun j hj => ?_) fun _ _ => rfl)
        (hplc.unready job rfl) (.writing job []) rfl fun _ => ?_
      · rw [JsMap.get_set, if_neg hj]
      · refine ⟨hplc.intact job.id rfl hrec, ?_⟩
        change (x.partials.set job.id []).get job.id = some []
        rw [JsMap.get_set, if_pos rfl]

variable {content : Content}

theorem Inv.write (h : Inv H x l) (hk : l[k]? = some (.writing job content))
    (hrec : Recent x job.id) (chunk : Content) :
    After H x l k (.writing job content) (.write job.id chunk) := by
  have hplc := h.placed _ (List.mem_of_getElem? hk)
  obtain ⟨hstaged, hpart⟩ := hplc.intact job.id rfl hrec
  obtain ⟨e, he⟩ | ⟨x', hop, hx⟩ := onDisk_cases x (.ok (x.write job.id chunk))
  · exact after_error h hk (r := .error e) he rfl
  · obtain rfl := Except.ok.inj hop
    have hrep : artifactReply H (.write job.id chunk) x = (.ok (), _) := hx
    have hwr : x.write job.id chunk =
        { x with partials := x.partials.set job.id (content ++ chunk) } := by
      unfold Spool.write
      rw [hpart]
    unfold After
    rw [hrep, hwr]
    refine h.own hk rfl (beside_disk (x.partials.set job.id (content ++ chunk)) x.files
        (fun j hj => ?_) fun _ _ => rfl)
      (hplc.unready job rfl) (.writing job (content ++ chunk)) rfl fun _ => ⟨hstaged, ?_⟩
    · rw [JsMap.get_set, if_neg hj]
    · change (x.partials.set job.id (content ++ chunk)).get job.id = some (content ++ chunk)
      rw [JsMap.get_set, if_pos rfl]

theorem Inv.rename (h : Inv H x l) (hk : l[k]? = some (.writing job content))
    (hrec : Recent x job.id) :
    After H x l k (.writing job content) (.rename job.id job.relativePath) := by
  have hplc := h.placed _ (List.mem_of_getElem? hk)
  obtain ⟨hstaged, hpart⟩ := hplc.intact job.id rfl hrec
  have hpath := hplc.path job rfl
  obtain ⟨e, he⟩ | ⟨x', hop, hx⟩ := onDisk_cases x (x.rename job.id job.relativePath)
  · exact after_error h hk (r := .error e) he rfl
  · unfold Spool.rename at hop
    rw [hpart] at hop
    obtain rfl := Except.ok.inj hop
    have hrep : artifactReply H (.rename job.id job.relativePath) x = (.ok (), _) := hx
    unfold After
    rw [hrep]
    refine h.own hk rfl (beside_disk (x.partials.delete job.id)
        (x.files.set job.relativePath content) (fun j hj => ?_) fun j hj => ?_)
      (hplc.unready job rfl) (.moved job content) rfl fun _ => ⟨hstaged, ?_⟩
    · rw [JsMap.get_delete, if_neg hj]
    · rw [JsMap.get_set, hpath, if_neg fun heq => hj (path_inj heq)]
    · change (x.files.set job.relativePath content).get job.relativePath = some content
      rw [JsMap.get_set, if_pos rfl]

/-- A row that has become ready. -/
theorem stored_of_ready {x' : Spool} {readyAt : Nat} {a : TransferArtifact}
    (hfile : x'.files.get a.relativePath = some content) :
    Stored H x' (markReady content.length (H.digest content) readyAt a) :=
  ⟨content, hfile, rfl, rfl⟩

theorem Inv.setReady (h : Inv H x l) (hk : l[k]? = some (.moved job content))
    (hrec : Recent x job.id) (readyAt : Nat) :
    After H x l k (.moved job content)
      (.setReady job.id content.length (H.digest content) readyAt) := by
  have hplc := h.placed _ (List.mem_of_getElem? hk)
  obtain ⟨-, hfile⟩ := hplc.intact job.id rfl hrec
  have hpath := hplc.path job rfl
  refine h.done hk rfl (beside_update (fun a ha => of_decide_eq_true ha) fun _ => ⟨rfl, rfl, rfl⟩)
    ?_ (.inr hrec)
  intro b hb hid _ _
  obtain ⟨a, ha, ⟨hp, rfl⟩ | ⟨hp, rfl⟩⟩ := mem_update hb
  · refine stored_of_ready ?_
    rw [h.shelved.paths a ha, of_decide_eq_true hp, ← hpath]
    exact hfile
  · exact absurd (decide_eq_true hid) hp

theorem Inv.setUploaded (h : Inv H x l) (hk : l[k]? = some (.moved job content))
    (hrec : Recent x job.id) (readyAt : Nat) :
    After H x l k (.moved job content)
      (.setUploaded job.id content.length (H.digest content) readyAt) := by
  have hplc := h.placed _ (List.mem_of_getElem? hk)
  obtain ⟨hstaged, hfile⟩ := hplc.intact job.id rfl hrec
  have hpath := hplc.path job rfl
  have hmatches : ∀ a ∈ x.db.artifacts, a.id = job.id →
      (decide (a.id = job.id) && decide (a.state = .staging) && a.deletedAt.isNone) = true := by
    intro a ha hid
    obtain ⟨hst, hdel⟩ := hstaged a ha hid
    simp [hid, hst, hdel]
  have hupd : (artifactReply H (.setUploaded job.id content.length (H.digest content) readyAt)
      x).1 = true := by
    obtain ⟨a, ha, hid⟩ := hplc.row job.id rfl
    exact List.any_eq_true.mpr ⟨a, ha, hmatches a ha hid⟩
  unfold After
  rw [hupd]
  refine h.done hk rfl (beside_update (fun a ha => ?_) fun _ => ⟨rfl, rfl, rfl⟩) ?_ (.inr hrec)
  · simp only [Bool.and_eq_true, decide_eq_true_eq] at ha
    exact ha.1.1
  · intro b hb hid _ _
    obtain ⟨a, ha, ⟨hp, rfl⟩ | ⟨hp, rfl⟩⟩ := mem_update hb
    · refine stored_of_ready ?_
      have haid : a.id = job.id := hid
      rw [h.shelved.paths a ha, haid, ← hpath]
      exact hfile
    · exact absurd (hmatches b ha hid) hp

/-- What a removal of a partial file leaves. -/
theorem unlinkPartial_rest (H : ArtifactHost) (x : Spool) (id : String) :
    ∃ partials : JsMap String Content, (∀ j, j ≠ id → partials.get j = x.partials.get j) ∧
      (artifactReply H (.unlinkPartial id) x).2 = { x with partials := partials } := by
  obtain ⟨e, he⟩ | ⟨x', hop, hx⟩ :=
    onDisk_cases x (.ok { x with partials := x.partials.delete id })
  · exact ⟨x.partials, fun _ _ => rfl, congrArg Prod.snd he⟩
  · obtain rfl := Except.ok.inj hop
    exact ⟨_, fun j hj => by rw [JsMap.get_delete, if_neg hj], congrArg Prod.snd hx⟩

theorem unlinkArtifact_rest (H : ArtifactHost) (x : Spool) (id : String) :
    ∃ files : JsMap String Content,
      (∀ j, j ≠ id → files.get (j ++ ".artifact") = x.files.get (j ++ ".artifact")) ∧
      (artifactReply H (.unlinkArtifact (id ++ ".artifact")) x).2 = { x with files := files } := by
  obtain ⟨e, he⟩ | ⟨x', hop, hx⟩ :=
    onDisk_cases x (.ok { x with files := x.files.delete (id ++ ".artifact") })
  · exact ⟨x.files, fun _ _ => rfl, congrArg Prod.snd he⟩
  · obtain rfl := Except.ok.inj hop
    refine ⟨_, fun j hj => ?_, congrArg Prod.snd hx⟩
    rw [JsMap.get_delete, if_neg fun heq => hj (path_inj heq)]

/-- The rows a request is about to remove are stale, or are its to remove. -/
theorem removable (h : Inv H x l) (hk : l[k]? = some y) (hcare : Careful x l k i)
    {a : TransferArtifact} (ha : a ∈ y.rows) (hremoves : removes a i = true) :
    (∀ z ∈ l, z.staging = some a.id → ¬ Recent x a.id) ∧
    (i = .unlinkArtifact a.relativePath →
      ∀ row ∈ x.db.artifacts, row.id = a.id → row.state = .ready → row.deletedAt ≠ none) := by
  have hplc := h.placed y (List.mem_of_getElem? hk)
  cases y with
  | reaping stale =>
    obtain ⟨hold, hunr⟩ := hplc.stale stale rfl a ha
    exact ⟨fun _ _ _ => hold, fun _ row hrow hid hst => absurd hst (hunr row hrow hid)⟩
  | removing rows => exact (hcare _ hk).2 a ha hremoves
  | _ => exact absurd ha List.not_mem_nil

variable {id : String}

theorem Inv.unlinkPartial (h : Inv H x l) (hk : l[k]? = some y)
    (halw : (filing H).allows y (.unlinkPartial id)) (hcare : Careful x l k (.unlinkPartial id)) :
    After H x l k y (.unlinkPartial id) := by
  have hplc := h.placed y (List.mem_of_getElem? hk)
  obtain ⟨partials, hpts, hrest⟩ := unlinkPartial_rest H x id
  have hb : Beside id x { x with partials := partials } :=
    beside_disk partials x.files hpts fun _ _ => rfl
  unfold After
  rw [hrest]
  change Inv H _ (l.set k ((y.job.map Work.failing).getD y))
  rcases halw with ⟨job, hjob, rfl⟩ | ⟨hnone, a, ha, rfl⟩
  · rw [hjob]
    exact h.own hk hjob hb (hplc.unready job hjob) (.failing job) rfl fun _ => trivial
  · rw [hnone]
    have hinv := h.beside hb (removable h hk hcare ha (beq_self_eq_true _)).1
      (fun hunr => hunr) fun b hb _ hst hdel => h.shelved.ready b hb hst hdel
    exact hinv.stay hk

theorem Inv.unlinkArtifact (h : Inv H x l) (hk : l[k]? = some y) {relativePath : String}
    (halw : (filing H).allows y (.unlinkArtifact relativePath))
    (hcare : Careful x l k (.unlinkArtifact relativePath)) :
    After H x l k y (.unlinkArtifact relativePath) := by
  have hplc := h.placed y (List.mem_of_getElem? hk)
  unfold After
  change Inv H _ (l.set k ((y.job.map Work.failing).getD y))
  rcases halw with ⟨job, hjob, rfl⟩ | ⟨hnone, a, ha, rfl⟩
  · rw [hplc.path job hjob]
    obtain ⟨files, hfiles, hrest⟩ := unlinkArtifact_rest H x job.id
    rw [hrest, hjob]
    exact h.own hk hjob (beside_disk x.partials files (fun _ _ => rfl) hfiles)
      (hplc.unready job hjob) (.failing job) rfl fun _ => trivial
  · have hpath := hplc.rows a ha
    obtain ⟨hstg, hrdy⟩ := removable h hk hcare ha (beq_self_eq_true _)
    obtain ⟨files, hfiles, hrest⟩ := unlinkArtifact_rest H x a.id
    rw [hpath, hrest, hnone]
    have hinv := h.beside (beside_disk x.partials files (fun _ _ => rfl) hfiles) hstg
      (fun hunr => hunr) fun b hb hid hst hdel =>
        absurd hdel (hrdy rfl b hb hid hst)
    exact hinv.stay hk

/-- An update that makes nothing ready. -/
theorem unready_update {p : TransferArtifact → Bool} {f : TransferArtifact → TransferArtifact}
    (hf : ∀ a, (f a).state ≠ .ready) (h : Unready x id) : Unready (x.updateArtifacts p f) id := by
  intro b hb hbid
  obtain ⟨a, ha, ⟨-, rfl⟩ | ⟨-, rfl⟩⟩ := mem_update hb
  · exact hf a
  · exact h b ha hbid

theorem Inv.setFailed (h : Inv H x l) (hk : l[k]? = some y) {deletedAt : Nat}
    (halw : (filing H).allows y (.setFailed id deletedAt)) :
    After H x l k y (.setFailed id deletedAt) := by
  have hplc := h.placed y (List.mem_of_getElem? hk)
  have hb : Beside id x (artifactReply H (.setFailed id deletedAt) x).2 :=
    beside_update (fun a ha => of_decide_eq_true (Bool.and_eq_true_iff.mp ha).1)
      fun _ => ⟨rfl, rfl, rfl⟩
  have hkps : Unready x id → Unready (artifactReply H (.setFailed id deletedAt) x).2 id :=
    unready_update (f := markFailed deletedAt) fun _ => by simp [markFailed]
  unfold After
  rcases halw with ⟨job, rfl, rfl⟩ | ⟨stale, rfl, a, ha, rfl⟩
  · have hunr := hkps (hplc.unready job rfl)
    exact h.done hk rfl hb (fun b hb hid hst => absurd hst (hunr b hb hid))
      (.inl hunr)
  · obtain ⟨hold, hunr⟩ := hplc.stale stale rfl a ha
    have hinv := h.beside hb (fun _ _ _ => hold) hkps fun b hb hid hst =>
      absurd hst (hkps hunr b hb hid)
    exact hinv.stay hk

theorem Inv.setDeleted (h : Inv H x l) (hk : l[k]? = some y) {deletedAt : Nat}
    (halw : (filing H).allows y (.setDeleted id deletedAt))
    (hcare : Careful x l k (.setDeleted id deletedAt)) :
    After H x l k y (.setDeleted id deletedAt) := by
  have hb : Beside id x (artifactReply H (.setDeleted id deletedAt) x).2 :=
    beside_update (fun a ha => of_decide_eq_true (Bool.and_eq_true_iff.mp ha).1)
      fun _ => ⟨rfl, rfl, rfl⟩
  unfold After
  obtain ⟨rows, rfl, a, ha, rfl⟩ := halw
  have hstg := (removable h hk hcare (a := a) ha (beq_self_eq_true _)).1
  have hinv := h.beside hb hstg
    (unready_update (f := markDeleted deletedAt) fun _ => by simp [markDeleted]) ?_
  · exact hinv.stay hk
  · intro b hb hid hst hdel
    obtain ⟨c, hc, ⟨-, rfl⟩ | ⟨hp, rfl⟩⟩ := mem_update hb
    · exact absurd hdel (by simp [markDeleted])
    · exact absurd (by simp [hid, hdel]) hp

/-- A row that is ready and turns out to have no file. -/
theorem Inv.setUnavailable (h : Inv H x l) (hk : l[k]? = some y) (id : String) :
    After H x l k y (.setUnavailable id) := by
  have hb : Beside id x (artifactReply H (.setUnavailable id) x).2 :=
    beside_update (fun a ha => of_decide_eq_true (Bool.and_eq_true_iff.mp ha).1)
      fun _ => ⟨rfl, rfl, rfl⟩
  unfold After
  by_cases hunr : Unready x id
  · have hsame : (artifactReply H (.setUnavailable id) x).2.db.artifacts = x.db.artifacts := by
      have hmap : ∀ a ∈ x.db.artifacts, (if (decide (a.id = id) && decide (a.state = .ready)) = true
          then markUnavailable a else a) = a := by
        intro a ha
        refine if_neg fun hp => ?_
        simp only [Bool.and_eq_true, decide_eq_true_eq] at hp
        exact hunr a ha hp.1 hp.2
      exact (List.map_congr_left hmap).trans (List.map_id' _)
    have hkps : Keeps x (artifactReply H (.setUnavailable id) x).2 :=
      ⟨rfl, hsame, rfl, rfl, rfl, fun s hs hup => ⟨s, hs, rfl, hup, rfl⟩⟩
    exact (h.keeps hkps).stay hk
  · have hinv := h.beside hb (fun z hz hstg => ?_) (fun hr => absurd hr hunr) ?_
    · exact hinv.stay hk
    · obtain ⟨job, hjob, rfl⟩ := job_of_staging hstg
      exact absurd ((h.placed z hz).unready job hjob) hunr
    · intro b hb hid hst _
      obtain ⟨a, ha, ⟨-, rfl⟩ | ⟨hp, rfl⟩⟩ := mem_update hb
      · exact absurd hst (by simp [markUnavailable])
      · exact absurd (by simp [hid, hst]) hp

/-! ### Requests that begin -/

/-- **A staging begins with its row.** -/
theorem Inv.create (h : Inv H x l) (hk : l[k]? = some y) {artifact : TransferArtifact}
    (halw : (filing H).allows y (.create artifact)) : After H x l k y (.create artifact) := by
  obtain ⟨-, hst, hdel, hpath⟩ := halw
  by_cases htk : x.db.artifacts.any (fun other => other.id == artifact.id) = true
  · have hrep : artifactReply H (.create artifact) x = (false, x) := if_pos htk
    exact after_error h hk hrep rfl
  · have hrep : artifactReply H (.create artifact) x = (true, { x with db := { x.db with
        artifacts := x.db.artifacts ++ [{ artifact with createdAt := x.db.clock }] } }) :=
      if_neg htk
    have hfr : ∀ b ∈ x.db.artifacts, b.id ≠ artifact.id := fun b hb hid =>
      htk (List.any_eq_true.mpr ⟨b, hb, beq_iff_eq.mpr hid⟩)
    have happ : Appended H { artifact with createdAt := x.db.clock } x
        (artifactReply H (.create artifact) x).2 := by
      rw [hrep]
      exact ⟨rfl, rfl, hfr, ⟨hst, hdel⟩, hpath, rfl, rfl, rfl,
        fun s hs _ => .inl hs, fun s hs t ht hnew _ => absurd hs hnew⟩
    have hrow : ∀ b ∈ (artifactReply H (.create artifact) x).2.db.artifacts,
        b.id = artifact.id → b.state = .staging ∧ b.deletedAt = none := by
      intro b hb hid
      rw [happ.artifacts] at hb
      rcases List.mem_snoc.mp hb with hb | rfl
      · exact absurd hid (hfr b hb)
      · exact happ.state
    have hinv := h.append happ
    unfold After
    rw [show (artifactReply H (.create artifact) x).1 = true from congrArg Prod.fst hrep]
    refine hinv.assemble hk hinv.shelved (fun _ _ _ _ hz => hz)
      (?_ : Placed H _ (.began ⟨artifact.id, artifact.relativePath, none⟩)) ?_
    · refine ⟨?_, ?_, ?_, ?_, ?_, ?_, ?_, ?_, ?_, ?_⟩
      · rintro id ⟨⟩
        refine ⟨{ artifact with createdAt := x.db.clock }, ?_, rfl⟩
        rw [happ.artifacts]
        exact List.mem_append_right _ List.mem_cons_self
      · rintro job ⟨⟩
        exact hpath
      · rintro id ⟨⟩ s hs hup hart
        -- an upload session has an artifact of its own, which was there before
        rcases happ.sessions s hs hup with hold | ⟨-, -⟩
        · obtain ⟨hown, b, hb, hid⟩ := h.shelved.sessions s hold hup
          refine absurd ?_ (hfr b hb)
          exact hid.trans (Option.some.inj (hown.symm.trans hart))
        · rw [hrep] at hs
          obtain ⟨hown, b, hb, hid⟩ := h.shelved.sessions s hs hup
          refine absurd ?_ (hfr b hb)
          exact hid.trans (Option.some.inj (hown.symm.trans hart))
      · rintro sessionId ⟨⟩
      · rintro s ⟨⟩
      · rintro job ⟨⟩ b hb hid
        rw [(hrow b hb hid).1]
        decide
      · rintro id ⟨⟩ -
        exact hrow
      · rintro rows ⟨⟩
      · intro r hr
        exact absurd hr List.not_mem_nil
      · rintro now ⟨⟩
    · rintro id ⟨⟩
      refine .inr fun j z _ hlj hz => ?_
      obtain ⟨b, hb, hid⟩ := (h.placed z (List.mem_of_getElem? hlj)).row _ hz
      exact hfr b hb hid

/-- More sessions have been started. -/
theorem Placed.startMore {z : Work} (h : Placed H x z) (started : List String)
    (hmore : ∀ s ∈ x.started, s ∈ started) : Placed H { x with started := started } z := by
  refine ⟨h.row, h.path, h.session, fun s hs => hmore s (h.started s hs), h.found, h.unready,
    fun id hid hrec => ?_, h.stale, h.rows, h.dated⟩
  have hintact := h.intact id hid hrec
  cases z <;> exact hintact

/-- **An upload claims its session**, and no other request fills the artifact. -/
theorem Inv.claimUpload (h : Inv H x l) (hk : l[k]? = some y)
    (halw : (filing H).allows y (.claimUpload id)) : After H x l k y (.claimUpload id) := by
  obtain ⟨session, rfl, rfl, hpurpose, hsome⟩ := halw
  have hplc := h.placed _ (List.mem_of_getElem? hk)
  obtain ⟨artifactId, hart⟩ := Option.isSome_iff_exists.mp hsome
  obtain ⟨hown, hrow⟩ := hplc.found session rfl hpurpose
  have hid : artifactId = H.artifactOfSession session.id :=
    Option.some.inj (hart.symm.trans hown)
  unfold After
  change Inv H (x.claimUpload session.id).2 (l.set k ((filing H).after (.found session)
    (.claimUpload session.id) (x.claimUpload session.id).1))
  unfold Spool.claimUpload
  dsimp only
  split
  · rename_i hopen
    simp only [Bool.and_eq_true, Bool.not_eq_true'] at hopen
    obtain ⟨hfnd, hnot⟩ := hopen
    obtain ⟨s, hs⟩ := Option.isSome_iff_exists.mp hfnd
    obtain ⟨hmem, hstartable⟩ := Table.mem_of_find? hs
    simp only [Bool.and_eq_true, decide_eq_true_eq] at hstartable
    obtain ⟨⟨⟨⟨hsid, hup⟩, -⟩, -⟩, -⟩ := hstartable
    have hsartifact : s.artifactId = some artifactId := by
      rw [(h.shelved.sessions s hmem hup).1, hsid, hid]
    have hmore : ∀ t ∈ x.started, t ∈ session.id :: x.started := fun t ht =>
      List.mem_cons_of_mem _ ht
    have hcl : (filing H).after (.found session) (.claimUpload session.id) true =
        .claimed artifactId session.id := by
      change Work.claimed (session.artifactId.getD "") session.id = _
      rw [hart]
      rfl
    rw [hcl]
    have hshelved : Shelved H { x with started := session.id :: x.started } :=
      ⟨h.shelved.unique, h.shelved.paths, h.shelved.ready, h.shelved.sessions, h.shelved.single⟩
    refine h.assemble hk hshelved (fun j z _ _ hz => hz.startMore _ hmore) ?_ ?_
    · refine ⟨?_, ?_, ?_, ?_, ?_, ?_, ?_, ?_, ?_, ?_⟩
      · rintro id ⟨⟩
        rw [hid]
        exact hrow
      · rintro job ⟨⟩
      · rintro id ⟨⟩ t ht htupload htartifact
        refine congrArg some ?_
        rw [← hsid]
        exact h.shelved.single s hmem t ht hup htupload (hsartifact.trans htartifact.symm)
      · rintro sessionId ⟨⟩
        exact List.mem_cons_self
      · rintro t ⟨⟩
      · rintro job ⟨⟩
      · rintro id ⟨⟩
      · rintro rows ⟨⟩
      · intro r hr
        exact absurd hr List.not_mem_nil
      · rintro now ⟨⟩
    · rintro id ⟨⟩
      refine .inr fun j z _ hlj hz => ?_
      have hother := h.placed z (List.mem_of_getElem? hlj)
      have hses := hother.session _ hz s hmem hup hsartifact
      have hsta := hother.started _ hses
      rw [hsid] at hsta
      rw [List.contains_iff_mem.mpr hsta] at hnot
      exact absurd hnot (by decide)
  · exact h.stay hk

/-- **An upload begins** when its row is still being staged. -/
theorem Inv.findArtifact (h : Inv H x l) (hk : l[k]? = some y)
    (halw : (filing H).allows y (.findArtifact id)) : After H x l k y (.findArtifact id) := by
  have hplc := h.placed y (List.mem_of_getElem? hk)
  unfold After
  change Inv H x (l.set k ((filing H).after y (.findArtifact id)
    (x.db.artifacts.find? fun a => a.id == id)))
  cases hfind : x.db.artifacts.find? fun a => a.id == id with
  | none => exact h.stay hk
  | some a =>
    have hmem := List.mem_of_find?_eq_some hfind
    have hid : a.id = id := by simpa using List.find?_some hfind
    have hremoving : Placed H x (.removing [a]) :=
      placed_removing (fun r hr => List.mem_singleton.mp hr ▸ hmem) h.shelved
    cases y with
    | claimed id' sessionId =>
      have hsame : id' = id := by
        rcases halw with hfree | ⟨sessionId', heq⟩
        · exact hfree.elim
        · exact (Work.claimed.inj heq).1
      subst hsame
      by_cases hstg : a.state = .staging ∧ a.deletedAt.isNone = true
      · have hbegan : (filing H).after (.claimed id' sessionId) (.findArtifact id') (some a) =
            .began ⟨a.id, a.relativePath, some sessionId⟩ := if_pos hstg
        rw [hbegan]
        have hrows : ∀ b ∈ x.db.artifacts, b.id = a.id → b = a := fun b hb hba =>
          h.shelved.row_eq hb hmem hba
        refine h.move hk ⟨?_, ?_, ?_, ?_, ?_, ?_, ?_, ?_, ?_, ?_⟩ (.inr ?_)
        · rintro j ⟨⟩
          exact ⟨a, hmem, rfl⟩
        · rintro job ⟨⟩
          exact h.shelved.paths a hmem
        · rintro j ⟨⟩ s hs hup hart
          exact hplc.session id' rfl s hs hup (hid ▸ hart)
        · rintro t ⟨⟩
          exact hplc.started sessionId rfl
        · rintro s ⟨⟩
        · rintro job ⟨⟩ b hb hba
          rw [hrows b hb hba, hstg.1]
          decide
        · rintro j ⟨⟩ - b hb hba
          rw [hrows b hb hba]
          exact ⟨hstg.1, Option.isNone_iff_eq_none.mp hstg.2⟩
        · rintro rows ⟨⟩
        · intro r hr
          exact absurd hr List.not_mem_nil
        · rintro now ⟨⟩
        · exact congrArg some hid
      · have hsty : (filing H).after (.claimed id' sessionId) (.findArtifact id') (some a) =
            .claimed id' sessionId := if_neg hstg
        rw [hsty]
        exact h.stay hk
    | idle => exact h.move hk hremoving (.inl rfl)
    | dated now => exact h.move hk hremoving (.inl rfl)
    | _ =>
      rcases halw with hfree | ⟨sessionId', heq⟩
      · exact hfree.elim
      · exact absurd heq (by simp)

/-! ### Any instruction -/

/-- An operation that looks at the disk only. -/
theorem after_look (h : Inv H x l) (hk : l[k]? = some y) (hsto : (artifactReply H i x).2 = x)
    (haft : ∀ r, (filing H).after y i r = y) : After H x l k y i := by
  unfold After
  rw [hsto, haft]
  exact h.stay hk

theorem onDisk_look {op : Except TransferError Spool} (h : ∀ x', op = .ok x' → x' = x) :
    (x.onDisk op).2 = x := by
  obtain ⟨e, he⟩ | ⟨x', hop, hx⟩ := onDisk_cases x op
  · rw [he]
  · rw [hx]
    exact h x' hop

/-- Sessions change. -/
theorem after_sessions (h : Inv H x l) (hk : l[k]? = some y)
    (hkps : Keeps x (artifactReply H i x).2) (haft : ∀ r, (filing H).after y i r = y) :
    After H x l k y i := by
  unfold After
  rw [haft]
  exact (h.keeps hkps).stay hk

/-- **One instruction.** -/
theorem inv_step (h : Inv H x l) (hk : l[k]? = some y) (halw : (filing H).allows y i)
    (hcare : Careful x l k i) : After H x l k y i := by
  have hplc := h.placed y (List.mem_of_getElem? hk)
  have hrec : ∀ id, y.staging = some id → givesUp i = false → Recent x id :=
    (hcare y hk).1
  cases i with
  | now =>
    unfold After
    cases y with
    | idle => exact h.move hk (placed_dated (le_refl _)) (.inl rfl)
    | dated now => exact h.move hk (placed_dated (le_refl _)) (.inl rfl)
    | _ => exact h.stay hk
  | getLocalIdentity => exact after_look h hk rfl fun _ => rfl
  | randomUUID =>
    exact after_sessions h hk
      ⟨rfl, rfl, rfl, rfl, rfl, fun s hs hup => ⟨s, hs, rfl, hup, rfl⟩⟩ fun _ => rfl
  | ensureDirectories =>
    exact after_look h hk (onDisk_look fun x' hx => (Except.ok.inj hx).symm) fun _ => rfl
  | assertDiskAdmission expectedBytes => exact after_look h hk rfl fun _ => rfl
  | partialFirst => exact after_look h hk rfl fun _ => rfl
  | findSession id =>
    unfold After
    change Inv H x (l.set k ((filing H).after y (.findSession id)
      (x.db.sessions.find? fun s => s.id == id)))
    cases hfind : x.db.sessions.find? fun s => s.id == id with
    | none => exact h.stay hk
    | some session =>
      have hmem := (Table.mem_of_find? hfind).1
      refine h.move hk (?_ : Placed H x (.found session)) (.inl rfl)
      refine ⟨?_, ?_, ?_, ?_, ?_, ?_, ?_, ?_, ?_, ?_⟩
      · rintro j ⟨⟩
      · rintro job ⟨⟩
      · rintro j ⟨⟩
      · rintro t ⟨⟩
      · rintro s ⟨⟩ hup
        exact h.shelved.sessions _ hmem hup
      · rintro job ⟨⟩
      · rintro j ⟨⟩
      · rintro rows ⟨⟩
      · intro r hr
        exact absurd hr List.not_mem_nil
      · rintro now ⟨⟩
  | claimUpload id => exact h.claimUpload hk halw
  | findArtifact id => exact h.findArtifact hk halw
  | create artifact => exact h.create hk halw
  | openPartial id =>
    obtain ⟨job, rfl, rfl⟩ := halw
    exact h.openPartial hk (hrec job.id rfl rfl)
  | write id chunk =>
    obtain ⟨job, content, rfl, rfl⟩ := halw
    exact h.write hk (hrec job.id rfl rfl) chunk
  | syncPartial id =>
    refine after_look h hk (onDisk_look fun x' hx => ?_) fun _ => rfl
    unfold Spool.syncPartial at hx
    split at hx
    · exact (Except.ok.inj hx).symm
    · exact absurd hx (by simp)
  | rename id relativePath =>
    obtain ⟨job, content, rfl, rfl, rfl⟩ := halw
    exact h.rename hk (hrec job.id rfl rfl)
  | chmod relativePath =>
    refine after_look h hk (onDisk_look fun x' hx => ?_) fun _ => rfl
    unfold Spool.chmod at hx
    split at hx
    · exact (Except.ok.inj hx).symm
    · exact absurd hx (by simp)
  | syncDirectory =>
    exact after_look h hk (onDisk_look fun x' hx => (Except.ok.inj hx).symm) fun _ => rfl
  | lstat relativePath => exact after_look h hk rfl fun _ => rfl
  | unlinkPartial id => exact h.unlinkPartial hk halw hcare
  | unlinkArtifact relativePath => exact h.unlinkArtifact hk halw hcare
  | setReady id sizeBytes sha256 readyAt =>
    obtain ⟨job, content, rfl, rfl, rfl, rfl⟩ := halw
    exact h.setReady hk (hrec job.id rfl rfl) readyAt
  | setUploaded id sizeBytes sha256 readyAt =>
    obtain ⟨job, content, rfl, rfl, rfl, rfl⟩ := halw
    exact h.setUploaded hk (hrec job.id rfl rfl) readyAt
  | setFailed id deletedAt => exact h.setFailed hk halw
  | setUnavailable id => exact h.setUnavailable hk id
  | setDeleted id deletedAt => exact h.setDeleted hk halw hcare
  | endSessions artifactId now =>
    exact after_sessions h hk (keeps_updateSessions x _ fun _ => ⟨rfl, rfl⟩) fun _ => rfl
  | failUploads artifactId failedAt =>
    exact after_sessions h hk (keeps_updateSessions x _ fun _ => ⟨rfl, rfl⟩) fun _ => rfl
  | findStale before =>
    obtain ⟨now, hdt, hbef⟩ := halw
    have hreaping := placed_reaping (hplc.dated now hdt) h.shelved
    rw [← hbef] at hreaping
    exact h.move hk hreaping (.inl rfl)
  | findExpired now =>
    have hrows : ∀ r ∈ x.findExpired now, r ∈ x.db.artifacts := fun r hr =>
      (List.mem_filter.mp ((List.mem_insertionSort _).mp (List.mem_of_mem_take hr))).1
    exact h.move hk (placed_removing hrows h.shelved) (.inl rfl)
  | countActiveSessions artifactId now => exact after_look h hk rfl fun _ => rfl

/-- **What happens besides.** -/
theorem inv_outside (h : Inv H x l) (change : SpoolChange) : Inv H (x.outside H change) l := by
  cases change with
  | advance ms => exact h.later ms
  | disk fails partialFirst =>
    exact h.keeps ⟨rfl, rfl, rfl, rfl, rfl, fun s hs hup => ⟨s, hs, rfl, hup, rfl⟩⟩
  | issueUpload input installationId artifactExpiresAt expiresAt =>
    change Inv H { x with db := (x.db.createUpload _ _).2 } l
    unfold TransferDb.createUpload
    split
    · exact h
    · rename_i hfr
      cases hc : x.db.sessions.create? _ with
      | none => exact h
      | some sessions =>
        obtain ⟨hrows, hfree⟩ := Table.create?_eq_some hc
        have hmaterial := H.artifactId_material installationId input.actor.userId
          input.idempotencyKey
        refine h.append ⟨rfl, rfl, fun b hb hid => ?_, ⟨rfl, rfl⟩, rfl, rfl, rfl, rfl,
          fun s hs _ => ?_, fun s hs t ht hsnew htnew => ?_⟩
        · exact hfr (List.any_eq_true.mpr ⟨b, hb, beq_iff_eq.mpr hid⟩)
        · have hs' := Table.mem_def.mp hs
          rw [hrows] at hs'
          rcases List.mem_snoc.mp hs' with hold | rfl
          · exact .inl hold
          · exact .inr ⟨rfl, hmaterial⟩
        · have hs' := Table.mem_def.mp hs
          have ht' := Table.mem_def.mp ht
          rw [hrows] at hs' ht'
          rcases List.mem_append.mp hs' with hold | hs'
          · exact absurd hold hsnew
          · rcases List.mem_append.mp ht' with hold | ht'
            · exact absurd hold htnew
            · rw [List.mem_singleton.mp hs', List.mem_singleton.mp ht']
  | issueDownload session =>
    refine h.keeps
      (?_ : Keeps x { x with db := (x.db.create { session with purpose := .download }).2 })
    unfold TransferDb.create
    cases hc : x.db.sessions.create? _ with
    | none => exact ⟨rfl, rfl, rfl, rfl, rfl, fun s hs hup => ⟨s, hs, rfl, hup, rfl⟩⟩
    | some sessions =>
      refine ⟨rfl, rfl, rfl, rfl, rfl, fun s hs hup => ?_⟩
      have hs' := Table.mem_def.mp hs
      rw [(Table.create?_eq_some hc).1] at hs'
      rcases List.mem_snoc.mp hs' with hold | rfl
      · exact ⟨s, hold, rfl, hup, rfl⟩
      · exact absurd hup (by simp)
  | complete ids consumed failureCode sha256 =>
    exact h.keeps (keeps_updateSessions x
      (f := completeSession x.db.clock consumed failureCode sha256) (fun _ => rfl)
      fun _ => ⟨rfl, rfl⟩)
  | cleanupSessions =>
    refine h.keeps ⟨rfl, rfl, rfl, rfl, rfl, fun s hs hup => ?_⟩
    exact ⟨s, (List.mem_filter.mp hs).1, rfl, hup, rfl⟩

end Steps

/-! ## Runs -/

/-- The spool with the requests over it. -/
abbrev ArtifactPool : Type := Phased Spool Work ArtifactInstr ArtifactReply
  (Except TransferError (Option CompletedArtifact))

abbrev artifactStep (H : ArtifactHost) :
    ArtifactPool → Event SpoolChange ArtifactRequest → Option ArtifactPool :=
  Phased.step (artifacts H) (filing H) fun _ => .idle

/-- A spool without rows and without sessions. -/
def cleared (x : Spool) : Spool :=
  { x with
    db := { x.db with sessions := .empty, artifacts := [] }
    started := [] }

theorem inv_cleared (H : ArtifactHost) (x : Spool) : Inv H (cleared x) [] where
  shelved := {
    unique := List.nodup_nil
    paths := fun a ha => absurd ha List.not_mem_nil
    ready := fun a ha => absurd ha List.not_mem_nil
    sessions := fun s hs => absurd hs (Table.not_mem_empty s)
    single := fun s hs => absurd hs (Table.not_mem_empty s) }
  placed y hy := absurd hy List.not_mem_nil
  apart j k y z _ hj := absurd hj (by simp)

/-- **As long as no staging outlasts half an hour, and nothing is revoked or cleaned up while it is
ready or being staged**: an artifact that is ready and not deleted has its file, of the size and with
the digest of its row; and a staging that is no older than half an hour has its row and its file. -/
theorem ready_stored (H : ArtifactHost) (x₀ : Spool) {s : ArtifactPool}
    (hs : Stepping.Reach (artifactStep H) (Phased.Within Careful) ⟨cleared x₀, []⟩ s) :
    (∀ a ∈ s.store.db.artifacts, a.state = .ready → a.deletedAt = none → Stored H s.store a) ∧
    ∀ y ∈ s.phases, ∀ id, y.staging = some id → Recent s.store id → Intact s.store y := by
  have hinv : Inv H s.store s.phases ∧ ∀ c ∈ s.calls, c.2.Follows (filing H) Whatever c.1 := by
    refine Phased.invariant request_filing (inv_cleared H x₀) ?_ ?_ ?_ hs
    · intro change x l h
      exact inv_outside h change
    · intro request x l h
      refine ⟨h.shelved, fun y hy => ?_, fun j k y z hjk hj hk id hy hz => ?_⟩
      · rcases List.mem_snoc.mp hy with hy | rfl
        · exact h.placed y hy
        · exact placed_idle
      · have hidle : ∀ (m : Nat) w, (l ++ [Work.idle])[m]? = some w → w.owner = some id →
            l[m]? = some w := by
          intro m w hm hw
          by_cases hlt : m < l.length
          · rwa [List.getElem?_append_left hlt] at hm
          · rw [List.getElem?_append_right (Nat.not_lt.mp hlt)] at hm
            have hmem := List.mem_of_getElem? hm
            rw [List.mem_singleton.mp hmem] at hw
            exact absurd hw (by simp [Work.owner, Work.job])
        exact h.apart j k y z hjk (hidle j y hj hy) (hidle k z hk hz) id hy hz
    · intro x l k y i h hk halw hcare
      exact inv_step h hk halw hcare
  exact ⟨hinv.1.shelved.ready, fun y hy => (hinv.1.placed y hy).intact⟩

namespace SampleArtifacts

def host : ArtifactHost where
  firstByteTtlMs := 900000
  stagedLeaseTtlMs := 14400000
  maxNewPerMinute := 5
  maxActivePerActor := 2
  maxActivePerTarget := 4
  sha256 := id
  deriveUploadMaterial _ _ _ := ⟨"session", "artifact", "secret"⟩
  validatePublicDelivery := .ok
  maxArtifactBytes := 1000
  randomUUID _ := "0b9e7c66-1d2f-4a3b-9c4d-5e6f70819203"
  digest content := String.ofList (content.map fun b => Char.ofNat b.toNat)
  artifactOfSession _ := "artifact"
  artifactId_material _ _ _ := rfl

def spool : Spool where
  db := {
    clock := 1000000
    sessions := .empty
    artifacts := []
    installationId := "0f8fad5b-d9cb-469f-a165-70867728950e"
    directTransferOrigin := .ok "https://transfer.example.org"
    sources := []
    stagedHandler := none
    drawn := 0 }
  started := []
  partials := .empty
  files := .empty
  diskFails := false
  partialFirst := true

def input : StageArtifactInput where
  sourceKind := "BACKUP_EXPORT"
  resourceId := "backup-1"
  actor := ⟨"7c9e6679-7425-40de-944b-e07fc1f90ae7", "ADMIN"⟩
  filename := "backup.tar"
  contentType := "application/x-tar"
  expiresAt := 90000000
  expectedMaxBytes := 100
  chunks := [[104, 105]]
  sourceFails := false
  createdFails := false

/-- A staging, up to the sync of its directory. -/
def staged : List (Event SpoolChange ArtifactRequest) :=
  .call (.stage input) :: List.replicate 13 (.advance 0)

/-- The reaper removes the files of what it takes for stale, and the staging ends. -/
def reaped : List (Event SpoolChange ArtifactRequest) :=
  [Event.outside (SpoolChange.advance 1800001), .call .reconcileAndCleanup] ++
    List.replicate 6 (Event.advance 1) ++ [Event.advance 0]

instance (x : Spool) (id : String) : Decidable (Recent x id) :=
  inferInstanceAs (Decidable (∀ a ∈ x.db.artifacts, a.id = id →
    x.db.clock ≤ a.createdAt + STAGING_STALE_MS))

instance (x : Spool) (y : Work) (i : ArtifactInstr) : Decidable (OnTime x y i) :=
  inferInstanceAs (Decidable (∀ id ∈ y.staging, givesUp i = false → Recent x id))

instance (x : Spool) (l : List Work) (y : Work) (i : ArtifactInstr) :
    Decidable (Unattended x l y i) := by
  unfold Unattended
  exact inferInstance

instance (x : Spool) (l : List Work) (k : Nat) (i : ArtifactInstr) :
    Decidable (Careful x l k i) :=
  inferInstanceAs (Decidable (∀ y ∈ l[k]?, OnTime x y i ∧ Unattended x l y i))

/-- **A staging that takes more than half an hour** ends with an artifact that is ready and has no
file. -/
theorem ready_lost : ∃ s : ArtifactPool,
    Stepping.Reach (artifactStep host) Stepping.anyStep ⟨cleared spool, []⟩ s ∧
    ∃ a ∈ s.store.db.artifacts, a.state = .ready ∧ a.deletedAt = none ∧
      s.store.files.get a.relativePath = none :=
  Stepping.Reach.of_run_any (l := staged ++ reaped) (by decide +kernel)

/-- A staging in time has its file. -/
theorem ready_stored_stage : ∃ s : ArtifactPool,
    (∃ a ∈ s.store.db.artifacts, a.state = .ready ∧ a.deletedAt = none ∧ a.sizeBytes = some 2) ∧
    ∀ a ∈ s.store.db.artifacts, a.state = .ready → a.deletedAt = none → Stored host s.store a := by
  have hrun : ∃ s : ArtifactPool,
      Stepping.Reach (artifactStep host) (Phased.Within Careful) ⟨cleared spool, []⟩ s ∧
      ∃ a ∈ s.store.db.artifacts, a.state = .ready ∧ a.deletedAt = none ∧ a.sizeBytes = some 2 :=
    Stepping.Reach.of_run_any (l := staged ++ [.advance 0]) (by decide +kernel)
  obtain ⟨s, hs, hrdy⟩ := hrun
  exact ⟨s, hrdy, (ready_stored host spool hs).1⟩

end SampleArtifacts

end Meowbox.Transfers.Filing
