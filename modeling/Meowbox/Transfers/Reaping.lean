import Meowbox.Transfers.Filing

/-!
# What a request knows of its artifact

The invariant of the artifact service. The rows say which artifacts are ready; a request that fills
an artifact knows that its row is being staged and that what it has written is there, as long as the
artifact is no older than half an hour, which is when the reaper takes it up.

* `Beside`, `Keeps`, `Appended`: what a step leaves alone.
* `Placed.beside`: a request whose artifact is another one is where it was.
* `Inv.own`, `Inv.done`, `Inv.beside`: a request goes on with its artifact, is done with it, or works
  on one that is not its own.
-/

namespace Meowbox.Transfers.Filing

open Interleaved Fallible Relational

/-! ## What is to hold -/

/-- The file of an artifact is on the disk, as its row says. -/
def Stored (H : ArtifactHost) (x : Spool) (a : TransferArtifact) : Prop :=
  ∃ content, x.files.get a.relativePath = some content ∧ a.sizeBytes = some content.length ∧
    a.sha256 = some (H.digest content)

/-- The artifact was created at most half an hour ago. -/
def Recent (x : Spool) (id : String) : Prop :=
  ∀ a ∈ x.db.artifacts, a.id = id → x.db.clock ≤ a.createdAt + STAGING_STALE_MS

/-- The row of an artifact says that it is being staged. -/
def Staged (x : Spool) (id : String) : Prop :=
  ∀ a ∈ x.db.artifacts, a.id = id → a.state = .staging ∧ a.deletedAt = none

/-- **A staging has its row, and the file it has written.** -/
def Intact (x : Spool) : Work → Prop
  | .began job => Staged x job.id
  | .writing job content => Staged x job.id ∧ x.partials.get job.id = some content
  | .moved job content => Staged x job.id ∧ x.files.get job.relativePath = some content
  | _ => True

/-- The artifact is not ready. -/
def Unready (x : Spool) (id : String) : Prop := ∀ a ∈ x.db.artifacts, a.id = id → a.state ≠ .ready

/-- **What a request knows.** -/
structure Placed (H : ArtifactHost) (x : Spool) (y : Work) : Prop where
  row : ∀ id, y.owner = some id → ∃ a ∈ x.db.artifacts, a.id = id
  path : ∀ job, y.job = some job → job.relativePath = job.id ++ ".artifact"
  session : ∀ id, y.owner = some id → ∀ s ∈ x.db.sessions, s.purpose = .upload →
    s.artifactId = some id → y.session = some s.id
  started : ∀ sessionId, y.session = some sessionId → sessionId ∈ x.started
  found : ∀ s, y = .found s → s.purpose = .upload →
    s.artifactId = some (H.artifactOfSession s.id) ∧
      ∃ a ∈ x.db.artifacts, a.id = H.artifactOfSession s.id
  unready : ∀ job, y.job = some job → Unready x job.id
  intact : ∀ id, y.staging = some id → Recent x id → Intact x y
  stale : ∀ rows, y = .reaping rows → ∀ r ∈ rows, ¬ Recent x r.id ∧ Unready x r.id
  rows : ∀ r ∈ y.rows, r.relativePath = r.id ++ ".artifact"
  dated : ∀ now, y = .dated now → now ≤ x.db.clock

/-- **What holds of the rows.** -/
structure Shelved (H : ArtifactHost) (x : Spool) : Prop where
  unique : (x.db.artifacts.map TransferArtifact.id).Nodup
  paths : ∀ a ∈ x.db.artifacts, a.relativePath = a.id ++ ".artifact"
  ready : ∀ a ∈ x.db.artifacts, a.state = .ready → a.deletedAt = none → Stored H x a
  sessions : ∀ s ∈ x.db.sessions, s.purpose = .upload →
    s.artifactId = some (H.artifactOfSession s.id) ∧
      ∃ a ∈ x.db.artifacts, a.id = H.artifactOfSession s.id
  single : ∀ s ∈ x.db.sessions, ∀ t ∈ x.db.sessions, s.purpose = .upload → t.purpose = .upload →
    s.artifactId = t.artifactId → s.id = t.id

/-- **The invariant.** -/
structure Inv (H : ArtifactHost) (x : Spool) (l : List Work) : Prop where
  shelved : Shelved H x
  placed : ∀ y ∈ l, Placed H x y
  apart : ∀ (j k : Nat) (y z : Work), j ≠ k → l[j]? = some y → l[k]? = some z →
    ∀ id, y.owner = some id → z.owner ≠ some id

section Rows

variable {H : ArtifactHost} {x x' : Spool} {l : List Work} {y z : Work} {id : String}
variable {a : TransferArtifact}

/-- Rows of one id are one row. -/
theorem Shelved.row_eq (h : Shelved H x) {b : TransferArtifact} (ha : a ∈ x.db.artifacts)
    (hb : b ∈ x.db.artifacts) (hid : a.id = b.id) : a = b :=
  List.inj_on_of_nodup_map h.unique ha hb hid

theorem path_inj {i j : String} (h : i ++ ".artifact" = j ++ ".artifact") : i = j := by
  have hchs := congrArg String.toList h
  rw [String.toList_append, String.toList_append] at hchs
  exact String.toList_inj.mp (List.append_cancel_right hchs)

theorem owner_of_job {job : Job} (h : y.job = some job) : y.owner = some job.id := by
  cases y with
  | claimed id sessionId => exact absurd h (by simp [Work.job])
  | _ => simp_all [Work.owner, Work.job]

theorem job_of_staging (h : y.staging = some id) : ∃ job, y.job = some job ∧ job.id = id := by
  cases y with
  | began job => exact ⟨job, rfl, Option.some.inj h⟩
  | writing job content => exact ⟨job, rfl, Option.some.inj h⟩
  | moved job content => exact ⟨job, rfl, Option.some.inj h⟩
  | _ => exact absurd h (by simp [Work.staging])

theorem owner_of_staging (h : y.staging = some id) : y.owner = some id := by
  obtain ⟨job, hjob, rfl⟩ := job_of_staging h
  exact owner_of_job hjob

/-- A worker that has no artifact. -/
theorem placed_free (hjob : y.job = none) (howner : y.owner = none) (hsession : y.session = none)
    (hstaging : y.staging = none) (hfound : ∀ s, y ≠ .found s)
    (hstale : ∀ rows, y = .reaping rows → ∀ r ∈ rows, ¬ Recent x r.id ∧ Unready x r.id)
    (hrows : ∀ r ∈ y.rows, r.relativePath = r.id ++ ".artifact")
    (hdated : ∀ now, y = .dated now → now ≤ x.db.clock) : Placed H x y where
  row _ h := absurd h (by simp [howner])
  path _ h := absurd h (by simp [hjob])
  session _ h := absurd h (by simp [howner])
  started _ h := absurd h (by simp [hsession])
  found s h := absurd h (hfound s)
  unready _ h := absurd h (by simp [hjob])
  intact _ h := absurd h (by simp [hstaging])
  stale := hstale
  rows := hrows
  dated := hdated

theorem placed_idle : Placed H x .idle :=
  placed_free rfl rfl rfl rfl (by simp) nofun nofun nofun

theorem placed_dated {now : Nat} (h : now ≤ x.db.clock) : Placed H x (.dated now) := by
  refine placed_free rfl rfl rfl rfl (by simp) nofun nofun fun now' h' => ?_
  cases h'
  exact h

/-- A request with rows that it has read. -/
theorem placed_removing {rows : List TransferArtifact} (hrows : ∀ r ∈ rows, r ∈ x.db.artifacts)
    (h : Shelved H x) : Placed H x (.removing rows) :=
  placed_free rfl rfl rfl rfl (by simp) nofun (fun r hr => h.paths r (hrows r hr)) nofun

/-- **The reaper's rows are stale, and stay so.** -/
theorem placed_reaping {now : Nat} (hnow : now ≤ x.db.clock) (h : Shelved H x) :
    Placed H x (.reaping (x.findStale (now - STAGING_STALE_MS))) := by
  refine placed_free rfl rfl rfl rfl (by simp) ?_
    (fun r hr => h.paths r (List.mem_filter.mp (List.mem_of_mem_take hr)).1) nofun
  intro rows hrows r hr
  cases hrows
  obtain ⟨hmem, hstale⟩ := List.mem_filter.mp (List.mem_of_mem_take hr)
  simp only [Bool.and_eq_true, decide_eq_true_eq] at hstale
  refine ⟨fun hrec => ?_, fun a ha hid => ?_⟩
  · have hage := hrec r hmem rfl
    omega
  · rw [h.row_eq ha hmem hid, hstale.1]
    decide

/-! ## An instruction on one artifact -/

/-- **The spool is as before, but for one artifact.** -/
structure Beside (id : String) (x x' : Spool) : Prop where
  clock : x'.db.clock = x.db.clock
  sessions : x'.db.sessions = x.db.sessions
  started : x'.started = x.started
  rows : ∃ f : TransferArtifact → TransferArtifact,
    (∀ a, (f a).id = a.id ∧ (f a).relativePath = a.relativePath ∧ (f a).createdAt = a.createdAt) ∧
    (∀ a, a.id ≠ id → f a = a) ∧ x'.db.artifacts = x.db.artifacts.map f
  partials : ∀ j, j ≠ id → x'.partials.get j = x.partials.get j
  files : ∀ j, j ≠ id → x'.files.get (j ++ ".artifact") = x.files.get (j ++ ".artifact")

/-- A row after the instruction. -/
theorem Beside.mem (hb : Beside id x x') {a' : TransferArtifact} (ha' : a' ∈ x'.db.artifacts) :
    ∃ a ∈ x.db.artifacts, a'.id = a.id ∧ a'.relativePath = a.relativePath ∧
      a'.createdAt = a.createdAt ∧ (a.id ≠ id → a' = a) := by
  obtain ⟨f, hf, hother, hrows⟩ := hb.rows
  rw [hrows] at ha'
  obtain ⟨a, ha, rfl⟩ := List.mem_map.mp ha'
  exact ⟨a, ha, (hf a).1, (hf a).2.1, (hf a).2.2, hother a⟩

/-- A row before it. -/
theorem Beside.exists_row (hb : Beside id x x') {j : String}
    (h : ∃ a ∈ x.db.artifacts, a.id = j) : ∃ a ∈ x'.db.artifacts, a.id = j := by
  obtain ⟨f, hf, -, hrows⟩ := hb.rows
  obtain ⟨a, ha, rfl⟩ := h
  exact ⟨f a, by rw [hrows]; exact List.mem_map_of_mem ha, (hf a).1⟩

theorem Beside.recent (hb : Beside id x x') {j : String} (h : Recent x' j) : Recent x j := by
  obtain ⟨f, hf, -, hrows⟩ := hb.rows
  intro a ha hid
  have hmem : f a ∈ x'.db.artifacts := by
    rw [hrows]
    exact List.mem_map_of_mem ha
  have hage := h (f a) hmem ((hf a).1.trans hid)
  rw [hb.clock, (hf a).2.2] at hage
  exact hage

theorem Beside.unready (hb : Beside id x x') {j : String} (hj : j ≠ id) (h : Unready x j) :
    Unready x' j := by
  intro a' ha' hid
  obtain ⟨a, ha, haid, -, -, hsame⟩ := hb.mem ha'
  have hne : a.id ≠ id := fun heq => hj (hid.symm.trans (haid.trans heq))
  rw [hsame hne]
  exact h a ha (haid.symm.trans hid)

theorem Beside.staged (hb : Beside id x x') {j : String} (hj : j ≠ id) (h : Staged x j) :
    Staged x' j := by
  intro a' ha' hid
  obtain ⟨a, ha, haid, -, -, hsame⟩ := hb.mem ha'
  have hne : a.id ≠ id := fun heq => hj (hid.symm.trans (haid.trans heq))
  rw [hsame hne]
  exact h a ha (haid.symm.trans hid)

/-- A staging of another artifact. -/
theorem Beside.intact (hb : Beside id x x') (hz : z.staging ≠ some id)
    (hpath : ∀ job, z.job = some job → job.relativePath = job.id ++ ".artifact")
    (h : Intact x z) : Intact x' z := by
  cases z with
  | began job => exact hb.staged (fun heq => hz (congrArg some heq)) h
  | writing job content =>
    have hne : job.id ≠ id := fun heq => hz (congrArg some heq)
    exact ⟨hb.staged hne h.1, (hb.partials job.id hne).trans h.2⟩
  | moved job content =>
    have hne : job.id ≠ id := fun heq => hz (congrArg some heq)
    refine ⟨hb.staged hne h.1, ?_⟩
    have hfile := h.2
    rw [hpath job rfl] at hfile ⊢
    exact (hb.files job.id hne).trans hfile
  | _ => trivial

/-- **The rows stay in order** if the one artifact, when it is ready, has its file. -/
theorem Shelved.beside (h : Shelved H x) (hb : Beside id x x')
    (hrdy : ∀ a ∈ x'.db.artifacts, a.id = id → a.state = .ready → a.deletedAt = none →
      Stored H x' a) : Shelved H x' where
  unique := by
    obtain ⟨f, hf, -, hrows⟩ := hb.rows
    rw [hrows, List.map_map]
    have hids : TransferArtifact.id ∘ f = TransferArtifact.id := funext fun a => (hf a).1
    rw [hids]
    exact h.unique
  paths a' ha' := by
    obtain ⟨a, ha, hid, hpath, -, -⟩ := hb.mem ha'
    rw [hpath, hid]
    exact h.paths a ha
  ready a' ha' hst hdel := by
    by_cases hid : a'.id = id
    · exact hrdy a' ha' hid hst hdel
    · obtain ⟨a, ha, haid, -, -, hsame⟩ := hb.mem ha'
      have hne : a.id ≠ id := fun heq => hid (haid.trans heq)
      obtain rfl := hsame hne
      obtain ⟨content, hfile, hsize, hsha⟩ := h.ready a' ha hst hdel
      refine ⟨content, ?_, hsize, hsha⟩
      rw [h.paths a' ha] at hfile ⊢
      exact (hb.files a'.id hid).trans hfile
  sessions s hs hup := by
    rw [hb.sessions] at hs
    obtain ⟨hart, hrow⟩ := h.sessions s hs hup
    exact ⟨hart, hb.exists_row hrow⟩
  single := by
    rw [hb.sessions]
    exact h.single

/-- **Another request is where it was**: its staging, if it is of the same artifact, is no longer
recent; and the artifact becomes ready only if it is recent and not the other's. -/
theorem Placed.beside (h : Placed H x z) (hb : Beside id x x')
    (hstg : z.staging = some id → ¬ Recent x id)
    (hrdy : (Unready x id → Unready x' id) ∨ z.owner ≠ some id ∧ Recent x id) :
    Placed H x' z where
  row j hj := hb.exists_row (h.row j hj)
  __ := h
  session := by
    rw [hb.sessions]
    exact h.session
  started := by
    rw [hb.started]
    exact h.started
  found s hs hup := by
    obtain ⟨hart, hrow⟩ := h.found s hs hup
    exact ⟨hart, hb.exists_row hrow⟩
  unready job hjob := by
    by_cases hid : job.id = id
    · rcases hrdy with hkps | ⟨hown, -⟩
      · rw [hid]
        exact hkps (hid ▸ h.unready job hjob)
      · exact absurd (hid ▸ owner_of_job hjob) hown
    · exact hb.unready hid (h.unready job hjob)
  intact j hj hrec := by
    have hold := h.intact j hj (hb.recent hrec)
    refine hb.intact (fun hid => ?_) h.path hold
    obtain rfl := Option.some.inj (hj.symm.trans hid)
    exact hstg hid (hb.recent hrec)
  stale rows hrows r hr := by
    obtain ⟨hold, hunr⟩ := h.stale rows hrows r hr
    refine ⟨fun hrec => hold (hb.recent hrec), ?_⟩
    by_cases hid : r.id = id
    · rcases hrdy with hkps | ⟨-, hrec⟩
      · rw [hid]
        exact hkps (hid ▸ hunr)
      · exact absurd (hid ▸ hrec) hold
    · exact hb.unready hid hunr
  dated := by
    rw [hb.clock]
    exact h.dated

/-- The request that has the job goes on with it. -/
theorem Placed.goesOn (h : Placed H x y) (hb : Beside id x x') {job : Job} (hy : y.job = some job)
    (hid : job.id = id) {y' : Work} (hy' : y'.job = some job) (hunr : Unready x' id)
    (hintact : Recent x id → Intact x' y') : Placed H x' y' := by
  have hown : y'.owner = y.owner := by rw [owner_of_job hy', owner_of_job hy]
  have hses : y'.session = y.session := by
    cases y <;> cases y' <;> simp_all [Work.job, Work.session]
  refine ⟨?_, ?_, ?_, ?_, ?_, ?_, ?_, ?_, ?_, ?_⟩
  · rw [hown]
    exact fun j hj => hb.exists_row (h.row j hj)
  · intro other hother
    obtain rfl := Option.some.inj (hother.symm.trans hy')
    exact h.path _ hy
  · rw [hown, hses, hb.sessions]
    exact h.session
  · rw [hses, hb.started]
    exact h.started
  · rintro s rfl
    exact absurd hy' (by simp [Work.job])
  · intro other hother
    obtain rfl := Option.some.inj (hother.symm.trans hy')
    rw [hid]
    exact hunr
  · intro j hj hrec
    obtain ⟨other, hother, rfl⟩ := job_of_staging hj
    obtain rfl := Option.some.inj (hother.symm.trans hy')
    rw [hid] at hrec
    exact hintact (hb.recent hrec)
  · rintro rows rfl
    exact absurd hy' (by simp [Work.job])
  · intro r hr
    cases y' <;> simp_all [Work.job, Work.rows]
  · rintro now rfl
    exact absurd hy' (by simp [Work.job])

/-! ## One request takes a step -/

/-- A request after one of them took a step. -/
theorem Inv.assemble (h : Inv H x l) {k : Nat} (hk : l[k]? = some y) (hshelved : Shelved H x')
    (hothers : ∀ (j : Nat) z, j ≠ k → l[j]? = some z → Placed H x z → Placed H x' z)
    {y' : Work} (hself : Placed H x' y')
    (hown : ∀ id, y'.owner = some id →
      y.owner = some id ∨ ∀ (j : Nat) z, j ≠ k → l[j]? = some z → z.owner ≠ some id) :
    Inv H x' (l.set k y') := by
  refine ⟨hshelved, fun z hz => ?_, fun i j z w hij hi hj id hz hw => ?_⟩
  · rcases mem_set_cases hz with rfl | ⟨m, hm, hlm⟩
    · exact hself
    · exact hothers m z hm hlm (h.placed z (List.mem_of_getElem? hlm))
  · rcases getElem?_set_cases hi with ⟨rfl, rfl⟩ | ⟨hik, hli⟩
    · rcases getElem?_set_cases hj with ⟨hji, -⟩ | ⟨hjk, hlj⟩
      · exact hij hji.symm
      · rcases hown id hz with hold | hnone
        · exact h.apart _ j y w (Ne.symm hjk) hk hlj id hold hw
        · exact hnone j w hjk hlj hw
    · rcases getElem?_set_cases hj with ⟨rfl, rfl⟩ | ⟨hjk, hlj⟩
      · rcases hown id hw with hold | hnone
        · exact h.apart i _ z y hik hli hk id hz hold
        · exact hnone i z hik hli hz
      · exact h.apart i j z w hij hli hlj id hz hw

/-- An instruction that changes nothing, and a request that stays where it is. -/
theorem Inv.stay (h : Inv H x l) {k : Nat} (hk : l[k]? = some y) : Inv H x (l.set k y) := by
  rw [set_getElem?_self hk]
  exact h

/-- An instruction that changes nothing. -/
theorem Inv.move (h : Inv H x l) {k : Nat} (hk : l[k]? = some y) {y' : Work}
    (hself : Placed H x y') (hown : y'.owner = none ∨ y'.owner = y.owner) :
    Inv H x (l.set k y') := by
  refine h.assemble hk h.shelved (fun _ _ _ _ hz => hz) hself fun id hid => ?_
  rcases hown with hnone | hsame
  · exact absurd (hnone.symm.trans hid) (by simp)
  · exact .inl (hsame.symm.trans hid)

/-- **The request goes on with its artifact**, which is not ready yet. -/
theorem Inv.own (h : Inv H x l) {k : Nat} (hk : l[k]? = some y) {job : Job} (hy : y.job = some job)
    (hb : Beside job.id x x') (hunr : Unready x' job.id) (y' : Work) (hy' : y'.job = some job)
    (hintact : Recent x job.id → Intact x' y') : Inv H x' (l.set k y') := by
  have hplc := h.placed y (List.mem_of_getElem? hk)
  have hown := owner_of_job hy
  refine h.assemble hk (h.shelved.beside hb ?_) ?_
    (hplc.goesOn hb hy rfl hy' hunr hintact) ?_
  · intro a ha hid hst
    exact absurd hst (hunr a ha hid)
  · intro j z hj hlj hz
    have hother := h.apart k j y z (Ne.symm hj) hk hlj job.id hown
    exact hz.beside hb (fun hstg => absurd (owner_of_staging hstg) hother)
      (.inl fun _ => hunr)
  · intro id hid
    rw [owner_of_job hy'] at hid
    exact .inl (hown.trans hid)

/-- **The request is done with its artifact.** -/
theorem Inv.done (h : Inv H x l) {k : Nat} (hk : l[k]? = some y) {job : Job} (hy : y.job = some job)
    (hb : Beside job.id x x')
    (hrdy : ∀ a ∈ x'.db.artifacts, a.id = job.id → a.state = .ready → a.deletedAt = none →
      Stored H x' a)
    (hrec : Unready x' job.id ∨ Recent x job.id) : Inv H x' (l.set k .idle) := by
  have hown := owner_of_job hy
  refine h.assemble hk (h.shelved.beside hb hrdy) ?_ placed_idle ?_
  · intro j z hj hlj hz
    have hother := h.apart k j y z (Ne.symm hj) hk hlj job.id hown
    refine hz.beside hb (fun hstg => absurd (owner_of_staging hstg) hother) ?_
    exact hrec.imp (fun hunr _ => hunr) fun hr => ⟨hother, hr⟩
  · intro id hid
    exact absurd hid (by simp [Work.owner, Work.job])

/-- **A request works on an artifact that is not its own**, and that no recent staging fills. -/
theorem Inv.beside (h : Inv H x l) (hb : Beside id x x')
    (hstg : ∀ z ∈ l, z.staging = some id → ¬ Recent x id)
    (hunr : Unready x id → Unready x' id)
    (hrdy : ∀ a ∈ x'.db.artifacts, a.id = id → a.state = .ready → a.deletedAt = none →
      Stored H x' a) : Inv H x' l where
  shelved := h.shelved.beside hb hrdy
  placed z hz := (h.placed z hz).beside hb (hstg z hz) (.inl hunr)
  apart := h.apart

/-! ## Sessions, time and new rows -/

/-- The rows and the files stay, and there are no further upload sessions. -/
structure Keeps (x x' : Spool) : Prop where
  clock : x'.db.clock = x.db.clock
  artifacts : x'.db.artifacts = x.db.artifacts
  started : x'.started = x.started
  partials : x'.partials = x.partials
  files : x'.files = x.files
  sessions : ∀ s ∈ x'.db.sessions, s.purpose = .upload →
    ∃ t ∈ x.db.sessions, t.id = s.id ∧ t.purpose = .upload ∧ t.artifactId = s.artifactId

theorem Keeps.recent (hkps : Keeps x x') : Recent x' id ↔ Recent x id := by
  unfold Recent
  rw [hkps.artifacts, hkps.clock]

theorem Keeps.intact (hkps : Keeps x x') (h : Intact x z) : Intact x' z := by
  cases z with
  | began job =>
    simp only [Intact, Staged] at h ⊢
    rw [hkps.artifacts]
    exact h
  | writing job content =>
    simp only [Intact, Staged] at h ⊢
    rw [hkps.artifacts, hkps.partials]
    exact h
  | moved job content =>
    simp only [Intact, Staged] at h ⊢
    rw [hkps.artifacts, hkps.files]
    exact h
  | _ => trivial

theorem Placed.keeps (h : Placed H x z) (hkps : Keeps x x') : Placed H x' z where
  row := by
    rw [hkps.artifacts]
    exact h.row
  __ := h
  session id hid s hs hup hart := by
    obtain ⟨t, ht, htid, htupload, htartifact⟩ := hkps.sessions s hs hup
    rw [← htid]
    exact h.session id hid t ht htupload (htartifact.trans hart)
  started := by
    rw [hkps.started]
    exact h.started
  found := by
    rw [hkps.artifacts]
    exact h.found
  unready := by
    unfold Unready
    rw [hkps.artifacts]
    exact h.unready
  intact id hid hrec := hkps.intact (h.intact id hid (hkps.recent.mp hrec))
  stale rows hrows r hr := by
    obtain ⟨hold, hunr⟩ := h.stale rows hrows r hr
    refine ⟨fun hrec => hold (hkps.recent.mp hrec), ?_⟩
    unfold Unready
    rw [hkps.artifacts]
    exact hunr
  dated := by
    rw [hkps.clock]
    exact h.dated

theorem Inv.keeps (h : Inv H x l) (hkps : Keeps x x') : Inv H x' l where
  shelved := {
    unique := by
      rw [hkps.artifacts]
      exact h.shelved.unique
    paths := by
      rw [hkps.artifacts]
      exact h.shelved.paths
    ready := by
      unfold Stored
      rw [hkps.artifacts, hkps.files]
      exact h.shelved.ready
    sessions := by
      intro s hs hup
      obtain ⟨t, ht, htid, htupload, htartifact⟩ := hkps.sessions s hs hup
      rw [hkps.artifacts, ← htid, ← htartifact]
      exact h.shelved.sessions t ht htupload
    single := by
      intro s hs t ht hs' ht' heq
      obtain ⟨s₀, hs₀, hsid, hsupload, hsartifact⟩ := hkps.sessions s hs hs'
      obtain ⟨t₀, ht₀, htid, htupload, htartifact⟩ := hkps.sessions t ht ht'
      rw [← hsid, ← htid]
      refine h.shelved.single s₀ hs₀ t₀ ht₀ hsupload htupload ?_
      rw [hsartifact, htartifact, heq] }
  placed z hz := (h.placed z hz).keeps hkps
  apart := h.apart

/-- Sessions that are updated keep what the invariant looks at. -/
theorem keeps_updateSessions (x : Spool) {p : TransferSession → Bool}
    {f : TransferSession → TransferSession} (hf : ∀ s, (f s).id = s.id)
    (hsame : ∀ s, (f s).purpose = s.purpose ∧ (f s).artifactId = s.artifactId) :
    Keeps x (x.updateSessions p f hf) where
  clock := rfl
  artifacts := rfl
  started := rfl
  partials := rfl
  files := rfl
  sessions s hs hup := by
    obtain ⟨t, ht, rfl⟩ := List.mem_map.mp hs
    by_cases hp : p t = true
    · rw [Table.patch_pos hp] at hup ⊢
      exact ⟨t, ht, (hf t).symm, (hsame t).1.symm.trans hup, (hsame t).2.symm⟩
    · rw [Table.patch_neg hp] at hup ⊢
      exact ⟨t, ht, rfl, hup, rfl⟩

/-- **Time passes.** -/
theorem Inv.later (h : Inv H x l) (ms : Nat) :
    Inv H { x with db := { x.db with clock := x.db.clock + ms } } l where
  shelved := ⟨h.shelved.unique, h.shelved.paths, h.shelved.ready, h.shelved.sessions,
    h.shelved.single⟩
  placed z hz := by
    have hplc := h.placed z hz
    have hrec : ∀ id, Recent { x with db := { x.db with clock := x.db.clock + ms } } id →
        Recent x id := fun id hr a ha hid => le_trans (Nat.le_add_right _ ms) (hr a ha hid)
    refine ⟨hplc.row, hplc.path, hplc.session, hplc.started, hplc.found,
      hplc.unready, fun id hid hr => ?_, fun rows hrows r hr => ?_, hplc.rows,
      fun now hnow => le_trans (hplc.dated now hnow) (Nat.le_add_right _ ms)⟩
    · have hintact := hplc.intact id hid (hrec id hr)
      cases z <;> exact hintact
    · obtain ⟨hold, hunr⟩ := hplc.stale rows hrows r hr
      exact ⟨fun hr' => hold (hrec r.id hr'), hunr⟩
  apart := h.apart

/-- **A new row**, which is being staged; and a session for it, if it is an upload's. -/
structure Appended (H : ArtifactHost) (a : TransferArtifact) (x x' : Spool) : Prop where
  clock : x'.db.clock = x.db.clock
  artifacts : x'.db.artifacts = x.db.artifacts ++ [a]
  fresh : ∀ b ∈ x.db.artifacts, b.id ≠ a.id
  state : a.state = .staging ∧ a.deletedAt = none
  path : a.relativePath = a.id ++ ".artifact"
  started : x'.started = x.started
  partials : x'.partials = x.partials
  files : x'.files = x.files
  sessions : ∀ s ∈ x'.db.sessions, s.purpose = .upload → s ∈ x.db.sessions ∨
    s.artifactId = some a.id ∧ a.id = H.artifactOfSession s.id
  single : ∀ s ∈ x'.db.sessions, ∀ t ∈ x'.db.sessions, s ∉ x.db.sessions → t ∉ x.db.sessions →
    s.id = t.id

theorem Appended.recent (happ : Appended H a x x') (hr : Recent x' id) : Recent x id := by
  intro b hb hid
  have hage := hr b (by rw [happ.artifacts]; exact List.mem_append_left _ hb) hid
  rw [happ.clock] at hage
  exact hage

theorem Appended.unready (happ : Appended H a x x') (h : Unready x id) : Unready x' id := by
  intro b hb hid
  rw [happ.artifacts] at hb
  rcases List.mem_snoc.mp hb with hb | rfl
  · exact h b hb hid
  · rw [happ.state.1]
    decide

theorem Appended.exists_row (happ : Appended H a x x') (h : ∃ b ∈ x.db.artifacts, b.id = id) :
    ∃ b ∈ x'.db.artifacts, b.id = id := by
  obtain ⟨b, hb, hid⟩ := h
  exact ⟨b, by rw [happ.artifacts]; exact List.mem_append_left _ hb, hid⟩

theorem Appended.staged (happ : Appended H a x x') (h : Staged x id) : Staged x' id := by
  intro b hb hid
  rw [happ.artifacts] at hb
  rcases List.mem_snoc.mp hb with hb | rfl
  · exact h b hb hid
  · exact happ.state

theorem Placed.append (h : Placed H x z) (happ : Appended H a x x') :
    Placed H x' z where
  row j hj := happ.exists_row (h.row j hj)
  __ := h
  session j hj s hs hup hart := by
    rcases happ.sessions s hs hup with hold | ⟨hnew, -⟩
    · exact h.session j hj s hold hup hart
    · obtain ⟨b, hb, hid⟩ := h.row j hj
      exact absurd (hid.trans (Option.some.inj (hart.symm.trans hnew))) (happ.fresh b hb)
  started := by
    rw [happ.started]
    exact h.started
  found s hs hup := by
    obtain ⟨hart, hrow⟩ := h.found s hs hup
    exact ⟨hart, happ.exists_row hrow⟩
  unready job hjob := happ.unready (h.unready job hjob)
  intact j hj hrec := by
    have hold := h.intact j hj (happ.recent hrec)
    cases z with
    | began job => exact happ.staged hold
    | writing job content => exact ⟨happ.staged hold.1, by rw [happ.partials]; exact hold.2⟩
    | moved job content => exact ⟨happ.staged hold.1, by rw [happ.files]; exact hold.2⟩
    | _ => trivial
  stale rows hrows r hr := by
    obtain ⟨hold, hunr⟩ := h.stale rows hrows r hr
    exact ⟨fun hrec => hold (happ.recent hrec), happ.unready hunr⟩
  dated := by
    rw [happ.clock]
    exact h.dated

theorem Shelved.append (h : Shelved H x) (happ : Appended H a x x') :
    Shelved H x' where
  unique := by
    rw [happ.artifacts, List.map_append, List.map_singleton]
    refine List.nodup_append.mpr ⟨h.unique, List.nodup_singleton _, ?_⟩
    intro i hi j hj heq
    obtain ⟨b, hb, rfl⟩ := List.mem_map.mp hi
    exact happ.fresh b hb (heq.trans (List.mem_singleton.mp hj))
  paths b hb := by
    rw [happ.artifacts] at hb
    rcases List.mem_snoc.mp hb with hb | rfl
    · exact h.paths b hb
    · exact happ.path
  ready b hb hst hdel := by
    rw [happ.artifacts] at hb
    rcases List.mem_snoc.mp hb with hb | rfl
    · unfold Stored
      rw [happ.files]
      exact h.ready b hb hst hdel
    · rw [happ.state.1] at hst
      exact absurd hst (by decide)
  sessions s hs hup := by
    rcases happ.sessions s hs hup with hold | ⟨hnew, hid⟩
    · obtain ⟨hart, hrow⟩ := h.sessions s hold hup
      exact ⟨hart, happ.exists_row hrow⟩
    · refine ⟨hid ▸ hnew, a, ?_, hid⟩
      rw [happ.artifacts]
      exact List.mem_append_right _ List.mem_cons_self
  single s hs t ht hsupload htupload heq := by
    -- an old session has an artifact that is there, and a new one has the new artifact
    have hmixed : ∀ u ∈ x.db.sessions, u.purpose = .upload → u.artifactId ≠ some a.id := by
      intro u hu huupload hart
      obtain ⟨hold, b, hb, hid⟩ := h.sessions u hu huupload
      refine happ.fresh b hb (hid.trans ?_)
      exact Option.some.inj (hold.symm.trans hart)
    rcases happ.sessions s hs hsupload with hsold | ⟨hsnew, -⟩
    · rcases happ.sessions t ht htupload with htold | ⟨htnew, -⟩
      · exact h.single s hsold t htold hsupload htupload heq
      · exact absurd (heq.trans htnew) (hmixed s hsold hsupload)
    · rcases happ.sessions t ht htupload with htold | ⟨htnew, -⟩
      · exact absurd (heq.symm.trans hsnew) (hmixed t htold htupload)
      · refine happ.single s hs t ht (fun hold => ?_) fun hold => ?_
        · exact hmixed s hold hsupload hsnew
        · exact hmixed t hold htupload htnew

theorem Inv.append (h : Inv H x l) (happ : Appended H a x x') :
    Inv H x' l where
  shelved := h.shelved.append happ
  placed z hz := (h.placed z hz).append happ
  apart := h.apart

/-! ## What the instructions change -/

/-- An update of the rows of one artifact. -/
theorem beside_update {p : TransferArtifact → Bool} {f : TransferArtifact → TransferArtifact}
    (hp : ∀ a, p a = true → a.id = id)
    (hf : ∀ a, (f a).id = a.id ∧ (f a).relativePath = a.relativePath ∧
      (f a).createdAt = a.createdAt) : Beside id x (x.updateArtifacts p f) where
  clock := rfl
  sessions := rfl
  started := rfl
  rows := by
    refine ⟨fun a => if p a then f a else a, fun a => ?_, fun a ha => ?_, rfl⟩
    · by_cases hpa : p a = true
      · simp only [if_pos hpa]
        exact hf a
      · simp [hpa]
    · exact if_neg fun hpa => ha (hp a hpa)
  partials _ _ := rfl
  files _ _ := rfl

/-- A row after such an update. -/
theorem mem_update {p : TransferArtifact → Bool} {f : TransferArtifact → TransferArtifact}
    {b : TransferArtifact} (hb : b ∈ (x.updateArtifacts p f).db.artifacts) :
    ∃ a ∈ x.db.artifacts, p a = true ∧ b = f a ∨ p a ≠ true ∧ b = a := by
  obtain ⟨a, ha, rfl⟩ := List.mem_map.mp hb
  by_cases hp : p a = true
  · exact ⟨a, ha, .inl ⟨hp, if_pos hp⟩⟩
  · exact ⟨a, ha, .inr ⟨hp, if_neg hp⟩⟩

/-- Files of one artifact. -/
theorem beside_disk (partials files : JsMap String Content)
    (hpts : ∀ j, j ≠ id → partials.get j = x.partials.get j)
    (hfiles : ∀ j, j ≠ id → files.get (j ++ ".artifact") = x.files.get (j ++ ".artifact")) :
    Beside id x { x with partials := partials, files := files } where
  clock := rfl
  sessions := rfl
  started := rfl
  rows := ⟨fun a => a, fun _ => ⟨rfl, rfl, rfl⟩, fun _ _ => rfl, (List.map_id _).symm⟩
  partials := hpts
  files := hfiles

theorem onDisk_cases (x : Spool) (op : Except TransferError Spool) :
    (∃ e, x.onDisk op = (.error e, x)) ∨ ∃ x', op = .ok x' ∧ x.onDisk op = (.ok (), x') := by
  unfold Spool.onDisk
  split
  · exact .inl ⟨_, rfl⟩
  · cases op with
    | error e => exact .inl ⟨e, rfl⟩
    | ok x' => exact .inr ⟨x', rfl, rfl⟩

end Rows

end Meowbox.Transfers.Filing
