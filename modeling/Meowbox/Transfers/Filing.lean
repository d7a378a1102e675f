import Meowbox.Transfers.Artifacts

/-!
# How far a staging has come

The phases of the requests of the artifact service. A request that stages an artifact, or uploads
one, has a job: an artifact that no other request fills. It begins with the row, writes the partial
file, moves it, and marks the row; or it gives up and removes both files. The other requests have
rows that they have read and are about to remove.

* `filing`: which instruction each phase allows.
-/

namespace Meowbox.Transfers.Filing

open Interleaved Fallible

/-- An artifact that is being filled, by `stage` or by the upload of a session. -/
structure Job where
  id : String
  relativePath : String
  session : Option String
deriving DecidableEq

inductive Work
  | idle
  | dated (now : Nat)
  | found (session : TransferSession)
  | claimed (id sessionId : String)
  | began (job : Job)
  | writing (job : Job) (content : Content)
  | moved (job : Job) (content : Content)
  | failing (job : Job)
  | reaping (stale : List TransferArtifact)
  | removing (rows : List TransferArtifact)
deriving DecidableEq

namespace Work

/-- The request has read nothing that matters yet. -/
def Free : Work → Prop
  | idle | dated _ => True
  | _ => False

def job : Work → Option Job
  | began job | writing job _ | moved job _ | failing job => some job
  | _ => none

/-- The artifact that only this request fills. -/
def owner : Work → Option String
  | claimed id _ => some id
  | y => y.job.map Job.id

/-- The upload session of the request. -/
def session : Work → Option String
  | claimed _ sessionId => some sessionId
  | y => y.job.bind Job.session

/-- The artifact whose staging is in progress. -/
def staging : Work → Option String
  | began job | writing job _ | moved job _ => some job.id
  | _ => none

/-- The rows the request is about to remove. -/
def rows : Work → List TransferArtifact
  | reaping rows | removing rows => rows
  | _ => []

/-- The rows of a revocation and of a cleanup. -/
def removed : Work → List TransferArtifact
  | removing rows => rows
  | _ => []

end Work

/-- The order of a staging, and of a removal. -/
def filing (H : ArtifactHost) : Protocol Work ArtifactInstr ArtifactReply where
  allows y
    | .findSession _ => y.Free
    | .claimUpload id => ∃ session, y = .found session ∧ id = session.id ∧
        session.purpose = .upload ∧ session.artifactId.isSome = true
    | .create artifact => y.Free ∧ artifact.state = .staging ∧ artifact.deletedAt = none ∧
        artifact.relativePath = artifact.id ++ ".artifact"
    | .findArtifact id => y.Free ∨ ∃ sessionId, y = .claimed id sessionId
    | .openPartial id => ∃ job, y = .began job ∧ job.id = id
    | .write id _ => ∃ job content, y = .writing job content ∧ job.id = id
    | .rename id relativePath => ∃ job content, y = .writing job content ∧ job.id = id ∧
        job.relativePath = relativePath
    | .setReady id sizeBytes sha256 _ => ∃ job content, y = .moved job content ∧ job.id = id ∧
        sizeBytes = content.length ∧ sha256 = H.digest content
    | .setUploaded id sizeBytes sha256 _ => ∃ job content, y = .moved job content ∧ job.id = id ∧
        sizeBytes = content.length ∧ sha256 = H.digest content
    | .unlinkPartial id =>
        (∃ job, y.job = some job ∧ job.id = id) ∨ y.job = none ∧ ∃ a ∈ y.rows, a.id = id
    | .unlinkArtifact relativePath => (∃ job, y.job = some job ∧ job.relativePath = relativePath) ∨
        y.job = none ∧ ∃ a ∈ y.rows, a.relativePath = relativePath
    | .setFailed id _ => (∃ job, y = .failing job ∧ job.id = id) ∨
        ∃ stale, y = .reaping stale ∧ ∃ a ∈ stale, a.id = id
    | .setDeleted id _ => ∃ rows, y = .removing rows ∧ ∃ a ∈ rows, a.id = id
    | .findStale before => ∃ now, y = .dated now ∧ before = now - STAGING_STALE_MS
    | .findExpired _ => y.owner = none
    | _ => True
  after y
    | .now, now =>
      match y with
      | .idle | .dated _ => .dated now
      | y => y
    | .findSession _, some session => .found session
    | .claimUpload _, true =>
      match y with
      | .found session => .claimed (session.artifactId.getD "") session.id
      | y => y
    | .create artifact, true => .began ⟨artifact.id, artifact.relativePath, none⟩
    | .findArtifact _, some a =>
      match y with
      | .claimed _ sessionId =>
        if a.state = .staging ∧ a.deletedAt.isNone = true then
          .began ⟨a.id, a.relativePath, some sessionId⟩
        else y
      | _ => .removing [a]
    | .openPartial _, .ok _ =>
      match y with
      | .began job => .writing job []
      | y => y
    | .write _ chunk, .ok _ =>
      match y with
      | .writing job content => .writing job (content ++ chunk)
      | y => y
    | .rename _ _, .ok _ =>
      match y with
      | .writing job content => .moved job content
      | y => y
    | .setReady _ _ _ _, _ => .idle
    | .setUploaded _ _ _ _, true => .idle
    | .unlinkPartial _, _ => (y.job.map Work.failing).getD y
    | .unlinkArtifact _, _ => (y.job.map Work.failing).getD y
    | .setFailed _ _, _ =>
      match y with
      | .failing _ => .idle
      | y => y
    | .findStale _, rows => .reaping rows
    | .findExpired _, rows => .removing rows
    | _, _ => y

/-- Nothing is said of how a request ends. -/
def Whatever {α : Type} (_ : Work) (_ : Except TransferError α) : Prop := True

section Programs

variable {H : ArtifactHost} {α β : Type} {y : Work} {job : Job}

/-- A check, and what follows it. -/
theorem follows_checked {e : Except TransferError α} {f : α → ArtifactCall β}
    (hf : ∀ a, e = .ok a → Fallible.Follows (filing H) Whatever y (f a)) :
    Fallible.Follows (filing H) Whatever y (Fallible.ofExcept e >>= f) :=
  follows_ofExcept_bind hf fun _ _ => trivial

/-- The file grows. -/
theorem receive_filing (budget : Nat) (exceeded : TransferError) (chunks : List Content) :
    ∀ written, Fallible.Follows (filing H)
      (fun z r => ∃ content, z = .writing job content ∧ ∀ w, r = .ok w → w = content)
      (.writing job written) (receive job.id budget exceeded chunks written) := by
  induction chunks with
  | nil =>
    intro written
    exact follows_pure ⟨written, rfl, fun w hw => (Except.ok.inj hw).symm⟩
  | cons chunk chunks ih =>
    intro written
    unfold receive
    split
    · exact follows_throw ⟨written, rfl, fun w hw => by cases hw⟩
    · refine follows_ask? ⟨job, written, rfl, rfl⟩ ?_ ?_
      · rintro r a rfl
        exact ih (written ++ chunk)
      · rintro r e rfl
        exact ⟨written, rfl, fun w hw => by cases hw⟩

/-- **A file is deposited, or the request still has its job.** -/
theorem deposit_filing (job : Job) (budget : Nat) (exceeded : TransferError) (chunks : List Content)
    (sourceFails : Bool) (expected : Option Nat) :
    Fallible.Follows (filing H)
      (fun z r => z.job = some job ∧ ∀ w, r = .ok w → z = .moved job w) (.began job)
      (deposit job.id job.relativePath budget exceeded chunks sourceFails expected) := by
  unfold deposit
  refine follows_ask? ⟨job, rfl, rfl⟩ ?_ ?_
  · rintro r a rfl
    refine follows_bind (receive_filing budget exceeded chunks []) ?_ ?_
    · rintro z w ⟨content, rfl, hw⟩
      obtain rfl := hw w rfl
      split
      · exact follows_throw ⟨rfl, fun w hw => by cases hw⟩
      · split
        · exact follows_throw ⟨rfl, fun w hw => by cases hw⟩
        · refine follows_ask? trivial ?_ fun _ _ _ => ⟨rfl, fun w hw => by cases hw⟩
          rintro r a -
          refine follows_ask? ⟨job, w, rfl, rfl, rfl⟩ ?_ ?_
          · rintro r a rfl
            refine follows_ask? trivial ?_ fun _ _ _ => ⟨rfl, fun w hw => by cases hw⟩
            rintro r a -
            refine follows_ask? trivial ?_ fun _ _ _ => ⟨rfl, fun w hw => by cases hw⟩
            rintro r a -
            refine follows_pure ⟨rfl, fun v hv => ?_⟩
            obtain rfl := Except.ok.inj hv
            rfl
          · rintro r e rfl
            exact ⟨rfl, fun w hw => by cases hw⟩
    · rintro z e ⟨content, rfl, -⟩
      exact ⟨rfl, fun w hw => by cases hw⟩
  · rintro r e rfl
    exact ⟨rfl, fun w hw => by cases hw⟩

/-- Both files of a job are removed. -/
theorem unlinkOwn_filing (hy : y.job = some job) :
    Fallible.Follows (filing H) (fun z _ => z = .failing job) y
      (unlinkBoth job.id job.relativePath) := by
  have hpart : (filing H).allows y (.unlinkPartial job.id) := .inl ⟨job, hy, rfl⟩
  have hfile : (filing H).allows y (.unlinkArtifact job.relativePath) := .inl ⟨job, hy, rfl⟩
  have haft : ∀ r, (filing H).after y (.unlinkPartial job.id) r = .failing job := fun r => by
    change (y.job.map Work.failing).getD y = _
    rw [hy]
    rfl
  have haft' : ∀ r, (filing H).after y (.unlinkArtifact job.relativePath) r = .failing job :=
    fun r => by
      change (y.job.map Work.failing).getD y = _
      rw [hy]
      rfl
  unfold unlinkBoth
  refine follows_ask trivial fun partialFirst => ?_
  change Fallible.Follows (filing H) _ y _
  split
  · refine follows_ask hpart fun first => ?_
    rw [haft]
    refine follows_ask (.inl ⟨job, rfl, rfl⟩) fun second => ?_
    exact follows_ofExcept_bind (fun _ _ => follows_ofExcept rfl) fun _ _ => rfl
  · refine follows_ask hfile fun first => ?_
    rw [haft']
    refine follows_ask (.inl ⟨job, rfl, rfl⟩) fun second => ?_
    exact follows_ofExcept_bind (fun _ _ => follows_ofExcept rfl) fun _ _ => rfl

/-- **A job is given up.** -/
theorem giveUp_filing (job : Job) (hy : y.job = some job) (e : TransferError) :
    Fallible.Follows (filing H) Whatever y (giveUp job.id job.relativePath e) := by
  unfold giveUp
  refine follows_bind (unlinkOwn_filing hy) ?_ fun _ _ _ => trivial
  rintro z _ rfl
  refine follows_ask trivial fun failedAt => follows_ask (.inl ⟨job, rfl, rfl⟩) fun _ => ?_
  exact follows_throw trivial

theorem stageFile_filing (job : Job) (input : StageArtifactInput) :
    Fallible.Follows (filing H) (fun z r => ∀ e, r = .error e → z.job = some job) (.began job)
      (stageFile H input job.id job.relativePath) := by
  unfold stageFile
  split
  · exact follows_throw fun e _ => rfl
  · refine follows_bind (deposit_filing _ _ _ _ _ _) ?_ fun z e hz _ _ => hz.1
    rintro z content ⟨-, hz⟩
    obtain rfl := hz content rfl
    refine follows_ask trivial fun readyAt => follows_ask ⟨job, content, rfl, rfl, rfl, rfl⟩ fun _ => ?_
    exact follows_pure fun e he => by cases he

theorem validateStage_filing (hy : y.Free) (input : StageArtifactInput) :
    Fallible.Follows (filing H) (fun z _ => z.Free) y (validateStage H input) := by
  unfold validateStage
  refine follows_ofExcept_bind (fun _ _ => ?_) fun _ _ => hy
  refine follows_ofExcept_bind (fun _ _ => ?_) fun _ _ => hy
  refine follows_ofExcept_bind (fun _ _ => ?_) fun _ _ => hy
  refine follows_ask trivial fun now => ?_
  have hdt : ((filing H).after y .now now).Free := by
    cases y with
    | idle => trivial
    | dated t => trivial
    | _ => exact hy.elim
  split
  · exact follows_throw hdt
  · exact follows_pure hdt

theorem stage_filing (input : StageArtifactInput) :
    Fallible.Follows (filing H) Whatever .idle (stage H input) := by
  unfold stage
  refine follows_bind (validateStage_filing (y := .idle) trivial input) ?_ fun _ _ _ => trivial
  intro y _ hy
  refine follows_ask? trivial (fun _ _ _ => ?_) fun _ _ _ => trivial
  refine follows_ask? trivial (fun _ _ _ => ?_) fun _ _ _ => trivial
  refine follows_ask trivial fun installationId => follows_ask trivial fun id => ?_
  refine follows_checked fun _ _ => follows_ask ⟨hy, rfl, rfl, rfl⟩ fun created => ?_
  cases created with
  | false => exact follows_throw trivial
  | true =>
    refine follows_attempt (stageFile_filing ⟨id, id ++ ".artifact", none⟩ input) ?_
    intro z r hz
    cases r with
    | ok result => exact follows_pure trivial
    | error e => exact giveUp_filing _ (hz e rfl) e

theorem uploadFile_filing (artifact : TransferArtifact) {session : Option String}
    (contentLength : Nat) (chunks : List Content) (sourceFails : Bool) :
    Fallible.Follows (filing H)
      (fun z r => ∀ e, r = .error e → z.job = some ⟨artifact.id, artifact.relativePath, session⟩)
      (.began ⟨artifact.id, artifact.relativePath, session⟩)
      (uploadFile H artifact contentLength chunks sourceFails) := by
  unfold uploadFile
  refine follows_bind (deposit_filing ⟨artifact.id, artifact.relativePath, session⟩
    _ _ _ _ _) ?_ fun z e hz _ _ => hz.1
  rintro z content ⟨-, hz⟩
  obtain rfl := hz content rfl
  refine follows_ask trivial fun readyAt =>
    follows_ask ⟨_, content, rfl, rfl, rfl, rfl⟩ fun updated => ?_
  cases updated with
  | true => exact follows_pure fun e he => by cases he
  | false => exact follows_throw fun e _ => rfl

theorem assertUpload_ok {artifact : TransferArtifact} {session : TransferSession}
    (h : assertUploadArtifactMatchesSession artifact session = .ok ()) :
    artifact.state = .staging ∧ artifact.deletedAt.isNone = true := by
  unfold assertUploadArtifactMatchesSession at h
  split at h
  · exact absurd h (by simp)
  · rename_i hmat
    simp only [not_or, not_not] at hmat
    exact ⟨hmat.1, by simpa using hmat.2.1⟩

theorem uploadClaimed_filing (session : TransferSession) (artifactId sessionId : String)
    (contentLength : Nat) (chunks : List Content) (sourceFails : Bool) :
    Fallible.Follows (filing H) Whatever (.claimed artifactId sessionId)
      (uploadClaimed H session artifactId contentLength chunks sourceFails) := by
  unfold uploadClaimed
  refine follows_ask trivial fun now => follows_checked fun _ _ => ?_
  refine follows_ask? trivial (fun _ _ _ => ?_) fun _ _ _ => trivial
  refine follows_ask (.inr ⟨sessionId, rfl⟩) fun found => ?_
  cases found with
  | none => exact follows_throw trivial
  | some artifact =>
    refine follows_checked fun _ hmat => follows_checked fun _ _ => ?_
    have hbegan : (filing H).after (.claimed artifactId sessionId) (.findArtifact artifactId)
        (some artifact) = .began ⟨artifact.id, artifact.relativePath, some sessionId⟩ :=
      if_pos (assertUpload_ok hmat)
    change Fallible.Follows (filing H) Whatever ((filing H).after (.claimed artifactId sessionId)
      (.findArtifact artifactId) (some artifact)) _
    rw [hbegan]
    refine follows_attempt (uploadFile_filing artifact contentLength chunks sourceFails) ?_
    intro z r hz
    cases r with
    | ok result => exact follows_pure trivial
    | error e =>
      exact giveUp_filing ⟨artifact.id, artifact.relativePath, some sessionId⟩ (hz e rfl) e

theorem upload_filing (sessionId : String) (chunks : List Content) (sourceFails : Bool) :
    Fallible.Follows (filing H) Whatever .idle (upload H sessionId chunks sourceFails) := by
  unfold upload
  refine follows_ask trivial fun found => ?_
  cases found with
  | none => exact follows_throw trivial
  | some session =>
    dsimp only
    split
    · exact follows_throw trivial
    · rename_i hkind
      have hpurpose : session.purpose = .upload := by
        by_contra hne
        exact hkind (.inl hne)
      cases hart : session.artifactId with
      | none => exact follows_throw trivial
      | some artifactId =>
        cases session.contentLength with
        | none => exact follows_throw trivial
        | some contentLength =>
          have halw : (filing H).allows (.found session) (.claimUpload session.id) :=
            ⟨session, rfl, rfl, hpurpose, by rw [hart]; rfl⟩
          refine follows_ask halw fun claimed => ?_
          cases claimed with
          | false => exact follows_throw trivial
          | true =>
            have hcl : (filing H).after (.found session) (.claimUpload session.id) true =
                .claimed artifactId session.id := by
              change Work.claimed (session.artifactId.getD "") session.id = _
              rw [hart]
              rfl
            change Fallible.Follows (filing H) Whatever
              ((filing H).after (.found session) (.claimUpload session.id) true) _
            rw [hcl]
            exact uploadClaimed_filing session artifactId session.id contentLength chunks sourceFails

/-- A request removes the files of a row it has read. -/
theorem unlinkFiles_filing {artifact : TransferArtifact} (hjob : y.job = none)
    (hrow : artifact ∈ y.rows) :
    Fallible.Follows (filing H) (fun z _ => z = y) y (unlinkFiles artifact) := by
  have hpart : (filing H).allows y (.unlinkPartial artifact.id) :=
    .inr ⟨hjob, artifact, hrow, rfl⟩
  have hfile : (filing H).allows y (.unlinkArtifact artifact.relativePath) :=
    .inr ⟨hjob, artifact, hrow, rfl⟩
  have haft : ∀ r, (filing H).after y (.unlinkPartial artifact.id) r = y := fun r => by
    change (y.job.map Work.failing).getD y = y
    rw [hjob]
    rfl
  have haft' : ∀ r, (filing H).after y (.unlinkArtifact artifact.relativePath) r = y :=
    fun r => by
      change (y.job.map Work.failing).getD y = y
      rw [hjob]
      rfl
  unfold unlinkFiles
  split
  · unfold unlinkBoth
    refine follows_ask trivial fun partialFirst => ?_
    change Fallible.Follows (filing H) _ y _
    split
    · refine follows_ask hpart fun first => ?_
      rw [haft]
      refine follows_ask hfile fun second => ?_
      rw [haft']
      exact follows_ofExcept_bind (fun _ _ => follows_ofExcept rfl) fun _ _ => rfl
    · refine follows_ask hfile fun first => ?_
      rw [haft']
      refine follows_ask hpart fun second => ?_
      rw [haft]
      exact follows_ofExcept_bind (fun _ _ => follows_ofExcept rfl) fun _ _ => rfl
  · refine follows_ask hpart fun first => ?_
    rw [haft]
    exact follows_throw rfl

theorem revoke_filing (input : RevokeArtifactInput) :
    Fallible.Follows (filing H) Whatever .idle (revoke input) := by
  unfold revoke
  refine follows_checked fun _ _ => ?_
  split
  · exact follows_throw trivial
  · refine follows_ask (.inl trivial) fun found => ?_
    cases found with
    | none => exact follows_pure trivial
    | some artifact =>
      dsimp only
      split
      · exact follows_pure trivial
      · split
        · exact follows_throw trivial
        · refine follows_ask trivial fun now => follows_ask trivial fun _ => ?_
          refine follows_bind (unlinkFiles_filing (y := .removing [artifact]) rfl
            List.mem_cons_self) ?_ fun _ _ _ => trivial
          rintro z _ rfl
          refine follows_ask ⟨[artifact], rfl, artifact, List.mem_cons_self, rfl⟩ fun _ => ?_
          exact follows_pure trivial

theorem removeExpired_filing (now : Nat) {all : List TransferArtifact}
    (rows : List TransferArtifact) (hrows : ∀ a ∈ rows, a ∈ all) :
    Fallible.Follows (filing H) Whatever (.removing all) (removeExpired now rows) := by
  induction rows with
  | nil => exact follows_pure trivial
  | cons artifact rows ih =>
    have hmem := hrows artifact List.mem_cons_self
    have hrest := ih fun a ha => hrows a (List.mem_cons_of_mem artifact ha)
    unfold removeExpired
    refine follows_ask trivial fun active => ?_
    split
    · exact hrest
    · refine follows_checked fun _ _ => ?_
      refine follows_ask? (.inr ⟨rfl, artifact, hmem, rfl⟩) (fun _ _ _ => ?_) fun _ _ _ => trivial
      refine follows_ask ⟨all, rfl, artifact, hmem, rfl⟩ fun _ => ?_
      exact hrest

theorem cleanupExpired_filing
    (hnow : ∀ now, ((filing H).after y .now now).owner = none) :
    Fallible.Follows (filing H) Whatever y cleanupExpired := by
  unfold cleanupExpired
  refine follows_ask trivial fun now => follows_ask (hnow now) fun rows => ?_
  exact removeExpired_filing now rows fun a ha => ha

theorem removeStale_filing {all : List TransferArtifact} (rows : List TransferArtifact)
    (hrows : ∀ a ∈ rows, a ∈ all) :
    Fallible.Follows (filing H) (fun z _ => z = .reaping all) (.reaping all) (removeStale rows) := by
  induction rows with
  | nil => exact follows_pure rfl
  | cons artifact rows ih =>
    have hmem := hrows artifact List.mem_cons_self
    have hrest := ih fun a ha => hrows a (List.mem_cons_of_mem artifact ha)
    unfold removeStale
    refine follows_ask trivial fun failedAt => ?_
    refine follows_bind (unlinkFiles_filing (y := .reaping all) rfl hmem) ?_ ?_
    · rintro z _ rfl
      refine follows_ask (.inr ⟨all, rfl, artifact, hmem, rfl⟩) fun _ => ?_
      exact follows_ask trivial fun _ => hrest
    · rintro z e rfl
      rfl

theorem reconcile_filing : Fallible.Follows (filing H) Whatever .idle reconcileAndCleanup := by
  unfold reconcileAndCleanup
  refine follows_ask trivial fun now => follows_ask ⟨now, rfl, rfl⟩ fun stale => ?_
  refine follows_bind (removeStale_filing stale fun a ha => ha) ?_ fun _ _ _ => trivial
  rintro z _ rfl
  exact cleanupExpired_filing fun _ => rfl

theorem deliver_filing (session : TransferSession) :
    Fallible.Follows (filing H) Whatever .idle (requireArtifact session) := by
  unfold requireArtifact
  refine follows_ask trivial fun now => ?_
  split
  · exact follows_throw trivial
  · refine follows_ask (.inl trivial) fun found => ?_
    cases found with
    | none => exact follows_throw trivial
    | some artifact =>
      refine follows_checked fun _ _ => follows_checked fun _ _ => ?_
      refine follows_ask trivial fun size => ?_
      split
      · exact follows_ask trivial fun _ => follows_throw trivial
      · exact follows_pure trivial

/-- **Every request keeps to the order.** -/
theorem request_filing (request : ArtifactRequest) :
    ((artifacts H).program request).Follows (filing H) Whatever .idle := by
  cases request with
  | stage input => exact stage_filing input
  | upload sessionId chunks sourceFails => exact upload_filing sessionId chunks sourceFails
  | revoke input => exact revoke_filing input
  | reconcileAndCleanup => exact reconcile_filing
  | cleanupExpired => exact cleanupExpired_filing fun _ => rfl
  | deliver session => exact deliver_filing session

end Programs

end Meowbox.Transfers.Filing
