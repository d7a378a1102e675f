import Meowbox.Transfers.Sessions

/-!
# The limits on transfer sessions

`assertAdmission` counts the sessions of the last minute, the active ones of the actor and the
active ones of the target, and the session is created behind it, in a statement of its own. As long
as none of the three numbers has grown when a request creates its session, the limits hold; two
requests that count before either creates get past them.

* `Stage`: the counts a request has taken.
* `request_stages`: a request creates a session behind counts of its own that are below the limits.
* `Limits.create`: what those counts are good for.
* `limits_hold`, `limits_exceeded`: the two cases.
-/

namespace Meowbox.Transfers

open Interleaved Fallible Relational

/-! ## Stages -/

/-- What a request has counted. -/
inductive Stage
  | fresh
  | dated (now : Nat)
  | recentCounted (actorUserId : String) (now recent : Nat)
  | actorCounted (actorUserId : String) (now recent actorActive : Nat)
  | counted (actorUserId targetInstallationId : String) (now recent actorActive targetActive : Nat)
deriving DecidableEq

/-- The counts are below the limits, and of the session's own actor and target. -/
def Stage.Admits (C : TransferHost) (s : TransferSession) (y : Stage) : Prop :=
  ∃ now recent actorActive targetActive,
    y = .counted s.actorUserId s.targetInstallationId now recent actorActive targetActive ∧
      recent < C.maxNewPerMinute ∧ actorActive < C.maxActivePerActor ∧
        targetActive < C.maxActivePerTarget

/-- The order of the counts. -/
def admission (C : TransferHost) : Protocol Stage TransferInstr TransferReply where
  allows y
    | .countRecent _ now => y = .dated now
    | .countActorActive actorUserId now => ∃ recent, y = .recentCounted actorUserId now recent
    | .countTargetActive _ now => ∃ actorUserId recent actorActive,
        y = .actorCounted actorUserId now recent actorActive
    | .create session => y.Admits C session
    | .createUpload session _ => y.Admits C session
    | _ => True
  after y
    | .now, now => .dated now
    | .countRecent actorUserId now, recent => .recentCounted actorUserId now recent
    | .countActorActive _ _, actorActive =>
      match y with
      | .recentCounted actorUserId now recent => .actorCounted actorUserId now recent actorActive
      | y => y
    | .countTargetActive targetInstallationId _, targetActive =>
      match y with
      | .actorCounted actorUserId now recent actorActive =>
        .counted actorUserId targetInstallationId now recent actorActive targetActive
      | y => y
    | .create _, _ => .fresh
    | .createUpload _ _, _ => .fresh
    | _, _ => y

/-- Nothing is said of how a request ends. -/
def AnyEnd {α : Type} (_ : Stage) (_ : Except TransferError α) : Prop := True

/-- The part ends at the stage. -/
def At {α : Type} (z y : Stage) (_ : Except TransferError α) : Prop := y = z

section Programs

variable {C : TransferHost} {α β : Type} {y : Stage}

/-- A part that ends where it began, and what follows it. -/
theorem follows_part {c : TransferCall α} {f : α → TransferCall β}
    (hc : Fallible.Follows (admission C) (At y) y c)
    (hf : ∀ a, Fallible.Follows (admission C) AnyEnd y (f a)) :
    Fallible.Follows (admission C) AnyEnd y (c >>= f) := by
  refine follows_bind hc ?_ fun _ _ _ => trivial
  rintro z a rfl
  exact hf a

/-- A check, and what follows it. -/
theorem follows_check {e : Except TransferError α} {f : α → TransferCall β}
    (hf : ∀ a, Fallible.Follows (admission C) AnyEnd y (f a)) :
    Fallible.Follows (admission C) AnyEnd y (Fallible.ofExcept e >>= f) :=
  follows_ofExcept_bind (fun a _ => hf a) fun _ _ => trivial

theorem follows_last {e : Except TransferError α} :
    Fallible.Follows (admission C) AnyEnd y (Fallible.ofExcept e) :=
  follows_ofExcept trivial

theorem validateIssue_stages (input : IssueGeneratedStreamInput) :
    Fallible.Follows (admission C) (At y) y (validateIssue input) := by
  unfold validateIssue
  refine follows_ofExcept_bind (fun _ _ => ?_) fun _ _ => rfl
  refine follows_ofExcept_bind (fun _ _ => ?_) fun _ _ => rfl
  refine follows_ofExcept_bind (fun _ _ => ?_) fun _ _ => rfl
  split
  · exact follows_throw rfl
  · refine follows_ask trivial fun registered => ?_
    dsimp only
    split
    · exact follows_throw rfl
    · exact follows_pure rfl

theorem drawSession_stages : Fallible.Follows (admission C) (At y) y drawSession :=
  follows_ask trivial fun _ => follows_pure rfl

/-- Behind the check the counts are below the limits. -/
theorem assertAdmission_stages (actorUserId targetInstallationId : String) (now : Nat) :
    Fallible.Follows (admission C) (fun z r => r = .ok () →
      ∃ recent actorActive targetActive,
        z = .counted actorUserId targetInstallationId now recent actorActive targetActive ∧
          recent < C.maxNewPerMinute ∧ actorActive < C.maxActivePerActor ∧
            targetActive < C.maxActivePerTarget)
      (.dated now) (assertAdmission C actorUserId targetInstallationId now) := by
  unfold assertAdmission
  refine follows_ask rfl fun recent => follows_ask ⟨recent, rfl⟩ fun actorActive =>
    follows_ask ⟨actorUserId, recent, actorActive, rfl⟩ fun targetActive => ?_
  split
  · exact follows_throw fun h => nomatch h
  · rename_i hrec
    split
    · exact follows_throw fun h => nomatch h
    · rename_i hactor
      split
      · exact follows_throw fun h => nomatch h
      · rename_i htgt
        exact follows_pure fun _ => ⟨recent, actorActive, targetActive, rfl,
          Nat.not_le.mp hrec, Nat.not_le.mp hactor, Nat.not_le.mp htgt⟩

/-- The check, and what follows it. -/
theorem follows_admission {actorUserId targetInstallationId : String} {now : Nat}
    {f : Unit → TransferCall β}
    (hf : ∀ z, (∀ s : TransferSession, s.actorUserId = actorUserId →
        s.targetInstallationId = targetInstallationId → z.Admits C s) →
      Fallible.Follows (admission C) AnyEnd z (f ())) :
    Fallible.Follows (admission C) AnyEnd (.dated now)
      (assertAdmission C actorUserId targetInstallationId now >>= f) := by
  refine follows_bind (assertAdmission_stages actorUserId targetInstallationId now) ?_
    fun _ _ _ => trivial
  intro z u hz
  obtain ⟨recent, actorActive, targetActive, rfl, hbel⟩ := hz rfl
  refine hf _ fun s hactor htgt => ?_
  subst hactor htgt
  exact ⟨now, recent, actorActive, targetActive, rfl, hbel⟩

/-- The session is created, and the request ends with its delivery. -/
theorem createSession_stages {s : TransferSession} {f : Unit → TransferCall β}
    (hs : y.Admits C s) (hf : Fallible.Follows (admission C) AnyEnd .fresh (f ())) :
    Fallible.Follows (admission C) AnyEnd y (createSession s >>= f) :=
  follows_ask? hs (fun _ _ _ => hf) fun _ _ _ => trivial

theorem issueGeneratedStream_stages (input : IssueGeneratedStreamInput) :
    Fallible.Follows (admission C) AnyEnd y (issueGeneratedStream C input) := by
  unfold issueGeneratedStream
  refine follows_part (validateIssue_stages input) fun _ => ?_
  refine follows_ask? trivial (fun _ publicOrigin _ => ?_) fun _ _ _ => trivial
  refine follows_ask trivial fun installationId => follows_ask trivial fun now => ?_
  dsimp only
  split
  · exact follows_throw trivial
  · refine follows_admission fun z hz => follows_part drawSession_stages fun drawn => ?_
    exact createSession_stages (hz _ rfl rfl) follows_last

theorem issueStagedArtifact_stages (input : IssueStagedArtifactInput) :
    Fallible.Follows (admission C) AnyEnd y (issueStagedArtifact C input) := by
  unfold issueStagedArtifact
  refine follows_check fun _ => follows_ask trivial fun registered => ?_
  split
  · exact follows_throw trivial
  refine follows_ask? trivial (fun _ publicOrigin _ => ?_) fun _ _ _ => trivial
  refine follows_ask trivial fun found => ?_
  split
  · exact follows_throw trivial
  · refine follows_ask trivial fun checkedAt => follows_check fun _ =>
      follows_ask trivial fun installationId => ?_
    split
    · exact follows_throw trivial
    · refine follows_ask trivial fun now => follows_admission fun z hz =>
        follows_part drawSession_stages fun drawn => ?_
      exact createSession_stages (hz _ rfl rfl) follows_last

theorem replayStagedUpload_stages (session : TransferSession) (secret artifactId : String)
    (input : IssueStagedUploadInput) (publicOrigin : String) :
    Fallible.Follows (admission C) AnyEnd y
      (replayStagedUpload C session secret artifactId input publicOrigin) := by
  unfold replayStagedUpload
  split
  · exact follows_throw trivial
  · refine follows_ask trivial fun now => ?_
    split
    · exact follows_throw trivial
    · exact follows_last

theorem issueStagedUpload_stages (input : IssueStagedUploadInput) :
    Fallible.Follows (admission C) AnyEnd y (issueStagedUpload C input) := by
  unfold issueStagedUpload
  refine follows_check fun _ => follows_check fun _ => follows_check fun _ => ?_
  split
  · exact follows_throw trivial
  refine follows_ask trivial fun registered => ?_
  split
  · exact follows_throw trivial
  refine follows_ask? trivial (fun _ publicOrigin _ => ?_) fun _ _ _ => trivial
  refine follows_ask trivial fun installationId => follows_ask trivial fun now => ?_
  dsimp only
  split
  · exact follows_throw trivial
  refine follows_ask trivial fun existing => ?_
  split
  · exact replayStagedUpload_stages _ _ _ _ _
  · refine follows_ask? trivial (fun _ _ _ => ?_) fun _ _ _ => trivial
    refine follows_admission fun z hz => ?_
    refine follows_ask (hz _ rfl rfl) fun created => ?_
    split
    · exact follows_last
    · refine follows_ask trivial fun raced => ?_
      split
      · exact replayStagedUpload_stages _ _ _ _ _
      · exact follows_throw trivial

/-- **Every request counts before it creates.** -/
theorem request_stages (request : TransferRequest) :
    ((transfers C).program request).Follows (admission C) AnyEnd .fresh := by
  cases request with
  | generatedStream input => exact issueGeneratedStream_stages input
  | stagedArtifact input => exact issueStagedArtifact_stages input
  | stagedUpload input => exact issueStagedUpload_stages input

end Programs

/-! ## The limits -/

/-- What `assertAdmission` limits. -/
inductive LimitKind
  | recent (actorUserId : String)
  | actorActive (actorUserId : String)
  | targetActive (targetInstallationId : String)

namespace LimitKind

def bound (C : TransferHost) : LimitKind → Nat
  | recent _ => C.maxNewPerMinute
  | actorActive _ => C.maxActivePerActor
  | targetActive _ => C.maxActivePerTarget

/-- A session counts at the time. -/
def counts (now : Nat) (s : TransferSession) : LimitKind → Bool
  | recent actorUserId => decide (s.actorUserId = actorUserId) && decide (now ≤ s.createdAt + 60000)
  | actorActive actorUserId => decide (s.actorUserId = actorUserId) && TransferDb.active now s
  | targetActive targetInstallationId =>
    decide (s.targetInstallationId = targetInstallationId) && TransferDb.active now s

/-- The sessions that count at the time. -/
def count (x : TransferDb) (now : Nat) (kind : LimitKind) : Nat :=
  x.sessions.count fun s => kind.counts now s

end LimitKind

/-- **The limits**: the sessions of the last minute, and the active ones, of every actor and of
every target. -/
def Limits (C : TransferHost) (x : TransferDb) : Prop :=
  (∀ actorUserId, x.countRecent actorUserId x.clock ≤ C.maxNewPerMinute) ∧
  (∀ actorUserId, x.countActorActive actorUserId x.clock ≤ C.maxActivePerActor) ∧
  ∀ targetInstallationId, x.countTargetActive targetInstallationId x.clock ≤ C.maxActivePerTarget

theorem limits_iff {C : TransferHost} {x : TransferDb} :
    Limits C x ↔ ∀ kind : LimitKind, kind.count x x.clock ≤ kind.bound C := by
  constructor
  · rintro ⟨hrec, hactor, htgt⟩ kind
    cases kind with
    | recent actorUserId => exact hrec actorUserId
    | actorActive actorUserId => exact hactor actorUserId
    | targetActive targetInstallationId => exact htgt targetInstallationId
  · intro h
    exact ⟨fun a => h (.recent a), fun a => h (.actorActive a), fun t => h (.targetActive t)⟩

section Counts

variable {C : TransferHost} {x : TransferDb} {kind : LimitKind} {now now' : Nat}

theorem active_fades {s : TransferSession} (hle : now ≤ now')
    (h : TransferDb.active now' s = true) : TransferDb.active now s = true := by
  obtain ⟨hexpires, hopen⟩ := Bool.and_eq_true_iff.mp h
  have hlat := of_decide_eq_true hexpires
  exact Bool.and_eq_true_iff.mpr ⟨decide_eq_true (by omega), hopen⟩

/-- What counts later counts now. -/
theorem counts_fade {s : TransferSession} (hle : now ≤ now') (h : kind.counts now' s = true) :
    kind.counts now s = true := by
  cases kind with
  | recent actorUserId =>
    obtain ⟨hactor, hcr⟩ := Bool.and_eq_true_iff.mp h
    have hlat := of_decide_eq_true hcr
    exact Bool.and_eq_true_iff.mpr ⟨hactor, decide_eq_true (by omega)⟩
  | actorActive actorUserId =>
    obtain ⟨hactor, hact⟩ := Bool.and_eq_true_iff.mp h
    exact Bool.and_eq_true_iff.mpr ⟨hactor, active_fades hle hact⟩
  | targetActive targetInstallationId =>
    obtain ⟨htgt, hact⟩ := Bool.and_eq_true_iff.mp h
    exact Bool.and_eq_true_iff.mpr ⟨htgt, active_fades hle hact⟩

theorem count_fades (kind : LimitKind) (hle : now ≤ now') : kind.count x now' ≤ kind.count x now :=
  List.countP_mono_left fun _ _ h => counts_fade hle h

/-- Time passes. -/
theorem Limits.tick (h : Limits C x) (ms : Nat) : Limits C { x with clock := x.clock + ms } := by
  rw [limits_iff] at h ⊢
  intro kind
  exact le_trans (count_fades kind (Nat.le_add_right x.clock ms)) (h kind)

/-- Sessions change so that none counts that did not. -/
theorem Limits.update (h : Limits C x) {p : TransferSession → Bool}
    {f : TransferSession → TransferSession} (hf : ∀ s, (f s).id = s.id)
    (hcts : ∀ kind : LimitKind, ∀ s, p s = true → kind.counts x.clock (f s) = true →
      kind.counts x.clock s = true) :
    Limits C (x.updateSessions p f hf) := by
  rw [limits_iff] at h ⊢
  intro kind
  refine le_trans (countP_map_le fun s _ hcnt => ?_) (h kind)
  by_cases hp : p s = true
  · rw [Table.patch_pos hp] at hcnt
    exact hcts kind s hp hcnt
  · rw [Table.patch_neg hp] at hcnt
    exact hcnt

theorem Limits.delete (h : Limits C x) (p : TransferSession → Bool) :
    Limits C (x.deleteSessions p) := by
  rw [limits_iff] at h ⊢
  intro kind
  exact le_trans List.filter_sublist.countP_le (h kind)

/-- A session that is completed counts nowhere but among the recent ones. -/
theorem counts_completed {s : TransferSession} {consumed : Bool}
    {failureCode sha256 : Option String}
    (h : kind.counts now (completeSession now' consumed failureCode sha256 s) = true) :
    kind.counts now s = true := by
  cases kind with
  | recent actorUserId => exact h
  | actorActive actorUserId =>
    have hopen := (Bool.and_eq_true_iff.mp (Bool.and_eq_true_iff.mp h).2).2
    exact absurd hopen (by simp [completeSession])
  | targetActive targetInstallationId =>
    have hopen := (Bool.and_eq_true_iff.mp (Bool.and_eq_true_iff.mp h).2).2
    exact absurd hopen (by simp [completeSession])

/-- A session that has ended does not count as active. -/
theorem counts_revoked {s : TransferSession} (h : kind.counts now (revokeSession now s) = true) :
    kind.counts now s = true := by
  cases kind with
  | recent actorUserId => exact h
  | actorActive actorUserId =>
    have hexpires := (Bool.and_eq_true_iff.mp (Bool.and_eq_true_iff.mp h).2).1
    exact absurd (of_decide_eq_true hexpires) (Nat.lt_irrefl _)
  | targetActive targetInstallationId =>
    have hexpires := (Bool.and_eq_true_iff.mp (Bool.and_eq_true_iff.mp h).2).1
    exact absurd (of_decide_eq_true hexpires) (Nat.lt_irrefl _)

/-- **What happens besides keeps the limits.** -/
theorem Limits.outside (h : Limits C x) (change : TransferChange) :
    Limits C (x.outside change) := by
  cases change with
  | advance ms => exact h.tick ms
  | complete ids consumed failureCode sha256 =>
    exact Limits.update (f := completeSession x.clock consumed failureCode sha256) h (fun _ => rfl)
      fun kind s _ hcts => counts_completed hcts
  | revoke artifactId =>
    exact Limits.update (f := revokeSession x.clock) h (fun _ => rfl)
      fun kind s _ hcts => counts_revoked hcts
  | cleanup => exact h.delete _
  | setArtifacts artifacts => exact h
  | setPanel installationId directTransferOrigin sources stagedHandler => exact h

end Counts

/-! ## Creating a session -/

/-- The counts a request has taken are not behind the sessions there are. -/
def Stage.UpToDate (x : TransferDb) : Stage → Prop
  | counted actorUserId targetInstallationId now recent actorActive targetActive =>
    x.countRecent actorUserId now ≤ recent ∧ x.countActorActive actorUserId now ≤ actorActive ∧
      x.countTargetActive targetInstallationId now ≤ targetActive
  | _ => True

/-- What a request has read of the clock is not ahead of it. -/
def Stage.Reads (x : TransferDb) : Stage → Prop
  | fresh => True
  | dated now | recentCounted _ now _ | actorCounted _ now _ _ | counted _ _ now _ _ _ =>
    now ≤ x.clock

theorem Stage.Reads.later {x x' : TransferDb} {y : Stage} (hclk : x.clock ≤ x'.clock)
    (h : y.Reads x) : y.Reads x' := by
  cases y with
  | fresh => trivial
  | dated now => exact le_trans h hclk
  | recentCounted actorUserId now recent => exact le_trans h hclk
  | actorCounted actorUserId now recent actorActive => exact le_trans h hclk
  | counted actorUserId targetInstallationId now recent actorActive targetActive =>
    exact le_trans h hclk

section Create

variable {C : TransferHost} {x : TransferDb} {s : TransferSession} {y : Stage}

/-- Behind the counts there is room for the session wherever it counts. -/
theorem room (hread : y.Reads x) (hadm : y.Admits C s) (hup : y.UpToDate x) {kind : LimitKind}
    (hcts : kind.counts x.clock { s with createdAt := x.clock } = true) :
    kind.count x x.clock + 1 ≤ kind.bound C := by
  obtain ⟨now, recent, actorActive, targetActive, rfl, hrec, hactor, htgt⟩ := hadm
  obtain ⟨hrec', hactor', htgt'⟩ := hup
  cases kind with
  | recent actorUserId =>
    have hsame : s.actorUserId = actorUserId :=
      of_decide_eq_true (Bool.and_eq_true_iff.mp hcts).1
    subst hsame
    have hfades : x.countRecent s.actorUserId x.clock ≤ x.countRecent s.actorUserId now :=
      count_fades (.recent s.actorUserId) hread
    show x.countRecent s.actorUserId x.clock + 1 ≤ C.maxNewPerMinute
    omega
  | actorActive actorUserId =>
    have hsame : s.actorUserId = actorUserId :=
      of_decide_eq_true (Bool.and_eq_true_iff.mp hcts).1
    subst hsame
    have hfades : x.countActorActive s.actorUserId x.clock ≤ x.countActorActive s.actorUserId now :=
      count_fades (.actorActive s.actorUserId) hread
    show x.countActorActive s.actorUserId x.clock + 1 ≤ C.maxActivePerActor
    omega
  | targetActive targetInstallationId =>
    have hsame : s.targetInstallationId = targetInstallationId :=
      of_decide_eq_true (Bool.and_eq_true_iff.mp hcts).1
    subst hsame
    have hfades : x.countTargetActive s.targetInstallationId x.clock ≤
        x.countTargetActive s.targetInstallationId now :=
      count_fades (.targetActive s.targetInstallationId) hread
    show x.countTargetActive s.targetInstallationId x.clock + 1 ≤ C.maxActivePerTarget
    omega

/-- One more session, for which there is room. -/
theorem Limits.append (h : Limits C x) {x' : TransferDb} {s' : TransferSession}
    (hclk : x'.clock = x.clock) (hrows : x'.sessions.rows = x.sessions.rows ++ [s'])
    (hroom : ∀ kind : LimitKind, kind.counts x.clock s' = true →
      kind.count x x.clock + 1 ≤ kind.bound C) : Limits C x' := by
  rw [limits_iff] at h ⊢
  intro kind
  have hcount : kind.count x' x'.clock =
      kind.count x x.clock + if kind.counts x.clock s' = true then 1 else 0 := by
    rw [LimitKind.count, LimitKind.count, Table.count, Table.count, hrows, hclk,
      List.countP_append, List.countP_singleton]
  rw [hcount]
  by_cases hcts : kind.counts x.clock s' = true
  · rw [if_pos hcts]
    exact hroom kind hcts
  · rw [if_neg hcts]
    exact h kind

/-- **A session that is created behind counts that still hold** keeps the limits. -/
theorem Limits.create (h : Limits C x) (hread : y.Reads x) (hadm : y.Admits C s)
    (hup : y.UpToDate x) : Limits C (x.create s).2 := by
  unfold TransferDb.create
  cases hc : x.sessions.create? { s with createdAt := x.clock } with
  | none => exact h
  | some sessions =>
    exact h.append rfl (Table.create?_eq_some hc).1 fun kind => room hread hadm hup

theorem Limits.createUpload (h : Limits C x) (hread : y.Reads x) (hadm : y.Admits C s)
    (hup : y.UpToDate x) (artifact : TransferArtifact) :
    Limits C (x.createUpload s artifact).2 := by
  unfold TransferDb.createUpload
  split
  · exact h
  · cases hc : x.sessions.create? { s with createdAt := x.clock } with
    | none => exact h
    | some sessions =>
      exact h.append rfl (Table.create?_eq_some hc).1 fun kind => room hread hadm hup

end Create

/-! ## Runs -/

/-- The transfer sessions with the requests that issue them. -/
abbrev TransferPool : Type := Phased TransferDb Stage TransferInstr TransferReply
  (Except TransferError TransferSessionDelivery)

abbrev transferStep (C : TransferHost) :
    TransferPool → Event TransferChange TransferRequest → Option TransferPool :=
  Phased.step (transfers C) (admission C) fun _ => .fresh

/-- The instruction creates a session. -/
def TransferInstr.creates : TransferInstr → Bool
  | .create _ | .createUpload _ _ => true
  | _ => false

/-- A request creates its session only while none of the three numbers is larger than when it
counted them. -/
def CountsHold (x : TransferDb) (l : List Stage) (k : Nat) (i : TransferInstr) : Prop :=
  i.creates = true → ∀ y, l[k]? = some y → y.UpToDate x

/-- The limits, and what the requests have read. -/
structure Kept (C : TransferHost) (x : TransferDb) (l : List Stage) : Prop where
  limits : Limits C x
  reads : ∀ y ∈ l, y.Reads x

theorem Kept.set {C : TransferHost} {x x' : TransferDb} {l : List Stage} {k : Nat} {z : Stage}
    (h : Kept C x l) (hlimits : Limits C x') (hclk : x'.clock = x.clock) (hz : z.Reads x) :
    Kept C x' (l.set k z) := by
  refine ⟨hlimits, fun w hw => ?_⟩
  rcases mem_set_cases hw with rfl | ⟨m, -, hm⟩
  · exact hz.later hclk.ge
  · exact (h.reads w (List.mem_of_getElem? hm)).later hclk.ge

theorem create_clock (x : TransferDb) (s : TransferSession) : (x.create s).2.clock = x.clock := by
  unfold TransferDb.create
  split
  · rfl
  · rfl

theorem createUpload_clock (x : TransferDb) (s : TransferSession) (artifact : TransferArtifact) :
    (x.createUpload s artifact).2.clock = x.clock := by
  unfold TransferDb.createUpload
  split
  · rfl
  · split
    · rfl
    · rfl

/-- **One statement.** -/
theorem Kept.step {C : TransferHost} {x : TransferDb} {l : List Stage} {k : Nat} {y : Stage}
    {i : TransferInstr} (h : Kept C x l) (hk : l[k]? = some y) (halw : (admission C).allows y i)
    (hcts : CountsHold x l k i) :
    Kept C (transferReply i x).2 (l.set k ((admission C).after y i (transferReply i x).1)) := by
  have hread := h.reads y (List.mem_of_getElem? hk)
  cases i with
  | now => exact h.set h.limits rfl (le_refl x.clock)
  | countRecent actorUserId now =>
    obtain rfl : y = .dated now := halw
    exact h.set h.limits rfl hread
  | countActorActive actorUserId now =>
    obtain ⟨recent, rfl⟩ := halw
    exact h.set h.limits rfl hread
  | countTargetActive targetInstallationId now =>
    obtain ⟨actorUserId, recent, actorActive, rfl⟩ := halw
    exact h.set h.limits rfl hread
  | create session =>
    exact h.set (h.limits.create hread halw (hcts rfl y hk)) (create_clock x session) trivial
  | createUpload session artifact =>
    exact h.set (h.limits.createUpload hread halw (hcts rfl y hk) artifact)
      (createUpload_clock x session artifact) trivial
  | directTransferOrigin => exact h.set h.limits rfl hread
  | getLocalIdentity => exact h.set h.limits rfl hread
  | hasSource sourceKind => exact h.set h.limits rfl hread
  | hasHandler => exact h.set h.limits rfl hread
  | findArtifact id => exact h.set h.limits rfl hread
  | findSession id => exact h.set h.limits rfl hread
  | prepareUploadAdmission expectedBytes => exact h.set h.limits rfl hread
  | randomBytes => exact h.set h.limits rfl hread

theorem outside_clock (x : TransferDb) (change : TransferChange) :
    x.clock ≤ (x.outside change).clock := by
  cases change with
  | advance ms => exact Nat.le_add_right _ _
  | _ => exact le_refl _

/-- **While the counts hold, the limits do**: in every state of a run in which every request creates
its session before any of the three numbers has grown beyond what it counted. -/
theorem limits_hold (C : TransferHost) (x₀ : TransferDb) {s : TransferPool}
    (hs : Stepping.Reach (transferStep C) (Phased.Within CountsHold)
      ⟨{ x₀ with sessions := .empty }, []⟩ s) : Limits C s.store := by
  have hkept : Kept C s.store s.phases ∧
      ∀ c ∈ s.calls, c.2.Follows (admission C) AnyEnd c.1 := by
    refine Phased.invariant request_stages ?_ ?_ ?_ ?_ hs
    · refine ⟨limits_iff.mpr fun kind => ?_, fun y hy => absurd hy (by simp)⟩
      exact Nat.zero_le _
    · rintro change x l ⟨hlimits, hreads⟩
      exact ⟨hlimits.outside change, fun y hy => (hreads y hy).later (outside_clock x change)⟩
    · rintro request x l ⟨hlimits, hreads⟩
      refine ⟨hlimits, fun y hy => ?_⟩
      rcases List.mem_snoc.mp hy with hy | rfl
      · exact hreads y hy
      · trivial
    · intro x l k y i h hk halw hcts
      exact h.step hk halw hcts
  exact hkept.1.limits

namespace SampleTransfers

def host : TransferHost where
  firstByteTtlMs := 900000
  stagedLeaseTtlMs := 14400000
  maxNewPerMinute := 5
  maxActivePerActor := 2
  maxActivePerTarget := 4
  sha256 := id
  deriveUploadMaterial target actor key :=
    ⟨"session:" ++ target ++ actor ++ key, "artifact:" ++ target ++ actor ++ key, key⟩
  validatePublicDelivery := .ok

def db : TransferDb where
  clock := 1000000
  sessions := .empty
  artifacts := []
  installationId := "0f8fad5b-d9cb-469f-a165-70867728950e"
  directTransferOrigin := .ok "https://transfer.example.org"
  sources := ["BACKUP_EXPORT"]
  stagedHandler := some (.ok ())
  drawn := 0

def input : IssueGeneratedStreamInput where
  sourceKind := "BACKUP_EXPORT"
  resourceId := "backup-1"
  actor := ⟨"7c9e6679-7425-40de-944b-e07fc1f90ae7", "ADMIN"⟩
  filename := "backup.tar"
  contentType := "application/x-tar"
  resourceExpiresAt := 90000000
  resourcePayload := none

/-- Three downloads are asked for at the same time: each counts before any is created. -/
def atOnce : List (Event TransferChange TransferRequest) :=
  List.replicate 3 (Event.call (TransferRequest.generatedStream input)) ++
    List.replicate 8 (Event.advance 0) ++
    List.replicate 8 (Event.advance 1) ++ List.replicate 8 (Event.advance 2) ++
      [Event.advance 0, .advance 1, .advance 2]

/-- The same, one after the other. -/
def inTurn : List (Event TransferChange TransferRequest) :=
  List.replicate 3 (Event.call (TransferRequest.generatedStream input)) ++
    List.replicate 9 (Event.advance 0) ++
    List.replicate 9 (Event.advance 1) ++ List.replicate 7 (Event.advance 2)

instance (x : TransferDb) (y : Stage) : Decidable (y.UpToDate x) := by
  apply y.casesOn (motive := fun y => Decidable (y.UpToDate x))
  case counted =>
    intros
    exact inferInstanceAs (Decidable (_ ∧ _ ∧ _))
  all_goals
    intros
    exact isTrue trivial

instance (x : TransferDb) (l : List Stage) (k : Nat) (i : TransferInstr) :
    Decidable (CountsHold x l k i) :=
  inferInstanceAs (Decidable (i.creates = true → ∀ y ∈ l[k]?, y.UpToDate x))

/-- Three sessions are active, where two are allowed. -/
theorem limits_exceeded : ∃ s : TransferPool,
    Stepping.Reach (transferStep host) Stepping.anyStep ⟨db, []⟩ s ∧
    ¬ s.store.countActorActive input.actor.userId s.store.clock ≤ host.maxActivePerActor :=
  Stepping.Reach.of_run_any (l := atOnce) (by decide +kernel)

/-- In turn, the third is refused. -/
theorem limits_hold_inTurn : ∃ s : TransferPool,
    s.store.countActorActive input.actor.userId s.store.clock = 2 ∧ Limits host s.store := by
  have hrun : ∃ s : TransferPool,
      Stepping.Reach (transferStep host) (Phased.Within CountsHold) ⟨db, []⟩ s ∧
      s.store.countActorActive input.actor.userId s.store.clock = 2 :=
    Stepping.Reach.of_run_any (l := inTurn) (by decide +kernel)
  obtain ⟨s, hs, hact⟩ := hrun
  exact ⟨s, hact, limits_hold host db hs⟩

end SampleTransfers

end Meowbox.Transfers
