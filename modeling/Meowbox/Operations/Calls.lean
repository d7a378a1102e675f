import Meowbox.Operations.System

/-!
# What the calls in flight know

A call reads, and other calls write before it acts on what it read. Each program is shown `Sound`:
while the others only add rows and keep the identity of those there (`Rely`, which `effect_rely`
shows of every write), each write it performs is `Formed`, with arguments as its reads can give
them, and a ticket it returns is of a stored operation.

Results:
* `Request.sound`: the programs of all methods are sound.
* `calls_sound`: so is what is left of each call, in every state of every run.
* `issued_formed`: every write of a run is `Formed`, and dated no later than the clock.
* `reach_tables`: the invariant rule for the two tables of the service.
-/

namespace Meowbox.Operations

open Relational JsData Interleaved

/-! ## Rely and guarantee -/

/-- What a call may rely on: time does not run back, and no operation disappears or changes its
identity. -/
def Rely (v v' : View) : Prop :=
  v.clock ≤ v'.clock ∧ ∀ o ∈ v.db.operation, ∃ o' ∈ v'.db.operation, SameIdentity o o'

theorem SameIdentity.rfl {o : Operation} : SameIdentity o o := by
  constructor <;> exact Eq.refl _

theorem SameIdentity.trans {a b c : Operation} (h : SameIdentity a b) (h' : SameIdentity b c) :
    SameIdentity a c where
  id := h'.id.trans h.id
  idempotencyKey := h'.idempotencyKey.trans h.idempotencyKey
  requestHash := h'.requestHash.trans h.requestHash
  type := h'.type.trans h.type
  createdByUserId := h'.createdByUserId.trans h.createdByUserId
  parentOperationId := h'.parentOperationId.trans h.parentOperationId
  databaseId := h'.databaseId.trans h.databaseId
  globalLockKey := h'.globalLockKey.trans h.globalLockKey
  executionMode := h'.executionMode.trans h.executionMode
  maxAttempts := h'.maxAttempts.trans h.maxAttempts
  retryable := h'.retryable.trans h.retryable
  recoveryPolicy := h'.recoveryPolicy.trans h.recoveryPolicy
  deadlineAt := h'.deadlineAt.trans h.deadlineAt

theorem rely_refl (v : View) : Rely v v := ⟨Nat.le_refl _, fun o ho => ⟨o, ho, .rfl⟩⟩

theorem rely_trans {a b c : View} (h : Rely a b) (h' : Rely b c) : Rely a c := by
  refine ⟨h.1.trans h'.1, fun o ho => ?_⟩
  obtain ⟨o', ho', hs⟩ := h.2 o ho
  obtain ⟨o'', ho'', hs'⟩ := h'.2 o' ho'
  exact ⟨o'', ho'', hs.trans hs'⟩

/-- A commit stays within `Rely`. -/
theorem commit_rely {v : View} {w : Write} {done : Committed} (h : v.db.commit w = .ok done) :
    Rely v ⟨done.db, v.clock⟩ := by
  refine ⟨Nat.le_refl _, fun o ho => ?_⟩
  obtain ⟨o', ho', hc⟩ := commit_keeps h ho
  exact ⟨o', ho', hc.identity⟩

/-- So does every instruction. -/
theorem effect_rely {i : Instr} {v v' : View} {answer : i.Answer} (h : Effect i v answer v') :
    Rely v v' := by
  rcases effect_tables h with rfl | ⟨w, done, -, hd, rfl⟩
  · exact rely_refl v'
  · exact commit_rely hd

theorem rely_stable : Stable Rely Effect := ⟨rely_refl, rely_trans, effect_rely⟩

/-- The date of a write; `0` for a write without one. -/
def Write.stamp : Write → Time
  | .create _ now => now
  | .attachScope _ _ => 0
  | .start _ _ now => now
  | .step _ _ _ => 0
  | .succeed _ _ now => now
  | .fail _ _ now => now
  | .claim _ now => now
  | .startClaimed _ _ _ now => now
  | .heartbeatClaim _ _ _ _ now => now
  | .succeedClaimed _ _ _ _ now => now
  | .failClaimed _ _ _ now => now
  | .retryOrRequireAttention _ _ _ now => now
  | .cancelClaimed _ _ now => now
  | .requireAttention _ _ _ now => now
  | .recoverLease _ now => now
  | .expire _ _ now => now
  | .releaseExpired _ => 0
  | .exhaust _ _ now => now
  | .requestCancellation _ _ now => now
  | .recoverInterrupted _ completedAt => completedAt

/-- A prepared call as `begin` hands it to its transaction. -/
def Prepared (sha256 : String → String) (p : PreparedBegin) : Prop :=
  ∃ uuid operationId releaseMaintenance now,
    prepare sha256 p.input uuid operationId releaseMaintenance now = .ok p

/-- Arguments as the reads before a write can give them. -/
def Write.Formed (sha256 : String → String) (db : Db) : Write → Prop
  | .create p _ => Prepared sha256 p ∧ scopeFault p.input = none
  | .recoverLease l _ => l.status ∈ HELD_STATUSES
  | .expire _ status _ => status = .queued ∨ status = .recovering
  | .requestCancellation _ status _ =>
    status.terminal = false ∧ status ≠ .unknownRecoveryRequired ∧ status ≠ .needsAttention
  | .recoverInterrupted found _ =>
    ∀ i ∈ found, ∀ o ∈ db.operation, o.id = i.id → o.executionMode = i.executionMode
  | _ => True

def WellFormed (sha256 : String → String) (v : View) : Instr → Prop
  | .write w => w.stamp ≤ v.clock ∧ w.Formed sha256 v.db
  | _ => True

/-- The operation a ticket stands for: the row with the key, type, user and request hash of the
call. -/
def TicketOf (p : PreparedBegin) (t : OperationTicket) (o : Operation) : Prop :=
  o.id = t.id ∧ o.idempotencyKey = p.idempotencyKey ∧ o.type = p.input.type ∧
    o.createdByUserId = p.input.userId ∧ o.requestHash = p.requestHash

/-- What a finished call has established. -/
def Established (sha256 : String → String) (v : View) : Outcome → Prop
  | .ticket p t => Prepared sha256 p ∧ ∃ o ∈ v.db.operation, TicketOf p t o
  | _ => True

abbrev Sound (sha256 : String → String) {α : Type} (post : View → α → Prop) (p : Program α)
    (v : View) : Prop :=
  Safe Rely Effect (WellFormed sha256) post p v

/-! ## The instructions -/

section Sound

variable {sha256 : String → String} {v : View} {α : Type}

/-- Nothing is said of the result. -/
abbrev any : View → α → Prop := fun _ _ => True

variable {post : View → α → Prop}

theorem sound_done {a : α} (h : ∀ v', Rely v v' → post v' a) :
    Sound sha256 post (.done a) v := h

theorem sound_pure {a : α} : Sound sha256 any (pure a) v := fun _ _ => trivial

theorem sound_bind {β : Type} {mid : View → α → Prop} {post : View → β → Prop} {p : Program α}
    {f : α → Program β} (hp : Sound sha256 mid p v)
    (hf : ∀ v' a, Rely v v' → mid v' a → Sound sha256 post (f a) v') :
    Sound sha256 post (p >>= f) v := safe_bind rely_stable hp hf

/-- A program whose result may be anything, then one that is sound for any value. -/
theorem sound_then {β : Type} {post : View → β → Prop} {p : Program α} {f : α → Program β}
    (hp : Sound sha256 any p v) (hf : ∀ v' a, Rely v v' → Sound sha256 post (f a) v') :
    Sound sha256 post (p >>= f) v := sound_bind hp fun v' a hv _ => hf v' a hv

theorem sound_read {f : Db → Program α} (h : ∀ v', Rely v v' → Sound sha256 post (f v'.db) v') :
    Sound sha256 post (Method.read >>= f) v := by
  refine safe_ask (fun _ _ => trivial) fun v' db v'' hv he => ?_
  obtain ⟨rfl, rfl⟩ := he
  exact h v'' hv

theorem sound_clock {f : Time → Program α}
    (h : ∀ v', Rely v v' → Sound sha256 post (f v'.clock) v') :
    Sound sha256 post (Method.clock >>= f) v := by
  refine safe_ask (fun _ _ => trivial) fun v' now v'' hv he => ?_
  obtain ⟨rfl, rfl⟩ := he
  exact h v'' hv

theorem sound_flip {f : Bool → Program α} (h : ∀ v' b, Rely v v' → Sound sha256 post (f b) v') :
    Sound sha256 post (Method.flip >>= f) v :=
  safe_ask (fun _ _ => trivial) fun _ b v'' hv he => h v'' b (he ▸ hv)

theorem sound_handler {f : Bool × HandlerOutcome → Program α}
    (h : ∀ v' a, Sound sha256 post (f a) v') : Sound sha256 post (Method.handler >>= f) v :=
  safe_ask (fun _ _ => trivial) fun _ a v'' _ _ => h v'' a

theorem sound_loseLease : Sound sha256 any Method.loseLease v :=
  safe_ask (fun _ _ => trivial) fun _ _ _ _ _ _ _ => trivial

/-- A write is sound when it is formed in every state the others can lead to. -/
theorem sound_write {w : Write}
    (h : ∀ v', Rely v v' → w.stamp ≤ v'.clock ∧ w.Formed sha256 v'.db) :
    Sound sha256 any (Method.write w) v :=
  safe_ask h fun _ _ _ _ _ _ _ => trivial

theorem sound_stamped {w : Time → Write} (hstamp : ∀ now, (w now).stamp ≤ now)
    (h : ∀ now v', Rely v v' → (w now).Formed sha256 v'.db) :
    Sound sha256 any (Method.stamped w) v := by
  refine sound_clock fun v' hv => sound_write fun v'' hv' => ⟨?_, h _ v'' (rely_trans hv hv')⟩
  exact (hstamp v'.clock).trans hv'.1

/-- A write whose arguments are always formed. -/
theorem sound_stamped_free {w : Time → Write} (hstamp : ∀ now, (w now).stamp ≤ now)
    (h : ∀ now db, (w now).Formed sha256 db) : Sound sha256 any (Method.stamped w) v :=
  sound_stamped hstamp fun now v' _ => h now v'.db

theorem sound_single {reply : Program (Except Fault Reply)} (h : Sound sha256 any reply v) :
    Sound sha256 (Established sha256) (Method.single reply) v := by
  refine sound_then h fun v' a _ => ?_
  cases a with
  | ok r => exact sound_done fun _ _ => trivial
  | error fault => exact sound_done fun _ _ => trivial

theorem sound_discard {p : Program α} (h : Sound sha256 any p v) :
    Sound sha256 any (discard p) v :=
  sound_then h fun _ _ _ => sound_pure

/-! ## Claiming -/

variable {now : Time}

theorem lostLeases_held {db : Db} {l : LostLease} (h : l ∈ lostLeases db now) :
    l.status ∈ HELD_STATUSES := by
  obtain ⟨o, ho, rfl⟩ := List.mem_map.mp h
  have hp := (Table.mem_findMany.mp (List.mem_of_mem_take ho)).2
  simp only [Bool.and_eq_true, List.contains_iff_mem] at hp
  exact hp.1.2

theorem expired_status {db : Db} {e : String × OperationStatus} (h : e ∈ expired db now) :
    e.2 = .queued ∨ e.2 = .recovering := by
  obtain ⟨o, ho, rfl⟩ := List.mem_map.mp h
  have hp := (Table.mem_findMany.mp (List.mem_of_mem_take ho)).2
  simp only [Bool.and_eq_true, Bool.or_eq_true, beq_iff_eq] at hp
  exact hp.1.2

/-- The writes of maintenance are dated when maintenance began. -/
theorem sound_dated {w : Write} (h : w.stamp ≤ v.clock) (hf : ∀ db, w.Formed sha256 db) :
    Sound sha256 any (Method.write w) v :=
  sound_write fun v' hv => ⟨h.trans hv.1, hf v'.db⟩

theorem expireOne_sound {e : String × OperationStatus} (hnow : now ≤ v.clock)
    (he : e.2 = .queued ∨ e.2 = .recovering) :
    Sound sha256 any (Method.expireOne now e) v := by
  refine sound_then (sound_dated hnow fun _ => he) fun v' reply _ => ?_
  split
  · exact sound_discard (sound_dated (Nat.zero_le _) fun _ => trivial)
  · exact sound_pure

theorem exhaustOne_sound {e : String × Nat × Nat} (hnow : now ≤ v.clock) :
    Sound sha256 any (Method.exhaustOne now e) v := by
  unfold Method.exhaustOne
  split
  · exact sound_pure
  · exact sound_discard (sound_dated hnow fun _ => trivial)

/-- `now` was read before, so maintenance is never dated in the future. -/
theorem maintainQueue_sound (hnow : now ≤ v.clock) :
    Sound sha256 any (Method.maintainQueue now) v := by
  refine sound_read fun v₁ hv₁ => ?_
  have h₁ : now ≤ v₁.clock := hnow.trans hv₁.1
  refine sound_then (safe_each rely_stable fun l hl t ht => ?_) fun v₂ _ hv₂ => ?_
  · exact sound_discard (sound_dated (h₁.trans ht.1) fun _ => lostLeases_held hl)
  refine sound_read fun v₃ hv₃ => ?_
  have h₃ : now ≤ v₃.clock := h₁.trans (hv₂.1.trans hv₃.1)
  refine sound_then (safe_each rely_stable fun e he t ht => ?_) fun v₄ _ hv₄ => ?_
  · exact expireOne_sound (h₃.trans ht.1) (expired_status he)
  refine sound_read fun v₅ hv₅ => ?_
  refine safe_each rely_stable fun e _ t ht => ?_
  exact exhaustOne_sound (h₃.trans (hv₄.1.trans (hv₅.1.trans ht.1)))

variable {leaseOwner : String}

theorem claimStatement_sound (hnow : now ≤ v.clock) :
    Sound sha256 any (do
      match ← Method.write (.claim leaseOwner now) with
      | .ok reply => pure reply.returning
      | .error _ => pure none) v := by
  refine sound_then (sound_dated hnow fun _ => trivial) fun _ reply _ => ?_
  cases reply with
  | ok r => exact sound_pure
  | error fault => exact sound_pure

theorem claimOnce_sound (hnow : now ≤ v.clock) :
    Sound sha256 any (Method.claimOnce leaseOwner now) v := by
  refine sound_flip fun v₁ due hv₁ => ?_
  have h₁ : now ≤ v₁.clock := hnow.trans hv₁.1
  cases due with
  | true =>
    refine sound_then (maintainQueue_sound h₁) fun v₂ _ hv₂ => ?_
    exact claimStatement_sound (h₁.trans hv₂.1)
  | false => exact claimStatement_sound h₁

theorem loadClaim_sound {claimedId : String × Bool} :
    Sound sha256 any (Method.loadClaim leaseOwner claimedId) v := by
  refine sound_read fun v₁ _ => ?_
  split
  · exact sound_pure
  · refine sound_then (sound_stamped_free (fun _ => Nat.le_refl _) fun _ _ => trivial) ?_
    exact fun _ _ _ => sound_pure

theorem claimNext_sound {recoverExpired : Bool} (hnow : now ≤ v.clock) :
    Sound sha256 any (Method.claimNext leaseOwner now recoverExpired) v := by
  refine sound_then (claimOnce_sound hnow) fun v₁ claimedId hv₁ => ?_
  cases claimedId with
  | some c => exact loadClaim_sound
  | none =>
    refine sound_read fun v₂ hv₂ => ?_
    have h₂ : now ≤ v₂.clock := hnow.trans (hv₁.1.trans hv₂.1)
    split
    · refine sound_then (maintainQueue_sound h₂) fun v₃ _ hv₃ => ?_
      refine sound_then (claimOnce_sound (h₂.trans hv₃.1)) fun v₄ again _ => ?_
      cases again with
      | some c => exact loadClaim_sound
      | none => exact sound_pure
    · exact sound_pure

/-! ## Executing -/

variable {workerId : String} {operation : ClaimedOperation}

theorem onError_sound {error : HandlerError} :
    Sound sha256 any (Method.onError operation workerId error) v := by
  cases error with
  | failed message => exact sound_stamped_free (fun _ => Nat.le_refl _) fun _ _ => trivial
  | needsAttention message => exact sound_stamped_free (fun _ => Nat.le_refl _) fun _ _ => trivial
  | cancelled => exact sound_stamped_free (fun _ => Nat.le_refl _) fun _ _ => trivial
  | other message =>
    refine sound_read fun v₁ _ => ?_
    split
    · exact sound_stamped_free (fun _ => Nat.le_refl _) fun _ _ => trivial
    · exact sound_stamped_free (fun _ => Nat.le_refl _) fun _ _ => trivial

theorem finish_sound {result : JsValue} :
    Sound sha256 any (Method.finish operation workerId result) v := by
  refine sound_read fun v₁ _ => ?_
  refine sound_then (sound_stamped_free (fun _ => Nat.le_refl _) fun _ _ => trivial)
    fun v₂ reply _ => ?_
  cases reply with
  | ok r => exact sound_pure
  | error fault => exact onError_sound

theorem execute_sound : Sound sha256 any (Method.execute workerId operation) v := by
  refine sound_flip fun v₁ registered _ => ?_
  cases registered with
  | false => exact sound_stamped_free (fun _ => Nat.le_refl _) fun _ _ => trivial
  | true =>
    refine sound_then (sound_stamped_free (fun _ => Nat.le_refl _) fun _ _ => trivial)
      fun v₂ reply _ => ?_
    cases reply with
    | error fault => exact sound_pure
    | ok r =>
      refine sound_handler fun v₃ a => ?_
      match a with
      | (_, .threw error) => exact onError_sound
      | (true, .returned _) => exact onError_sound
      | (false, .returned result) => exact finish_sound

theorem poll_sound : Sound sha256 (Established sha256) (Method.poll workerId) v := by
  unfold Method.poll
  split
  · exact sound_done fun _ _ => trivial
  · refine sound_clock fun v₁ _ => sound_then (claimNext_sound (Nat.le_refl _)) fun v₂ a _ => ?_
    cases a with
    | none => exact sound_done fun _ _ => trivial
    | some operation => exact sound_single execute_sound

variable {operationId : String}

theorem heartbeat_sound {step : Option String} {progress : Option Int} :
    Sound sha256 (Established sha256)
      (Method.heartbeat operationId leaseOwner step progress) v := by
  refine sound_then (sound_stamped_free (fun _ => Nat.le_refl _) fun _ _ => trivial)
    fun v₁ reply _ => ?_
  split
  · exact sound_done fun _ _ => trivial
  · exact sound_then sound_loseLease fun _ _ _ => sound_done fun _ _ => trivial

/-! ## Cancelling and restarting -/

theorem readForCancellation_status {db : Db} {userId role : String} {status : OperationStatus}
    (h : readForCancellation db operationId userId role = .ok (some status)) :
    status.terminal = false ∧ status ≠ .unknownRecoveryRequired ∧ status ≠ .needsAttention := by
  unfold readForCancellation at h
  split at h
  · exact absurd h (by simp)
  dsimp only at h
  split at h
  · exact absurd h (by simp)
  split at h
  · exact absurd h (by simp)
  rename_i hterm
  split at h
  · exact absurd h (by simp)
  rename_i hattention
  simp only [Except.ok.injEq, Option.some.injEq] at h
  subst h
  exact ⟨by simpa using hterm, fun he => hattention (.inl he),
    fun he => hattention (.inr he)⟩

theorem requestCancellation_sound {userId role : String} :
    Sound sha256 (Established sha256)
      (Method.requestCancellation operationId userId role) v := by
  refine sound_read fun v₁ _ => ?_
  split
  · exact sound_done fun _ _ => trivial
  · exact sound_done fun _ _ => trivial
  · rename_i status hread
    refine sound_single (sound_stamped_free (fun _ => Nat.le_refl _) fun _ _ => ?_)
    exact readForCancellation_status hread

/-- The execution mode `onModuleInit` read is still that of the row. -/
theorem interrupted_mode {v v' : View} (hv : Rely v v') {i : Interrupted}
    (hi : i ∈ interrupted v.db) {o : Operation} (ho : o ∈ v'.db.operation) (hid : o.id = i.id) :
    o.executionMode = i.executionMode := by
  obtain ⟨r, hr, rfl⟩ := List.mem_map.mp hi
  obtain ⟨r', hr', hs⟩ := hv.2 r (Table.mem_findMany.mp hr).1
  have he : o = r' := eq_of_id ho hr' (hid.trans hs.id.symm)
  rw [he, hs.executionMode]

theorem onModuleInit_sound : Sound sha256 (Established sha256) Method.onModuleInit v := by
  refine sound_read fun v₁ _ => ?_
  split
  · exact sound_done fun _ _ => trivial
  · refine sound_single (sound_stamped (fun _ => Nat.le_refl _) fun _ v₂ hv₂ => ?_)
    exact fun i hi o ho hid => interrupted_mode hv₂ hi ho hid

/-! ## Beginning -/

variable {p : PreparedBegin}

theorem ticketOf_later {v v' : View} {t : OperationTicket}
    (h : ∃ o ∈ v.db.operation, TicketOf p t o) (hv : Rely v v') :
    ∃ o ∈ v'.db.operation, TicketOf p t o := by
  obtain ⟨o, ho, hid, hkey, htype, huser, hhash⟩ := h
  obtain ⟨o', ho', hs⟩ := hv.2 o ho
  exact ⟨o', ho', hs.id.trans hid, hs.idempotencyKey.trans hkey, hs.type.trans htype,
    hs.createdByUserId.trans huser, hs.requestHash.trans hhash⟩

/-- A replayed ticket is of the row it was read from. -/
theorem replay_ticket {existing : Operation} {t : OperationTicket}
    (hkey : existing.idempotencyKey = p.idempotencyKey) (h : replay existing p = .ok t) :
    TicketOf p t existing := by
  unfold replay assertReplay at h
  split at h
  · exact absurd h (by simp)
  rename_i hsame
  split at hsame
  · exact absurd hsame (by simp)
  rename_i heq
  simp only [Except.ok.injEq] at h
  subst h
  simp only [Bool.or_eq_true, bne_iff_ne, ne_eq, not_or, not_not] at heq
  obtain ⟨⟨htype, huser⟩, hhash⟩ := heq
  exact ⟨rfl, hkey, htype, huser, hhash⟩

theorem answer_established (hp : Prepared sha256 p) {existing : Operation}
    (hfnd : findByKey v.db p.idempotencyKey = some existing) :
    ∀ v', Rely v v' → Established sha256 v' (Method.answer p (replay existing p)) := by
  intro v' hv
  obtain ⟨hm, hkey⟩ := Table.mem_of_find? hfnd
  cases hr : replay existing p with
  | error fault => trivial
  | ok t =>
    have hticket := replay_ticket (by simpa using hkey) hr
    exact ⟨hp, ticketOf_later ⟨existing, hm, hticket⟩ hv⟩

theorem replayAfterViolation_sound (hp : Prepared sha256 p) :
    Sound sha256 (Established sha256) (Method.replayAfterViolation p) v := by
  refine sound_read fun v₁ _ => ?_
  split
  · rename_i existing hfnd
    exact sound_done (answer_established hp hfnd)
  · refine sound_read fun v₂ _ => ?_
    split
    · exact sound_done fun _ _ => trivial
    · exact sound_read fun v₃ _ => sound_done fun _ _ => trivial

/-- The row a successful `begin` created carries the ticket. -/
theorem created_ticket {db : Db} {done : Committed} (h : beginTransaction db p now = .ok done) :
    ∃ o ∈ done.db.operation, TicketOf p (Method.createdTicket p) o := by
  refine ⟨p.row now, ?_, rfl, rfl, rfl, rfl, rfl⟩
  rw [Table.mem_def, (createOperation_spec (create_spec h).2.2.2).1]
  exact List.mem_append_right _ (List.mem_singleton.mpr rfl)

theorem create_sound (hp : Prepared sha256 p) :
    Sound sha256 (Established sha256) (Method.create p) v := by
  unfold Method.create
  split
  · exact sound_done fun _ _ => trivial
  rename_i hsc
  refine sound_clock fun v₁ _ => safe_ask (fun v₂ hv₂ => ⟨hv₂.1, hp, hsc⟩) ?_
  rintro v₂ reply v₃ - (⟨done, hd, rfl, rfl⟩ | ⟨fault, -, rfl, rfl⟩)
  · refine sound_done fun v₄ hv₄ => ⟨hp, ?_⟩
    have hcr : ∃ o ∈ (View.mk done.db v₂.clock).db.operation,
        TicketOf p (Method.createdTicket p) o := created_ticket hd
    exact ticketOf_later hcr hv₄
  · cases fault with
    | uniqueViolation => exact replayAfterViolation_sound hp
    | _ => exact sound_done fun _ _ => trivial

theorem begin_sound {input : BeginOperationInput} {uuid : String} {releaseMaintenance : Bool} :
    Sound sha256 (Established sha256)
      (Method.begin sha256 input uuid operationId releaseMaintenance) v := by
  refine sound_clock fun v₁ _ => ?_
  split
  · exact sound_done fun _ _ => trivial
  rename_i p hprep
  have hp : Prepared sha256 p := by
    refine ⟨uuid, operationId, releaseMaintenance, v₁.clock, ?_⟩
    rw [(prepare_spec hprep).of]
    exact hprep
  refine sound_read fun v₂ _ => ?_
  split
  · rename_i existing hfnd
    exact sound_done (answer_established hp hfnd)
  · exact create_sound hp

theorem single_write_sound {w : Write} (hstamp : w.stamp = 0) (h : ∀ db, w.Formed sha256 db) :
    Sound sha256 (Established sha256) (Method.single (Method.write w)) v :=
  sound_single (sound_dated (hstamp ▸ Nat.zero_le _) h)

/-- **Every method is sound**, from any state. -/
theorem Request.sound (request : Request) :
    Sound sha256 (Established sha256) (request.program sha256) v := by
  cases request with
  | begin input uuid operationId releaseMaintenance => exact begin_sound
  | attachScope operationId scope => exact single_write_sound rfl fun _ => trivial
  | start operationId step =>
    exact sound_single (sound_stamped_free (fun _ => Nat.le_refl _) fun _ _ => trivial)
  | step operationId step progress => exact single_write_sound rfl fun _ => trivial
  | succeed operationId result =>
    exact sound_single (sound_stamped_free (fun _ => Nat.le_refl _) fun _ _ => trivial)
  | fail operationId message =>
    exact sound_single (sound_stamped_free (fun _ => Nat.le_refl _) fun _ _ => trivial)
  | poll workerId => exact poll_sound
  | requestCancellation operationId userId role => exact requestCancellation_sound
  | onModuleInit => exact onModuleInit_sound

end Sound

/-! ## Runs -/

variable {sha256 : String → String} {G : State → Write → Prop} {s s' : State}

theorem step_rely {a : Action} (h : s.step sha256 a = some s') : Rely s.view s'.view := by
  refine ⟨step_clock h, fun o ho => ?_⟩
  rcases step_db h with ⟨hrows, -⟩ | ⟨w, done, -, hd, hdb⟩
  · exact ⟨o, by rw [State.view, hrows]; exact ho, .rfl⟩
  · rw [State.view, hdb]
    have hv : Rely s.view ⟨done.db, s.clock⟩ := commit_rely hd
    exact hv.2 o ho

/-- No write gives an attempt back or withdraws a cancellation. -/
theorem RowChange.onward {db : Db} {w : Write} {o o' : Operation} (h : RowChange db w o o') :
    o.attempt ≤ o'.attempt ∧
      (o.cancelRequestedAt.isSome → o'.cancelRequestedAt = o.cancelRequestedAt) := by
  cases h with
  | claim leaseOwner now hn => exact ⟨by dsimp only; split <;> omega, fun _ => rfl⟩
  | cancel now hs hc | askToCancel status now hn hs hc => simp [hc]
  | _ => exact ⟨Nat.le_refl _, fun _ => rfl⟩

/-- **No operation is lost or becomes another one** in any run, none of its attempts is given back
and its cancellation is not withdrawn. -/
theorem operations_kept (hs : Stepping.Reach (State.step sha256) Stepping.anyStep s s') :
    ∀ o ∈ s.db.operation, ∃ o' ∈ s'.db.operation, SameIdentity o o' ∧ o.attempt ≤ o'.attempt ∧
      (o.cancelRequestedAt.isSome → o'.cancelRequestedAt = o.cancelRequestedAt) := by
  refine hs.invariant (fun o ho => ⟨o, ho, .rfl, Nat.le_refl _, fun _ => rfl⟩)
    fun t a t' ih _ h o ho => ?_
  obtain ⟨r, hr, hid, hatt, hcan⟩ := ih o ho
  rcases step_db h with ⟨hrows, -⟩ | ⟨w, done, -, hd, hdb⟩
  · exact ⟨r, by rw [hrows]; exact hr, hid, hatt, hcan⟩
  · obtain ⟨o', ho', hc⟩ := commit_keeps hd hr
    obtain ⟨hatt', hcan'⟩ := hc.onward
    refine ⟨o', by rw [hdb]; exact ho', hid.trans hc.identity, hatt.trans hatt', fun hreq => ?_⟩
    have hstays := hcan hreq
    rw [← hstays]
    exact hcan' (by rw [hstays]; exact hreq)

theorem operations_kept_begun : ∃ s s' : State, ∃ o ∈ s.db.operation, ∃ o' ∈ s'.db.operation,
    s.clock < s'.clock ∧ SameIdentity o o' := by
  have hrun : (Stepping.run (State.step Sample.digest) Stepping.anyStep .init (Sample.perform 0 4
      (.begin (Sample.inline "key-0001" none none none) "uuid-0001" "op-1" false))).any
      (fun s : State => decide (∃ o ∈ s.db.operation, o.id = "op-1")) = true := by decide
  obtain ⟨s, -, o, ho, -⟩ := Stepping.Reach.of_run_any hrun
  obtain ⟨o', ho', hid, -⟩ := operations_kept
    (.step .init trivial (rfl : s.step Sample.digest (.tick 1) = some _)) o ho
  exact ⟨s, _, o, ho, o', ho', Nat.lt_succ_self _, hid⟩

/-- **Every call stays sound**, in every run. -/
theorem calls_sound (hs : Reachable sha256 G s) :
    ∀ c ∈ s.calls, Sound sha256 (Established sha256) c.program s.view := by
  refine Stepping.Reach.invariant hs (by simp [State.init]) ?_
  intro s a s' ih _ h c' hc'
  rcases step_calls h hc' with ⟨c, hc, hp, -⟩ | ⟨request, hp, -⟩ |
    ⟨c, hc, claim, step, progress, -, -, -, hp⟩ | ⟨c, hc, hp, -⟩ |
    ⟨c, hc, instr, next, answer, hp, -, heff, hp', -⟩
  · rw [hp]
    exact (ih c hc).later rely_stable (step_rely h)
  · rw [hp]
    exact request.sound
  · rw [hp]
    exact heartbeat_sound
  · rw [hp]
    exact fun _ _ => trivial
  · have hsound := ih c hc
    rw [hp] at hsound
    rw [hp']
    exact (hsound.perform rely_stable).2 answer s'.view heff

/-- A step that writes is that of a call whose next instruction is the write. -/
theorem issued_cases {a : Action} {w : Write} (h : s.issued a = some w) :
    ∃ i choice, a = .advance i choice ∧ ∃ c next, s.calls[i]? = some c ∧
      c.program = .ask (.write w) next := by
  cases a with
  | advance i choice =>
    simp only [State.issued, Option.bind_eq_some_iff] at h
    obtain ⟨c, hc, instr, hnext, hw⟩ := h
    cases instr with
    | write w' =>
      simp only [Instr.write?, Option.some.injEq] at hw
      subst hw
      cases hp : c.program with
      | done a => rw [hp] at hnext; exact absurd hnext (by simp [Prog.next?])
      | ask instr next =>
        rw [hp] at hnext
        simp only [Prog.next?, Option.some.injEq] at hnext
        subst hnext
        exact ⟨i, choice, rfl, c, next, hc, hp⟩
    | _ => exact absurd hw (by simp [Instr.write?])
  | _ => exact absurd h (by simp [State.issued])

/-- **Every write of a run is formed**, and not dated in the future. -/
theorem issued_formed (hs : Reachable sha256 G s) {a : Action} {w : Write}
    (h : s.issued a = some w) : w.stamp ≤ s.clock ∧ w.Formed sha256 s.db := by
  obtain ⟨i, choice, -, c, next, hc, hp⟩ := issued_cases h
  have hsound := calls_sound hs c (List.mem_of_getElem? hc)
  rw [hp] at hsound
  exact (hsound.perform rely_stable).1

/-- What an invariant may assume of a committed write of a run. -/
structure Commits (sha256 : String → String) (G : State → Write → Prop) (s : State) (w : Write)
    (done : Committed) : Prop where
  reach : Reachable sha256 G s
  stamp : w.stamp ≤ s.clock
  formed : w.Formed sha256 s.db
  guard : G s w
  commit : s.db.commit w = .ok done

/-- **The invariant rule for the tables**: what the empty tables meet and every commit keeps, all
runs keep. -/
theorem reach_tables (I : OperationTable → LockTable → Prop) (hs : Reachable sha256 G s)
    (h0 : I .empty .empty)
    (hstep : ∀ s w done, Commits sha256 G s w done → I s.db.operation s.db.operationLock →
      I done.db.operation done.db.operationLock) : I s.db.operation s.db.operationLock := by
  refine Stepping.Reach.invariant_of hs h0 ?_
  intro s a s' hrc ih hok h
  rcases step_db h with ⟨hrows, hlocks⟩ | ⟨w, done, hw, hd, hdb⟩
  · rw [hrows, hlocks]
    exact ih
  · rw [hdb]
    obtain ⟨hstamp, hformed⟩ := issued_formed hrc hw
    exact hstep s w done ⟨hrc, hstamp, hformed, hok w hw, hd⟩ ih

/-- **The invariant rule for rows**: what every created row meets and every change keeps holds of
every row. -/
theorem reach_rows (R : Operation → Prop) (hs : Reachable sha256 G s)
    (hcreate : ∀ p now, Prepared sha256 p → R (p.row now))
    (hchg : ∀ s w done o o', Commits sha256 G s w done → RowChange s.db w o o' →
      o ∈ s.db.operation → R o → R o') : ∀ o ∈ s.db.operation, R o := by
  refine reach_tables (fun operation _ => ∀ o ∈ operation, R o) hs ?_ ?_
  · exact fun o ho => absurd ho (Table.not_mem_empty o)
  · intro s w done hw ih o' ho'
    rcases mem_commit hw.commit ho' with ⟨p, now, rfl, rfl⟩ | ⟨o, ho, hc⟩
    · exact hcreate p now hw.formed.1
    · exact hchg s w done o o' hw hc ho (ih o ho)

end Meowbox.Operations
