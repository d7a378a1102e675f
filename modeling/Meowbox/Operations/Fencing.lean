import Meowbox.Operations.Rows

/-!
# Fencing of queued operations

The writes of an execution name the operation and the worker it belongs to, and they match on
`leaseOwner`. A worker keeps one id for the life of its process, so the lease owner does not tell
two claims of one operation by the same worker apart: when the lease of an execution runs out, the
operation is recovered and the worker claims it again while the first execution is still running,
the writes of the first execution match the row of the second claim.

Under the condition that this does not happen, `NoReclaim`, the lease owner is a fence.

Results:
* `calls_fenced`: an execution and its heartbeats write only under the operation id and the lease
  owner of their claim.
* `owner_current`: in a run without such a second claim, a row that carries the lease owner of an
  unfinished execution still belongs to the claim of that execution.
* `stale_execution_harmless`: an execution whose claim is no longer the current one changes
  nothing.
-/

namespace Meowbox.Operations

open Relational Interleaved Stepping

/-! ## The key of an execution -/

/-- The operation id and the lease owner a write of an execution matches on. -/
def Write.holder : Write → Option (String × String)
  | .startClaimed operationId leaseOwner _ _ => some (operationId, leaseOwner)
  | .heartbeatClaim operationId leaseOwner _ _ _ => some (operationId, leaseOwner)
  | .succeedClaimed operationId leaseOwner _ _ _ => some (operationId, leaseOwner)
  | .failClaimed operationId leaseOwner _ _ => some (operationId, leaseOwner)
  | .retryOrRequireAttention operation leaseOwner _ _ => some (operation.id, leaseOwner)
  | .cancelClaimed operationId leaseOwner _ => some (operationId, leaseOwner)
  | .requireAttention operationId leaseOwner _ _ => some (operationId, leaseOwner)
  | _ => none

def Claim.key (claim : Claim) : String × String := (claim.operationId, claim.leaseOwner)

/-- The key a program works under after an instruction: a claim that returned a row sets it. -/
def keyAfter (key : Option (String × String)) : (i : Instr) → i.Answer → Option (String × String)
  | .write (.claim leaseOwner _), .ok ⟨_, some claimedId⟩ => some (claimedId.1, leaseOwner)
  | _, _ => key

/-- A program writes under its key: before a claim no write of an execution, afterwards only writes
of the execution. -/
def UnderKey (key : Option (String × String)) : Instr → Prop
  | .write w => w.holder = key
  | _ => True

abbrev Fenced {α : Type} (post : Option (String × String) → α → Prop) (p : Program α)
    (key : Option (String × String)) : Prop :=
  Safe Eq (fun i key r key' => key' = keyAfter key i r) UnderKey post p key

section Fenced

variable {α β : Type} {key : Option (String × String)}

theorem fenced_bind {post : Option (String × String) → β → Prop} {p : Program α}
    {f : α → Program β} (h : Fenced (fun key a => Fenced post (f a) key) p key) :
    Fenced post (p >>= f) key := safe_seq (fun _ => rfl) h

variable {post : Option (String × String) → α → Prop}

theorem fenced_done {a : α} (h : post key a) : Fenced post (.done a) key := by
  rintro _ rfl
  exact h

theorem fenced_pure {a : α} (h : post key a) :
    Fenced post (pure a) key := fenced_done h

theorem fenced_ask {i : Instr} {next : i.Answer → Program α} (hok : UnderKey key i)
    (h : ∀ r, Fenced post (next r) (keyAfter key i r)) : Fenced post (.ask i next) key := by
  rintro _ rfl
  refine ⟨hok, ?_⟩
  rintro r _ rfl
  exact h r

theorem fenced_read {f : Db → Program α} (h : ∀ db, Fenced post (f db) key) :
    Fenced post (Method.read >>= f) key :=
  fenced_ask trivial h

theorem fenced_clock {f : Time → Program α} (h : ∀ now, Fenced post (f now) key) :
    Fenced post (Method.clock >>= f) key :=
  fenced_ask trivial h

theorem fenced_flip {f : Bool → Program α} (h : ∀ b, Fenced post (f b) key) :
    Fenced post (Method.flip >>= f) key :=
  fenced_ask trivial h

theorem fenced_handler {f : Bool × HandlerOutcome → Program α} (h : ∀ a, Fenced post (f a) key) :
    Fenced post (Method.handler >>= f) key :=
  fenced_ask trivial h

theorem keyAfter_write {w : Write} (hw : ∀ leaseOwner now, w ≠ .claim leaseOwner now)
    (r : Except Fault Reply) : keyAfter key (.write w) r = key := by
  cases w with
  | claim leaseOwner now => exact absurd rfl (hw leaseOwner now)
  | _ => rfl

/-- A write under the key of the program, other than a claim, keeps the key. -/
theorem fenced_write {w : Write} (hw : ∀ leaseOwner now, w ≠ .claim leaseOwner now)
    (hkey : w.holder = key) : Fenced (fun key' _ => key' = key) (Method.write w) key := by
  refine fenced_ask hkey fun r => fenced_done ?_
  exact keyAfter_write hw r

theorem fenced_stamped {w : Time → Write}
    (hw : ∀ now, (∀ leaseOwner t, w now ≠ .claim leaseOwner t) ∧ (w now).holder = key) :
    Fenced (fun key' _ => key' = key) (Method.stamped w) key :=
  fenced_clock fun now => fenced_write (hw now).1 (hw now).2

theorem fenced_any {p : Program α} (h : Fenced post p key) : Fenced (fun _ _ => True) p key :=
  Safe.weaken (fun _ _ _ => trivial) h

/-- A program that keeps the key, then one that works under it. -/
theorem fenced_then {post : Option (String × String) → β → Prop} {p : Program α}
    {f : α → Program β} (hp : Fenced (fun key' _ => key' = key) p key)
    (hf : ∀ a, Fenced post (f a) key) : Fenced post (p >>= f) key := by
  refine fenced_bind (Safe.weaken (fun key' a hk => ?_) hp)
  rw [hk]
  exact hf a

theorem fenced_discard {p : Program α} (hp : Fenced (fun key' _ => key' = key) p key) :
    Fenced (fun key' _ => key' = key) (discard p) key :=
  fenced_then hp fun _ => fenced_pure rfl

theorem fenced_each {f : β → Program Unit} {bs : List β}
    (h : ∀ b ∈ bs, Fenced (fun key' _ => key' = key) (f b) key) :
    Fenced (fun key' _ => key' = key) (Prog.each f bs) key := by
  refine safe_each_keeps (fun _ => rfl) (fun ha hb => hb ▸ ha) rfl fun b hb key' hkey => ?_
  rw [hkey]
  exact h b hb

theorem fenced_single {reply : Program (Except Fault Reply)}
    (h : Fenced (fun _ _ => True) reply key) :
    Fenced (fun _ _ => True) (Method.single reply) key := by
  refine fenced_bind (Safe.weaken (fun key' a _ => ?_) h)
  cases a with
  | ok r => exact fenced_pure trivial
  | error fault => exact fenced_pure trivial

/-! ### The methods -/

theorem maintainQueue_fenced (now : Time) :
    Fenced (fun key' _ => key' = none) (Method.maintainQueue now) none := by
  refine fenced_read fun db₁ => fenced_then (fenced_each fun l _ => ?_) fun _ => ?_
  · exact fenced_discard (fenced_write (by simp) rfl)
  refine fenced_read fun db₂ => fenced_then (fenced_each fun e _ => ?_) fun _ => ?_
  · refine fenced_then (fenced_write (by simp) rfl) fun r => ?_
    split
    · exact fenced_discard (fenced_write (by simp) rfl)
    · exact fenced_pure rfl
  refine fenced_read fun db₃ => fenced_each fun e _ => ?_
  unfold Method.exhaustOne
  split
  · exact fenced_pure rfl
  · exact fenced_discard (fenced_write (by simp) rfl)

/-- The key a claim leads to. -/
def keyOf (leaseOwner : String) (claimedId : Option (String × Bool)) : Option (String × String) :=
  claimedId.map fun c => (c.1, leaseOwner)

variable (leaseOwner : String)

theorem claimStatement_fenced (now : Time) :
    Fenced (fun key' claimedId => key' = keyOf leaseOwner claimedId) (do
      match ← Method.write (.claim leaseOwner now) with
      | .ok reply => pure reply.returning
      | .error _ => pure none) none := by
  refine fenced_ask rfl fun r => ?_
  match r with
  | .ok ⟨n, some claimedId⟩ => exact fenced_done rfl
  | .ok ⟨n, none⟩ => exact fenced_done rfl
  | .error fault => exact fenced_done rfl

theorem claimOnce_fenced (now : Time) :
    Fenced (fun key' claimedId => key' = keyOf leaseOwner claimedId)
      (Method.claimOnce leaseOwner now) none := by
  refine fenced_flip fun due => ?_
  cases due with
  | true => exact fenced_then (maintainQueue_fenced now) fun _ => claimStatement_fenced leaseOwner now
  | false => exact claimStatement_fenced leaseOwner now

theorem loadClaimed_id {db : Db} {id : String} {recovering : Bool} {operation : ClaimedOperation}
    (h : Method.loadClaimed (db.operation.find? fun o => o.id == id) recovering = .ok operation) :
    operation.id = id := by
  unfold Method.loadClaimed at h
  split at h
  · exact absurd h (by simp)
  rename_i o hfnd
  have hid : o.id = id := by simpa using (Table.mem_of_find? hfnd).2
  split at h
  · split at h
    · exact absurd h (by simp)
    · cases h
      exact hid
  · exact absurd h (by simp)

/-- What a claimed operation was claimed under. -/
def ClaimedUnder (leaseOwner : String) (key : Option (String × String))
    (operation : Option ClaimedOperation) : Prop :=
  ∀ op, operation = some op → key = some (op.id, leaseOwner)

theorem loadClaim_fenced (claimedId : String × Bool) :
    Fenced (ClaimedUnder leaseOwner) (Method.loadClaim leaseOwner claimedId)
      (some (claimedId.1, leaseOwner)) := by
  refine fenced_read fun db => ?_
  split
  · rename_i operation hload
    refine fenced_pure fun op hop => ?_
    rw [← Option.some.inj hop, loadClaimed_id hload]
  · refine fenced_then (fenced_stamped fun _ => ⟨by simp, rfl⟩) fun _ => fenced_pure ?_
    exact fun op hop => absurd hop (by simp)

theorem claimNext_fenced (now : Time) (recoverExpired : Bool) :
    Fenced (ClaimedUnder leaseOwner) (Method.claimNext leaseOwner now recoverExpired) none := by
  have hnone : ∀ {key : Option (String × String)}, ClaimedUnder leaseOwner key none :=
    fun op hop => absurd hop (by simp)
  refine fenced_bind (Safe.weaken (fun key claimedId hkey => ?_) (claimOnce_fenced leaseOwner now))
  cases claimedId with
  | some c =>
    rw [hkey]
    exact loadClaim_fenced leaseOwner c
  | none =>
    rw [hkey]
    refine fenced_read fun db => ?_
    split
    · refine fenced_then (maintainQueue_fenced now) fun _ => ?_
      refine fenced_bind (Safe.weaken (fun key claimedId hkey => ?_)
        (claimOnce_fenced leaseOwner now))
      cases claimedId with
      | some c =>
        rw [hkey]
        exact loadClaim_fenced leaseOwner c
      | none => exact fenced_pure hnone
    · exact fenced_pure hnone

theorem onError_fenced (operation : ClaimedOperation) (workerId : String) (error : HandlerError) :
    Fenced (fun _ _ => True) (Method.onError operation workerId error)
      (some (operation.id, workerId)) := by
  cases error with
  | failed message => exact fenced_any (fenced_stamped fun _ => ⟨by simp, rfl⟩)
  | needsAttention message => exact fenced_any (fenced_stamped fun _ => ⟨by simp, rfl⟩)
  | cancelled => exact fenced_any (fenced_stamped fun _ => ⟨by simp, rfl⟩)
  | other message =>
    refine fenced_read fun db => ?_
    split
    · exact fenced_any (fenced_stamped fun _ => ⟨by simp, rfl⟩)
    · exact fenced_any (fenced_stamped fun _ => ⟨by simp, rfl⟩)

theorem execute_fenced (workerId : String) (operation : ClaimedOperation) :
    Fenced (fun _ _ => True) (Method.execute workerId operation)
      (some (operation.id, workerId)) := by
  refine fenced_flip fun registered => ?_
  cases registered with
  | false => exact fenced_any (fenced_stamped fun _ => ⟨by simp, rfl⟩)
  | true =>
    refine fenced_then (fenced_stamped fun _ => ⟨by simp, rfl⟩) fun reply => ?_
    cases reply with
    | error fault => exact fenced_pure trivial
    | ok r =>
      refine fenced_handler fun a => ?_
      match a with
      | (_, .threw error) => exact onError_fenced operation workerId error
      | (true, .returned _) => exact onError_fenced operation workerId _
      | (false, .returned result) =>
        refine fenced_read fun db => fenced_then (fenced_stamped fun _ => ⟨by simp, rfl⟩)
          fun reply => ?_
        cases reply with
        | ok r => exact fenced_pure trivial
        | error fault => exact onError_fenced operation workerId _

theorem poll_fenced (workerId : String) :
    Fenced (fun _ _ => True) (Method.poll workerId) none := by
  unfold Method.poll
  split
  · exact fenced_pure trivial
  · refine fenced_clock fun now => fenced_bind ?_
    refine Safe.weaken (fun key operation hkey => ?_) (claimNext_fenced workerId now true)
    cases operation with
    | none => exact fenced_pure trivial
    | some op =>
      rw [hkey op rfl]
      exact fenced_single (execute_fenced workerId op)

theorem heartbeat_fenced (operationId leaseOwner : String) (step : Option String)
    (progress : Option Int) :
    Fenced (fun _ _ => True) (Method.heartbeat operationId leaseOwner step progress)
      (some (operationId, leaseOwner)) := by
  refine fenced_then (fenced_stamped fun _ => ⟨by simp, rfl⟩) fun reply => ?_
  split
  · exact fenced_pure trivial
  · exact fenced_ask trivial fun _ => fenced_pure trivial

theorem replayAfterViolation_fenced (p : PreparedBegin) :
    Fenced (fun _ _ => True) (Method.replayAfterViolation p) none := by
  refine fenced_read fun db => ?_
  split
  · exact fenced_pure trivial
  · refine fenced_read fun db => ?_
    split
    · exact fenced_pure trivial
    · exact fenced_read fun db => fenced_pure trivial

theorem begin_fenced (sha256 : String → String) (input : BeginOperationInput)
    (uuid operationId : String) (releaseMaintenance : Bool) :
    Fenced (fun _ _ => True) (Method.begin sha256 input uuid operationId releaseMaintenance)
      none := by
  refine fenced_clock fun now => ?_
  split
  · exact fenced_pure trivial
  refine fenced_read fun db => ?_
  split
  · exact fenced_pure trivial
  unfold Method.create
  split
  · exact fenced_pure trivial
  refine fenced_then (fenced_stamped fun _ => ⟨by simp, rfl⟩) fun reply => ?_
  split
  · exact fenced_pure trivial
  · exact replayAfterViolation_fenced _
  · exact fenced_pure trivial

/-- Every method starts without a key. -/
theorem Request.fenced (sha256 : String → String) (request : Request) :
    Fenced (fun _ _ => True) (request.program sha256) none := by
  cases request with
  | begin input uuid operationId releaseMaintenance => exact begin_fenced _ _ _ _ _
  | attachScope operationId scope => exact fenced_single (fenced_any (fenced_write (by simp) rfl))
  | start operationId step =>
    exact fenced_single (fenced_any (fenced_stamped fun _ => ⟨by simp, rfl⟩))
  | step operationId step progress =>
    exact fenced_single (fenced_any (fenced_write (by simp) rfl))
  | succeed operationId result =>
    exact fenced_single (fenced_any (fenced_stamped fun _ => ⟨by simp, rfl⟩))
  | fail operationId message =>
    exact fenced_single (fenced_any (fenced_stamped fun _ => ⟨by simp, rfl⟩))
  | poll workerId => exact poll_fenced workerId
  | requestCancellation operationId userId role =>
    refine fenced_read fun db => ?_
    split
    · exact fenced_pure trivial
    · exact fenced_pure trivial
    · exact fenced_single (fenced_any (fenced_stamped fun _ => ⟨by simp, rfl⟩))
  | onModuleInit =>
    refine fenced_read fun db => ?_
    split
    · exact fenced_pure trivial
    · exact fenced_single (fenced_any (fenced_stamped fun _ => ⟨by simp, rfl⟩))

end Fenced

/-! ## Calls under their claim -/

variable {sha256 : String → String} {G : State → Write → Prop} {s s' : State}

/-- The key after an instruction is that of the claim it makes, or the one before. -/
theorem keyAfter_newClaim {instr : Instr} {answer : instr.Answer} {v' : View}
    (h : Effect instr s.view answer v') (claim : Option Claim) :
    keyAfter (claim.map Claim.key) instr answer =
      ((newClaim s instr).or claim).map Claim.key := by
  cases instr with
  | write w =>
    cases w with
    | claim leaseOwner now =>
      rcases h with ⟨done, -, rfl, -⟩ | ⟨fault, hf, -, -⟩
      · simp only [newClaim, Write.returning, State.view]
        cases nextClaim s.db now with
        | none => rfl
        | some o => rfl
      · exact absurd hf (by simp [Db.commit])
    | _ => rfl
  | _ => rfl

/-- **Every call works under the key of its claim**, in every run. -/
theorem calls_fenced (hs : Reachable sha256 G s) :
    ∀ c ∈ s.calls, Fenced (fun _ _ => True) c.program (c.claim.map Claim.key) := by
  refine Reach.invariant hs (by simp [State.init]) ?_
  intro s a s' ih _ h c' hc'
  rcases step_calls h hc' with ⟨c, hc, hp, hcl⟩ | ⟨request, hp, hcl⟩ |
    ⟨c, hc, claim, step, progress, -, -, hcl, hp⟩ | ⟨c, hc, hp, -⟩ |
    ⟨c, hc, instr, next, answer, hp, -, heff, hp', hcl⟩
  · rw [hp, hcl]
    exact ih c hc
  · rw [hp, hcl]
    exact request.fenced sha256
  · rw [hp, hcl]
    exact heartbeat_fenced _ _ step progress
  · rw [hp]
    exact fenced_done trivial
  · have hcall := ih c hc
    rw [hp] at hcall
    rw [hp', hcl, ← keyAfter_newClaim heff c.claim]
    exact (hcall _ rfl).2 answer _ rfl

/-! ## What a write of an execution can hit -/

section Commit

variable {db : Db} {done : Committed} {w : Write}

theorem matched_of_requireOne {p : Operation → Bool} {f : Operation → Operation}
    {hf : ∀ o, (f o).id = o.id ∧ (f o).idempotencyKey = o.idempotencyKey} {fault : Fault}
    {c : Committed} (h : (db.updateOperations p f hf).requireOne fault = .ok c) :
    ∃ o ∈ db.operation, p o = true := by
  obtain ⟨hone, -⟩ := requireOne_eq_ok.mp h
  rw [updateOperations_count] at hone
  exact Table.count_pos.mp (by omega)

theorem matched_of_finalise {p : Operation → Bool} {f : Operation → Operation}
    {hf : ∀ o, (f o).id = o.id ∧ (f o).idempotencyKey = o.idempotencyKey} {fault : Fault}
    {operationId : String}
    (h : (match (db.updateOperations p f hf).requireOne fault with
      | .error fault => Except.error fault
      | .ok updated => .ok (updated.releaseLocks operationId)) = .ok done) :
    ∃ o ∈ db.operation, p o = true := by
  split at h
  · exact absurd h (by simp)
  · rename_i hu
    exact matched_of_requireOne hu

theorem updateMany_none {p : Operation → Bool} {f : Operation → Operation}
    {hf : ∀ o, (f o).id = o.id ∧ (f o).idempotencyKey = o.idempotencyKey}
    (h : ∀ o ∈ db.operation, ¬ p o = true) :
    (db.updateOperations p f hf).db.operation = db.operation := by
  have hrows : db.operation.rows.map (Table.patch p f) = db.operation.rows := by
    refine (List.map_congr_left fun o ho => ?_).trans (List.map_id _)
    exact Table.patch_neg (h o ho)
  exact Table.ext_rows hrows

/-- **A write of an execution changes the tables only when the row of its operation carries the
lease owner it was issued under.** -/
theorem holder_matches (h : db.commit w = .ok done) {operationId leaseOwner : String}
    (hw : w.holder = some (operationId, leaseOwner)) :
    (∃ o ∈ db.operation, o.id = operationId ∧ o.leaseOwner = some leaseOwner) ∨
      (done.db.operation = db.operation ∧ done.db.operationLock = db.operationLock) := by
  have held : ∀ {statuses : List OperationStatus} {operationId leaseOwner : String},
      (∃ o ∈ db.operation, heldBy operationId leaseOwner statuses o = true) →
        ∃ o ∈ db.operation, o.id = operationId ∧ o.leaseOwner = some leaseOwner := by
    rintro statuses operationId leaseOwner ⟨o, ho, hp⟩
    obtain ⟨hid, hl, -⟩ := heldBy_iff.mp hp
    exact ⟨o, ho, hid, hl⟩
  cases w with
  | startClaimed id owner step now =>
    cases hw
    obtain ⟨o, ho, hp⟩ := matched_of_requireOne h
    rw [Bool.and_eq_true] at hp
    exact .inl (held ⟨o, ho, hp.1⟩)
  | heartbeatClaim id owner step progress now =>
    cases hw
    cases h
    by_cases hrow : ∃ o ∈ db.operation, o.id = operationId ∧ o.leaseOwner = some leaseOwner
    · exact .inl hrow
    · refine .inr ⟨updateMany_none fun o ho hp => ?_, rfl⟩
      rw [Bool.and_eq_true, Bool.and_eq_true] at hp
      exact hrow (held ⟨o, ho, hp.1.1⟩)
  | succeedClaimed id owner result cancelTooLate now =>
    cases hw
    simp only [Db.commit, succeedClaimed] at h
    split at h
    · exact absurd h (by simp)
    split at h
    · exact absurd h (by simp)
    exact .inl (held (matched_of_finalise h))
  | failClaimed id owner message now =>
    cases hw
    exact .inl (held (matched_of_finalise h))
  | retryOrRequireAttention operation owner message now =>
    cases hw
    exact .inl (held (matched_of_requireOne h))
  | cancelClaimed id owner now =>
    cases hw
    exact .inl (held (matched_of_finalise h))
  | requireAttention id owner message now =>
    cases hw
    obtain ⟨o, ho, hp⟩ := matched_of_requireOne h
    simp only [Bool.and_eq_true, beq_iff_eq] at hp
    exact .inl ⟨o, ho, hp⟩
  | _ => exact absurd hw (by simp [Write.holder])

/-- The row a claim takes carries its lease owner. -/
theorem claimed_row {leaseOwner : String} {now : Time} {o o' : Operation}
    (hn : nextClaim db now = some o) (ho' : o' ∈ (claim db leaseOwner now).db.operation)
    (hid : o'.id = o.id) : o'.leaseOwner = some leaseOwner := by
  have hp : ((nextClaim db now).any fun c => c.id == o.id) = true := by simp [hn]
  have hrow := mem_update (c := claim db leaseOwner now) rfl (nextClaim_mem hn).1 hp
  rw [eq_of_id ho' hrow hid]

end Commit

/-! ## Runs -/

/-- The claim statement takes no operation for a worker that still has an unfinished execution of
it. -/
def NoReclaim (s : State) : Write → Prop
  | .claim leaseOwner now => ∀ o ∈ nextClaim s.db now, ∀ c ∈ s.calls, c.finished = false →
      ∀ claim ∈ c.claim, claim.operationId = o.id → claim.leaseOwner ≠ leaseOwner
  | _ => True

instance (s : State) (w : Write) : Decidable (NoReclaim s w) := by
  apply Write.casesOn (motive := fun w => Decidable (NoReclaim s w)) w <;> intros <;>
    dsimp only [NoReclaim] <;> infer_instance

/-- The claim is the last one of its operation, and the row still carries its lease owner. -/
def Claim.Current (s : State) (claim : Claim) : Prop :=
  s.claimed.count claim.operationId = claim.number ∧
    ∃ o ∈ s.db.operation, o.id = claim.operationId ∧ o.leaseOwner = some claim.leaseOwner

instance (s : State) (claim : Claim) : Decidable (claim.Current s) :=
  inferInstanceAs (Decidable (_ ∧ _))

/-- A row that carries the lease owner of the claim belongs to that claim. -/
def OwnerCurrent (s : State) (claim : Claim) : Prop :=
  ∀ o ∈ s.db.operation, o.id = claim.operationId → o.leaseOwner = some claim.leaseOwner →
    s.claimed.count claim.operationId = claim.number

/-- A step keeps the row of an unfinished execution its own. -/
theorem ownerCurrent_step {a : Action} (h : s.step sha256 a = some s')
    (hg : Writes NoReclaim s a) {c : Call} (hc : c ∈ s.calls) (hf : c.finished = false)
    {claim : Claim} (hclaim : c.claim = some claim) (ih : OwnerCurrent s claim) :
    OwnerCurrent s' claim := by
  intro o' ho' hid hl
  rcases step_claimed h with ⟨hsame, hnone⟩ | ⟨leaseOwner, now, o₁, hw, hn, hclaimed⟩
  · -- nothing is claimed, so the row had the lease owner before
    rw [hsame]
    rcases step_db h with ⟨hrows, -⟩ | ⟨w, done, hw, hd, hdb⟩
    · rw [hrows] at ho'
      exact ih o' ho' hid hl
    · rw [hdb] at ho'
      rcases mem_commit hd ho' with ⟨p, now, -, rfl⟩ | ⟨o, ho, hch⟩
      · exact absurd hl (by simp [PreparedBegin.row])
      · rcases hch.leaseOwner hl with hl | ⟨now, rfl, hn⟩
        · exact ih o ho (hch.identity.id.symm.trans hid) hl
        · exact absurd (hnone _ now hw) (by simp [hn])
  · have hd : s.db.commit (.claim leaseOwner now) = .ok (Operations.claim s.db leaseOwner now) := rfl
    have hdb : s'.db = (Operations.claim s.db leaseOwner now).db := by
      rcases step_issued h hw with ⟨done, hd', hdb⟩ | ⟨fault, hf', -⟩
      · cases hd'
        exact hdb
      · exact absurd hf' (by simp [Db.commit])
    rw [hdb] at ho'
    by_cases hsame : o₁.id = claim.operationId
    · -- the operation is claimed again: for another worker
      have hrow := claimed_row hn ho' (hid.trans hsame.symm)
      have hother := hg _ hw o₁ hn c hc hf claim hclaim hsame.symm
      rw [hl] at hrow
      exact absurd (Option.some.inj hrow) hother
    · rw [hclaimed, List.count_cons_of_ne hsame]
      rcases mem_commit hd ho' with ⟨p, now, hcr, -⟩ | ⟨o, ho, hch⟩
      · exact absurd hcr (by simp)
      · rcases hch.leaseOwner hl with hl | ⟨now', he, hn'⟩
        · exact ih o ho (hch.identity.id.symm.trans hid) hl
        · cases he
          rw [hn] at hn'
          cases hn'
          exact absurd (hch.identity.id.symm.trans hid) hsame

/-- **The lease owner is a fence** when no worker claims an operation it is still executing. -/
theorem owner_current (hs : Reachable sha256 NoReclaim s) :
    ∀ c ∈ s.calls, c.finished = false → ∀ claim, c.claim = some claim → OwnerCurrent s claim := by
  refine Reach.invariant hs (by simp [State.init]) ?_
  intro s a s' ih hg h c' hc' hf claim hclaim
  rcases step_calls h hc' with ⟨c, hc, hp, hcl⟩ | ⟨request, hp, hcl⟩ |
    ⟨c, hc, claim', step, progress, hcf, hcl, hcl', -⟩ | ⟨c, hc, hp, -⟩ |
    ⟨c, hc, instr, next, answer, hp, hiss, heff, -, hcl⟩
  · have hcf : c.finished = false := by
      rw [Call.finished, ← hp]
      exact hf
    rw [hcl] at hclaim
    exact ownerCurrent_step h hg hc hcf hclaim (ih c hc hcf claim hclaim)
  · rw [hcl] at hclaim
    exact absurd hclaim (by simp)
  · -- a heartbeat has the claim of its execution
    rw [hcl'] at hclaim
    cases hclaim
    exact ownerCurrent_step h hg hc hcf hcl (ih c hc hcf claim hcl)
  · exact absurd hf (by simp [Call.finished, hp, Prog.next?])
  · have hcf : c.finished = false := by simp [Call.finished, hp, Prog.next?]
    cases hn : newClaim s instr with
    | none =>
      rw [hcl, hn, Option.none_or] at hclaim
      exact ownerCurrent_step h hg hc hcf hclaim (ih c hc hcf claim hclaim)
    | some new =>
      rw [hcl, hn, Option.some_or] at hclaim
      cases hclaim
      obtain ⟨leaseOwner, now, o, rfl, ho, rfl⟩ := newClaim_eq_some.mp hn
      rcases step_claimed h with ⟨-, hnone⟩ | ⟨owner, now', o', hw, hn', hclaimed⟩
      · exact absurd (hnone leaseOwner now hiss) (by simp [ho])
      · rw [hiss] at hw
        cases hw
        rw [ho] at hn'
        cases hn'
        intro _ _ _ _
        rw [hclaimed, List.count_cons_self]

/-- **A stale execution is harmless** in a run in which no worker claims an operation it is still
executing: an execution whose claim is not the current one changes neither table. -/
theorem stale_execution_harmless (hs : Reachable sha256 NoReclaim s) {i : Nat} {choice : Choice}
    {c : Call} (hc : s.calls[i]? = some c) {claim : Claim} (hclaim : c.claim = some claim)
    (hstale : ¬ claim.Current s) (h : s.step sha256 (.advance i choice) = some s') :
    s'.db.operation = s.db.operation ∧ s'.db.operationLock = s.db.operationLock := by
  rcases step_db h with hsame | ⟨w, done, hw, hd, hdb⟩
  · exact hsame
  have hmem := List.mem_of_getElem? hc
  obtain ⟨j, choice', hj, c', next, hc', hp⟩ := issued_cases hw
  cases hj
  rw [hc] at hc'
  cases hc'
  -- the write goes out under the key of the claim
  have hcall := calls_fenced hs c hmem
  rw [hp, hclaim] at hcall
  have hkey : w.holder = some claim.key := (hcall _ rfl).1
  rcases holder_matches hd hkey with ⟨o, ho, hid, hl⟩ | hno
  · have hf : c.finished = false := by simp [Call.finished, hp, Prog.next?]
    have hcnt := owner_current hs c hmem hf claim hclaim o ho hid hl
    exact absurd ⟨hcnt, o, ho, hid, hl⟩ hstale
  · rw [hdb]
    exact hno

/-- An execution of `worker:1` whose lease runs out while its handler is at work; then `workerId`
recovers the operation and claims it, and the handler fails. -/
def reclaimedBy (workerId : String) : List Action :=
  Sample.perform 0 4
      (.begin (Sample.queued "key-0001" none none 100000) "uuid-0001" "op-1" false) ++
    Sample.claim 1 "worker:1" ++ Sample.advance 1 1 ++ [Action.advance 1 (.flip true)] ++
    Sample.advance 1 2 ++ [Action.tick 31000, .call (.poll workerId), .advance 2 .go,
      .advance 2 (.flip true)] ++ Sample.advance 2 5 ++
    [Action.advance 1 (.handler (.threw (.other "exit code 1")))] ++ Sample.advance 1 2

/-- The execution numbered 1 was superseded and is about to perform an instruction. -/
def Superseded (s : State) : Prop :=
  ∃ c ∈ s.calls[1]?, ∃ claim ∈ c.claim, ¬ claim.Current s ∧
    (s.step Sample.digest (.advance 1 .go)).isSome = true

instance (s : State) : Decidable (Superseded s) := by
  unfold Superseded
  infer_instance

/-- Another worker took the operation over: the first execution changes nothing. -/
theorem stale_execution_other_worker :
    ∃ s s', Reachable Sample.digest NoReclaim s ∧
      s.step Sample.digest (.advance 1 .go) = some s' ∧
      s'.db.operation = s.db.operation ∧ s'.db.operationLock = s.db.operationLock := by
  have hrun : (run (State.step Sample.digest) (Writes NoReclaim) .init
      (reclaimedBy "worker:2")).any (fun s : State => decide (Superseded s)) = true :=
        by decide +kernel
  obtain ⟨s, hs, c, hc, claim, hclaim, hstale, hstep⟩ := Reach.of_run_any hrun
  obtain ⟨s', h⟩ := Option.isSome_iff_exists.mp hstep
  exact ⟨s, s', hs, h, stale_execution_harmless hs hc hclaim hstale h⟩

/-- A step of execution 1 changes the status of an operation although its claim is superseded. -/
def ChangesSuperseded (s : State) : Prop :=
  ∃ c ∈ s.calls[1]?, ∃ claim ∈ c.claim, ¬ claim.Current s ∧
    ∃ s' ∈ s.step Sample.digest (.advance 1 .go), ∃ o ∈ s.db.operation, ∃ o' ∈ s'.db.operation,
      o.id = claim.operationId ∧ o'.id = o.id ∧ o'.status ≠ o.status

instance (s : State) : Decidable (ChangesSuperseded s) := by
  unfold ChangesSuperseded
  infer_instance

/-- **The failing run**: the worker itself claimed the operation again, and its first execution
puts the second claim back into the queue. -/
theorem superseded_execution_writes :
    ∃ s, Reachable Sample.digest anyWrite s ∧ ChangesSuperseded s := by
  have hrun : (run (State.step Sample.digest) (Writes anyWrite) .init
      (reclaimedBy "worker:1")).any (fun s : State => decide (ChangesSuperseded s)) = true := by
    decide +kernel
  exact Reach.of_run_any hrun

end Meowbox.Operations
