import Meowbox.Operations.Restart

/-!
# `begin` is idempotent

Calls of `begin` that carry one idempotency key end in one row: the key is unique, a call that
finds it taken answers with the stored row or throws, and so does a call that loses the race and
fails on the unique column. Two requests are told apart by their type, their user and a hash over
the stable JSON of the rest, so they are one request when that JSON is one (`SameRequest`): the
order of keys does not count, `undefined` and numbers JSON cannot write count as `null`, and the
request id of the policy and the deadline are not part of it.

`sha256` may be any function; where two requests are told apart it is assumed not to map the two
texts at hand to one digest (`NoCollision`).

Results:
* `began_beginning`: what is left of a call of `begin` only ever creates its row, and returns a
  ticket when it did.
* `sameRequest_reissued`: the request id and the deadline do not matter.
-/

namespace Meowbox.Operations

open Relational JsData JsonText Interleaved Stepping

/-! ## Requests -/

/-- The text the request hash is taken over. -/
def hashedText (input : BeginOperationInput) : String :=
  stableJson (hashedObject input (truthy (input.globalLockKey.map trim)))

/-- Two inputs the service takes for one request. -/
structure SameRequest (input input' : BeginOperationInput) : Prop where
  type : input'.type = input.type
  user : input'.userId = input.userId
  request : canonical input'.request = canonical input.request
  scope : canonical (scopeObject input' (truthy (input'.globalLockKey.map trim))) =
    canonical (scopeObject input (truthy (input.globalLockKey.map trim)))
  execution : canonical (executionObject input'.queued) = canonical (executionObject input.queued)

/-- The digest tells the texts of the two inputs apart. -/
def NoCollision (sha256 : String → String) (input input' : BeginOperationInput) : Prop :=
  sha256 (hashedText input') = sha256 (hashedText input) → hashedText input' = hashedText input

/-- The keys of the hashed object in order. -/
theorem canonical_hashedObject (input : BeginOperationInput) (globalLockKey : Option String) :
    canonical (hashedObject input globalLockKey) = .object [
      ("execution", canonical (executionObject input.queued)),
      ("request", canonical input.request),
      ("scope", canonical (scopeObject input globalLockKey))] := by
  have hrs : utf16Le "request" "scope" := by decide
  have hre : ¬ utf16Le "request" "execution" := by decide
  have hse : ¬ utf16Le "scope" "execution" := by decide
  simp only [hashedObject, canonical, canonicalFields, sortByKey, List.insertionSort,
    List.foldr_cons, List.foldr_nil, List.orderedInsert, hrs, hre, hse, if_true, if_false]

theorem hashedText_eq_iff {input input' : BeginOperationInput} :
    hashedText input' = hashedText input ↔
      canonical input'.request = canonical input.request ∧
        canonical (scopeObject input' (truthy (input'.globalLockKey.map trim))) =
          canonical (scopeObject input (truthy (input.globalLockKey.map trim))) ∧
        canonical (executionObject input'.queued) = canonical (executionObject input.queued) := by
  unfold hashedText
  rw [stableJson_eq_iff, canonical_hashedObject, canonical_hashedObject]
  simp only [Json.object.injEq, List.cons.injEq, Prod.mk.injEq, true_and, and_true]
  tauto

/-- The same call issued again, under another request id and with another deadline. -/
def BeginOperationInput.reissued (input : BeginOperationInput) (requestId : String)
    (deadlineAt : Option Time) : BeginOperationInput :=
  { input with
    queued := input.queued.map fun queued => { queued with
      policySnapshot := { queued.policySnapshot with requestId := requestId }
      deadlineAt := deadlineAt } }

theorem sameRequest_reissued (input : BeginOperationInput) (requestId : String)
    (deadlineAt : Option Time) : SameRequest input (input.reissued requestId deadlineAt) where
  type := rfl
  user := rfl
  request := rfl
  scope := rfl
  execution := by
    unfold BeginOperationInput.reissued
    cases input.queued with
    | none => rfl
    | some queued => rfl

/-! ## The program of `begin` -/

/-- What is left of a call of `begin` for a prepared call that meets `of`: the only write is the
creation of the row, and after it the call returns a ticket. -/
def Beginning (of : PreparedBegin → Prop) : Program Outcome → Prop
  | .done (.ticket p _) => of p
  | .done (.threw _) => True
  | .done .returned => False
  | .ask (.write w) next => ∃ p now, w = .create p now ∧ of p ∧
      (∀ reply, ∃ t, next (.ok reply) = .done (.ticket p t)) ∧
      ∀ fault, Beginning of (next (.error fault))
  | .ask .read next => ∀ db, Beginning of (next db)
  | .ask .clock next => ∀ now, Beginning of (next now)
  | .ask _ _ => False

/-- A prepared call of this input. -/
structure PreparedOf (sha256 : String → String) (input : BeginOperationInput) (uuid : String)
    (p : PreparedBegin) : Prop where
  of : p.input = input
  key : p.idempotencyKey = effectiveKey input uuid
  hash : p.requestHash = sha256 (hashedText input)

section Begin

variable {sha256 : String → String} {of : PreparedBegin → Prop} {p : PreparedBegin}

theorem beginning_read {f : Db → Program Outcome} (h : ∀ db, Beginning of (f db)) :
    Beginning of (Method.read >>= f) := h

theorem beginning_clock {f : Time → Program Outcome} (h : ∀ now, Beginning of (f now)) :
    Beginning of (Method.clock >>= f) := h

/-- The transaction of `begin`: with its ticket, or with a fault to look into. -/
theorem beginning_create {f : Except Fault Reply → Program Outcome} {now : Time} (hp : of p)
    (hok : ∀ reply, ∃ t, f (.ok reply) = .done (.ticket p t))
    (herr : ∀ fault, Beginning of (f (.error fault))) :
    Beginning of (Method.write (.create p now) >>= f) := ⟨p, now, rfl, hp, hok, herr⟩

theorem answer_beginning (hp : of p) (existing : Operation) :
    Beginning of (.done (Method.answer p (replay existing p))) := by
  cases replay existing p with
  | ok t => exact hp
  | error fault => trivial

theorem replayAfterViolation_beginning (hp : of p) :
    Beginning of (Method.replayAfterViolation p) := by
  refine beginning_read fun db => ?_
  split
  · exact answer_beginning hp _
  · refine beginning_read fun db => ?_
    split
    · trivial
    · exact beginning_read fun db => trivial

theorem create_beginning (hp : of p) : Beginning of (Method.create p) := by
  unfold Method.create
  split
  · trivial
  · refine beginning_clock fun now => beginning_create hp (fun reply => ⟨_, rfl⟩) fun fault => ?_
    cases fault with
    | uniqueViolation => exact replayAfterViolation_beginning hp
    | _ => trivial

theorem begin_beginning (input : BeginOperationInput) (uuid operationId : String)
    (releaseMaintenance : Bool) :
    Beginning (PreparedOf sha256 input uuid)
      (Method.begin sha256 input uuid operationId releaseMaintenance) := by
  refine beginning_clock fun now => ?_
  split
  · trivial
  · rename_i p hprep
    have hspec := prepare_spec hprep
    have hp : PreparedOf sha256 input uuid p := ⟨hspec.of, hspec.key, hspec.hash⟩
    refine beginning_read fun db => ?_
    split
    · exact answer_beginning hp _
    · exact create_beginning hp

end Begin

/-! ## Following one call -/

section Follow

variable {sha256 : String → String} {s s' : State}

/-- **One call across a step**: it stays, it crashes, or it performs the instruction. -/
theorem step_call {a : Action} (h : s.step sha256 a = some s') {i : Nat} {c : Call}
    (hc : s.calls[i]? = some c) :
    ∃ c', s'.calls[i]? = some c' ∧ (c'.program = c.program ∨ c'.program = .done .returned ∨
      ∃ instr next answer, c.program = .ask instr next ∧ Effect instr s.view answer s'.view ∧
        c'.program = next answer) := by
  have hlt : i < s.calls.length := (List.getElem?_eq_some_iff.mp hc).1
  cases step_moves h with
  | tick elapsed => exact ⟨c, hc, .inl rfl⟩
  | environment backup siteDomain site deployLog => exact ⟨c, hc, .inl rfl⟩
  | call request => exact ⟨c, (List.getElem?_append_left hlt).trans hc, .inl rfl⟩
  | heartbeat step progress hj hcl hf =>
    exact ⟨c, (List.getElem?_append_left hlt).trans hc, .inl rfl⟩
  | @crash j cj hj hf =>
    by_cases hij : j = i
    · subst hij
      exact ⟨_, List.getElem?_set_self hlt, .inr (.inl rfl)⟩
    · exact ⟨c, (List.getElem?_set_ne hij).trans hc, .inl rfl⟩
  | @advance j choice cj instr next db answer hj hp hperf =>
    let c₁ : Call := { cj with program := next answer, claim := (newClaim s instr).or cj.claim }
    by_cases hij : j = i
    · subst hij
      rw [hc, Option.some.injEq] at hj
      subst hj
      have hset : (s.calls.set j c₁)[j]? = some c₁ := List.getElem?_set_self hlt
      obtain ⟨c', hc', hprog⟩ : ∃ c', (markLost c (s.calls.set j c₁) instr)[j]? = some c' ∧
          c'.program = c₁.program := getElem?_markLost hset
      exact ⟨c', hc', .inr (.inr ⟨instr, next, answer, hp, perform_effect hperf, hprog⟩)⟩
    · have hset : (s.calls.set j c₁)[i]? = some c := (List.getElem?_set_ne hij).trans hc
      obtain ⟨c', hc', hprog⟩ : ∃ c', (markLost cj (s.calls.set j c₁) instr)[i]? = some c' ∧
          c'.program = c.program := getElem?_markLost hset
      exact ⟨c', hc', .inl hprog⟩

/-- In a run that led to `s`, call `i` is the call of `request`. -/
def Began (sha256 : String → String) (s : State) (i : Nat) (request : Request) : Prop :=
  ∃ s₀ s₁, Reachable sha256 anyWrite s₀ ∧ i = s₀.calls.length ∧
    s₀.step sha256 (.call request) = some s₁ ∧ Reach (State.step sha256) anyStep s₁ s

theorem Began.reachable {i : Nat} {request : Request} (h : Began sha256 s i request) :
    Reachable sha256 anyWrite s := by
  obtain ⟨s₀, s₁, hs₀, -, hstep, hs⟩ := h
  have hs₁ : Reachable sha256 anyWrite s₁ := hs₀.step (fun _ _ => trivial) hstep
  exact hs₁.trans (hs.mono fun _ _ _ _ _ => trivial)

/-- **A call of `begin` in flight**, unless it crashed. -/
theorem began_beginning {i : Nat} {input : BeginOperationInput} {uuid operationId : String}
    {releaseMaintenance : Bool}
    (h : Began sha256 s i (.begin input uuid operationId releaseMaintenance)) :
    ∃ c, s.calls[i]? = some c ∧
      (Beginning (PreparedOf sha256 input uuid) c.program ∨ c.program = .done .returned) := by
  obtain ⟨s₀, s₁, -, hi, hstep, hs⟩ := h
  refine Reach.invariant hs ?_ ?_
  · cases hstep
    refine ⟨⟨Method.begin sha256 input uuid operationId releaseMaintenance, none, false, none⟩, ?_,
      .inl (begin_beginning input uuid operationId releaseMaintenance)⟩
    rw [hi, List.getElem?_append_right (Nat.le_refl _), Nat.sub_self]
    rfl
  · rintro t a t' ⟨c, hc, hbeg⟩ - ht
    obtain ⟨c', hc', hprog⟩ := step_call ht hc
    refine ⟨c', hc', ?_⟩
    rcases hprog with hsame | hcrash | ⟨instr, next, answer, hp, heff, hnext⟩
    · rw [hsame]
      exact hbeg
    · exact .inr hcrash
    · rw [hp] at hbeg
      rcases hbeg with hbeg | hdone
      · rw [hnext]
        cases instr with
        | write w =>
          obtain ⟨p, now, -, hp, hok, herr⟩ := hbeg
          cases answer with
          | ok reply =>
            obtain ⟨t, ht⟩ := hok reply
            rw [ht]
            exact .inl hp
          | error fault => exact .inl (herr fault)
        | read => exact .inl (hbeg answer)
        | clock => exact .inl (hbeg answer)
        | _ => exact absurd hbeg id
      · exact absurd hdone (by simp)

end Follow

/-! ## Tickets -/

/-- Call `i` returned a ticket. -/
def Returned (s : State) (i : Nat) (t : OperationTicket) : Prop :=
  ∃ c p, s.calls[i]? = some c ∧ c.program = .done (.ticket p t)

/-- Call `i` threw, or crashed before it answered. -/
def Refused (s : State) (i : Nat) : Prop :=
  ∃ c, s.calls[i]? = some c ∧
    ((∃ fault, c.program = .done (.threw fault)) ∨ c.program = .done .returned)

/-- Call `i` is finished. -/
def Finished (s : State) (i : Nat) : Prop := ∃ c, s.calls[i]? = some c ∧ c.finished = true

section Ticket

variable {sha256 : String → String} {s s' : State} {i : Nat} {input : BeginOperationInput}
  {uuid operationId : String} {releaseMaintenance : Bool}

/-- **A ticket is of the row with the key of the call**, and that row is of the same request. -/
theorem ticket_row (h : Began sha256 s i (.begin input uuid operationId releaseMaintenance))
    {t : OperationTicket} (ht : Returned s i t) :
    ∃ o ∈ s.db.operation, o.id = t.id ∧ o.idempotencyKey = effectiveKey input uuid ∧
      o.type = input.type ∧ o.createdByUserId = input.userId ∧
        o.requestHash = sha256 (hashedText input) := by
  obtain ⟨c, p, hc, hprog⟩ := ht
  obtain ⟨c', hc', hbeg⟩ := began_beginning h
  rw [hc, Option.some.injEq] at hc'
  subst hc'
  rw [hprog] at hbeg
  have hp : PreparedOf sha256 input uuid p := hbeg.resolve_right (by simp)
  have hsound := calls_sound h.reachable c (List.mem_of_getElem? hc)
  rw [hprog] at hsound
  obtain ⟨-, o, ho, hid, hkey, htype, huser, hhash⟩ := hsound.result rely_stable
  refine ⟨o, ho, hid, hkey.trans hp.key, ?_, ?_, hhash.trans hp.hash⟩
  · rw [htype, hp.of]
  · rw [huser, hp.of]

/-- A call that is finished returned a ticket, threw or crashed. -/
theorem finished_cases (hf : Finished s i) : (∃ t, Returned s i t) ∨ Refused s i := by
  obtain ⟨c, hc, hfin⟩ := hf
  cases hp : c.program with
  | ask instr next => exact absurd hfin (by simp [Call.finished, hp, Prog.next?])
  | done outcome =>
    cases outcome with
    | ticket p t => exact .inl ⟨t, c, p, hc, hp⟩
    | threw fault => exact .inr ⟨c, hc, .inl ⟨fault, hp⟩⟩
    | returned => exact .inr ⟨c, hc, .inr hp⟩

/-- **A call of `begin` writes once**: a step of it leaves the tables as they are, or it has created
its row and returns the ticket. -/
theorem begin_step (h : Began sha256 s i (.begin input uuid operationId releaseMaintenance))
    {choice : Choice} (hstep : s.step sha256 (.advance i choice) = some s') :
    (s'.db.operation = s.db.operation ∧ s'.db.operationLock = s.db.operationLock) ∨
      ∃ t, Returned s' i t := by
  rcases step_db hstep with hsame | ⟨w, done, hw, hd, hdb⟩
  · exact .inl hsame
  obtain ⟨j, choice', hj, c, next, hc, hp⟩ := issued_cases hw
  cases hj
  obtain ⟨c₁, hc₁, hbeg⟩ := began_beginning h
  rw [hc, Option.some.injEq] at hc₁
  subst hc₁
  rw [hp] at hbeg
  obtain ⟨p, now, -, -, hok, -⟩ := hbeg.resolve_right (by simp)
  cases step_moves hstep with
  | @advance _ _ c₂ instr next₂ db answer hc₂ hp₂ hperf =>
    rw [hc, Option.some.injEq] at hc₂
    subst hc₂
    rw [hp] at hp₂
    cases hp₂
    rcases perform_effect hperf with ⟨done', -, rfl, -⟩ | ⟨fault, -, -, hv⟩
    · obtain ⟨t, ht⟩ := hok ⟨done'.count, w.returning s.db⟩
      have hlt : i < s.calls.length := (List.getElem?_eq_some_iff.mp hc).1
      let c₃ : Call := { c with
        program := next (.ok ⟨done'.count, w.returning s.db⟩)
        claim := (newClaim s (.write w)).or c.claim }
      have hset : (s.calls.set i c₃)[i]? = some c₃ := List.getElem?_set_self hlt
      exact .inr ⟨t, c₃, p, hset, ht⟩
    · have hsame : (continueCall s i c (.write w) db (next answer)).db = s.db :=
        congrArg View.db hv
      exact .inl ⟨by rw [hsame], by rw [hsame]⟩

end Ticket

/-! ## A call that finds its key taken -/

section Replay

variable {sha256 : String → String}

theorem findByKey_eq {db : Db} {o : Operation} (ho : o ∈ db.operation) {key : String}
    (hkey : o.idempotencyKey = key) : findByKey db key = some o := by
  refine Table.find?_eq_some idempotencyKey_mem_keys ho (by simp [hkey]) fun b hb => ?_
  rw [hkey]
  simpa using hb

/-- `begin` alone, when its key is stored: the answer is that of `replay`, and nothing changes. -/
theorem begin_alone {v : View} {input : BeginOperationInput} {uuid operationId : String}
    {releaseMaintenance : Bool} {p : PreparedBegin}
    (hprep : prepare sha256 input uuid operationId releaseMaintenance v.clock = .ok p)
    {o : Operation} (ho : o ∈ v.db.operation) (hkey : o.idempotencyKey = p.idempotencyKey) :
    (Method.begin sha256 input uuid operationId releaseMaintenance).alone respond v =
      some (Method.answer p (replay o p), v) := by
  unfold Method.begin
  rw [alone_clock, hprep]
  change Prog.alone respond (Method.read >>= _) v = _
  rw [alone_read, findByKey_eq ho hkey]
  rfl

/-- The stored row answers a call of the same request. -/
theorem replay_same {o : Operation} {p : PreparedBegin} (htype : o.type = p.input.type)
    (huser : o.createdByUserId = p.input.userId) (hhash : o.requestHash = p.requestHash) :
    replay o p = .ok (replayTicket o) := by
  simp [replay, assertReplay, htype, huser, hhash]

/-- It refuses a call of another request. -/
theorem replay_other {o : Operation} {p : PreparedBegin}
    (h : ¬ (o.type = p.input.type ∧ o.createdByUserId = p.input.userId ∧
      o.requestHash = p.requestHash)) : ∃ fault, replay o p = .error fault := by
  unfold replay
  cases hr : assertReplay o p with
  | error fault => exact ⟨fault, rfl⟩
  | ok u =>
    unfold assertReplay at hr
    split at hr
    · exact absurd hr (by simp)
    · rename_i hsame
      simp only [Bool.or_eq_true, bne_iff_ne, ne_eq, not_or, not_not] at hsame
      exact absurd ⟨hsame.1.1, hsame.1.2, hsame.2⟩ h

end Replay

/-! ## Runs -/

section Runs

variable {sha256 : String → String} {s : State} {input input' : BeginOperationInput}

/-- No two rows with the key exist, now or at any two moments from now on. -/
def OneRow (sha256 : String → String) (s : State) (key : String) : Prop :=
  ∀ t, Reach (State.step sha256) anyStep s t → ∀ o ∈ s.db.operation, ∀ o' ∈ t.db.operation,
    o.idempotencyKey = key → o'.idempotencyKey = key → o'.id = o.id

theorem oneRow (key : String) : OneRow sha256 s key := by
  intro t ht
  have hrely : Rely s.view t.view := by
    refine Reach.invariant ht (rely_refl s.view) ?_
    exact fun u a u' ih _ h => rely_trans ih (step_rely h)
  intro o ho o' ho' hkey hkey'
  obtain ⟨o₁, ho₁, hsame⟩ := hrely.2 o ho
  have hkeys : o'.idempotencyKey = o₁.idempotencyKey :=
    hkey'.trans (hkey.symm.trans hsame.idempotencyKey.symm)
  have he : o' = o₁ := Table.eq_of_key idempotencyKey_mem_keys ho' ho₁ hkeys
  rw [he, hsame.id]

theorem sameRequest_of_hash (htype : input'.type = input.type) (huser : input'.userId = input.userId)
    (hhash : sha256 (hashedText input') = sha256 (hashedText input))
    (hsha : NoCollision sha256 input input') : SameRequest input input' := by
  obtain ⟨hreq, hsc, hexecution⟩ := hashedText_eq_iff.mp (hsha hhash)
  exact ⟨htype, huser, hreq, hsc, hexecution⟩

theorem SameRequest.text (h : SameRequest input input') : hashedText input' = hashedText input :=
  hashedText_eq_iff.mpr ⟨h.request, h.scope, h.execution⟩

/-- The answer to another call with the key, when it finds the row a ticket was returned for. -/
theorem begin_again {i : Nat} {uuid operationId uuid' operationId' : String}
    {releaseMaintenance releaseMaintenance' : Bool} {t : OperationTicket} {p : PreparedBegin}
    (hi : Began sha256 s i (.begin input uuid operationId releaseMaintenance))
    (hkey : effectiveKey input' uuid' = effectiveKey input uuid)
    (hsha : NoCollision sha256 input input') (ht : Returned s i t)
    (hprep : prepare sha256 input' uuid' operationId' releaseMaintenance' s.clock = .ok p) :
    ∃ outcome, (Method.begin sha256 input' uuid' operationId' releaseMaintenance').alone respond
        s.view = some (outcome, s.view) ∧
      (SameRequest input input' → ∃ t', outcome = .ticket p t' ∧ t'.id = t.id) ∧
      (¬ SameRequest input input' → ∃ fault, outcome = .threw fault) := by
  obtain ⟨o, ho, hid, hokey, htype, huser, hhash⟩ := ticket_row hi ht
  have hspec := prepare_spec hprep
  have hfnd : o.idempotencyKey = p.idempotencyKey := by
    rw [hokey, hspec.key, hkey]
  have hp : p.requestHash = sha256 (hashedText input') := hspec.hash
  have hview : prepare sha256 input' uuid' operationId' releaseMaintenance' s.view.clock = .ok p :=
    hprep
  have hrow : o ∈ s.view.db.operation := ho
  have halone := begin_alone hview hrow hfnd
  refine ⟨Method.answer p (replay o p), halone, fun hsame => ?_, fun hother => ?_⟩
  · have hreplay : replay o p = .ok (replayTicket o) := by
      refine replay_same ?_ ?_ ?_
      · rw [htype, hspec.of, hsame.type]
      · rw [huser, hspec.of, hsame.user]
      · rw [hhash, hp, hsame.text]
    exact ⟨replayTicket o, by rw [hreplay]; rfl, hid⟩
  · obtain ⟨fault, hfault⟩ : ∃ fault, replay o p = .error fault := by
      refine replay_other fun hall => hother ?_
      obtain ⟨htype', huser', hhash'⟩ := hall
      rw [hspec.of] at htype' huser'
      refine sameRequest_of_hash ?_ ?_ ?_ hsha
      · rw [← htype', htype]
      · rw [← huser', huser]
      · rw [← hp, ← hhash', hhash]
    exact ⟨fault, by rw [hfault]; rfl⟩

/-- **`begin` is idempotent.** Take two calls of `begin` with one key in any run. At most one row
with the key is ever created, and a ticket is of that row. If the first returned a ticket, then so
does the second only for the same request, and otherwise it throws; a step of a call that does not
end in a ticket changes nothing. A call with the key of a returned ticket gets the same ticket id
or throws, by whether it is the same request, and another request id or deadline does not make it
another request. -/
theorem begin_idempotent {i j : Nat} {uuid operationId uuid' operationId' : String}
    {releaseMaintenance releaseMaintenance' : Bool}
    (hi : Began sha256 s i (.begin input uuid operationId releaseMaintenance))
    (hj : Began sha256 s j (.begin input' uuid' operationId' releaseMaintenance'))
    (hkey : effectiveKey input' uuid' = effectiveKey input uuid)
    (hsha : NoCollision sha256 input input') :
    OneRow sha256 s (effectiveKey input uuid) ∧
      (∀ t, Returned s i t → ∃ o ∈ s.db.operation,
        o.idempotencyKey = effectiveKey input uuid ∧ o.id = t.id) ∧
      (∀ t t', Returned s i t → Returned s j t' → t'.id = t.id ∧ SameRequest input input') ∧
      (∀ t, Returned s i t → ¬ SameRequest input input' → Finished s j → Refused s j) ∧
      (∀ choice s', s.step sha256 (.advance j choice) = some s' → (∀ t, ¬ Returned s' j t) →
        s'.db.operation = s.db.operation ∧ s'.db.operationLock = s.db.operationLock) ∧
      (∀ t p, Returned s i t →
        prepare sha256 input' uuid' operationId' releaseMaintenance' s.clock = .ok p →
        ∃ outcome, (Method.begin sha256 input' uuid' operationId' releaseMaintenance').alone respond
            s.view = some (outcome, s.view) ∧
          (SameRequest input input' → ∃ t', outcome = .ticket p t' ∧ t'.id = t.id) ∧
          (¬ SameRequest input input' → ∃ fault, outcome = .threw fault)) ∧
      ∀ requestId deadlineAt, SameRequest input (input.reissued requestId deadlineAt) := by
  have hboth : ∀ t t', Returned s i t → Returned s j t' →
      t'.id = t.id ∧ SameRequest input input' := by
    intro t t' ht ht'
    obtain ⟨o, ho, hid, hokey, htype, huser, hhash⟩ := ticket_row hi ht
    obtain ⟨o', ho', hid', hokey', htype', huser', hhash'⟩ := ticket_row hj ht'
    have hsame : o' = o :=
      Table.eq_of_key idempotencyKey_mem_keys ho' ho (hokey'.trans (hkey.trans hokey.symm))
    subst hsame
    refine ⟨hid'.symm.trans hid, sameRequest_of_hash ?_ ?_ ?_ hsha⟩
    · rw [← htype', htype]
    · rw [← huser', huser]
    · rw [← hhash', hhash]
  refine ⟨oneRow _, fun t ht => ?_, hboth, fun t ht hother hf => ?_, fun choice s' hstep hno => ?_,
    fun t p ht hprep => begin_again hi hkey hsha ht hprep, sameRequest_reissued input⟩
  · obtain ⟨o, ho, hid, hokey, -⟩ := ticket_row hi ht
    exact ⟨o, ho, hokey, hid⟩
  · rcases finished_cases hf with ⟨t', ht'⟩ | href
    · exact absurd (hboth t t' ht ht').2 hother
    · exact href
  · rcases begin_step hj hstep with hsame | ⟨t, ht⟩
    · exact hsame
    · exact absurd ht (hno t)

end Runs

/-! ### Two calls at once -/

/-- Two calls were made, and neither has performed an instruction. -/
def bothCalled (sha256 : String → String) (r r' : Request) : State :=
  ⟨.empty, 0, [⟨r.program sha256, none, false, none⟩, ⟨r'.program sha256, none, false, none⟩], []⟩

theorem began_both {sha256 : String → String} {r r' : Request} {s : State}
    (hs : Reach (State.step sha256) anyStep (bothCalled sha256 r r') s) :
    Began sha256 s 0 r ∧ Began sha256 s 1 r' := by
  let one : State := ⟨.empty, 0, [⟨r.program sha256, none, false, none⟩], []⟩
  have hfirst : State.init.step sha256 (.call r) = some one := rfl
  have hsnd : one.step sha256 (.call r') = some (bothCalled sha256 r r') := rfl
  refine ⟨⟨.init, one, .init, rfl, hfirst, ?_⟩, ⟨one, _, ?_, rfl, hsnd, hs⟩⟩
  · exact (Reach.init.step trivial hsnd).trans hs
  · exact Reach.init.step (fun _ _ => trivial) hfirst

/-- Both calls pass their lookup before either writes; the second loses the race. -/
def race : List Action :=
  Sample.advance 0 3 ++ Sample.advance 1 3 ++ Sample.advance 0 1 ++ Sample.advance 1 2

def ticketOf (s : State) (i : Nat) : Option OperationTicket :=
  match s.calls[i]? with
  | some c =>
    match c.program with
    | .done (.ticket _ t) => some t
    | _ => none
  | none => none

theorem returned_of_ticketOf {s : State} {i : Nat} {t : OperationTicket}
    (h : ticketOf s i = some t) : Returned s i t := by
  unfold ticketOf at h
  split at h
  · rename_i c hc
    split at h
    · rename_i p t' hp
      cases h
      exact ⟨c, p, hc, hp⟩
    · exact absurd h (by simp)
  · exact absurd h (by simp)

/-- An inline call with one field in its request. -/
def withField (v : JsValue) : BeginOperationInput :=
  { Sample.inline "key-0001" none none none with request := .object [("a", v)] }

/-- SHA-256 of the text hashed in the runs below. -/
def digestOfField (text : String) : String :=
  if text = hashedText (withField .null) then
    "37562083a8377aa0c6ef78efeb1ebc8343af849802ae34ca49b1d2dbc96d4b96"
  else ""

/-- A client that repeats its call while the first is under way: both get the ticket of one row. -/
theorem begin_idempotent_repeated :
    ∃ s t t', Began digestOfField s 0 (.begin (withField .null) "uuid-0001" "op-1" false) ∧
      Began digestOfField s 1 (.begin (withField .null) "uuid-0002" "op-2" false) ∧
      Returned s 0 t ∧ Returned s 1 t' ∧ t'.id = t.id := by
  have hrun : (run (State.step digestOfField) anyStep (bothCalled digestOfField
      (.begin (withField .null) "uuid-0001" "op-1" false)
      (.begin (withField .null) "uuid-0002" "op-2" false)) race).any
      (fun s : State => decide ((ticketOf s 0).isSome = true ∧ (ticketOf s 1).isSome = true)) =
        true := by decide +kernel
  obtain ⟨s, hs, h₀, h₁⟩ := Reach.of_run_any hrun
  obtain ⟨t, ht⟩ := Option.isSome_iff_exists.mp h₀
  obtain ⟨t', ht'⟩ := Option.isSome_iff_exists.mp h₁
  obtain ⟨hi, hj⟩ := began_both hs
  obtain ⟨-, -, hboth, -⟩ := begin_idempotent hi hj rfl fun _ => rfl
  exact ⟨s, t, t', hi, hj, returned_of_ticketOf ht, returned_of_ticketOf ht',
    (hboth t t' (returned_of_ticketOf ht) (returned_of_ticketOf ht')).1⟩

/-- **Different requests taken for one**: the first call passes `undefined` where the second passes
`null`, and both get a ticket. -/
theorem undefined_taken_for_null :
    ∃ s t t', Began digestOfField s 0 (.begin (withField .undefined) "uuid-0001" "op-1" false) ∧
      Began digestOfField s 1 (.begin (withField .null) "uuid-0002" "op-2" false) ∧
      (withField .undefined).request ≠ (withField .null).request ∧
      Returned s 0 t ∧ Returned s 1 t' := by
  have hrun : (run (State.step digestOfField) anyStep (bothCalled digestOfField
      (.begin (withField .undefined) "uuid-0001" "op-1" false)
      (.begin (withField .null) "uuid-0002" "op-2" false)) race).any
      (fun s : State => decide ((ticketOf s 0).isSome = true ∧ (ticketOf s 1).isSome = true)) =
        true := by decide +kernel
  obtain ⟨s, hs, h₀, h₁⟩ := Reach.of_run_any hrun
  obtain ⟨t, ht⟩ := Option.isSome_iff_exists.mp h₀
  obtain ⟨t', ht'⟩ := Option.isSome_iff_exists.mp h₁
  obtain ⟨hi, hj⟩ := began_both hs
  refine ⟨s, t, t', hi, hj, ?_, returned_of_ticketOf ht, returned_of_ticketOf ht'⟩
  simp [withField]

end Meowbox.Operations
