import Meowbox.Lib.Except
import Meowbox.Lib.Runs
import Meowbox.Operations.Methods

/-!
# The system: calls in flight over one database

`State` is the database, the clock and every call made so far with what is left of its program.
`step` lets one call perform one instruction, starts a call, sends a heartbeat, crashes a call,
lets time pass, or changes the tables the service does not own. A crash of a process is a crash of
its calls; the restart that follows is a call of `onModuleInit`. Calls of several processes differ
only in the worker id they carry, so several processes on one database are runs of the same
system.

Two fields record what happened and steer nothing: `claimed`, the operations the claim statement
took, in order, and `Call.claim`, the claim an execution or a heartbeat was started by.

The worker's `active` map and its `polling` flag are left out: a poll may start at any time, which
only adds runs. A heartbeat may be sent while the call that claimed the operation is unfinished,
which covers the timer of `execute` and the heartbeats of its handler.

Results:
* `step_db`: a step leaves both tables of the service alone or commits the write it issues.
* `step_calls`: what a step leaves of the calls.
* `reach_tables`: the invariant rule for the two tables.
-/

namespace Meowbox.Operations

open Interleaved

/-- A claim of an operation: which claim of that operation it is, counted from 1, and for whom. -/
structure Claim where
  operationId : String
  leaseOwner : String
  number : Nat
deriving DecidableEq

/-- A call in flight or finished. A heartbeat names the call of its execution. -/
structure Call where
  program : Program Outcome
  claim : Option Claim
  leaseLost : Bool
  heartbeatOf : Option Nat

structure State where
  db : Db
  clock : Time
  calls : List Call
  claimed : List String

/-- What a program can see of a state. -/
structure View where
  db : Db
  clock : Time

def State.view (s : State) : View := ⟨s.db, s.clock⟩

/-- A fresh installation. -/
def State.init : State := ⟨.empty, 0, [], []⟩

/-- What a step takes from outside. -/
inductive Choice
  | go
  | flip (b : Bool)
  | handler (outcome : HandlerOutcome)

inductive Action
  | tick (elapsed : Time)
  | environment (backup : List Backup) (siteDomain : List SiteDomain) (site : List Site)
      (deployLog : List DeployLog)
  | call (request : Request)
  | heartbeat (i : Nat) (step : Option String) (progress : Option Int)
  | crash (i : Nat)
  | advance (i : Nat) (choice : Choice)

/-- The `RETURNING` row of the claim statement: the id and whether the claimed step is
`reconcile`. -/
def Write.returning (db : Db) : Write → Option (String × Bool)
  | .claim _ now => (nextClaim db now).map fun o => (o.id, o.status == .recovering)
  | _ => none

/-- The answer to an instruction, and the database after it. -/
def perform (s : State) (c : Call) : (i : Instr) → Choice → Option (Db × i.Answer)
  | .read, _ => some (s.db, s.db)
  | .clock, _ => some (s.db, s.clock)
  | .write w, _ =>
    match s.db.commit w with
    | .error fault => some (s.db, .error fault)
    | .ok committed => some (committed.db, .ok ⟨committed.count, w.returning s.db⟩)
  | .flip, .flip b => some (s.db, b)
  | .handler, .handler outcome => some (s.db, (c.leaseLost, outcome))
  | .loseLease, _ => some (s.db, ())
  | _, _ => none

/-- The claim an instruction makes. -/
def newClaim (s : State) : Instr → Option Claim
  | .write (.claim leaseOwner now) =>
    (nextClaim s.db now).map fun o => ⟨o.id, leaseOwner, s.claimed.count o.id + 1⟩
  | _ => none

/-- A heartbeat that was not renewed marks its execution. -/
def markLost (c : Call) (calls : List Call) : Instr → List Call
  | .loseLease =>
    match c.heartbeatOf with
    | some j =>
      match calls[j]? with
      | some execution => calls.set j { execution with leaseLost := true }
      | none => calls
    | none => calls
  | _ => calls

/-- The state after call `i` performed `instr`. -/
def continueCall (s : State) (i : Nat) (c : Call) (instr : Instr) (db : Db)
    (program : Program Outcome) : State where
  db := db
  clock := s.clock
  claimed := ((newClaim s instr).map Claim.operationId).toList ++ s.claimed
  calls := markLost c (s.calls.set i { c with
    program := program, claim := (newClaim s instr).or c.claim }) instr

def Call.finished (c : Call) : Bool := c.program.next?.isNone

/-- One step. -/
def State.step (sha256 : String → String) (s : State) : Action → Option State
  | .tick elapsed => some { s with clock := s.clock + elapsed }
  | .environment backup siteDomain site deployLog =>
    some { s with db := { s.db with
      backup := backup, siteDomain := siteDomain, site := site, deployLog := deployLog } }
  | .call request =>
    some { s with calls := s.calls ++ [⟨request.program sha256, none, false, none⟩] }
  | .heartbeat i step progress =>
    match s.calls[i]? with
    | some c =>
      match c.claim with
      | some claim =>
        if c.finished then none
        else some { s with calls := s.calls ++
          [⟨Method.heartbeat claim.operationId claim.leaseOwner step progress, some claim, false,
            some i⟩] }
      | none => none
    | none => none
  | .crash i =>
    match s.calls[i]? with
    | some c =>
      if c.finished then none
      else some { s with calls := s.calls.set i { c with program := .done .returned } }
    | none => none
  | .advance i choice =>
    match s.calls[i]? with
    | some c =>
      match c.program with
      | .done _ => none
      | .ask instr next =>
        match perform s c instr choice with
        | some (db, answer) => some (continueCall s i c instr db (next answer))
        | none => none
    | none => none

def Instr.write? : Instr → Option Write
  | .write w => some w
  | _ => none

/-- The write a step performs, if its instruction is one. -/
def State.issued (s : State) : Action → Option Write
  | .advance i _ => (s.calls[i]?).bind fun c => c.program.next?.bind Instr.write?
  | _ => none

/-- A condition on the writes of a run, as a guard on its steps. -/
def Writes (G : State → Write → Prop) (s : State) (a : Action) : Prop := ∀ w ∈ s.issued a, G s w

instance (G : State → Write → Prop) [∀ s w, Decidable (G s w)] (s : State) (a : Action) :
    Decidable (Writes G s a) :=
  inferInstanceAs (Decidable (∀ w ∈ s.issued a, G s w))

/-- The states of the runs whose writes all meet `G`. -/
abbrev Reachable (sha256 : String → String) (G : State → Write → Prop) (s : State) : Prop :=
  Stepping.Reach (State.step sha256) (Writes G) State.init s

/-- Every write. -/
abbrev anyWrite : State → Write → Prop := fun _ _ => True

/-! ### Calls for concrete runs -/

namespace Sample

/-- The input of an inline operation of `user-1`. -/
def inline (key : String) (siteId siteDomainId parentOperationId : Option String) :
    BeginOperationInput :=
  ⟨some key, "SITE_UPDATE", siteId, siteDomainId, none, none, none, parentOperationId, "user-1",
    .object [], none⟩

/-- The input of a queued operation of `user-1`: an action that may be retried. -/
def queued (key : String) (siteId parentOperationId : Option String) (deadlineAt : Time) :
    BeginOperationInput :=
  ⟨some key, "SITE_UPDATE", siteId, none, none, none, none, parentOperationId, "user-1",
    .object [], some {
      actionId := "site.update"
      policySnapshot := ⟨"site.update", 1, .operator, "panel", "user-1", .admin, [], key, "request-1",
        .retrySafe, true⟩
      recoveryPolicy := .retrySafe
      retryable := true
      deadlineAt := some deadlineAt
      maxAttempts := none }⟩

/-- The hash plays no part in these runs. -/
def digest : String → String := fun _ => "digest"

/-- Call `i` performs its next `n` instructions. -/
def advance (i n : Nat) : List Action := List.replicate n (.advance i .go)

/-- Start a call, which gets number `i`, and perform `n` instructions of it. -/
def perform (i n : Nat) (request : Request) : List Action := .call request :: advance i n

/-- Call `i` polls for `workerId`, without maintenance first, up to its claim statement. -/
def claim (i : Nat) (workerId : String) : List Action :=
  .call (.poll workerId) :: .advance i .go :: .advance i (.flip false) :: advance i 1

end Sample

/-! ## What a step does -/

variable {sha256 : String → String} {s s' : State}

/-- The steps, one constructor per action. -/
inductive Moves (sha256 : String → String) (s : State) : Action → State → Prop
  | tick (elapsed : Time) : Moves sha256 s (.tick elapsed) { s with clock := s.clock + elapsed }
  | environment (backup : List Backup) (siteDomain : List SiteDomain) (site : List Site)
      (deployLog : List DeployLog) :
      Moves sha256 s (.environment backup siteDomain site deployLog)
        { s with db := { s.db with
          backup := backup, siteDomain := siteDomain, site := site, deployLog := deployLog } }
  | call (request : Request) :
      Moves sha256 s (.call request)
        { s with calls := s.calls ++ [⟨request.program sha256, none, false, none⟩] }
  | heartbeat {i : Nat} {c : Call} {claim : Claim} (step : Option String) (progress : Option Int)
      (hc : s.calls[i]? = some c) (hcl : c.claim = some claim) (hf : c.finished = false) :
      Moves sha256 s (.heartbeat i step progress)
        { s with calls := s.calls ++
          [⟨Method.heartbeat claim.operationId claim.leaseOwner step progress, some claim, false,
            some i⟩] }
  | crash {i : Nat} {c : Call} (hc : s.calls[i]? = some c) (hf : c.finished = false) :
      Moves sha256 s (.crash i)
        { s with calls := s.calls.set i { c with program := .done .returned } }
  | advance {i : Nat} {choice : Choice} {c : Call} {instr : Instr}
      {next : instr.Answer → Program Outcome} {db : Db} {answer : instr.Answer}
      (hc : s.calls[i]? = some c) (hp : c.program = .ask instr next)
      (hperf : perform s c instr choice = some (db, answer)) :
      Moves sha256 s (.advance i choice) (continueCall s i c instr db (next answer))

variable {a : Action}

theorem step_moves (h : s.step sha256 a = some s') : Moves sha256 s a s' := by
  cases a with
  | tick elapsed =>
    cases h
    exact .tick elapsed
  | environment backup siteDomain site deployLog =>
    cases h
    exact .environment backup siteDomain site deployLog
  | call request =>
    cases h
    exact .call request
  | heartbeat i step progress =>
    simp only [State.step] at h
    split at h
    · rename_i c hc
      split at h
      · rename_i claim hcl
        obtain ⟨hf, h⟩ := Failing.unless_some h
        cases h
        exact .heartbeat step progress hc hcl (by simpa using hf)
      · exact absurd h (by simp)
    · exact absurd h (by simp)
  | crash i =>
    simp only [State.step] at h
    split at h
    · rename_i c hc
      obtain ⟨hf, h⟩ := Failing.unless_some h
      cases h
      exact .crash hc (by simpa using hf)
    · exact absurd h (by simp)
  | advance i choice =>
    simp only [State.step] at h
    split at h
    · rename_i c hc
      split at h
      · exact absurd h (by simp)
      · rename_i instr next hp
        split at h
        · rename_i db answer hperf
          cases h
          exact .advance hc hp hperf
        · exact absurd h (by simp)
    · exact absurd h (by simp)

/-- What an instruction may answer, and the view it may leave. -/
def Effect (i : Instr) (v : View) (answer : i.Answer) (v' : View) : Prop :=
  match i with
  | .read => answer = v.db ∧ v' = v
  | .write w =>
    (∃ done, v.db.commit w = .ok done ∧ answer = .ok ⟨done.count, w.returning v.db⟩ ∧
      v' = ⟨done.db, v.clock⟩) ∨
      ∃ fault, v.db.commit w = .error fault ∧ answer = .error fault ∧ v' = v
  | .clock => answer = v.clock ∧ v' = v
  | _ => v' = v

variable {instr : Instr}

theorem perform_effect {c : Call} {choice : Choice} {db : Db} {answer : instr.Answer}
    (h : perform s c instr choice = some (db, answer)) :
    Effect instr s.view answer ⟨db, s.clock⟩ := by
  cases instr with
  | read =>
    cases h
    exact ⟨rfl, rfl⟩
  | write w =>
    simp only [perform] at h
    split at h
    · rename_i fault hf
      cases h
      exact .inr ⟨fault, hf, rfl, rfl⟩
    · rename_i done hd
      cases h
      exact .inl ⟨done, hd, rfl, rfl⟩
  | clock =>
    cases h
    exact ⟨rfl, rfl⟩
  | flip =>
    cases choice with
    | flip b =>
      cases h
      rfl
    | go => exact absurd h (by simp [perform])
    | handler o => exact absurd h (by simp [perform])
  | handler =>
    cases choice with
    | handler o =>
      cases h
      rfl
    | go => exact absurd h (by simp [perform])
    | flip b => exact absurd h (by simp [perform])
  | loseLease =>
    cases h
    rfl

/-- What the calls share: the tables of the service stay, or a write is committed. -/
theorem effect_tables {i : Instr} {v v' : View} {answer : i.Answer} (h : Effect i v answer v') :
    v' = v ∨ ∃ w done, i = .write w ∧ v.db.commit w = .ok done ∧ v' = ⟨done.db, v.clock⟩ := by
  cases i with
  | write w =>
    rcases h with ⟨done, hd, -, hv⟩ | ⟨fault, -, -, hv⟩
    · exact .inr ⟨w, done, rfl, hd, hv⟩
    · exact .inl hv
  | read => exact .inl h.2
  | clock => exact .inl h.2
  | flip => exact .inl h
  | handler => exact .inl h
  | loseLease => exact .inl h

theorem issued_advance {i : Nat} {choice : Choice} {c : Call}
    {next : instr.Answer → Program Outcome} (hc : s.calls[i]? = some c)
    (hp : c.program = .ask instr next) : s.issued (.advance i choice) = instr.write? := by
  simp only [State.issued, hc, hp, Prog.next?, Option.bind_some]

/-- **The database across a step**: the service's tables stay, or the write the step issues is
committed. -/
theorem step_db (h : s.step sha256 a = some s') :
    (s'.db.operation = s.db.operation ∧ s'.db.operationLock = s.db.operationLock) ∨
      ∃ w done, s.issued a = some w ∧ s.db.commit w = .ok done ∧ s'.db = done.db := by
  cases step_moves h with
  | tick elapsed => exact .inl ⟨rfl, rfl⟩
  | environment backup siteDomain site deployLog => exact .inl ⟨rfl, rfl⟩
  | call request => exact .inl ⟨rfl, rfl⟩
  | heartbeat step progress hc hcl hf => exact .inl ⟨rfl, rfl⟩
  | crash hc hf => exact .inl ⟨rfl, rfl⟩
  | @advance i choice c instr next db answer hc hp hperf =>
    rcases effect_tables (perform_effect hperf) with hv | ⟨w, done, rfl, hd, hv⟩
    · have hdb : db = s.db := congrArg View.db hv
      exact .inl ⟨congrArg Db.operation hdb, congrArg Db.operationLock hdb⟩
    · exact .inr ⟨w, done, issued_advance hc hp, hd, congrArg View.db hv⟩

/-- A step that issues a write performs it. -/
theorem step_issued {w : Write} (h : s.step sha256 a = some s') (hw : s.issued a = some w) :
    (∃ done, s.db.commit w = .ok done ∧ s'.db = done.db) ∨
      ∃ fault, s.db.commit w = .error fault ∧ s'.db = s.db := by
  cases step_moves h with
  | @advance i choice c instr next db answer hc hp hperf =>
    rw [issued_advance hc hp] at hw
    cases instr with
    | write w' =>
      simp only [Instr.write?, Option.some.injEq] at hw
      subst hw
      rcases perform_effect hperf with ⟨done, hd, -, hv⟩ | ⟨fault, hf, -, hv⟩
      · exact .inl ⟨done, hd, congrArg View.db hv⟩
      · exact .inr ⟨fault, hf, congrArg View.db hv⟩
    | _ => exact absurd hw (by simp [Instr.write?])
  | _ => exact absurd hw (by simp [State.issued])

theorem step_clock (h : s.step sha256 a = some s') : s.clock ≤ s'.clock := by
  cases step_moves h with
  | tick elapsed => exact Nat.le_add_right _ _
  | _ => exact Nat.le_refl _

/-! ### The calls -/

theorem mem_markLost {c c' : Call} {calls : List Call} (h : c' ∈ markLost c calls instr) :
    ∃ c₀ ∈ calls, c'.program = c₀.program ∧ c'.claim = c₀.claim := by
  unfold markLost at h
  split at h
  · split at h
    · split at h
      · rename_i execution hex
        rcases List.mem_or_eq_of_mem_set h with hm | rfl
        · exact ⟨c', hm, rfl, rfl⟩
        · exact ⟨execution, List.mem_of_getElem? hex, rfl, rfl⟩
      · exact ⟨c', h, rfl, rfl⟩
    · exact ⟨c', h, rfl, rfl⟩
  · exact ⟨c', h, rfl, rfl⟩

/-- **The calls across a step**: each is a call from before, a new call, a new heartbeat, a call
that crashed, or the call that performed the instruction. -/
theorem step_calls (h : s.step sha256 a = some s') {c' : Call} (hc' : c' ∈ s'.calls) :
    (∃ c ∈ s.calls, c'.program = c.program ∧ c'.claim = c.claim) ∨
      (∃ request : Request, c'.program = request.program sha256 ∧ c'.claim = none) ∨
      (∃ c ∈ s.calls, ∃ claim step progress, c.finished = false ∧ c.claim = some claim ∧
        c'.claim = some claim ∧ c'.program =
          Method.heartbeat claim.operationId claim.leaseOwner step progress) ∨
      (∃ c ∈ s.calls, c'.program = .done .returned ∧ c'.claim = c.claim) ∨
      ∃ c ∈ s.calls, ∃ instr next answer, c.program = .ask instr next ∧
        s.issued a = instr.write? ∧ Effect instr s.view answer s'.view ∧
        c'.program = next answer ∧ c'.claim = (newClaim s instr).or c.claim := by
  cases step_moves h with
  | tick elapsed => exact .inl ⟨c', hc', rfl, rfl⟩
  | environment backup siteDomain site deployLog => exact .inl ⟨c', hc', rfl, rfl⟩
  | call request =>
    rcases List.mem_snoc.mp hc' with hm | rfl
    · exact .inl ⟨c', hm, rfl, rfl⟩
    · exact .inr (.inl ⟨request, rfl, rfl⟩)
  | heartbeat step progress hc hcl hf =>
    rcases List.mem_snoc.mp hc' with hm | rfl
    · exact .inl ⟨c', hm, rfl, rfl⟩
    · exact .inr (.inr (.inl ⟨_, List.mem_of_getElem? hc, _, step, progress, hf, hcl, rfl, rfl⟩))
  | crash hc hf =>
    rcases List.mem_or_eq_of_mem_set hc' with hm | rfl
    · exact .inl ⟨c', hm, rfl, rfl⟩
    · exact .inr (.inr (.inr (.inl ⟨_, List.mem_of_getElem? hc, rfl, rfl⟩)))
  | @advance i choice c instr next db answer hc hp hperf =>
    obtain ⟨c₀, hm, hprog, hcl⟩ := mem_markLost hc'
    rcases List.mem_or_eq_of_mem_set hm with hm | rfl
    · exact .inl ⟨c₀, hm, hprog, hcl⟩
    · exact .inr (.inr (.inr (.inr ⟨c, List.mem_of_getElem? hc, instr, next, answer, hp,
        issued_advance hc hp, perform_effect hperf, hprog, hcl⟩)))

theorem newClaim_eq_some {claim : Claim} :
    newClaim s instr = some claim ↔ ∃ leaseOwner now o, instr = .write (.claim leaseOwner now) ∧
      nextClaim s.db now = some o ∧ claim = ⟨o.id, leaseOwner, s.claimed.count o.id + 1⟩ := by
  constructor
  · intro h
    unfold newClaim at h
    split at h
    · rename_i leaseOwner now
      obtain ⟨o, ho, rfl⟩ := Option.map_eq_some_iff.mp h
      exact ⟨leaseOwner, now, o, rfl, ho, rfl⟩
    · exact absurd h (by simp)
  · rintro ⟨leaseOwner, now, o, rfl, ho, rfl⟩
    simp only [newClaim, ho, Option.map_some]

/-- The record of claims grows by the operation a claim statement takes. -/
theorem step_claimed (h : s.step sha256 a = some s') :
    (s'.claimed = s.claimed ∧
      ∀ leaseOwner now, s.issued a = some (.claim leaseOwner now) → nextClaim s.db now = none) ∨
      ∃ leaseOwner now o, s.issued a = some (.claim leaseOwner now) ∧
        nextClaim s.db now = some o ∧ s'.claimed = o.id :: s.claimed := by
  cases step_moves h with
  | @advance i choice c instr next db answer hc hp hperf =>
    rw [issued_advance hc hp]
    cases hn : newClaim s instr with
    | none =>
      refine .inl ⟨by simp only [continueCall, hn, Option.map_none, Option.toList_none,
        List.nil_append], fun leaseOwner now hw => ?_⟩
      cases instr with
      | write w =>
        simp only [Instr.write?, Option.some.injEq] at hw
        subst hw
        simpa [newClaim] using hn
      | _ => exact absurd hw (by simp [Instr.write?])
    | some claim =>
      obtain ⟨leaseOwner, now, o, rfl, ho, rfl⟩ := newClaim_eq_some.mp hn
      refine .inr ⟨leaseOwner, now, o, rfl, ho, ?_⟩
      simp only [continueCall, hn, Option.map_some, Option.toList_some, List.singleton_append]
  | _ => exact .inl ⟨rfl, by simp [State.issued]⟩

end Meowbox.Operations
