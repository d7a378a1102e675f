import Meowbox.Sites.Panel

/-!
# What the service methods call

The instructions as calls, the methods of `OperationsService` as the site services call them, and
`AgentRelayService`. A `Query` reads and asks the agent but writes nothing; it is a call by lifting.

A method that throws ends with its fault; `attempt` is a `catch` that goes on, `stages` a `try` whose
`catch` knows how far the block came, and `collect` a step of a rollback whose failure is reported.

* `performs_bind`, `performs_attempt` and the lemmas beside them: which instructions a call may
  perform, composed from its parts.
* `returns_bind`, `returns_stages` and the lemmas beside them: the same for what it returns.
-/

namespace Meowbox.Sites

open JsData Operations Backups Interleaved

/-! ## Instructions as calls -/

/-- A program as a call that does not throw. -/
def Call.ofProgram {α : Type} (p : Program α) : Call α :=
  ExceptT.mk (p.bind fun a => .done (.ok a))

def read : Call Db := .ofProgram (.ask Instr.read .done)
def perform (w : Write) : Call Reply := ExceptT.mk (.ask (Instr.write w) .done)
def insertDomain (row : String → DomainRow) : Call String :=
  ExceptT.mk (.ask (Instr.createDomain row) .done)
def draw : Call Nat := .ofProgram (.ask Instr.draw .done)
def spawn (job : ProvisioningJob) : Call Unit := .ofProgram (.ask (Instr.spawn job) .done)
def takeJob : Call (Option ProvisioningJob) := .ofProgram (.ask Instr.take .done)

/-- `new Date()`. -/
def clock : Call Time := .ofProgram (.ask (Instr.operations .clock) .done)

/-- A statement whose count nobody looks at. -/
def execute (w : Write) : Call Unit := do
  let _ ← perform w

/-! ### Queries -/

/-- The instructions that write nothing. -/
inductive QueryInstr
  | read
  | connected
  | agent (call : AgentCall)

def QueryInstr.instr : QueryInstr → Instr
  | .read => .read
  | .connected => .connected
  | .agent call => .agent call

abbrev Query := ExceptT Fault (Prog QueryInstr fun i => i.instr.Answer)

def Query.call {α : Type} (q : Query α) : Call α := ExceptT.mk (q.run.along QueryInstr.instr)

instance : MonadLift Query Call := ⟨Query.call⟩

namespace Query

def read : Query Db := ExceptT.mk (.ask QueryInstr.read fun db => .done (.ok db))
def isAgentConnected : Query Bool :=
  ExceptT.mk (.ask QueryInstr.connected fun connected => .done (.ok connected))

/-- `emitToAgent`. -/
def emitToAgent (call : AgentCall) : Query AgentResponse :=
  ExceptT.mk (.ask (QueryInstr.agent call) .done)

/-- `emitToAgentAsync`: nobody waits for an answer. -/
def emitToAgentAsync (call : AgentCall) : Query Unit := do
  if ← isAgentConnected then
    tryCatch (do let _ ← emitToAgent call) fun _ => pure ()
  else throw agentUnavailable

end Query

/-- A program of `OperationsService`. -/
def embed {α : Type} (p : Operations.Program α) : Program α := p.along Instr.operations

/-! ### `throw`, `catch` and `try` -/

/-- `if (!condition) throw fault`. -/
def ensure (condition : Bool) (fault : Fault) : Query Unit :=
  if condition then pure () else throw fault

/-- `await p.catch(…)`: the outcome as a value. -/
def attempt {α : Type} (c : Call α) : Call (Except Fault α) := .ofProgram c.run

/-- `await p.catch(() => undefined)`. -/
def ignoring {α : Type} (c : Call α) : Call Unit := do
  let _ ← attempt c

/-- The stages of a `try` block, each of which leaves what the `catch` block looks at. -/
def stages {π : Type} : List (π → Call π) → π → Call (Option Fault × π)
  | [], progress => pure (none, progress)
  | stage :: rest, progress => do
    match ← attempt (stage progress) with
    | .ok progress => stages rest progress
    | .error fault => pure (some fault, progress)

/-! ## Messages -/

/-- `safeErrorMessage(error, fallback, maxLength)` of an error with a message. -/
def Host.safeErrorMessage (H : Host) (message fallback : String) (maxLength : Nat) : String :=
  H.redactSensitiveText (if trim message = "" then fallback else trim message) maxLength

/-- `safeErrorMessage(error, fallback)`. -/
def Host.errorMessage (H : Host) (fault : Fault) (fallback : String) : String :=
  H.safeErrorMessage (Method.Fault.message fault) fallback 2000

/-- A step of a rollback: its failure becomes a message. -/
def collect (H : Host) (label fallback : String) (c : Call Unit) : Call (List String) := do
  match ← attempt c with
  | .ok () => pure []
  | .error fault => pure [label ++ ": " ++ H.errorMessage fault fallback]

/-- An event the agent must grant. -/
def emitGranted (call : AgentCall) (refused : String → String) (fallback : String) : Query Unit := do
  let response ← Query.emitToAgent call
  ensure response.success (.error (refused (response.error.getD fallback)))

/-! ## `OperationsService` -/

/-- Who calls, and under which circumstances. -/
structure Caller where
  userId : String
  role : String
  idempotencyKey : Option String
  releaseMaintenance : Bool

/-- A method of `OperationsService` that returns nothing. -/
def operation (p : Operations.Program Outcome) : Call Unit := do
  match ← Call.ofProgram (embed p) with
  | .threw fault => throw fault
  | .returned => pure ()
  | .ticket _ _ => pure ()

/-- `operations.begin`. -/
def begin (H : Host) (caller : Caller) (input : BeginOperationInput) : Call OperationTicket := do
  let key ← draw
  let operationId ← draw
  match ← Call.ofProgram (embed (Method.begin H.sha256 input (H.uuid key) (H.uuid operationId)
      caller.releaseMaintenance)) with
  | .ticket _ t => pure t
  | .threw fault => throw fault
  | .returned => throw (.error "Operation failed")

/-- The input of an inline operation. -/
def inlineInput (caller : Caller) (type siteId : String)
    (siteDomainId globalLockKey : Option String) (lockSite : Option Bool) (request : JsValue) :
    BeginOperationInput where
  idempotencyKey := caller.idempotencyKey
  type := type
  siteId := some siteId
  siteDomainId := siteDomainId
  databaseId := none
  globalLockKey := globalLockKey
  lockSite := lockSite
  parentOperationId := none
  userId := caller.userId
  request := request
  queued := none

def start (operationId step : String) : Call Unit :=
  operation (Method.single (Method.stamped (.start operationId step)))

def step (operationId step : String) (progress : Int) : Call Unit :=
  operation (Method.single (Method.write (.step operationId step progress)))

def succeed (operationId : String) (result : JsValue) : Call Unit :=
  operation (Method.single (Method.stamped (.succeed operationId result)))

/-- `operations.fail`, with the message of the error. -/
def failWith (operationId message : String) : Call Unit :=
  operation (Method.single (Method.stamped (.fail operationId message)))

def fail (H : Host) (operationId : String) (fault : Fault) : Call Unit :=
  failWith operationId (H.errorMessage fault "Operation failed")

def attachScope (operationId : String) (scope : AttachedScope) : Call Unit :=
  operation (Method.single (Method.write (.attachScope operationId scope)))

/-- The fault a `catch` block throws at the end: with what the rollback could not undo. -/
def rolledBack (H : Host) (fault : Fault) (summary : String) (rollbackErrors : List String) :
    Fault :=
  if rollbackErrors = [] then fault
  else .error (H.errorMessage fault summary ++ "; rollback failed: " ++
    "; ".intercalate rollbackErrors)

/-- The end of a `catch` block. -/
def failAndThrow {α : Type} (H : Host) (operationId : String) (fault : Fault) : Call α := do
  ignoring (fail H operationId fault)
  throw fault

/-! ## What a call may perform -/

section Performs

variable {α β : Type} {P : Instr → Prop}

/-- Every instruction the call may perform meets `P`. -/
def Call.Performs (P : Instr → Prop) (c : Call α) : Prop := c.run.Issues P

theorem performs_pure (a : α) : Call.Performs P (pure a : Call α) := trivial

theorem performs_throw (fault : Fault) : Call.Performs P (throw fault : Call α) := trivial

theorem performs_bind {c : Call α} {f : α → Call β} (hc : c.Performs P)
    (hf : ∀ a, (f a).Performs P) : Call.Performs P (c >>= f) := by
  refine Prog.issues_bind (fun r => ?_) hc
  cases r with
  | error fault => trivial
  | ok a => exact hf a

theorem performs_forM {f : β → Call Unit} (hf : ∀ b, (f b).Performs P) (bs : List β) :
    Call.Performs P (bs.forM f) := by
  induction bs with
  | nil => exact performs_pure ()
  | cons b bs ih => exact performs_bind (hf b) fun _ => ih

theorem performs_ofProgram {p : Program α} (hp : p.Issues P) : (Call.ofProgram p).Performs P := by
  refine Prog.issues_bind (fun a => ?_) hp
  trivial

theorem performs_attempt {c : Call α} (hc : c.Performs P) : (attempt c).Performs P :=
  performs_ofProgram hc

theorem performs_ignoring {c : Call α} (hc : c.Performs P) : (ignoring c).Performs P :=
  performs_bind (performs_attempt hc) fun _ => performs_pure ()

theorem performs_collect {H : Host} {label fallback : String} {c : Call Unit}
    (hc : c.Performs P) : (collect H label fallback c).Performs P := by
  refine performs_bind (performs_attempt hc) fun outcome => ?_
  cases outcome with
  | ok _ => exact performs_pure _
  | error fault => exact performs_pure _

theorem performs_stages {π : Type} {fs : List (π → Call π)}
    (h : ∀ f ∈ fs, ∀ progress, (f progress).Performs P) (progress : π) :
    (stages fs progress).Performs P := by
  induction fs generalizing progress with
  | nil => exact performs_pure _
  | cons f fs ih =>
    refine performs_bind (performs_attempt (h f List.mem_cons_self progress)) fun outcome => ?_
    cases outcome with
    | ok progress => exact ih (fun g hg => h g (List.mem_cons_of_mem f hg)) progress
    | error fault => exact performs_pure _

theorem performs_read (h : P .read) : read.Performs P := performs_ofProgram ⟨h, fun _ => trivial⟩

theorem performs_write {w : Write} (h : P (.write w)) : (perform w).Performs P :=
  ⟨h, fun _ => trivial⟩

theorem performs_execute {w : Write} (h : P (.write w)) : (execute w).Performs P :=
  performs_bind (performs_write h) fun _ => performs_pure ()

theorem performs_draw (h : P .draw) : draw.Performs P := performs_ofProgram ⟨h, fun _ => trivial⟩

theorem performs_spawn {job : ProvisioningJob} (h : P (.spawn job)) : (spawn job).Performs P :=
  performs_ofProgram ⟨h, fun _ => trivial⟩

theorem performs_takeJob (h : P .take) : takeJob.Performs P :=
  performs_ofProgram ⟨h, fun _ => trivial⟩

theorem performs_clock (h : P (.operations .clock)) : clock.Performs P :=
  performs_ofProgram ⟨h, fun _ => trivial⟩

/-- A query writes nothing. -/
theorem performs_query (h : ∀ i : QueryInstr, P i.instr) (q : Query α) :
    Call.Performs P (liftM q : Call α) :=
  Prog.issues_along h q.run

theorem issues_embed (h : ∀ i, P (.operations i)) (p : Operations.Program α) :
    (embed p).Issues P :=
  Prog.issues_along (ρ := Instr.Answer) h p

theorem performs_operation (h : ∀ i, P (.operations i)) (p : Operations.Program Outcome) :
    (operation p).Performs P := by
  refine performs_bind (performs_ofProgram (issues_embed h p)) fun outcome => ?_
  cases outcome with
  | threw fault => exact performs_throw fault
  | returned => exact performs_pure ()
  | ticket p t => exact performs_pure ()

theorem performs_begin {H : Host} {caller : Caller} (hdraw : P .draw)
    (h : ∀ i, P (.operations i)) (input : BeginOperationInput) :
    (begin H caller input).Performs P := by
  refine performs_bind (performs_draw hdraw) fun key =>
    performs_bind (performs_draw hdraw) fun operationId =>
      performs_bind (performs_ofProgram (issues_embed h _)) fun outcome => ?_
  cases outcome with
  | threw fault => exact performs_throw fault
  | returned => exact performs_throw _
  | ticket p t => exact performs_pure t

theorem performs_failAndThrow {H : Host} (h : ∀ i, P (.operations i)) (operationId : String)
    (fault : Fault) : Call.Performs P (failAndThrow H operationId fault : Call α) :=
  performs_bind (performs_ignoring (performs_operation h _)) fun _ => performs_throw fault

/-! ### What a call returns -/

/-- What the call returns, when it does not throw, meets `post`. -/
def Call.Returns (post : α → Prop) (c : Call α) : Prop :=
  c.run.Returns fun r => ∀ a, r = .ok a → post a

variable {pre : α → Prop} {post : β → Prop}

theorem returns_any (c : Call α) : c.Returns fun _ => True :=
  Prog.returns_of_forall (fun _ _ _ => trivial) c.run

theorem returns_pure {b : β} (h : post b) : Call.Returns post (pure b : Call β) := by
  rintro a ⟨⟩
  exact h

theorem returns_throw (fault : Fault) : Call.Returns post (throw fault : Call β) :=
  fun _ h => nomatch h

theorem returns_bind {c : Call α} {f : α → Call β} (hc : c.Returns pre)
    (hf : ∀ a, pre a → (f a).Returns post) : Call.Returns post (c >>= f) := by
  refine Prog.returns_bind hc fun r hr => ?_
  cases r with
  | error fault => exact fun _ h => nomatch h
  | ok a => exact hf a (hr a rfl)

theorem returns_attempt {c : Call α} (hc : c.Returns pre) :
    (attempt c).Returns fun r => ∀ a, r = .ok a → pre a := by
  refine Prog.returns_bind hc fun r hr => ?_
  rintro outcome ⟨⟩
  exact hr

/-- What every stage keeps of the progress is so when the `try` block ends. -/
theorem returns_stages {π : Type} {J : π → Prop} {fs : List (π → Call π)}
    (h : ∀ f ∈ fs, ∀ progress, J progress → (f progress).Returns J) {progress : π}
    (hJ : J progress) : (stages fs progress).Returns fun outcome => J outcome.2 := by
  induction fs generalizing progress with
  | nil => exact returns_pure hJ
  | cons f fs ih =>
    refine returns_bind (returns_attempt (h f List.mem_cons_self progress hJ)) fun outcome ho => ?_
    cases outcome with
    | ok progress => exact ih (fun g hg => h g (List.mem_cons_of_mem f hg)) (ho progress rfl)
    | error fault => exact returns_pure hJ

end Performs

end Meowbox.Sites
