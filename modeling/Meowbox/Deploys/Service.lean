import Meowbox.Sites.Domains

/-!
# `DeployService`

`api/src/deploy/deploy.service.ts` and the watchdog of `api/src/scheduler/scheduler.service.ts`.
`triggerDeploy` and `rollbackDeploy` claim a domain for a new deploy log and leave the work to the
agent, which reports lines of output and a completion. It may send any of these events at any time
and in any number, and the gateway handles each on its own.

* `performs_program`: the statements these events perform.
-/

namespace Meowbox.Deploys

open JsData Interleaved Sites Failing
open Operations (Time Fault)

/-! ## `triggerDeploy` and `rollbackDeploy` -/

/-- `requireOwnedSiteDomain` on what was read. -/
def requireOwnedSiteDomain (db : Db) (siteId domainId : String) (caller : Caller) :
    Except Fault (SiteRow × DomainRow) :=
  match db.siteDomain.find? fun d => d.id == domainId && d.siteId == siteId,
      db.site.find? fun s => s.id == siteId with
  | some domain, some site =>
    if caller.role ≠ "ADMIN" ∧ site.userId ≠ caller.userId then .error (.forbidden "Access denied")
    else (applicationPath domain.filesRelPath).map fun _ => (site, domain)
  | _, _ => .error (.notFound "Domain application not found")

/-- Where `triggerDeploy` and `rollbackDeploy` differ. -/
structure DeployKind where
  type : String
  request : JsValue
  branch : String
  output : String
  summary : String
  withoutLog : String
  needsRepository : Bool
  call : DeployRow → ApplicationRoot → AgentCall

section Deploy

variable (H : Host) (siteId domainId : String) (caller : Caller) (kind : DeployKind)

/-- The checks of a domain that is to be deployed. -/
def checkDeployable (domain : DomainRow) : Except Fault Unit := do
  refuse (kind.needsRepository && (truthy domain.gitRepository).isNone)
    (.badRequest "Domain application has no git repository configured")
  refuse (domain.appStatus != .running && domain.appStatus != .error)
    (.badRequest ("Domain application is busy (" ++ appStatusText domain.appStatus ++ ")"))

/-- `triggerDeploy` looks for a deploy that is under way. -/
def checkActiveDeploy : Query Unit :=
  if !kind.needsRepository then pure ()
  else do
    let db ← Query.read
    Sites.ensure (db.deployLog.find? fun l => l.siteDomainId == domainId &&
        (l.status == .pending || l.status == .inProgress)).isNone
      (.badRequest "A deploy is already in progress for this domain")

/-- The log of a deploy that begins. -/
def newDeployLog (operationId id : String) (now : Time) : DeployRow where
  id := id
  siteId := siteId
  siteDomainId := domainId
  operationId := some operationId
  status := .pending
  commitSha := none
  commitMessage := none
  branch := kind.branch
  output := kind.output
  triggeredBy := some caller.userId
  durationMs := none
  startedAt := now
  completedAt := none
  createdAt := now

/-- The `try` block. -/
def dispatchDeploy (operationId : String) : Call DeployRow := do
  let db ← read
  let (site, domain) ← Query.ofExcept (requireOwnedSiteDomain db siteId domainId caller)
  Query.ofExcept (checkDeployable kind domain)
  checkActiveDeploy domainId kind
  let id ← draw
  let now ← clock
  let log := newDeployLog siteId domainId caller kind operationId (H.uuid id) now
  execute (.claimDeploy log)
  Query.emitToAgentAsync (kind.call log (applicationRoot site domain (some operationId)))
  step operationId "await-agent" 10
  return log

/-- The `catch` block. -/
def failDeploy (operationId : String) (fault : Fault) : Call DeployRow := do
  let message := H.errorMessage fault kind.summary
  ignoring do
    let now ← clock
    execute (.failDeploys operationId (kind.summary ++ ": " ++ message) now)
  ignoring (execute (.claimAppStatus domainId [.deploying] .error (some message)))
  failAndThrow H operationId fault

/-- Both methods behind `begin`. -/
def runDeploy (operationId : String) : Call DeployRow := do
  start operationId "validate"
  match ← attempt (dispatchDeploy H siteId domainId caller kind operationId) with
  | .ok log => return log
  | .error fault => failDeploy H domainId kind operationId fault

/-- The log of a request that was made before. -/
def replayedLog (operationId : String) : Call DeployRow := do
  let db ← read
  match db.deployLog.find? fun l => l.operationId == some operationId with
  | none => throw (.badRequest kind.withoutLog)
  | some log => return log

/-- Both methods from `begin` on. -/
def beginDeploy : Call DeployRow := do
  let operation ← begin H caller
    (inlineInput caller kind.type siteId (some domainId) none (some false) kind.request)
  if operation.replayed then replayedLog kind operation.id
  else runDeploy H siteId domainId caller kind operation.id

end Deploy

def triggerKind (requestedBranch : String) : DeployKind where
  type := "DOMAIN_DEPLOY"
  request := .object [("branch", .string requestedBranch)]
  branch := requestedBranch
  output := ""
  summary := "Deploy trigger failed"
  withoutLog := "Deploy operation exists without a deploy log; retry with a new idempotency key"
  needsRepository := true
  call := .executeDeploy

def rollbackKind (deploy : DeployRow) (commitSha : String) : DeployKind where
  type := "DOMAIN_DEPLOY_ROLLBACK"
  request := .object [("deployId", .string deploy.id), ("commitSha", .string commitSha)]
  branch := deploy.branch
  output := "[rollback] Rolling back to deploy " ++ String.ofList (deploy.id.toList.take 8) ++
    " (commit " ++ String.ofList (commitSha.toList.take 8) ++ ")\n"
  summary := "Rollback trigger failed"
  withoutLog := "Rollback operation exists without a deploy log; retry with a new idempotency key"
  needsRepository := false
  call := fun log application => .rollbackDeploy log application commitSha

def DeployService.triggerDeploy (H : Host) (siteId domainId : String) (branch : Option String)
    (caller : Caller) : Call DeployRow := do
  let db ← read
  let (_, domain) ← Query.ofExcept (requireOwnedSiteDomain db siteId domainId caller)
  beginDeploy H siteId domainId caller
    (triggerKind ((truthy branch).getD ((truthy domain.deployBranch).getD "main")))

/-- The deploy a rollback goes back to, with its commit. -/
def rollbackTarget (db : Db) (siteId domainId deployId : String) :
    Except Fault (DeployRow × String) :=
  match db.deployLog.find? fun l => l.id == deployId with
  | none => .error (.notFound "Deploy not found")
  | some deploy =>
    if deploy.siteId ≠ siteId ∨ deploy.siteDomainId ≠ domainId then
      .error (.notFound "Deploy not found")
    else
      match truthy deploy.commitSha with
      | none => .error (.badRequest "Deploy has no commit SHA to rollback to")
      | some commitSha => .ok (deploy, commitSha)

def DeployService.rollbackDeploy (H : Host) (siteId domainId deployId : String)
    (caller : Caller) : Call DeployRow := do
  let db ← read
  let _ ← Query.ofExcept (requireOwnedSiteDomain db siteId domainId caller)
  let seen ← read
  let (deploy, commitSha) ← Query.ofExcept (rollbackTarget seen siteId domainId deployId)
  beginDeploy H siteId domainId caller (rollbackKind deploy commitSha)

/-! ## Events -/

/-- `appendOutput`. -/
def DeployService.appendOutput (H : Host) (deployId output : String) : Call Unit := do
  let db ← read
  match db.deployLog.find? fun l => l.id == deployId with
  | none => return
  | some current =>
    let safeOutput := H.redactSensitiveText output MAX_DEPLOY_OUTPUT_LENGTH
    let _ ← perform (.appendOutput deployId current.output safeOutput)

/-- `completeDeploy`, up to the notification. -/
def DeployService.completeDeploy (H : Host) (deployId : String) (success : Bool)
    (commitSha commitMessage : Option String) : Call Unit := do
  let now ← clock
  let _ ← perform (.completeDeploy deployId
    { success := success
      commitSha := commitSha
      commitMessage := commitMessage
      message := H.safeErrorMessage (commitMessage.getD "") "Deploy failed" 2000 } now)

/-- What the watchdog does with the deploys it found. -/
def SchedulerService.failStuck (stuck : List (String × String)) : Call Unit :=
  if stuck = [] then return
  else do
    let completedAt ← clock
    let _ ← perform (.failStuckDeploys (stuck.map Prod.fst) completedAt)
    stuck.forM fun d => do
      let _ ← perform (.failStuckSite d.2)

/-- The deploys of `handleStuckOperationsWatchdog`. -/
def SchedulerService.handleStuckDeploys : Call Unit :=
  ignoring do
    let now ← clock
    let db ← read
    SchedulerService.failStuck (stuckDeploys db now)

/-- What arrives for the deploys. -/
inductive DeployEvent
  | log (deployId line : String)
  | complete (deployId : String) (success : Bool) (commitSha commitMessage : Option String)
  | watchdog

def DeployEvent.program (H : Host) : DeployEvent → Call Unit
  | .log deployId line => DeployService.appendOutput H deployId (line ++ "\n")
  | .complete deployId success commitSha commitMessage =>
    DeployService.completeDeploy H deployId success commitSha commitMessage
  | .watchdog => SchedulerService.handleStuckDeploys

/-! ## What they perform -/

/-- The instructions of these programs. -/
inductive DeployInstr : Instr → Prop
  | clock : DeployInstr (.operations .clock)
  | read : DeployInstr .read
  | appendOutput (deployId current safeOutput : String) :
      DeployInstr (.write (.appendOutput deployId current safeOutput))
  | completeDeploy (deployId : String) (outcome : DeployOutcome) (now : Time) :
      DeployInstr (.write (.completeDeploy deployId outcome now))
  | failStuckDeploys (ids : List String) (now : Time) :
      DeployInstr (.write (.failStuckDeploys ids now))
  | failStuckSite (siteId : String) : DeployInstr (.write (.failStuckSite siteId))

theorem performs_failStuck (stuck : List (String × String)) :
    (SchedulerService.failStuck stuck).Performs DeployInstr := by
  unfold SchedulerService.failStuck
  split
  · exact performs_pure ()
  · exact performs_bind (performs_clock .clock) fun completedAt =>
      performs_bind (performs_write (.failStuckDeploys _ _)) fun _ =>
        performs_forM (fun d => performs_bind (performs_write (.failStuckSite d.2)) fun _ =>
          performs_pure ()) stuck

theorem performs_program (H : Host) (e : DeployEvent) :
    (e.program H).Performs DeployInstr := by
  cases e with
  | log deployId line =>
    refine performs_bind (performs_read .read) fun db => ?_
    split
    · exact performs_pure ()
    · exact performs_bind (performs_write (.appendOutput _ _ _)) fun _ => performs_pure ()
  | complete deployId success commitSha commitMessage =>
    exact performs_bind (performs_clock .clock) fun now =>
      performs_bind (performs_write (.completeDeploy _ _ now)) fun _ => performs_pure ()
  | watchdog =>
    exact performs_ignoring (performs_bind (performs_clock .clock) fun now =>
      performs_bind (performs_read .read) fun db => performs_failStuck _)

/-! ## The system -/

abbrev DeployPool := Pool World Instr Instr.Answer (Except Fault Unit)

def deployService (H : Host) :
    Service World Outside DeployEvent Instr Instr.Answer (Except Fault Unit) where
  program e := (e.program H).run
  answer := answer H
  outside change world := world.change change

end Meowbox.Deploys
