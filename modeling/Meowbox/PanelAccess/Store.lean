import Meowbox.Federation.Registry
import Meowbox.Operations.Store

/-!
# The two sides of a panel access cutover

The state behind `api/src/panel-access/panel-access-cutover-coordinator.service.ts`, which runs on
the master, and `panel-access-cutover-target.service.ts`, which runs on the target, and the
statements and messages of the two.

* The master has the registry of `Federation/Registry.lean`, with its links to operations of the
  target. The target has its settings, its cutover journal, and its operations.
* A request of the master is a numbered message. The target may take it at any time, also after the
  master has given up waiting, and also twice; the answer to it is there when the target has given
  it. A message that is lost is one that is never taken, and so is one that the target refuses.
* The journal of the target is one row. `journal` lists all that was written to it, newest first.
* What the agent of the target answers, and whether a candidate passes its verification, is set from
  outside, and so are the states and results of operations.

Schema and time stamps of the journal, and the endpoint before the cutover, are left out; a
journal that does not parse as well.
-/

namespace Meowbox.PanelAccess

open Meowbox.Registry Meowbox.Operations

/-! ## The target -/

/-- `PanelAccessTargetCutoverState`. -/
inductive TargetState
  | prepared
  | staging
  | staged
  | finalizing
  | finalized
  | rollingBack
  | rolledBack
  | needsAttention
deriving DecidableEq

/-- `FINALIZED` and `ROLLED_BACK`. -/
def TargetState.terminal : TargetState → Bool
  | finalized | rolledBack => true
  | prepared | staging | staged | finalizing | rollingBack | needsAttention => false

/-- `ACTIVE_STATES`. -/
def TargetState.active : TargetState → Bool
  | prepared | staging | staged | finalizing | rollingBack => true
  | finalized | rolledBack | needsAttention => false

structure PanelAccessSettings where
  domain : Option String
  certMode : String
  certPath : Option String
  keyPath : Option String
  httpsRedirect : Bool
  denyIpAccess : Bool
deriving DecidableEq

/-- The endpoints of a candidate, with its pin and its signed manifest. -/
structure CutoverCandidate where
  apiOrigin : String
  wsOrigin : String
  socketPath : String
  browserPublicOrigin : String
  directTransferOrigin : String
  spkiSha256 : String
  manifest : String
deriving DecidableEq

/-- `PanelAccessTargetCutoverJournal`. -/
structure TargetJournal where
  cutoverId : String
  state : TargetState
  operationId : String
  previousSettings : PanelAccessSettings
  candidateSettings : Option PanelAccessSettings
  candidate : Option CutoverCandidate
  sanitizedErrorCode : Option String
deriving DecidableEq

/-- `PanelAccessCutoverRequest`. -/
structure CutoverRequest where
  cutoverId : String
  domain : String
  email : String
  httpsRedirect : Bool
  denyIpAccess : Bool
  deadlineAt : Nat
deriving DecidableEq

/-- What staging returns: the result of its operation. -/
structure StageResult where
  cutoverId : String
  state : TargetState
  candidate : CutoverCandidate
deriving DecidableEq

structure TargetOperation where
  id : String
  status : OperationStatus
  result : Option StageResult
deriving DecidableEq

structure AgentAck where
  success : Bool
  error : Option String
deriving DecidableEq

structure AgentStatus where
  success : Bool
  state : Option TargetState
  candidateOrigin : Option String
deriving DecidableEq

/-- `PanelAccessAgentStageResult`. -/
structure AgentStageResult where
  cutoverId : String
  candidateOrigin : String
  spkiSha256 : String
  candidateSettings : PanelAccessSettings
deriving DecidableEq

/-- What the agent answers at present. -/
structure AgentAnswers where
  finalizeCutover : Except RegistryError AgentAck
  rollbackCutover : Except RegistryError AgentAck
  cutoverStatus : Except RegistryError AgentStatus
  stageCandidate : Except RegistryError AgentStageResult

/-- `operationId` and `state` of an operation ticket. -/
structure Ticket where
  operationId : String
  state : OperationStatus
deriving DecidableEq

structure TargetDb where
  settings : PanelAccessSettings
  journal : List TargetJournal
  operation : List TargetOperation
  /-- The path of the sockets, when the local endpoint is `READY`. -/
  localSocketPath : Option String
  agent : AgentAnswers
  /-- Operations are admitted. -/
  admits : Except RegistryError Unit

/-- The state of a cutover: what was written last to the journal about it. -/
def TargetDb.stateOf (t : TargetDb) (cutoverId : String) : Option TargetState :=
  (t.journal.find? fun j => j.cutoverId == cutoverId).map TargetJournal.state

/-! ## Messages -/

inductive TargetRequest
  | stage (request : CutoverRequest)
  | status (cutoverId : String)
  | finalize (cutoverId : String)
  | rollback (cutoverId : String)
  | operation (id : String)
  | cancelOperation (id : String)
deriving DecidableEq

inductive TargetData
  | journal (journal : TargetJournal)
  | ticket (ticket : Ticket)
  | operation (operation : TargetOperation)
  | cancelled
deriving DecidableEq

abbrev TargetResponse : Type := Except RegistryError TargetData

structure Message where
  request : TargetRequest
  response : Option TargetResponse
deriving DecidableEq

/-! ## The master -/

structure OperationLink where
  remoteServerId : String
  targetOperationId : String
  masterUserId : String
  /-- The cutover. -/
  correlationId : String
deriving DecidableEq

structure CutoverSystem where
  registry : RegistryDb
  remoteOperationLink : List OperationLink
  /-- The users with the role `ADMIN`. -/
  admins : List String
  /-- What `verifyCandidate` comes to. -/
  verification : Except RegistryError Unit
  message : List Message
  target : TargetDb

namespace CutoverSystem

/-- `remoteOperationLink.findFirst`. -/
def findLink (x : CutoverSystem) (serverId cutoverId : String) : Option OperationLink :=
  x.remoteOperationLink.find? fun link =>
    link.remoteServerId == serverId && link.correlationId == cutoverId

/-- `operationLinks.record`: the link is there already, or contradicts one, or is created. -/
def recordLink (x : CutoverSystem) (link : OperationLink) :
    Except RegistryError Unit × CutoverSystem :=
  match x.remoteOperationLink.find? fun other =>
    other.remoteServerId == link.remoteServerId &&
      other.targetOperationId == link.targetOperationId with
  | some existing =>
    if existing = link then (.ok (), x)
    else (conflict "Remote operation link identity conflict", x)
  | none => (.ok (), { x with remoteOperationLink := x.remoteOperationLink ++ [link] })

def findOperation (x : CutoverSystem) (id : String) : Option TargetOperation :=
  x.target.operation.find? fun operation => operation.id == id

def updateTarget (x : CutoverSystem) (f : TargetDb → TargetDb) : CutoverSystem :=
  { x with target := f x.target }

/-- `admission.admit`: a new operation that waits. -/
def admitOperation (x : CutoverSystem) : Except RegistryError Ticket × CutoverSystem :=
  match x.target.admits with
  | .error e => (.error e, x)
  | .ok _ =>
    let id := "operation-" ++ toString x.target.operation.length
    (.ok ⟨id, .queued⟩, x.updateTarget fun t =>
      { t with operation := t.operation ++ [⟨id, .queued, none⟩] })

/-- An answer to a message. -/
def respond (x : CutoverSystem) (n : Nat) (response : TargetResponse) : CutoverSystem :=
  { x with message := x.message.modify n fun m => { m with response := some response } }

end CutoverSystem

/-! ## Instructions -/

inductive CutoverInstr
  | registry (i : RegistryInstr)
  | findCutover (id : String)
  | findServer (id : String)
  | findLink (serverId cutoverId : String)
  | recordLink (link : OperationLink)
  | isAdmin (userId : String)
  | verifyCandidate (candidate : CutoverCandidate)
  | send (request : TargetRequest)
  /-- The answer to a message, when there is one. -/
  | receive (n : Nat)
  /-- A message reaches the target. -/
  | take (n : Nat)
  | getJournal
  | setJournal (journal : TargetJournal)
  | setSettingsAndJournal (settings : PanelAccessSettings) (journal : TargetJournal)
  | getPanelAccess
  | getClaim
  | findOperation (id : String)
  | admitOperation (request : CutoverRequest)
  | agentFinalize (cutoverId candidateOrigin : String)
  | agentRollback (cutoverId : String)
  | agentStatus (cutoverId : String)
  | agentStage (request : CutoverRequest) (operationId : String)
      (previousSettings : PanelAccessSettings)
  | respond (n : Nat) (response : TargetResponse)
deriving DecidableEq

abbrev Reply : CutoverInstr → Type
  | .registry i => Registry.Answer i
  | .findCutover _ => Option (RemoteServer × RemoteEndpointCutover)
  | .findServer _ => Option RemoteServer
  | .findLink _ _ => Option OperationLink
  | .recordLink _ => Except RegistryError Unit
  | .isAdmin _ => Bool
  | .verifyCandidate _ => Except RegistryError Unit
  | .send _ => Nat
  | .receive _ => Option TargetResponse
  | .take _ => Option TargetRequest
  | .getJournal => Option TargetJournal
  | .setJournal _ => Unit
  | .setSettingsAndJournal _ _ => Unit
  | .getPanelAccess => PanelAccessSettings
  | .getClaim => Option String
  | .findOperation _ => Option TargetOperation
  | .admitOperation _ => Except RegistryError Ticket
  | .agentFinalize _ _ => Except RegistryError AgentAck
  | .agentRollback _ => Except RegistryError AgentAck
  | .agentStatus _ => Except RegistryError AgentStatus
  | .agentStage _ _ _ => Except RegistryError AgentStageResult
  | .respond _ _ => Unit

/-- The answer to an instruction, and the system after it. -/
def reply (H : RegistryHost) : (i : CutoverInstr) → CutoverSystem → Reply i × CutoverSystem
  | .registry i, x =>
    ((Registry.answer H i x.registry).1, { x with registry := (Registry.answer H i x.registry).2 })
  | .findCutover id, x => (x.registry.findCutover id, x)
  | .findServer id, x => (x.registry.findServer id, x)
  | .findLink serverId cutoverId, x => (x.findLink serverId cutoverId, x)
  | .recordLink link, x => x.recordLink link
  | .isAdmin userId, x => (x.admins.contains userId, x)
  | .verifyCandidate _, x => (x.verification, x)
  | .send request, x => (x.message.length, { x with message := x.message ++ [⟨request, none⟩] })
  | .receive n, x => ((x.message[n]?).bind Message.response, x)
  | .take n, x => ((x.message[n]?).map Message.request, x)
  | .getJournal, x => (x.target.journal.head?, x)
  | .setJournal journal, x =>
    ((), x.updateTarget fun t => { t with journal := journal :: t.journal })
  | .setSettingsAndJournal settings journal, x =>
    ((), x.updateTarget fun t => { t with settings := settings, journal := journal :: t.journal })
  | .getPanelAccess, x => (x.target.settings, x)
  | .getClaim, x => (x.target.localSocketPath, x)
  | .findOperation id, x => (x.findOperation id, x)
  | .admitOperation _, x => x.admitOperation
  | .agentFinalize _ _, x => (x.target.agent.finalizeCutover, x)
  | .agentRollback _, x => (x.target.agent.rollbackCutover, x)
  | .agentStatus _, x => (x.target.agent.cutoverStatus, x)
  | .agentStage _ _ _, x => (x.target.agent.stageCandidate, x)
  | .respond n response, x => ((), x.respond n response)

/-- What happens besides the calls. -/
inductive CutoverChange
  | registry (change : RegistryChange)
  | setAgent (agent : AgentAnswers)
  | setOperations (operation : List TargetOperation)
  | setTarget (settings : PanelAccessSettings) (localSocketPath : Option String)
      (admits : Except RegistryError Unit)
  | setVerification (verification : Except RegistryError Unit)
  | setAdmins (admins : List String)

def CutoverSystem.outside : CutoverChange → CutoverSystem → CutoverSystem
  | .registry change, x => { x with registry := x.registry.outside change }
  | .setAgent agent, x => x.updateTarget fun t => { t with agent := agent }
  | .setOperations operation, x => x.updateTarget fun t => { t with operation := operation }
  | .setTarget settings localSocketPath admits, x => x.updateTarget fun t => { t with
      settings := settings, localSocketPath := localSocketPath, admits := admits }
  | .setVerification verification, x => { x with verification := verification }
  | .setAdmins admins, x => { x with admins := admins }

end Meowbox.PanelAccess
