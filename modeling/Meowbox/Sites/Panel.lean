import Meowbox.Backups.Mapping
import Meowbox.Lib.Pool

/-!
# The panel

What the services of sites, deploys and restores share: the tables, the clock, the agent and the
identifiers `randomUUID` draws. A service method is a program over `Instr`: it reads the tables,
performs a statement, asks the agent, or does one of the things `OperationsService` does. Other
programs may run between any two of its instructions.

The agent answers as `World.respond` says and statements end as `World.fate` says; both change from
outside between any two instructions, so every sequence of replies, failures and lost answers is
part of some run. A statement whose answer is lost was performed, and its caller sees it fail.

A promise that is not awaited is a job: it is handed over with `spawn` and taken up by a call of its
own.

`World.appended` records the outputs that were appended and steers nothing.
-/

namespace Meowbox.Sites

open Operations Backups Interleaved

/-! ## Statements -/

structure CmsSettings where
  cmsAdminUser : Option String
  cmsAdminPasswordEnc : String
  managerPath : String
  connectorsPath : String
  cmsTablePrefix : String

/-- What `ssl:issue` returns of an issued certificate. -/
structure IssuedCertificate where
  certPath : String
  keyPath : String
  expiresAt : Option Time
  domains : List String

/-- Every statement of the site services. -/
inductive Write
  | operations (w : Operations.Write)
  | updateDomain (target : DomainRow) (data : DomainChange)
  | rollbackDomain (target : DomainRow) (domainChanged : Bool)
      (previousCertificate : Option SslCertificate)
  | updateAliases (domainId domain : String) (aliases : List SiteAlias)
  | setDomainOrdering (ordering : List DomainPlace)
  | commitDomainDeletionMetadata (siteId domainId preservedDatabaseTargetId : String)
      (deleteOwnedDatabases : Bool) (operationId result : String) (now : Time)
  | setAppStatus (domainId : String) (appStatus : AppStatus) (appErrorMessage : Option String)
  | claimAppStatus (domainId : String) (expected : List AppStatus) (appStatus : AppStatus)
      (appErrorMessage : Option String)
  | claimDeploy (log : DeployRow)
  | appendOutput (deployId current safeOutput : String)
  | completeDeploy (deployId : String) (outcome : DeployOutcome) (now : Time)
  | failDeploys (operationId output : String) (now : Time)
  | failStuckDeploys (ids : List String) (now : Time)
  | failStuckSite (siteId : String)
  | applyManifestMapping (siteId : String) (m : SiteBackupManifest) (context : RestoreContext)
  | setRestoreContext (backupId : String) (context : Option RestoreContext)
  | createDatabase (row : DatabaseRow)
  | deleteDatabase (databaseId : String)
  | setCmsSettings (domainId : String) (settings : CmsSettings)
  | setModxVersion (domainId version : String)
  | requestCertificate (certificateId siteId domainId : String) (domains : List String)
  | activateCertificate (domainId : String) (issued : IssuedCertificate) (now : Time)
  | resetCertificate (domainId : String)

/-- `database.create`. -/
def createDatabase (db : Db) (row : DatabaseRow) : Except Fault Db := do
  let database ← unique (db.database.create? row)
  return { db with database := database }

/-- `database.delete`. -/
def deleteDatabase (db : Db) (databaseId : String) : Except Fault Db :=
  match db.database.find? fun d => d.id == databaseId with
  | none => .error recordNotFound
  | some _ => .ok { db with database := db.database.deleteMany fun d => d.id == databaseId }

/-- The update of the CMS columns. -/
def setCmsSettings (db : Db) (domainId : String) (c : CmsSettings) : Except Fault Db :=
  db.patchDomain domainId fun d => { d with
    settings := { d.settings with
      cmsAdminUser := c.cmsAdminUser
      cmsAdminPasswordEnc := some c.cmsAdminPasswordEnc
      managerPath := some c.managerPath
      connectorsPath := some c.connectorsPath
      cmsTablePrefix := some c.cmsTablePrefix } }

def setModxVersion (db : Db) (domainId version : String) : Except Fault Db :=
  db.patchDomain domainId fun d => { d with
    settings := { d.settings with modxVersion := some version } }

/-- `sslCertificate.upsert` before a certificate is issued. -/
def requestCertificate (db : Db) (certificateId siteId domainId : String) (domains : List String) :
    Except Fault Db :=
  match db.sslCertificate.find? fun c => c.domainId == some domainId with
  | some _ => .ok (db.updateCertificates (fun c => c.domainId == some domainId)
      (fun c => { c with domains := domains, status := .pending }) fun _ => ⟨rfl, rfl⟩)
  | none => do
    let sslCertificate ← unique (db.sslCertificate.create? {
      id := certificateId
      siteId := siteId
      domainId := some domainId
      domains := domains
      status := .pending
      issuer := ""
      isWildcard := false
      issuedAt := none
      expiresAt := none
      daysRemaining := none
      certPath := none
      keyPath := none })
    return { db with sslCertificate := sslCertificate }

/-- The certificate of a domain, which an update must find. -/
def updateCertificate (db : Db) (domainId : String) (data : SslCertificate → SslCertificate)
    (h : ∀ c, (data c).id = c.id ∧ (data c).domainId = c.domainId) : Except Fault Db :=
  match db.sslCertificate.find? fun c => c.domainId == some domainId with
  | none => .error recordNotFound
  | some _ => .ok (db.updateCertificates (fun c => c.domainId == some domainId) data h)

def MS_PER_DAY : Nat := 1000 * 60 * 60 * 24

def activateCertificate (db : Db) (domainId : String) (issued : IssuedCertificate) (now : Time) :
    Except Fault Db :=
  updateCertificate db domainId (fun c => { c with
    domains := issued.domains
    status := .active
    certPath := some issued.certPath
    keyPath := some issued.keyPath
    issuer := "Let's Encrypt"
    issuedAt := some now
    expiresAt := issued.expiresAt
    daysRemaining := issued.expiresAt.map fun expiresAt =>
      Int.fdiv ((expiresAt : Int) - now) MS_PER_DAY }) fun _ => ⟨rfl, rfl⟩

def resetCertificate (db : Db) (domainId : String) : Except Fault Db :=
  updateCertificate db domainId (fun c => { c with status := .none }) fun _ => ⟨rfl, rfl⟩

/-- `backup.update({ where: { id }, data: { restoreContext } })`. -/
def setRestoreContext (db : Db) (backupId : String) (context : Option RestoreContext) :
    Except Fault Db :=
  match db.backup.find? fun b => b.id == backupId with
  | none => .error recordNotFound
  | some _ => .ok { db with
      backup := db.backup.updateMany (fun b => b.id == backupId)
        (fun b => { b with restoreContext := context })
        fun k hk _ => by rw [List.mem_singleton.mp hk] }

/-- A statement that answers nothing. -/
def silent (r : Except Fault Db) : Except Fault (Db × Reply) := r.map fun db => (db, ⟨0, none⟩)

/-- Run a statement: the tables after it, and for the statements that count, the count. -/
def Db.run (H : Host) (db : Db) : Write → Except Fault (Db × Reply)
  | .operations w => db.commit w
  | .updateDomain target data => silent (updateDomain H db target data)
  | .rollbackDomain target domainChanged previousCertificate =>
    silent (rollbackDomain H db target domainChanged previousCertificate)
  | .updateAliases domainId domain aliases => silent (updateAliases H db domainId domain aliases)
  | .setDomainOrdering ordering => silent (setDomainOrdering db ordering)
  | .commitDomainDeletionMetadata siteId domainId preservedDatabaseTargetId deleteOwnedDatabases
      operationId result now =>
    silent (commitDomainDeletionMetadata db siteId domainId preservedDatabaseTargetId
      deleteOwnedDatabases operationId result now)
  | .setAppStatus domainId appStatus appErrorMessage =>
    silent (setAppStatus db domainId appStatus appErrorMessage)
  | .claimAppStatus domainId expected appStatus appErrorMessage =>
    let claimed := claimAppStatus db domainId expected appStatus appErrorMessage
    .ok (claimed.1, ⟨claimed.2, none⟩)
  | .claimDeploy log => silent (claimDeploy db log)
  | .appendOutput deployId current safeOutput =>
    silent (appendOutput db deployId current safeOutput)
  | .completeDeploy deployId outcome now =>
    (completeDeploy db deployId outcome now).map fun completed =>
      (completed.getD db, ⟨if completed.isSome then 1 else 0, none⟩)
  | .failDeploys operationId output now => silent (.ok (failDeploys db operationId output now))
  | .failStuckDeploys ids now => silent (.ok (failStuckDeploys db ids now))
  | .failStuckSite siteId => silent (.ok (failStuckSite db siteId))
  | .applyManifestMapping siteId m context => silent (applyManifestMapping H db siteId m context)
  | .setRestoreContext backupId context => silent (setRestoreContext db backupId context)
  | .createDatabase row => silent (createDatabase db row)
  | .deleteDatabase databaseId => silent (deleteDatabase db databaseId)
  | .setCmsSettings domainId settings => silent (setCmsSettings db domainId settings)
  | .setModxVersion domainId version => silent (setModxVersion db domainId version)
  | .requestCertificate certificateId siteId domainId domains =>
    silent (requestCertificate db certificateId siteId domainId domains)
  | .activateCertificate domainId issued now => silent (activateCertificate db domainId issued now)
  | .resetCertificate domainId => silent (resetCertificate db domainId)

/-! ## The agent -/

/-- The payload of `php:create-pool`. -/
structure PoolConfig where
  siteDomainId : String
  runtimeKey : String
  siteName : String
  domain : String
  phpVersion : String
  user : Option String
  rootPath : String
  filesRelPath : String
  sslEnabled : Bool
  customConfig : Option String

/-- The application a request to the agent is about. -/
structure ApplicationRoot where
  operationId : Option String
  siteDomainId : String
  runtimeKey : String
  rootPath : String
  filesRelPath : String

structure DatabaseIdentity where
  name : String
  type : DatabaseType

/-- The payload of `site:install`, besides the application. -/
structure InstallRequest where
  preset : Preset
  reuseExistingRoot : Bool
  domain : String
  phpVersion : Option String
  modxVersion : Option String
  appPort : Option Nat
  database : Option DatabaseRow
  dbPassword : Option String
  adminPassword : Option String
  systemUser : Option String

/-- The events the services send. -/
inductive AgentCall
  | findDomainUsage (domain : String)
  | setupPhpShim (username homeDir : String) (phpVersion : Option String)
  | writeGlobalZones (domains : List DomainRow)
  | createConfig (site : SiteRow) (domains : List DomainRow)
  | createPool (pool : PoolConfig)
  | removePool (siteDomainId runtimeKey phpVersion : String)
  | snapshotApplication (application : ApplicationRoot) (databases : List DatabaseIdentity)
  | restoreSnapshot (siteDomainId snapshotPath : String)
  | deleteFiles (application : ApplicationRoot)
  | preflightCreateRoot (application : ApplicationRoot) (allowExistingRoot : Bool)
  | detectDatabases (siteDomainId : String)
  | createDatabase (siteDomainId : String) (database : DatabaseIdentity) (dbUser password : String)
  | dropDatabase (database : DatabaseIdentity) (dbUser : String)
  | exportDatabase (database : DatabaseIdentity)
  | importDatabase (siteDomainId : String) (database : DatabaseIdentity) (filePath : String)
  | install (application : ApplicationRoot) (request : InstallRequest)
  | healthCheck (domain : String)
  | issueCertificate (application : ApplicationRoot) (domain : String) (domains : List String)
  | revokeCertificate (domain : String)
  | executeDeploy (log : DeployRow) (application : ApplicationRoot)
  | rollbackDeploy (log : DeployRow) (application : ApplicationRoot) (commitSha : String)
  | restore (backupId restoreId : String)

/-- What the agent answers; each event uses the fields of its own. -/
structure AgentResponse where
  success : Bool
  error : Option String
  hits : Option (List String)
  path : Option String
  available : List DatabaseType
  preferred : Option DatabaseType
  version : Option String
  mutationStarted : Bool
  reachable : Bool
  statusCode : Nat
  certificate : Option IssuedCertificate

/-- An answer without data. -/
def AgentResponse.plain (success : Bool) : AgentResponse :=
  ⟨success, none, none, none, [], none, none, false, false, 0, none⟩

def agentUnavailable : Fault :=
  .error "Agent is not connected. Server operations are unavailable."

/-! ## The world -/

/-- `CreateSiteDomainDto`, with the JSON of `envVars`. -/
structure CreateSiteDomainDto where
  domain : String
  aliases : List SiteAlias
  filesRelPath : String
  preset : Preset
  phpVersion : Option String
  phpPoolCustom : Option String
  gitRepository : Option String
  deployBranch : Option String
  envVars : Option String
  httpsRedirect : Option Bool
  dbType : Option DatabaseType
  dbName : Option String
  dbUser : Option String
  dbPassword : Option String
  cmsAdminUser : Option String
  cmsAdminPassword : Option String
  managerPath : Option String
  connectorsPath : Option String
  cmsTablePrefix : Option String
  modxVersion : Option String
  sslEnabled : Bool
  skipInstall : Bool

/-- A promise nobody awaits: the installation of a new domain. -/
structure ProvisioningJob where
  siteId : String
  domainId : String
  requested : CreateSiteDomainDto
  operationId : String

/-- How the next statement ends. -/
inductive Fate
  | done | refused | lost
deriving DecidableEq

structure World where
  db : Db
  clock : Time
  drawn : Nat
  jobs : List ProvisioningJob
  connected : Bool
  respond : AgentCall → Except Fault AgentResponse
  fate : Fate
  appended : List (String × String)

/-- A world in which nothing has happened yet and the agent grants everything. -/
def World.of (db : Db) : World where
  db := db
  clock := 0
  drawn := 0
  jobs := []
  connected := true
  respond _ := .ok (.plain true)
  fate := .done
  appended := []

inductive Instr
  | operations (i : Operations.Instr)
  | read
  | write (w : Write)
  | createDomain (row : String → DomainRow)
  | draw
  | spawn (job : ProvisioningJob)
  | take
  | connected
  | agent (call : AgentCall)

def Instr.Answer : Instr → Type
  | .operations i => i.Answer
  | .read => Db
  | .write _ => Except Fault Reply
  | .createDomain _ => Except Fault String
  | .draw => Nat
  | .spawn _ => Unit
  | .take => Option ProvisioningJob
  | .connected => Bool
  | .agent _ => Except Fault AgentResponse

def databaseUnavailable : Fault := .error "Can't reach database server"

/-- The world after a statement was performed. -/
def World.after (world : World) (db : Db) : Write → World
  | .appendOutput deployId _ safeOutput =>
    { world with db := db, appended := world.appended ++ [(deployId, safeOutput)] }
  | _ => { world with db := db }

/-- Perform a statement. -/
def World.perform (H : Host) (world : World) (w : Write) : Except Fault Reply × World :=
  match world.fate, world.db.run H w with
  | .refused, _ => (.error databaseUnavailable, world)
  | _, .error fault => (.error fault, world)
  | .done, .ok (db, reply) => (.ok reply, world.after db w)
  | .lost, .ok (db, _) => (.error databaseUnavailable, world.after db w)

/-- `randomUUID`, and at once the transaction of `createDomain` on the row with that id. -/
def World.createDomain (H : Host) (world : World) (row : String → DomainRow) :
    Except Fault String × World :=
  let id := H.uuid world.drawn
  let drawn := { world with drawn := world.drawn + 2 }
  match world.fate, Sites.createDomain H world.db (row id) (H.uuid (world.drawn + 1)) with
  | .refused, _ => (.error databaseUnavailable, drawn)
  | _, .error fault => (.error fault, drawn)
  | .done, .ok db => (.ok id, { drawn with db := db })
  | .lost, .ok db => (.error databaseUnavailable, { drawn with db := db })

/-- Answer an instruction. A handler of the queue is none of these services. -/
def answer (H : Host) : (i : Instr) → World → i.Answer × World
  | .operations .read, world => (world.db.operations, world)
  | .operations (.write w), world => world.perform H (.operations w)
  | .operations .clock, world => (world.clock, world)
  | .operations .flip, world => (false, world)
  | .operations .handler, world => ((true, .threw .cancelled), world)
  | .operations .loseLease, world => ((), world)
  | .read, world => (world.db, world)
  | .write w, world => world.perform H w
  | .createDomain row, world => world.createDomain H row
  | .draw, world => (world.drawn, { world with drawn := world.drawn + 1 })
  | .spawn job, world => ((), { world with jobs := world.jobs ++ [job] })
  | .take, world => (world.jobs.head?, { world with jobs := world.jobs.tail })
  | .connected, world => (world.connected, world)
  | .agent call, world =>
    (if world.connected then world.respond call else .error agentUnavailable, world)

/-- What happens to the world besides the site services. -/
inductive Outside
  | tick (now : Time)
  | connect (connected : Bool)
  | agent (respond : AgentCall → Except Fault AgentResponse)
  | database (fate : Fate)
  | operations (operation : OperationTable) (operationLock : LockTable)

def World.change (world : World) : Outside → World
  | .tick now => { world with clock := now }
  | .connect connected => { world with connected := connected }
  | .agent respond => { world with respond := respond }
  | .database fate => { world with fate := fate }
  | .operations operation operationLock =>
    { world with db := { world.db with operation := operation, operationLock := operationLock } }

/-- **The outcomes of a statement**: nothing happened, or its tables are there. -/
theorem perform_cases (H : Host) (world : World) (w : Write) :
    (world.perform H w).2 = world ∨ ∃ db reply, world.fate ≠ .refused ∧
      world.db.run H w = .ok (db, reply) ∧ (world.perform H w).2 = world.after db w := by
  unfold World.perform
  split
  · exact .inl rfl
  · exact .inl rfl
  · rename_i hfate hrun
    exact .inr ⟨_, _, by simp [hfate], hrun, rfl⟩
  · rename_i hfate hrun
    exact .inr ⟨_, _, by simp [hfate], hrun, rfl⟩

abbrev Program := Prog Instr Instr.Answer

/-- A method that may throw. -/
abbrev Call := ExceptT Fault Program

end Meowbox.Sites
