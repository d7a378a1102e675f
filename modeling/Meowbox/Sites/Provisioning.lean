import Meowbox.Sites.Runtime

/-!
# Installing a new application

`provisionDomainApplication` of `site-domains.service.ts`, and the promise `createDomain` starts with
it and does not await. `createDomain` refuses `skipInstall`, so every application is installed.
`Provisioned` holds what the `catch` block looks at.
-/

namespace Meowbox.Sites

open JsData Operations Backups

/-- `preset === 'MODX_REVO' || preset === 'MODX_3'`. -/
def isModx (preset : Preset) : Bool := preset != .custom

/-- `a || b`. -/
def orElse (a b : Option String) : Option String := (truthy a).orElse fun _ => b

/-- How far an installation came. -/
structure Provisioned where
  application : DomainRow
  database : Option DatabaseRow
  databasePassword : Option String
  createdDatabaseId : Option String
  databaseMutationStarted : Bool
  adminPassword : Option String
  install : Option AgentResponse
  rootMutationStarted : Bool
  poolMutationStarted : Bool

/-- An installation that is about to begin. -/
def Provisioned.begun (application : DomainRow) (database : Option DatabaseRow) : Provisioned :=
  ⟨application, database, none, none, false, none, none, false, false⟩

section Stages

variable (H : Host) (job : ProvisioningJob) (site : SiteRow) (reusesExistingRoot : Bool)

def jobStep (name : String) (progress : Int) : Call Unit := step job.operationId name progress

def preflightRoot (p : Provisioned) : Call Provisioned := do
  jobStep job "preflight-root" 5
  emitGranted (.preflightCreateRoot (applicationRoot site p.application (some job.operationId))
    reusesExistingRoot) (fun error => "Application root preflight failed: " ++ error)
    "unknown agent error"
  return p

/-- The engine of a new database. -/
def selectEngine (preset : Preset) (requested : Option DatabaseType) (detected : AgentResponse) :
    Except Fault DatabaseType :=
  let mysql := fun t : DatabaseType => t == .mariadb || t == .mysql
  let selected := requested.orElse fun _ =>
    if isModx preset then detected.available.find? mysql else detected.preferred
  match selected with
  | none => .error (.error "No compatible database engine is available")
  | some t =>
    if isModx preset && !mysql t then .error (.error "MODX requires MariaDB or MySQL") else .ok t

/-- `${site.name with '-' as '_'}_${suffix}`. -/
def defaultDatabaseName (site : SiteRow) (application : DomainRow) : String :=
  let suffix := application.runtimeKey.toList.drop (application.runtimeKey.length - 8)
  String.ofList (site.name.toList.map fun c => if c == '-' then '_' else c) ++ "_" ++
    String.ofList suffix

/-- The row of the application's database. -/
def createApplicationDatabase (p : Provisioned) : Call Provisioned := do
  let detected ← Query.emitToAgent (.detectDatabases p.application.id)
  ensure detected.success
    (.error ("Database engine detection failed: " ++ detected.error.getD "undefined"))
  let type ← Query.ofExcept (selectEngine p.application.preset job.requested.dbType detected)
  let secret ← draw
  let id ← draw
  let name := String.ofList (((truthy job.requested.dbName).getD
    (defaultDatabaseName site p.application)).toList.take 64)
  let dbUser := String.ofList (((truthy job.requested.dbUser).getD
    (defaultDatabaseName site p.application)).toList.take 32)
  let password := (truthy job.requested.dbPassword).getD (H.secret secret)
  let db ← read
  ensure (db.database.find? fun d => d.name == name && d.type == type).isNone
    (.conflict ("Database " ++ name ++ " already exists") none)
  let row : DatabaseRow := {
    id := H.uuid id
    name := name
    type := type
    dbUser := dbUser
    dbPasswordHash := H.hashPassword password
    dbPasswordEnc := some (H.encrypt password)
    siteId := job.siteId
    siteDomainId := job.domainId
    purpose := .appPrimary }
  execute (.createDatabase row)
  return { p with
    database := some row, databasePassword := some password, createdDatabaseId := some row.id }

def prepareDatabase (p : Provisioned) : Call Provisioned := do
  jobStep job "database" 15
  let wanted := isModx p.application.preset || job.requested.dbType.isSome ||
    job.requested.dbName.isSome
  match p.database with
  | none => if wanted then createApplicationDatabase H job site p else return p
  | some database =>
    match truthy database.dbPasswordEnc with
    | none => return p
    | some sealed =>
      match H.decrypt sealed with
      | none => throw (.error "Database password cannot be decrypted")
      | some password => return { p with databasePassword := some password }

def startDatabase (p : Provisioned) : Call Provisioned :=
  return { p with databaseMutationStarted := p.createdDatabaseId.isSome }

/-- The database itself, when its row is new. -/
def createPhysicalDatabase (p : Provisioned) : Call Provisioned :=
  match p.createdDatabaseId, p.database, p.databasePassword with
  | some _, some database, some password => do
    emitGranted (.createDatabase job.domainId ⟨database.name, database.type⟩ database.dbUser password)
      (fun error => "Database creation failed for " ++ database.name ++ ": " ++ error)
      "unknown agent error"
    return p
  | _, _, _ => return p

/-- The administrator's password: asked for, or else as it is stored. -/
def storedAdminPassword (settings : DomainSettings) : Except Fault (Option String) :=
  match truthy job.requested.cmsAdminPassword, truthy settings.cmsAdminPasswordEnc with
  | some password, _ => .ok (some password)
  | none, none => .ok none
  | none, some sealed =>
    match H.decrypt sealed with
    | none => .error (.error "CMS password cannot be decrypted")
    | some password => .ok (some password)

/-- The CMS columns of a MODX application. -/
def prepareCms (p : Provisioned) : Call Provisioned :=
  if !isModx p.application.preset then return p
  else do
    let secret ← draw
    let settings := p.application.settings
    let stored ← Query.ofExcept (storedAdminPassword H job settings)
    let adminPassword := stored.getD (H.secret secret)
    execute (.setCmsSettings job.domainId {
      cmsAdminUser := orElse job.requested.cmsAdminUser (orElse settings.cmsAdminUser site.systemUser)
      cmsAdminPasswordEnc := H.encrypt adminPassword
      managerPath :=
        (orElse job.requested.managerPath (truthy settings.managerPath)).getD "manager"
      connectorsPath :=
        (orElse job.requested.connectorsPath (truthy settings.connectorsPath)).getD "connectors"
      cmsTablePrefix := (orElse job.requested.cmsTablePrefix (truthy settings.cmsTablePrefix)).getD
        (H.secret secret ++ "_") })
    let db ← read
    match db.siteDomain.find? fun d => d.id == job.domainId with
    | none => throw recordNotFound
    | some application => return { p with
        application := application, adminPassword := some adminPassword }

def install (p : Provisioned) : Call Provisioned := do
  jobStep job "install" 35
  let response ← Query.emitToAgent
    (.install (applicationRoot site p.application (some job.operationId)) {
      preset := p.application.preset
      reuseExistingRoot := reusesExistingRoot
      domain := p.application.domain
      phpVersion := truthy p.application.phpVersion
      modxVersion := orElse job.requested.modxVersion (truthy p.application.settings.modxVersion)
      appPort := p.application.settings.appPort
      database := p.database
      dbPassword := p.databasePassword
      adminPassword := p.adminPassword
      systemUser := site.systemUser })
  return { p with install := some response, rootMutationStarted := response.mutationStarted }

def checkInstall (p : Provisioned) : Call Provisioned :=
  match p.install with
  | none => return p
  | some response => do
    ensure response.success (.error ("Application installation failed: " ++
      response.error.getD "unknown error"))
    match truthy response.version with
    | none => return p
    | some version => do
      execute (.setModxVersion job.domainId version)
      return p

def startPool (p : Provisioned) : Call Provisioned :=
  match truthy p.application.phpVersion with
  | none => return p
  | some _ => do
    jobStep job "php-pool" 55
    return { p with poolMutationStarted := true }

def createApplicationPool (p : Provisioned) : Call Provisioned :=
  match truthy p.application.phpVersion with
  | none => return p
  | some phpVersion => do
    let db ← read
    emitGranted (.createPool (poolConfig site p.application site.systemUser
        (sslEnabled (db.certificateOf job.domainId)) phpVersion))
      (fun error => "PHP pool creation failed: " ++ error) "unknown agent error"
    return p

def serve (p : Provisioned) : Call Provisioned := do
  jobStep job "nginx" 70
  regenerateNginx H job.siteId none
  return p

def healthCheck (p : Provisioned) : Call Provisioned := do
  jobStep job "health-check" 80
  let health ← Query.emitToAgent (.healthCheck p.application.domain)
  ensure (health.success && health.reachable && decide (1 ≤ health.statusCode) &&
      decide (health.statusCode < 500)) (.error ("Application health check failed" ++
        if health.statusCode = 0 then "" else " (HTTP " ++ toString health.statusCode ++ ")"))
  return p

/-- The certificate files and the update they make. -/
def issueCertificate (domains : List String) (p : Provisioned) : Call Unit := do
  let response ← Query.emitToAgent (.issueCertificate
    (applicationRoot site p.application (some job.operationId)) p.application.domain domains)
  match response.success, response.certificate with
  | true, some issued =>
    let now ← clock
    execute (.activateCertificate job.domainId { issued with
      domains := if issued.domains = [] then domains else issued.domains } now)
    regenerateNginx H job.siteId none
  | _, _ => throw (.error (response.error.getD "Certificate files were not returned"))

/-- A certificate that is not issued does not fail the installation. -/
def secure (p : Provisioned) : Call Provisioned :=
  if !job.requested.sslEnabled then return p
  else do
    jobStep job "ssl" 90
    let id ← draw
    let domains := (certificateNames p.application.domain p.application.aliases).dedup
    execute (.requestCertificate (H.uuid id) job.siteId job.domainId domains)
    match ← attempt (issueCertificate H job site domains p) with
    | .ok () => return p
    | .error _ => do
      execute (.resetCertificate job.domainId)
      return p

def finish (p : Provisioned) : Call Provisioned := do
  execute (.setAppStatus job.domainId .running none)
  return p

/-- The `try` block. -/
def provisioningStages : List (Provisioned → Call Provisioned) :=
  [preflightRoot job site reusesExistingRoot, prepareDatabase H job site, startDatabase,
    createPhysicalDatabase job, prepareCms H job site, install job site reusesExistingRoot,
    checkInstall job, startPool job, createApplicationPool job site, serve H job, healthCheck job,
    secure H job site, finish job]

/-! ### The `catch` block -/

def removeNewPool (p : Provisioned) : Call Unit :=
  match p.poolMutationStarted, truthy p.application.phpVersion with
  | true, some phpVersion => ignoring do
    let _ ← Query.emitToAgent (.removePool job.domainId p.application.runtimeKey phpVersion)
  | _, _ => pure ()

def removeNewRoot (p : Provisioned) : Call Unit :=
  if p.rootMutationStarted && !reusesExistingRoot then ignoring do
    let _ ← Query.emitToAgent (.deleteFiles
      (applicationRoot site p.application (some job.operationId)))
  else pure ()

/-- The row goes when nothing was created, or when what was created is gone. -/
def removeNewDatabase (p : Provisioned) : Call Unit :=
  match p.createdDatabaseId, p.database with
  | some id, some database => ignoring do
    if p.databaseMutationStarted then
      emitGranted (.dropDatabase ⟨database.name, database.type⟩ database.dbUser) (fun error => error)
        ""
    execute (.deleteDatabase id)
  | _, _ => pure ()

def compensate (p : Provisioned) : Call Unit := do
  ignoring (jobStep job "compensate" 95)
  removeNewPool job p
  removeNewRoot job site reusesExistingRoot p
  removeNewDatabase p
  ignoring (regenerateNginx H job.siteId none)

/-- The `try` block and its `catch` block. -/
def runProvisioning (begun : Provisioned) : Call Unit := do
  match ← stages (provisioningStages H job site reusesExistingRoot) begun with
  | (none, _) => pure ()
  | (some fault, p) => do
    compensate H job site reusesExistingRoot p
    throw fault

/-- `provisionDomainApplication`. -/
def provisionDomainApplication : Call Unit := do
  ensure (← Query.isAgentConnected) agentOffline
  let db ← read
  match db.siteDomain.find? fun d => d.id == job.domainId && d.siteId == job.siteId,
      readSite db job.siteId with
  | some application, some parts =>
    let reuses ← Query.ofExcept (hasRunningSharedApplicationRoot parts.domains
      application.filesRelPath (some job.domainId))
    Query.ofExcept (assertSharedRootPreset application.preset reuses)
    runProvisioning H job parts.site reuses (Provisioned.begun application
      ((db.databasesOf job.domainId).find? fun d => d.purpose == .appPrimary))
  | _, _ => throw (.notFound "Domain application not found")

/-- What `createDomain` makes of the outcome. -/
def settleProvisioning : Call Unit := do
  match ← attempt (do
      provisionDomainApplication H job
      succeed job.operationId (.object [("siteDomainId", .string job.domainId)])) with
  | .ok () => pure ()
  | .error fault => do
    ignoring (execute (.setAppStatus job.domainId .error
      (some (H.errorMessage fault "Unknown provisioning error"))))
    fail H job.operationId fault

end Stages

/-- An installation that was handed over. -/
def provisioning (H : Host) : Call Unit := do
  match ← takeJob with
  | none => pure ()
  | some job => settleProvisioning H job

end Meowbox.Sites
