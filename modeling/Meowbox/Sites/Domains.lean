import Meowbox.Sites.Provisioning

/-!
# The handlers of the domains

`createDomain`, `updateDomain`, `deleteDomain`, `makePrimary` and `updateAliases` of
`site-domains.service.ts`. A handler reads the site and makes its checks, begins its operation, and
only then holds the lock of the site; everything it writes it computed from the rows it read first.
The stages of a `try` block leave the flags its `catch` block looks at.

A request has passed `validateEnvVars`; its `envVars` are the JSON that is stored.
-/

namespace Meowbox.Sites

open JsData Operations Backups Failing

/-! ## Replies -/

structure DomainReply where
  operationId : Option String
  operationStatus : Option OperationStatus
  result : Option String
  domains : List DomainRow

/-- The reply to a request that was made before. -/
def replayedReply (operation : OperationTicket) : DomainReply :=
  ⟨some operation.id, some operation.status, operation.result, []⟩

/-- The reply when the work is done. -/
def settledReply (siteId : String) (caller : Caller) (operationId : String)
    (status : OperationStatus) : Call DomainReply := do
  let domains ← listDomains siteId caller
  return ⟨some operationId, some status, none, domains⟩

def optional (s : Option String) : JsValue := s.elim .undefined .string
def nullable (s : Option String) : JsValue := s.elim .null .string

/-- `['PROVISIONING', 'DEPLOYING', 'UPDATING'].includes(appStatus)`. -/
def busy (appStatus : AppStatus) : Bool :=
  appStatus == .provisioning || appStatus == .deploying || appStatus == .updating

/-- The column's text. -/
def appStatusText : AppStatus → String
  | .provisioning => "PROVISIONING"
  | .running => "RUNNING"
  | .deploying => "DEPLOYING"
  | .updating => "UPDATING"
  | .error => "ERROR"

def siteDomainResult (id : String) : JsValue := .object [("siteDomainId", .string id)]

/-- `syncPrimaryPhpCliShim`, `regenerateGlobalZones` and `regenerateNginx`. -/
def applyRuntime (H : Host) (siteId : String) : Query Unit := do
  syncPrimaryPhpCliShim siteId
  regenerateGlobalZones H none
  regenerateNginx H siteId none

/-- The configuration as the tables say, at the end of a rollback. -/
def restoreRouting (H : Host) (siteId nginx : String) : Call (List String) := do
  let zones ← collect H "Nginx zones" "restore failed" (regenerateGlobalZones H none)
  let configuration ← collect H nginx "restore failed" (regenerateNginx H siteId none)
  return zones ++ configuration

/-! ## `createDomain` -/

/-- What `createDomain` makes of a request. -/
structure PreparedDomain where
  domain : String
  aliases : List SiteAlias
  filesRelPath : String
  phpVersion : Option String

def prepareDomain (H : Host) (site : SiteWithParts) (dto : CreateSiteDomainDto) :
    Except Fault PreparedDomain := do
  let domain ← canonicalHostname H dto.domain
  let aliases ← normalizeAliases H dto.aliases
  let filesRelPath ← applicationPath dto.filesRelPath
  let reusesExistingRoot ← hasRunningSharedApplicationRoot site.domains filesRelPath none
  assertSharedRootPreset dto.preset reusesExistingRoot
  refuse (isModx dto.preset && dto.dbType == some .postgresql)
    (.badRequest "MODX requires MariaDB or MySQL")
  return {
    domain := domain
    aliases := aliases
    filesRelPath := filesRelPath
    phpVersion := if isModx dto.preset then some ((truthy dto.phpVersion).getD "8.2")
      else truthy dto.phpVersion }

/-- The request as it is hashed. -/
def createRequest (dto : CreateSiteDomainDto) (p : PreparedDomain) : JsValue :=
  .object [("domain", .string p.domain),
    ("aliases", .array (p.aliases.map fun a => .string a.domain)),
    ("filesRelPath", .string p.filesRelPath),
    ("phpVersion", optional dto.phpVersion), ("gitRepository", optional dto.gitRepository),
    ("deployBranch", optional dto.deployBranch), ("envVars", optional dto.envVars),
    ("dbName", optional dto.dbName), ("dbUser", optional dto.dbUser),
    ("sslEnabled", .boolean dto.sslEnabled)]

/-- `runtimeKeyForDomain`. -/
def runtimeKeyForDomain (H : Host) (domainId : String) : String :=
  "d" ++ String.ofList ((H.sha256 domainId).toList.take 20)

/-- A text field of a request: `s?.trim() || null`. -/
def trimmed (s : Option String) : Option String := truthy (s.map trim)

/-- The last position that is taken. -/
def maxPosition (domains : List DomainRow) : Int := domains.foldl (fun m d => max m d.position) 0

/-- The row of the new domain. -/
def newDomain (H : Host) (site : SiteWithParts) (dto : CreateSiteDomainDto) (p : PreparedDomain)
    (tablePrefix id : String) : DomainRow where
  id := id
  siteId := site.site.id
  domain := p.domain
  isPrimary := false
  position := maxPosition site.domains + 1
  aliases := distinctAliases [] p.aliases
  filesRelPath := p.filesRelPath
  preset := dto.preset
  appStatus := .provisioning
  appErrorMessage := none
  phpVersion := p.phpVersion
  runtimeKey := runtimeKeyForDomain H id
  gitRepository := trimmed dto.gitRepository
  deployBranch := some ((trimmed dto.deployBranch).getD "main")
  envVars := dto.envVars.getD "\x7b\x7d"
  httpsRedirect := dto.httpsRedirect != some false
  settings := {
    phpPoolCustom := trimmed dto.phpPoolCustom
    cmsAdminUser := if isModx dto.preset then orElse (trimmed dto.cmsAdminUser) site.site.systemUser
      else none
    cmsAdminPasswordEnc := none
    managerPath := if isModx dto.preset then some ((trimmed dto.managerPath).getD "manager")
      else none
    connectorsPath :=
      if isModx dto.preset then some ((trimmed dto.connectorsPath).getD "connectors") else none
    cmsTablePrefix :=
      if isModx dto.preset then some ((truthy dto.cmsTablePrefix).getD tablePrefix) else none
    modxVersion := if isModx dto.preset then truthy dto.modxVersion else none
    appPort := none
    nginxClientMaxBodySize := none
    nginxFastcgiReadTimeout := none
    nginxFastcgiSendTimeout := none
    nginxFastcgiConnectTimeout := none
    nginxFastcgiBufferSizeKb := none
    nginxFastcgiBufferCount := none
    nginxHttp2 := true
    nginxHsts := false
    nginxGzip := true
    nginxRateLimitEnabled := true
    nginxRateLimitRps := none
    nginxRateLimitBurst := none
    nginxCustomConfig := some (H.initialCustomConfigFor dto.preset) }

section CreateDomain

variable (H : Host) (siteId : String) (dto : CreateSiteDomainDto) (caller : Caller)

/-- The inner `try` block: the routes of the new domain. -/
def configureRouting (id : String) : Call Unit := do
  match ← attempt (applyRuntime H siteId) with
  | .ok () => pure ()
  | .error fault => do
    execute (.setAppStatus id .error (some (H.errorMessage fault "Operation failed")))
    throw fault

/-- The outer `try` block. -/
def reserveDomain (site : SiteWithParts) (p : PreparedDomain) (operationId : String) :
    Call DomainReply := do
  let hostnames := p.domain :: p.aliases.map SiteAlias.domain
  assertDomainFree H p.domain none none
  p.aliases.forM fun a => assertDomainFree H a.domain none (some p.domain)
  ensureDomainFreeInNginx H hostnames []
  let secret ← draw
  let id ← insertDomain (newDomain H site dto p (H.secret secret ++ "_"))
  attachScope operationId ⟨siteId, some id⟩
  step operationId "configure-routing" 15
  configureRouting H siteId id
  spawn ⟨siteId, id, dto, operationId⟩
  settledReply siteId caller operationId .running

/-- `createDomain` behind `begin`. -/
def runCreateDomain (site : SiteWithParts) (p : PreparedDomain) (operationId : String) :
    Call DomainReply := do
  start operationId "reserve"
  match ← attempt (reserveDomain H siteId dto caller site p operationId) with
  | .ok reply => return reply
  | .error fault => do
    fail H operationId fault
    throw fault

/-- `createDomain` on what was read. -/
def createDomainOn (db : Db) : Call DomainReply := do
  let site ← Query.ofExcept (requireSiteWithDomains db siteId caller)
  let p ← Query.ofExcept (prepareDomain H site dto)
  let operation ← begin H caller (inlineInput caller "DOMAIN_CREATE" siteId none
    (some HOSTNAME_REGISTRY_LOCK) none (createRequest dto p))
  if operation.replayed then return replayedReply operation
  else runCreateDomain H siteId dto caller site p operation.id

def SiteDomainsService.createDomain : Call DomainReply := do
  ensure (!dto.skipInstall) (.forbidden "skipInstall is unavailable for public domain creation")
  createDomainOn H siteId dto caller (← read)

end CreateDomain

/-! ## `updateDomain` -/

/-- `UpdateSiteDomainDto`: a field is left out, cleared or set. -/
structure UpdateSiteDomainDto where
  domain : Option String
  httpsRedirect : Option Bool
  filesRelPath : Option String
  phpVersion : Option (Option String)
  gitRepository : Option (Option String)
  deployBranch : Option (Option String)
  envVars : Option String

/-- What `updateDomain` makes of a request. -/
structure PreparedUpdate where
  data : DomainChange
  newDomain : String
  nextPhpVersion : Option String
  nextFilesRelPath : String
  phpConfigChanged : Bool

/-- The hostname changes. -/
def PreparedUpdate.domainChanged (p : PreparedUpdate) : Bool := p.data.domain.isSome

/-- The new hostname, when it is a new one. -/
def changedDomain (H : Host) (target : DomainRow) (domain : Option String) :
    Except Fault (Option String) :=
  match domain with
  | none => .ok none
  | some value => do
    let hostname ← canonicalHostname H value
    return if hostname = target.domain then none else some hostname

def prepareUpdate (H : Host) (target : DomainRow) (dto : UpdateSiteDomainDto) :
    Except Fault PreparedUpdate := do
  let domain ← changedDomain H target dto.domain
  let filesRelPath ← dto.filesRelPath.mapM applicationPath
  refuse (dto.phpVersion == some none && isModx target.preset)
    (.badRequest "PHP cannot be disabled for MODX")
  let nextPhpVersion := dto.phpVersion.getD target.phpVersion
  let nextFilesRelPath := filesRelPath.getD target.filesRelPath
  return {
    data := {
      domain := domain
      httpsRedirect := dto.httpsRedirect
      filesRelPath := filesRelPath
      phpVersion := dto.phpVersion
      gitRepository := dto.gitRepository.map trimmed
      deployBranch := dto.deployBranch.map fun branch => (trimmed branch).getD "main"
      envVars := dto.envVars }
    newDomain := domain.getD target.domain
    nextPhpVersion := nextPhpVersion
    nextFilesRelPath := nextFilesRelPath
    phpConfigChanged := nextPhpVersion != target.phpVersion ||
      nextFilesRelPath != target.filesRelPath }

/-- The request as it is hashed. -/
def updateRequest (dto : UpdateSiteDomainDto) (p : PreparedUpdate) : JsValue :=
  .object [("domain", .string p.newDomain), ("filesRelPath", .string p.nextFilesRelPath),
    ("phpVersion", nullable p.nextPhpVersion),
    ("httpsRedirect", dto.httpsRedirect.elim .undefined .boolean),
    ("gitRepository", dto.gitRepository.elim .undefined nullable),
    ("deployBranch", dto.deployBranch.elim .undefined nullable),
    ("envVars", optional dto.envVars)]

/-- The flags of the `try` block. -/
structure UpdateProgress where
  newPoolApplied : Bool
  metadataApplied : Bool
  certificateReset : Bool

section UpdateDomain

variable (H : Host) (siteId : String) (site : SiteWithParts) (target : DomainRow)
  (certificate : Option SslCertificate) (p : PreparedUpdate) (operationId : String)

def validateHostname (progress : UpdateProgress) : Call UpdateProgress :=
  if !p.domainChanged then return progress
  else do
    assertDomainFree H p.newDomain (some target.id) none
    ensureDomainFreeInNginx H [p.newDomain] (ownFiles [target.domain, site.site.name])
    step operationId "apply-runtime" 10
    return progress

def applyPool (progress : UpdateProgress) : Call UpdateProgress :=
  match p.phpConfigChanged, truthy p.nextPhpVersion with
  | true, some phpVersion => do
    emitGranted (.createPool (poolConfig site.site
        { target with domain := p.newDomain, filesRelPath := p.nextFilesRelPath }
        site.site.systemUser (sslEnabled certificate) phpVersion))
      (fun error => "Failed to create PHP pool: " ++ H.safeErrorMessage error "unknown agent error" 800)
      "unknown agent error"
    return { progress with newPoolApplied := true }
  | _, _ => return progress

def commitUpdate (progress : UpdateProgress) : Call UpdateProgress := do
  execute (.updateDomain target p.data)
  return { progress with
    metadataApplied := true, certificateReset := p.domainChanged && certificate.isSome }

def applyUpdate (progress : UpdateProgress) : Call UpdateProgress := do
  applyRuntime H siteId
  return progress

/-- The `try` block. -/
def updateStages : List (UpdateProgress → Call UpdateProgress) :=
  [validateHostname H site target p operationId, applyPool H site target certificate p,
    commitUpdate target certificate p, applyUpdate H siteId]

/-- The pool as it was. -/
def restoreOldPool : Call (List String) :=
  match truthy target.phpVersion with
  | none => return []
  | some phpVersion => collect H "PHP pool" "restore failed" (emitGranted
      (.createPool (poolConfig site.site target site.site.systemUser (sslEnabled certificate)
        phpVersion)) (fun error => error) "restore failed")

/-- The new pool goes, unless it is the old one. -/
def cleanUpNewPool : Call (List String) :=
  match truthy p.nextPhpVersion with
  | none => return []
  | some phpVersion =>
    if some phpVersion = target.phpVersion then return []
    else collect H "new PHP pool cleanup" "cleanup failed" (emitGranted
      (.removePool target.id target.runtimeKey phpVersion) (fun error => error) "cleanup failed")

def restorePools (progress : UpdateProgress) : Call (List String) :=
  if !progress.newPoolApplied then return []
  else do
    let old ← restoreOldPool H site target certificate
    let new ← cleanUpNewPool H target p
    return old ++ new

def restoreMetadata (progress : UpdateProgress) : Call (List String) :=
  if !progress.metadataApplied then return []
  else collect H "metadata" "restore failed" (execute (.rollbackDomain target p.domainChanged
    (if progress.certificateReset then certificate else none)))

/-- `restoreRouting`, where something was applied. -/
def restoreRoutingIf (applied : Bool) (nginx : String) : Call (List String) :=
  if applied then restoreRouting H siteId nginx else return []

/-- The `catch` block, up to the fault it throws. -/
def rollbackUpdate (progress : UpdateProgress) : Call (List String) := do
  let metadata ← restoreMetadata H target certificate p progress
  let pools ← restorePools H site target certificate p progress
  let routing ← restoreRoutingIf H siteId progress.metadataApplied "Nginx"
  return metadata ++ pools ++ routing

/-- `if (agent.isAgentConnected()) await agent.emit(…).catch(…)`. -/
def removePoolIfConnected (phpVersion : String) : Call Unit := do
  if ← Query.isAgentConnected then ignoring do
    let _ ← Query.emitToAgent (.removePool target.id target.runtimeKey phpVersion)

/-- The pool of the PHP version that is left behind. -/
def removeOldPool : Call Unit :=
  match p.data.phpVersion, truthy target.phpVersion with
  | some next, some old =>
    if next = some old then pure () else removePoolIfConnected target old
  | _, _ => pure ()

/-- `updateDomain` behind `begin`. -/
def runUpdateDomain (caller : Caller) : Call DomainReply := do
  start operationId (if p.domainChanged then "validate-hostname" else "apply-runtime")
  match ← stages (updateStages H siteId site target certificate p operationId)
      ⟨false, false, false⟩ with
  | (some fault, progress) => do
    let rollbackErrors ← rollbackUpdate H siteId site target certificate p progress
    failAndThrow H operationId (rolledBack H fault "Domain update failed" rollbackErrors)
  | (none, _) => do
    removeOldPool target p
    succeed operationId (siteDomainResult target.id)
    settledReply siteId caller operationId .succeeded

end UpdateDomain

/-- `updateDomain` on what was read. -/
def updateDomainOn (H : Host) (siteId domainId : String) (dto : UpdateSiteDomainDto)
    (caller : Caller) (db : Db) : Call DomainReply := do
  let site ← Query.ofExcept (requireSiteWithDomains db siteId caller)
  let target ← Query.ofExcept (requireDomain site domainId)
  ensure (!busy target.appStatus) (.conflict ("Application is busy (" ++
    appStatusText target.appStatus ++ "); retry after it finishes") none)
  let p ← Query.ofExcept (prepareUpdate H target dto)
  ensure (← Query.isAgentConnected) (.conflict "Agent is offline; domain update is unavailable" none)
  let operation ← begin H caller (inlineInput caller "DOMAIN_UPDATE" siteId (some domainId)
    (if p.domainChanged then some HOSTNAME_REGISTRY_LOCK else none) none (updateRequest dto p))
  if operation.replayed then return replayedReply operation
  else runUpdateDomain H siteId site target (db.certificateOf target.id) p operation.id caller

def SiteDomainsService.updateDomain (H : Host) (siteId domainId : String)
    (dto : UpdateSiteDomainDto) (caller : Caller) : Call DomainReply := do
  updateDomainOn H siteId domainId dto caller (← read)

/-! ## `makePrimary` -/

/-- The order with `target` in front. -/
def nextOrdering (domains : List DomainRow) (target : DomainRow) : List DomainPlace :=
  let rest := (domains.filter fun d => d.id != target.id).insertionSort fun a b =>
    a.position ≤ b.position
  (target :: rest).mapIdx fun position d => ⟨d.id, position == 0, (position : Int)⟩

/-- The order as it is. -/
def previousOrdering (domains : List DomainRow) : List DomainPlace :=
  domains.map fun d => ⟨d.id, d.isPrimary, d.position⟩

section MakePrimary

variable (H : Host) (siteId : String) (site : SiteWithParts) (target : DomainRow)
  (operationId : String) (caller : Caller)

/-- `metadataApplied` is the flag of the `try` block. -/
def commitOrdering (_metadataApplied : Bool) : Call Bool := do
  execute (.setDomainOrdering (nextOrdering site.domains target))
  return true

def applyOrdering (metadataApplied : Bool) : Call Bool := do
  step operationId "regenerate-runtime" 65
  applyRuntime H siteId
  succeed operationId (.object [("primarySiteDomainId", .string target.id)])
  return metadataApplied

/-- The `catch` block, up to the fault it throws. -/
def rollbackOrdering (metadataApplied : Bool) : Call (List String) :=
  if !metadataApplied then return []
  else do
    let metadata ← collect H "metadata" "restore failed"
      (execute (.setDomainOrdering (previousOrdering site.domains)))
    let shim ← collect H "PHP CLI" "restore failed" (syncPrimaryPhpCliShim siteId)
    let routing ← restoreRouting H siteId "Nginx"
    return metadata ++ shim ++ routing

/-- `makePrimary` behind `begin`: the reply is made inside the `try` block. -/
def runMakePrimary : Call DomainReply := do
  start operationId "commit-metadata"
  match ← stages [commitOrdering site target, applyOrdering H siteId target operationId] false with
  | (some fault, metadataApplied) => do
    let rollbackErrors ← rollbackOrdering H siteId site metadataApplied
    failAndThrow H operationId (rolledBack H fault "Primary domain update failed" rollbackErrors)
  | (none, metadataApplied) =>
    match ← attempt (settledReply siteId caller operationId .succeeded) with
    | .ok reply => return reply
    | .error fault => do
      let rollbackErrors ← rollbackOrdering H siteId site metadataApplied
      failAndThrow H operationId (rolledBack H fault "Primary domain update failed" rollbackErrors)

end MakePrimary

/-- `makePrimary` on what was read. -/
def makePrimaryOn (H : Host) (siteId domainId : String) (caller : Caller) (db : Db) :
    Call DomainReply := do
  let site ← Query.ofExcept (requireSiteWithDomains db siteId caller)
  let target ← Query.ofExcept (requireDomain site domainId)
  if target.isPrimary then
    let domains ← listDomains siteId caller
    return ⟨none, none, none, domains⟩
  else
    ensure (← Query.isAgentConnected)
      (.conflict "Agent is offline; primary domain update is unavailable" none)
    let operation ← begin H caller (inlineInput caller "DOMAIN_MAKE_PRIMARY" siteId (some domainId)
      none none (.object [("domainId", .string domainId)]))
    if operation.replayed then return replayedReply operation
    else runMakePrimary H siteId site target operation.id caller

def SiteDomainsService.makePrimary (H : Host) (siteId domainId : String) (caller : Caller) :
    Call DomainReply := do
  makePrimaryOn H siteId domainId caller (← read)

/-! ## `updateAliases` -/

section UpdateAliases

variable (H : Host) (siteId : String) (site : SiteWithParts) (target : DomainRow)
  (aliases : List SiteAlias) (operationId : String) (caller : Caller)

/-- The hostnames nginx may not know yet: the aliases that are new. -/
def newAliasDomains : List String :=
  (aliases.map SiteAlias.domain).filter fun domain =>
    !(target.aliases.map fun a => H.toLowerCase a.domain).contains domain

/-- Nginx is asked when there are new names. -/
def ensureAddedFree (added : List String) : Query Unit :=
  if added = [] then pure ()
  else ensureDomainFreeInNginx H added (ownFiles [target.domain, site.site.name])

def commitAliases (_metadataApplied : Bool) : Call Bool := do
  aliases.forM fun a => assertDomainFree H a.domain (some target.id) (some target.domain)
  ensureAddedFree H site target (newAliasDomains H target aliases)
  step operationId "commit-metadata" 45
  execute (.updateAliases target.id target.domain (distinctAliases [] aliases))
  return true

def applyAliases (metadataApplied : Bool) : Call Bool := do
  step operationId "regenerate-runtime" 70
  applyRuntime H siteId
  succeed operationId (siteDomainResult target.id)
  return metadataApplied

/-- The `catch` block, up to the fault it throws. -/
def rollbackAliases (metadataApplied : Bool) : Call (List String) :=
  if !metadataApplied then return []
  else do
    let metadata ← collect H "metadata" "restore failed"
      (execute (.updateAliases target.id target.domain target.aliases))
    let routing ← restoreRouting H siteId "Nginx"
    return metadata ++ routing

/-- `updateAliases` behind `begin`: the reply is made inside the `try` block. -/
def runUpdateAliases : Call DomainReply := do
  start operationId "validate-hostnames"
  match ← stages [commitAliases H site target aliases operationId,
      applyAliases H siteId target operationId] false with
  | (some fault, metadataApplied) => do
    let rollbackErrors ← rollbackAliases H siteId target metadataApplied
    failAndThrow H operationId (rolledBack H fault "Alias update failed" rollbackErrors)
  | (none, metadataApplied) =>
    match ← attempt (settledReply siteId caller operationId .succeeded) with
    | .ok reply => return reply
    | .error fault => do
      let rollbackErrors ← rollbackAliases H siteId target metadataApplied
      failAndThrow H operationId (rolledBack H fault "Alias update failed" rollbackErrors)

end UpdateAliases

/-- The request as it is hashed. -/
def aliasesRequest (aliases : List SiteAlias) : JsValue :=
  .object [("aliases", .array (aliases.map fun a =>
    .object [("domain", .string a.domain), ("redirect", .boolean a.redirect)]))]

/-- `updateAliases` on what was read. -/
def updateAliasesOn (H : Host) (siteId domainId : String) (requested : List SiteAlias)
    (caller : Caller) (db : Db) : Call DomainReply := do
  let site ← Query.ofExcept (requireSiteWithDomains db siteId caller)
  let target ← Query.ofExcept (requireDomain site domainId)
  ensure (← Query.isAgentConnected)
    (.conflict "Agent is offline; domain alias update is unavailable" none)
  let aliases ← Query.ofExcept (normalizeAliases H requested)
  let operation ← begin H caller (inlineInput caller "DOMAIN_ALIASES_UPDATE" siteId (some domainId)
    (some HOSTNAME_REGISTRY_LOCK) none (aliasesRequest aliases))
  if operation.replayed then return replayedReply operation
  else runUpdateAliases H siteId site target aliases operation.id caller

def SiteDomainsService.updateAliases (H : Host) (siteId domainId : String)
    (requested : List SiteAlias) (caller : Caller) : Call DomainReply := do
  updateAliasesOn H siteId domainId requested caller (← read)

/-! ## `deleteDomain` -/

/-- `DeleteSiteDomainDto`. -/
structure DeleteSiteDomainDto where
  confirmDomain : String
  deleteApplicationFiles : Bool
  deleteOwnedDatabases : Bool

/-- How far a deletion came. -/
structure Removal where
  routeRemoved : Bool
  poolRemoved : Bool
  filesTrashed : Bool
  metadataCommitted : Bool
  applicationSnapshotPath : Option String
  droppedDatabaseIds : List String
  databaseSnapshots : List (String × String)

/-- Another domain has the files of `target`. -/
def sharesFiles (domains : List DomainRow) (target : DomainRow) : Except Fault Bool := do
  let targetPath ← applicationPath target.filesRelPath
  domains.anyM fun d => do
    if d.id = target.id then return false
    else return (← applicationPath d.filesRelPath) == targetPath

/-- The checks of a request on the rows as they were read. -/
def checkDeletion (H : Host) (db : Db) (site : SiteWithParts) (target : DomainRow)
    (dto : DeleteSiteDomainDto) : Except Fault Unit := do
  refuse (decide (site.domains.length ≤ 1)) (.conflict
    "Нельзя удалить единственный домен сайта. Сначала добавьте другой домен." none)
  refuse target.isPrimary (.conflict ("Нельзя удалить главный домен. Сначала назначьте главным " ++
    "другой домен (make-primary).") none)
  let confirmed ← canonicalHostname H dto.confirmDomain
  refuse (confirmed != target.domain) (.badRequest "Domain confirmation does not match")
  refuse (busy target.appStatus) (.conflict ("Application is busy (" ++
    appStatusText target.appStatus ++ "); it cannot be deleted") none)
  refuse ((db.backup.find? fun b => b.siteId == site.site.id &&
      (b.status == .pending || b.status == .inProgress)).isSome)
    (.conflict "Application cannot be deleted while a Site backup is active" none)

/-- The checks of what is to be deleted along. -/
def checkDeletionScope (db : Db) (site : SiteWithParts) (target : DomainRow)
    (dto : DeleteSiteDomainDto) : Except Fault Unit := do
  let shared ← if dto.deleteApplicationFiles then sharesFiles site.domains target else .ok false
  refuse shared (.conflict
    "Application files are shared with another domain and cannot be deleted" none)
  refuse (dto.deleteOwnedDatabases &&
      (db.databasesOf target.id).any fun d => (truthy d.dbPasswordEnc).isNone)
    (.conflict ("Owned databases cannot be deleted safely until every database password " ++
      "is reset") none)

section DeleteDomain

variable (H : Host) (siteId : String) (site : SiteWithParts) (target : DomainRow)
  (databases : List DatabaseRow) (certificate : Option SslCertificate) (dto : DeleteSiteDomainDto)
  (operationId : String)

def removeRoute (r : Removal) : Call Removal := do
  regenerateNginx H siteId (some target.id)
  return { r with routeRemoved := true }

def removeZone (r : Removal) : Call Removal := do
  regenerateGlobalZones H (some target.id)
  step operationId "snapshot" 20
  return r

def snapshotApplication (r : Removal) : Call Removal := do
  let response ← Query.emitToAgent (.snapshotApplication
    (applicationRoot site.site target (some operationId))
    (databases.map fun d => ⟨d.name, d.type⟩))
  match response.success, truthy response.path with
  | true, some path => return { r with applicationSnapshotPath := some path }
  | _, _ => throw (.error ("Application snapshot failed: " ++
      response.error.getD "no snapshot produced"))

def exportDatabase (d : DatabaseRow) (r : Removal) : Call Removal := do
  let response ← Query.emitToAgent (.exportDatabase ⟨d.name, d.type⟩)
  match response.success, truthy response.path with
  | true, some path => return { r with databaseSnapshots := r.databaseSnapshots ++ [(d.id, path)] }
  | _, _ => throw (.error ("Database snapshot failed for " ++ d.name ++ ": " ++
      response.error.getD "no dump produced"))

def removeRuntime (r : Removal) : Call Removal := do
  step operationId "remove-runtime" 45
  match truthy target.phpVersion with
  | none => return r
  | some phpVersion => do
    emitGranted (.removePool target.id target.runtimeKey phpVersion)
      (fun error => "PHP pool removal failed: " ++ error) "undefined"
    return { r with poolRemoved := true }

def dropDatabase (d : DatabaseRow) (r : Removal) : Call Removal := do
  emitGranted (.dropDatabase ⟨d.name, d.type⟩ d.dbUser)
    (fun error => "Database deletion failed for " ++ d.name ++ ": " ++ error) "undefined"
  return { r with droppedDatabaseIds := r.droppedDatabaseIds ++ [d.id] }

def deleteFiles (r : Removal) : Call Removal := do
  emitGranted (.deleteFiles (applicationRoot site.site target (some operationId)))
    (fun error => "Application file deletion failed: " ++ error) "undefined"
  return { r with filesTrashed := true }

/-- The result of the operation. -/
def deletionResult (preservedDatabaseTargetId : String) : JsValue :=
  .object [("deletedDomainId", .string target.id), ("domain", .string target.domain),
    ("preservedDatabaseCount",
      .number (.ofInt (if dto.deleteOwnedDatabases then 0 else databases.length))),
    ("preservedDatabaseTargetId",
      if dto.deleteOwnedDatabases then .null else .string preservedDatabaseTargetId)]

def commitDeletion (r : Removal) : Call Removal := do
  step operationId "commit-metadata" 80
  match site.domains.find? fun d => d.isPrimary with
  | none => throw (.conflict "Site has no primary domain" none)
  | some preserved => do
    let now ← clock
    execute (.commitDomainDeletionMetadata siteId target.id preserved.id dto.deleteOwnedDatabases
      operationId ((stringify (deletionResult target databases dto preserved.id)).getD "") now)
    return { r with metadataCommitted := true }

/-- A certificate that cannot be revoked is only logged. -/
def revokeCertificate (r : Removal) : Call Removal :=
  if certificate.any fun c => c.status != .none then do
    ignoring do
      let _ ← Query.emitToAgent (.revokeCertificate target.domain)
    return r
  else return r

/-- The `try` block. -/
def removalStages : List (Removal → Call Removal) :=
  let content := if dto.deleteApplicationFiles then
      [snapshotApplication site target databases operationId]
    else if dto.deleteOwnedDatabases then databases.map exportDatabase
    else []
  let drops := if dto.deleteOwnedDatabases then databases.map dropDatabase else []
  let files := if dto.deleteApplicationFiles then [deleteFiles site target operationId] else []
  [removeRoute H siteId target, removeZone H target operationId] ++ content ++
    [removeRuntime target operationId] ++ drops ++ files ++
      [commitDeletion siteId site target databases dto operationId,
        revokeCertificate target certificate]

/-! ### The `catch` block -/

def recreateDatabase (d : DatabaseRow) : Call (List String) :=
  match d.dbPasswordEnc.bind H.decrypt with
  | none => return ["database " ++ d.name ++ " credentials: decrypt failed"]
  | some password => collect H ("database " ++ d.name ++ " create") "restore failed" (emitGranted
      (.createDatabase target.id ⟨d.name, d.type⟩ d.dbUser password) (fun error => error)
      "restore failed")

def importDatabase (r : Removal) (d : DatabaseRow) : Call (List String) :=
  match r.databaseSnapshots.find? fun s => s.1 == d.id with
  | none => return ["database " ++ d.name ++ ": rollback dump is missing"]
  | some s => collect H ("database " ++ d.name ++ " import") "import failed" (emitGranted
      (.importDatabase target.id ⟨d.name, d.type⟩ s.2) (fun error => error) "restore failed")

/-- `for (…) { … }` with the messages of all turns. -/
def collectEach {α : Type} (f : α → Call (List String)) : List α → Call (List String)
  | [] => return []
  | a :: rest => do
    let errors ← f a
    let others ← collectEach f rest
    return errors ++ others

def restoreContent (r : Removal) : Call (List String) :=
  let dropped := databases.filter fun d => r.droppedDatabaseIds.contains d.id
  match r.applicationSnapshotPath, r.filesTrashed || !r.droppedDatabaseIds.isEmpty with
  | some path, true => collect H "application snapshot" "restore failed" (emitGranted
      (.restoreSnapshot target.id path) (fun error => error) "restore failed")
  | _, _ => collectEach (importDatabase H target r) dropped

def restorePool (r : Removal) : Call (List String) :=
  match r.poolRemoved, truthy target.phpVersion with
  | true, some phpVersion => collect H "PHP pool" "restore failed" (emitGranted
      (.createPool (poolConfig site.site target site.site.systemUser (sslEnabled certificate)
        phpVersion)) (fun error => error) "restore failed")
  | _, _ => return []

/-- The status the domain had. -/
def restoreStatus : Call (List String) :=
  collect H "metadata status" "restore failed"
    (execute (.claimAppStatus target.id [] target.appStatus target.appErrorMessage))

/-- The `catch` block before the commit, up to its end. -/
def rollbackDeletion (r : Removal) : Call (List String) := do
  let recreated ← collectEach (recreateDatabase H target)
    (databases.filter fun d => r.droppedDatabaseIds.contains d.id)
  let content ← restoreContent H target databases r
  let pool ← restorePool H site target certificate r
  let status ← restoreStatus H target
  let routing ← restoreRoutingIf H siteId r.routeRemoved "Nginx route"
  return recreated ++ content ++ pool ++ status ++ routing

/-- The end of the `catch` block. -/
def settleDeletion {α : Type} (fault : Fault) (rollbackErrors : List String) : Call α :=
  if rollbackErrors = [] then failAndThrow H operationId fault
  else do
    let failure := rolledBack H fault "Domain deletion failed" rollbackErrors
    ignoring (fail H operationId failure)
    ignoring (execute (.claimAppStatus target.id [] .error
      (some (H.errorMessage failure (H.errorMessage fault "Domain deletion failed")))))
    throw failure

/-- `deleteDomain` behind `begin`. -/
def runDeleteDomain (caller : Caller) : Call DomainReply := do
  start operationId "quiesce-routing"
  execute (.setAppStatus target.id .updating none)
  match ← stages (removalStages H siteId site target databases certificate dto operationId)
      ⟨false, false, false, false, none, [], []⟩ with
  | (some fault, r) =>
    if r.metadataCommitted then throw fault
    else do
      let rollbackErrors ← rollbackDeletion H siteId site target databases certificate r
      settleDeletion H target operationId fault rollbackErrors
  | (none, _) => settledReply siteId caller operationId .succeeded

end DeleteDomain

/-- The request as it is hashed. -/
def deletionRequest (target : DomainRow) (dto : DeleteSiteDomainDto) : JsValue :=
  .object [("confirmDomain", .string target.domain),
    ("deleteApplicationFiles", .boolean dto.deleteApplicationFiles),
    ("deleteOwnedDatabases", .boolean dto.deleteOwnedDatabases)]

/-- `deleteDomain` on what was read. -/
def deleteDomainOn (H : Host) (siteId domainId : String) (dto : DeleteSiteDomainDto)
    (caller : Caller) (db : Db) : Call DomainReply := do
  let site ← Query.ofExcept (requireSiteWithDomains db siteId caller)
  let target ← Query.ofExcept (requireDomain site domainId)
  let seen ← read
  Query.ofExcept (checkDeletion H seen site target dto)
  ensure (← Query.isAgentConnected)
    (.conflict "Agent is offline; application deletion is unavailable" none)
  Query.ofExcept (checkDeletionScope db site target dto)
  let operation ← begin H caller (inlineInput caller "DOMAIN_APPLICATION_DELETE" siteId
    (some domainId) (some HOSTNAME_REGISTRY_LOCK) none (deletionRequest target dto))
  if operation.replayed then return replayedReply operation
  else
    runDeleteDomain H siteId site target (db.databasesOf target.id) (db.certificateOf target.id) dto
      operation.id caller

def SiteDomainsService.deleteDomain (H : Host) (siteId domainId : String)
    (dto : DeleteSiteDomainDto) (caller : Caller) : Call DomainReply := do
  deleteDomainOn H siteId domainId dto caller (← read)

end Meowbox.Sites
