import Meowbox.Sites.Statements

/-!
# Restoring the metadata of a site

`planExactRestore` and `applyManifestMapping` of `api/src/backups/backups.service.ts`: the plan pairs
the domains and databases of a manifest with those of the site, and the transaction gives each its
row back. The manifest of the site as it stands, `rollbackManifest`, is planned along.

* `applyManifestMapping`: the transaction.
-/

namespace Meowbox.Backups

open Operations Sites Failing

/-! ## The transaction -/

/-- `new Map(targets)` with every target mapped to itself, looked up. -/
def targetOf (targets : List (String × String)) (sourceId : String) : Option String :=
  if (targets.map Prod.snd).contains sourceId then some sourceId
  else (targets.reverse.find? fun t => t.1 == sourceId).map Prod.snd

/-- The status a site is restored with. -/
def restoredSiteStatus : SiteStatus → SiteStatus
  | .stopped => .stopped
  | .error => .error
  | _ => .running

def restoredAppStatus : AppStatus → AppStatus
  | .error => .error
  | _ => .running

/-- The site of a manifest, as it is restored. -/
def ManifestSite.restore (m : ManifestSite) (s : SiteRow) : SiteRow :=
  { s with
    displayName := m.displayName
    status := restoredSiteStatus m.status
    errorMessage := if m.status = .error then m.errorMessage else none
    backupExcludes := m.backupExcludes
    backupExcludeTables := m.backupExcludeTables
    metadata := m.metadata }

/-- A domain of a manifest, as it is restored. -/
def ManifestDomain.restore (m : ManifestDomain) (d : DomainRow) : DomainRow where
  id := d.id
  siteId := d.siteId
  domain := m.domain
  isPrimary := m.isPrimary
  position := m.position
  aliases := m.aliases
  filesRelPath := m.filesRelPath
  preset := m.preset
  appStatus := restoredAppStatus m.appStatus
  appErrorMessage := if m.appStatus = .error then m.appErrorMessage else none
  phpVersion := m.phpVersion
  runtimeKey := m.runtimeKey
  gitRepository := m.gitRepository
  deployBranch := m.deployBranch
  envVars := m.envVars
  httpsRedirect := m.httpsRedirect
  settings := m.settings

/-- The first characters of a digest behind an `r`. -/
def temporaryName (H : Host) (text : String) (length : Nat) : String :=
  "r" ++ String.ofList ((H.sha256 text).toList.take length)

/-- A domain out of the way of the others. -/
def outOfTheWay (H : Host) (restoreId targetId : String) (index : Nat) (d : DomainRow) : DomainRow :=
  { d with
    domain := temporaryName H ("hostname:" ++ restoreId ++ ":" ++ targetId) 30 ++ ".invalid"
    isPrimary := false
    position := -((index + 1 : Nat) : Int)
    runtimeKey := temporaryName H (restoreId ++ ":" ++ targetId) 31 }

/-- `database.update({ where: { id } })`. -/
def updateDatabase (db : Sites.Db) (databaseId : String) (data : DatabaseRow → DatabaseRow) :
    Except Fault Sites.Db :=
  match db.database.find? fun d => d.id == databaseId with
  | none => .error recordNotFound
  | some _ => do
    let database ← unique (db.database.modify? (fun d => d.id == databaseId) data)
    return { db with database := database }

/-- The statements of the transaction for one domain. -/
def restoreDomain (H : Host) (siteId targetId : String) (db : Sites.Db) (domain : ManifestDomain) :
    Except Fault Sites.Db := do
  let db ← db.patchDomain targetId domain.restore
  let db ← createHostnameClaims H db ⟨targetId, domain.domain, domain.aliases⟩
  return db.updateCertificates (fun c => c.siteId == siteId && c.domainId == some targetId)
    (fun c => { c with domains := certificateNames domain.domain domain.aliases })
    fun _ => ⟨rfl, rfl⟩

/-- A domain of a manifest with the row it is restored into. -/
def domainPairs (context : RestoreContext) (m : SiteBackupManifest) :
    List (ManifestDomain × String) :=
  m.domains.filterMap fun domain => (targetOf context.domainTargets domain.sourceId).map fun t =>
    (domain, t)

/-- A database of a manifest with the row and the domain it is restored into. -/
def databasePairs (context : RestoreContext) (m : SiteBackupManifest) :
    List (ManifestDatabase × String) :=
  m.databases.filterMap fun database =>
    (targetOf context.databaseTargets database.sourceId).map fun t => (database, t)

/-- The rows the targets name are those of the site, as many as the manifest has. -/
def topologyKept (db : Sites.Db) (siteId : String) (m : SiteBackupManifest)
    (context : RestoreContext) : Bool :=
  let targetDomainIds := context.domainTargets.map Prod.snd
  let targetDatabaseIds := context.databaseTargets.map Prod.snd
  db.siteDomain.count (fun d => d.siteId == siteId && targetDomainIds.contains d.id) ==
      m.domains.length &&
    db.database.count (fun d => d.siteId == siteId && targetDatabaseIds.contains d.id) ==
      m.databases.length

/-- The first statements of the transaction: the claims of the targets go, the site is restored. -/
def restoreSite (db : Sites.Db) (siteId : String) (m : SiteBackupManifest)
    (context : RestoreContext) : Except Fault Sites.Db :=
  match db.site.find? fun s => s.id == siteId with
  | none => .error recordNotFound
  | some _ => .ok { db with
      hostnameClaim := db.hostnameClaim.deleteMany fun c =>
        (context.domainTargets.map Prod.snd).contains c.siteDomainId
      site := db.site.updateMany (fun s => s.id == siteId) m.site.restore
        fun k hk _ => by rw [List.mem_singleton.mp hk]; rfl }

/-- The domains: out of the way of each other, then restored one by one. -/
def restoreDomains (H : Host) (db : Sites.Db) (siteId restoreId : String)
    (domains : List (ManifestDomain × String)) : Except Fault Sites.Db := do
  let db ← domains.zipIdx.foldlM (fun db (p : (ManifestDomain × String) × Nat) =>
    db.patchDomain p.1.2 (outOfTheWay H restoreId p.1.2 p.2)) db
  domains.foldlM (fun db p => restoreDomain H siteId p.2 db p.1) db

/-- A database is given its domain and its purpose. -/
def restoreDatabase (context : RestoreContext) (db : Sites.Db) (p : ManifestDatabase × String) :
    Except Fault Sites.Db :=
  match targetOf context.domainTargets p.1.sourceSiteDomainId with
  | none => .error (.error "Restore database has no domain target")
  | some targetDomainId => updateDatabase db p.2 fun d =>
      { d with siteDomainId := targetDomainId, purpose := p.1.purpose }

def restoreDatabases (db : Sites.Db) (context : RestoreContext)
    (databases : List (ManifestDatabase × String)) : Except Fault Sites.Db := do
  let db ← databases.foldlM (fun db p =>
    updateDatabase db p.2 fun d => { d with purpose := .auxiliary }) db
  databases.foldlM (restoreDatabase context) db

/-- `applyManifestMapping`. -/
def applyManifestMapping (H : Host) (db : Sites.Db) (siteId : String) (m : SiteBackupManifest)
    (context : RestoreContext) : Except Fault Sites.Db :=
  let domains := domainPairs context m
  let databases := databasePairs context m
  if domains.length ≠ m.domains.length ∨ databases.length ≠ m.databases.length then
    .error (.error "Restore target mapping is incomplete")
  else if topologyKept db siteId m context = false then
    .error (.error "Restore topology changed while content was restoring")
  else do
    let db ← restoreSite db siteId m context
    let db ← restoreDomains H db siteId context.restoreId domains
    restoreDatabases db context databases

/-! ## The plan -/

/-- A site with its domains and databases, as one query reads it. -/
structure SiteWithParts where
  site : SiteRow
  domains : List DomainRow
  databases : List DatabaseRow

/-- `site.findUnique({ where: { id }, include: { domains, databases } })`; the domains by position. -/
def readSite (db : Sites.Db) (siteId : String) : Option SiteWithParts :=
  (db.site.find? fun s => s.id == siteId).map fun site => {
    site := site
    domains := (db.siteDomain.findMany fun d => d.siteId == siteId).insertionSort fun a b =>
      a.position ≤ b.position
    databases := db.database.findMany fun d => d.siteId == siteId }

def DomainRow.toManifest (d : DomainRow) : ManifestDomain where
  sourceId := d.id
  domain := d.domain
  isPrimary := d.isPrimary
  position := d.position
  aliases := d.aliases
  filesRelPath := d.filesRelPath
  preset := d.preset
  appStatus := d.appStatus
  appErrorMessage := d.appErrorMessage
  phpVersion := d.phpVersion
  runtimeKey := d.runtimeKey
  gitRepository := d.gitRepository
  deployBranch := d.deployBranch
  envVars := d.envVars
  httpsRedirect := d.httpsRedirect
  settings := d.settings

def DatabaseRow.toManifest (d : DatabaseRow) : ManifestDatabase :=
  ⟨d.id, d.siteDomainId, d.name, d.type, d.dbUser, d.dbPasswordHash, d.dbPasswordEnc, d.purpose⟩

def SiteRow.toManifest (s : SiteRow) : ManifestSite :=
  ⟨s.id, s.name, s.displayName, s.status, s.errorMessage, s.rootPath, s.backupExcludes,
    s.backupExcludeTables, s.metadata⟩

/-- `buildSiteBackupManifest` for all databases. -/
def buildSiteBackupManifest (H : Host) (M : ManifestHost) (site : SiteWithParts) :
    Except Fault SiteBackupManifest :=
  normalizeSiteBackupManifest H M {
    site := SiteRow.toManifest site.site
    domains := site.domains.map DomainRow.toManifest
    databases := site.databases.map DatabaseRow.toManifest
    includedDatabaseIds := site.databases.map DatabaseRow.id }

/-- `ExactRestorePlan`. -/
structure ExactRestorePlan where
  rollbackManifest : SiteBackupManifest
  domainTargets : List (String × String)
  databaseTargets : List (String × String)

/-- Each source takes a target that is not used yet. -/
def pairTargets {α : Type} (sourceId : α → String) (target : α → Option String) (missing : α → Fault)
    (check : α → String → Option Fault) :
    List String → List α → Except Fault (List (String × String))
  | _, [] => .ok []
  | used, source :: rest =>
    match target source with
    | none => .error (missing source)
    | some t =>
      if used.contains t then .error (missing source)
      else
        match check source t with
        | some fault => .error fault
        | none => (pairTargets sourceId target missing check (t :: used) rest).map fun pairs =>
            (sourceId source, t) :: pairs

/-- The domain a source is restored into: the one with its id, or else with its name. -/
def domainTarget (H : Host) (site : SiteWithParts) (source : ManifestDomain) : Option String :=
  ((site.domains.find? fun d => d.id == source.sourceId).orElse fun _ =>
    site.domains.reverse.find? fun d => H.toLowerCase d.domain == source.domain).map DomainRow.id

def domainMissing (source : ManifestDomain) : Fault :=
  .badRequest ("Domain mapping cannot be restored for \"" ++ source.domain ++ "\"")

def databaseTarget (site : SiteWithParts) (source : ManifestDatabase) : Option String :=
  ((site.databases.find? fun d => d.id == source.sourceId).orElse fun _ =>
    site.databases.find? fun d => d.type == source.type && d.name == source.name).map
      DatabaseRow.id

def databaseMissing (source : ManifestDatabase) : Fault :=
  .badRequest ("Database mapping cannot be restored for \"" ++ source.name ++ "\"")

/-- The database a source is restored into has its name and its type. -/
def databaseChanged (site : SiteWithParts) (source : ManifestDatabase) (targetId : String) :
    Option Fault :=
  match site.databases.find? fun d => d.id == targetId with
  | none => none
  | some d =>
    if d.name = source.name ∧ d.type = source.type then none
    else some (.badRequest ("Database identity changed for \"" ++ source.name ++ "\""))

/-- What another domain holds of a source: a hostname, its runtime key or its port. -/
def ownedElsewhere (H : Host) (allDomains : List DomainRow) (source : ManifestDomain)
    (targetId : String) : Option Fault :=
  let others := allDomains.filter fun d => d.id != targetId
  let hostname := source.hostnames.find? fun hostname => others.any fun d =>
    H.toLowerCase d.domain == H.toLowerCase hostname ||
      d.aliases.any fun a => H.toLowerCase a.domain == H.toLowerCase hostname
  match hostname, others.any fun d => d.runtimeKey == source.runtimeKey, source.settings.appPort with
  | some hostname, _, _ =>
    some (.badRequest ("Hostname \"" ++ hostname ++ "\" is owned by another application"))
  | none, true, _ =>
    some (.badRequest ("runtimeKey \"" ++ source.runtimeKey ++ "\" is already in use"))
  | none, false, some port =>
    if others.any fun d => d.settings.appPort == some port then
      some (.badRequest ("Application port " ++ toString port ++ " is already in use"))
    else none
  | none, false, none => none

/-- The checks of a manifest against the site. -/
def checkTopology (site : SiteWithParts) (m : SiteBackupManifest) : Except Fault Unit := do
  refuse (m.site.sourceId != "legacy-site" && m.site.sourceId != site.site.id)
    (.badRequest "Backup manifest belongs to another Site")
  refuse (m.site.name != site.site.name || m.site.rootPath != site.site.rootPath)
    (.badRequest "Exact restore requires the original Site name and rootPath")
  refuse (m.domains.length != site.domains.length || m.databases.length != site.databases.length)
    (.badRequest "Exact restore requires unchanged domain and database topology")

/-- What another domain holds of a source that is mapped. -/
def checkOwners (H : Host) (m : SiteBackupManifest) (domainTargets : List (String × String))
    (allDomains : List DomainRow) : Except Fault Unit :=
  match m.domains.findSome? fun source => (targetOf domainTargets source.sourceId).bind
      (ownedElsewhere H allDomains source) with
  | some fault => .error fault
  | none => .ok ()

/-- `planExactRestore`, from the site as it was read and all domains as they stand. -/
def planExactRestore (H : Host) (M : ManifestHost) (site : SiteWithParts) (m : SiteBackupManifest)
    (allDomains : List DomainRow) : Except Fault ExactRestorePlan := do
  checkTopology site m
  let domainTargets ← pairTargets ManifestDomain.sourceId (domainTarget H site) domainMissing
    (fun _ _ => none) [] m.domains
  checkOwners H m domainTargets allDomains
  let databaseTargets ← pairTargets ManifestDatabase.sourceId (databaseTarget site)
    databaseMissing (databaseChanged site) [] m.databases
  let rollbackManifest ← buildSiteBackupManifest H M site
  return ⟨rollbackManifest, domainTargets, databaseTargets⟩

end Meowbox.Backups
