import Meowbox.Backups.Manifest
import Meowbox.Operations.System

/-!
# The statements of the site services

Every statement and transaction of `site-domains.service.ts`, `hostname-registry.ts`,
`deploy.service.ts`, of the restore in `backups.service.ts` and of the watchdog in
`scheduler.service.ts` that writes, as a function of the tables. A transaction that throws rolls
back: it is an `Except.error` and leaves no tables. A statement in a transaction meets the unique
indexes as the tables stand then, so a transaction is the sequence of its statements.

Deleting a domain takes its claims, its certificate and its deploy logs along and clears it in the
operations that name it, as the foreign keys say.

* `Db.operations`, `Db.commit`: the tables as `OperationsService` sees them, and its writes on them.
* `Write`, `Db.run`: all statements.
-/

namespace Meowbox.Sites

open Relational JsData Operations Backups

/-! ## The tables -/

inductive RestorePhase
  | awaitingAgent | applyingMetadata | applyingRuntime | rollingBack | rollbackFailed
deriving DecidableEq

/-- `BackupRestoreContext`. -/
structure RestoreContext where
  restoreId : String
  operationId : String
  phase : RestorePhase
  exactMapping : Bool
  manifestChecksum : Option String
  rollbackManifest : Option SiteBackupManifest
  domainTargets : List (String × String)
  databaseTargets : List (String × String)
  startedAt : Time
deriving DecidableEq

/-- A row of `backups`, as operations and restores read it; `full` for a backup of type `FULL` or
`DIFFERENTIAL`, `unavailable` what the checks of its engine, its storage and its base throw. -/
structure RestorePoint where
  id : String
  siteId : String
  status : BackupStatus
  full : Bool
  unavailable : Option Fault
  manifest : Option SiteBackupManifest
  restoreContext : Option RestoreContext
deriving DecidableEq

structure Db where
  operation : OperationTable
  operationLock : LockTable
  backup : Table [RestorePoint.id]
  site : SiteTable
  siteDomain : DomainTable
  hostnameClaim : ClaimTable
  sslCertificate : CertificateTable
  database : DatabaseTable
  deployLog : DeployTable

/-- No rows. -/
def Db.empty : Db :=
  ⟨Table.empty, Table.empty, Table.empty, Table.empty, Table.empty, Table.empty, Table.empty,
    Table.empty, Table.empty⟩

/-! ### The tables of `OperationsService` -/

def RestorePoint.seen (b : RestorePoint) : Backup := ⟨b.id, b.siteId, b.status⟩
def DomainRow.seen (d : DomainRow) : SiteDomain := ⟨d.id, d.appStatus, d.appErrorMessage⟩
def SiteRow.seen (s : SiteRow) : Site := ⟨s.id, s.userId, s.status, s.errorMessage⟩
def DeployRow.seen (l : DeployRow) : DeployLog := ⟨l.operationId, l.status, l.completedAt⟩

/-- The tables as `OperationsService` sees them. -/
def Db.operations (db : Db) : Operations.Db where
  operation := db.operation
  operationLock := db.operationLock
  backup := db.backup.rows.map RestorePoint.seen
  siteDomain := db.siteDomain.rows.map DomainRow.seen
  site := db.site.rows.map SiteRow.seen
  deployLog := db.deployLog.rows.map DeployRow.seen

/-- What a restart writes into a domain, a site and a deploy log. -/
def DomainRow.take (d : DomainRow) (s : SiteDomain) : DomainRow :=
  { d with appStatus := s.appStatus, appErrorMessage := s.appErrorMessage }
def SiteRow.take (r : SiteRow) (s : Site) : SiteRow :=
  { r with status := s.status, errorMessage := s.errorMessage }
def DeployRow.take (l : DeployRow) (s : DeployLog) : DeployRow :=
  { l with status := s.status, completedAt := s.completedAt }

theorem DomainRow.take_keys : ∀ k ∈ DOMAIN_KEYS, ∀ d s, k (DomainRow.take d s) = k d := by
  intro k hk d s
  simp only [List.mem_cons, List.not_mem_nil, or_false] at hk
  rcases hk with rfl | rfl | rfl | rfl | rfl <;> rfl

theorem DeployRow.take_keys : ∀ k ∈ DEPLOY_KEYS, ∀ l s, k (DeployRow.take l s) = k l := by
  intro k hk l s
  simp only [List.mem_cons, List.not_mem_nil, or_false] at hk
  rcases hk with rfl | rfl <;> rfl

theorem SiteRow.take_keys : ∀ k ∈ [SiteRow.id], ∀ r s, k (SiteRow.take r s) = k r := by
  intro k hk r s
  rw [List.mem_singleton.mp hk]
  rfl

/-- The tables after `OperationsService` left `seen`. -/
def Db.absorb (db : Db) (seen : Operations.Db) : Db :=
  { db with
    operation := seen.operation
    operationLock := seen.operationLock
    siteDomain := db.siteDomain.absorb DomainRow.take DomainRow.take_keys seen.siteDomain
    site := db.site.absorb SiteRow.take SiteRow.take_keys seen.site
    deployLog := db.deployLog.absorb DeployRow.take DeployRow.take_keys seen.deployLog }

/-- A write of `OperationsService`. -/
def Db.commit (db : Db) (w : Operations.Write) : Except Fault (Db × Reply) :=
  match db.operations.commit w with
  | .error fault => .error fault
  | .ok committed => .ok (db.absorb committed.db, ⟨committed.count, w.returning db.operations⟩)

/-! ## Statements -/

/-- Prisma's `P2025` and `P2003`. -/
def recordNotFound : Fault := .error "An operation failed because it depends on a record"
def foreignKeyViolation : Fault := .error "Foreign key constraint violated"

/-- Prisma's `P2002`. -/
def unique {α : Type} : Option α → Except Fault α
  | some a => .ok a
  | none => .error .uniqueViolation

/-- `siteDomain.update({ where: { id } })`. -/
def Db.patchDomain (db : Db) (domainId : String) (data : DomainRow → DomainRow) : Except Fault Db :=
  match db.siteDomain.find? fun d => d.id == domainId with
  | none => .error recordNotFound
  | some _ => do
    let siteDomain ← unique (db.siteDomain.modify? (fun d => d.id == domainId) data)
    return { db with siteDomain := siteDomain }

/-! ### The registry of hostnames -/

def hostnameReserved : Fault := .conflict "Hostname is already reserved by another site" none

/-- `createHostnameClaims`, with `rethrowHostnameClaimConflict`. -/
def createHostnameClaims (H : Host) (db : Db) (input : HostnameClaimInput) : Except Fault Db := do
  let claims ← hostnameClaims H input
  match db.hostnameClaim.createMany? claims with
  | some hostnameClaim => return { db with hostnameClaim := hostnameClaim }
  | none => throw hostnameReserved

/-- `replaceHostnameClaims`. -/
def replaceHostnameClaims (H : Host) (db : Db) (input : HostnameClaimInput) : Except Fault Db :=
  createHostnameClaims H { db with
    hostnameClaim := db.hostnameClaim.deleteMany fun c => c.siteDomainId == input.siteDomainId } input

/-- The names of a certificate. -/
def certificateNames (domain : String) (aliases : List SiteAlias) : List String :=
  domain :: aliases.map SiteAlias.domain

theorem certificate_keeps {f : SslCertificate → SslCertificate}
    (h : ∀ c, (f c).id = c.id ∧ (f c).domainId = c.domainId) :
    ∀ k ∈ CERTIFICATE_KEYS, ∀ c, k (f c) = k c := by
  intro k hk c
  obtain ⟨hid, hdom⟩ := h c
  simp only [List.mem_cons, List.not_mem_nil, or_false] at hk
  rcases hk with rfl | rfl
  · simp only [SslCertificate.idKey, hid]
  · simp only [SslCertificate.domainKey, hid, hdom]

/-- `sslCertificate.updateMany`. -/
def Db.updateCertificates (db : Db) (p : SslCertificate → Bool)
    (data : SslCertificate → SslCertificate)
    (h : ∀ c, (data c).id = c.id ∧ (data c).domainId = c.domainId) : Db :=
  { db with sslCertificate := db.sslCertificate.updateMany p data (certificate_keeps h) }

/-! ### Creating and updating a domain -/

/-- The certificate row of a new domain. -/
def newCertificate (certificateId : String) (row : DomainRow) : SslCertificate where
  id := certificateId
  siteId := row.siteId
  domainId := some row.id
  domains := certificateNames row.domain row.aliases
  status := .none
  issuer := ""
  isWildcard := false
  issuedAt := none
  expiresAt := none
  daysRemaining := none
  certPath := none
  keyPath := none

/-- The transaction of `createDomain`. -/
def createDomain (H : Host) (db : Db) (row : DomainRow) (certificateId : String) :
    Except Fault Db := do
  let siteDomain ← unique (db.siteDomain.create? row)
  let db ← createHostnameClaims H { db with siteDomain := siteDomain }
    ⟨row.id, row.domain, row.aliases⟩
  let sslCertificate ← unique (db.sslCertificate.create? (newCertificate certificateId row))
  return { db with sslCertificate := sslCertificate }

/-- The `data` of `updateDomain`: what the request changes. -/
structure DomainChange where
  domain : Option String
  httpsRedirect : Option Bool
  filesRelPath : Option String
  phpVersion : Option (Option String)
  gitRepository : Option (Option String)
  deployBranch : Option String
  envVars : Option String

def DomainChange.apply (data : DomainChange) (d : DomainRow) : DomainRow :=
  { d with
    domain := data.domain.getD d.domain
    httpsRedirect := data.httpsRedirect.getD d.httpsRedirect
    filesRelPath := data.filesRelPath.getD d.filesRelPath
    phpVersion := data.phpVersion.getD d.phpVersion
    gitRepository := data.gitRepository.getD d.gitRepository
    deployBranch := (data.deployBranch.map some).getD d.deployBranch
    envVars := data.envVars.getD d.envVars }

/-- The transaction of `updateDomain`; `target` is the row as it was read. -/
def updateDomain (H : Host) (db : Db) (target : DomainRow) (data : DomainChange) :
    Except Fault Db := do
  let db ← db.patchDomain target.id data.apply
  match data.domain with
  | none => return db
  | some newDomain =>
    let db ← replaceHostnameClaims H db ⟨target.id, newDomain, target.aliases⟩
    return db.updateCertificates (fun c => c.domainId == some target.id && c.status != .none)
      (fun c => { c with
        domains := certificateNames newDomain target.aliases
        status := .none
        certPath := none
        keyPath := none
        issuedAt := none
        expiresAt := none
        daysRemaining := none
        issuer := "" })
      fun _ => ⟨rfl, rfl⟩

/-- `previousData`. -/
def previousData (target d : DomainRow) : DomainRow :=
  { d with
    domain := target.domain
    filesRelPath := target.filesRelPath
    phpVersion := target.phpVersion
    gitRepository := target.gitRepository
    deployBranch := target.deployBranch
    envVars := target.envVars
    httpsRedirect := target.httpsRedirect }

/-- The claims of a domain whose name was changed. -/
def restoreClaims (H : Host) (db : Db) (target : DomainRow) (domainChanged : Bool) :
    Except Fault Db :=
  if domainChanged then replaceHostnameClaims H db ⟨target.id, target.domain, target.aliases⟩
  else .ok db

/-- The transaction of the rollback of `updateDomain`. -/
def rollbackDomain (H : Host) (db : Db) (target : DomainRow) (domainChanged : Bool)
    (previousCertificate : Option SslCertificate) : Except Fault Db := do
  let db ← db.patchDomain target.id (previousData target)
  let db ← restoreClaims H db target domainChanged
  match previousCertificate with
  | none => return db
  | some previous =>
    return db.updateCertificates (fun c => c.domainId == some target.id)
      (fun c => { previous with id := c.id, siteId := c.siteId, domainId := c.domainId })
      fun _ => ⟨rfl, rfl⟩

/-- The transactions of `updateAliases`: `domain` is the name as it was read. -/
def updateAliases (H : Host) (db : Db) (domainId domain : String) (aliases : List SiteAlias) :
    Except Fault Db := do
  let db ← db.patchDomain domainId fun d => { d with aliases := aliases }
  replaceHostnameClaims H db ⟨domainId, domain, aliases⟩

/-! ### The order of the domains -/

structure DomainPlace where
  id : String
  isPrimary : Bool
  position : Int
deriving DecidableEq

/-- `setDomainOrdering`: first out of the way, then into place. -/
def setDomainOrdering (db : Db) (ordering : List DomainPlace) : Except Fault Db := do
  let db ← ordering.zipIdx.foldlM (fun db (domain : DomainPlace × Nat) =>
    db.patchDomain domain.1.id fun d => { d with
      isPrimary := false, position := -((ordering.length + domain.2 + 1 : Nat) : Int) }) db
  ordering.foldlM (fun db domain =>
    db.patchDomain domain.id fun d => { d with
      isPrimary := domain.isPrimary, position := domain.position }) db

/-- `orderBy: [{ isPrimary: 'desc' }, { position: 'asc' }]`. -/
def primaryFirst (a b : DomainRow) : Bool :=
  if a.isPrimary == b.isPrimary then decide (a.position ≤ b.position) else a.isPrimary

/-- The renumbering of the domains that remain. -/
def renumber (db : Db) (remaining : List String) : Except Fault Db := do
  let db ← remaining.zipIdx.foldlM (fun db (domain : String × Nat) =>
    db.patchDomain domain.1 fun d => { d with
      position := -((remaining.length + domain.2 + 1 : Nat) : Int) }) db
  remaining.zipIdx.foldlM (fun db (domain : String × Nat) =>
    db.patchDomain domain.1 fun d => { d with position := (domain.2 : Int) }) db

/-! ### Deleting a domain -/

/-- `siteDomain.delete`, with what the foreign keys take along. -/
def Db.removeDomain (db : Db) (domainId : String) : Except Fault Db :=
  match db.siteDomain.find? fun d => d.id == domainId with
  | none => .error recordNotFound
  | some _ =>
    if (db.database.find? fun d => d.siteDomainId == domainId).isSome then
      .error foreignKeyViolation
    else .ok { db with
      siteDomain := db.siteDomain.deleteMany fun d => d.id == domainId
      hostnameClaim := db.hostnameClaim.deleteMany fun c => c.siteDomainId == domainId
      sslCertificate := db.sslCertificate.deleteMany fun c => c.domainId == some domainId
      deployLog := db.deployLog.deleteMany fun l => l.siteDomainId == domainId
      operation := db.operation.updateMany (fun o => o.siteDomainId == some domainId)
        (fun o => { o with siteDomainId := none }) (keepsKeys fun _ => ⟨rfl, rfl⟩) }

/-- The databases of a domain that goes: dropped, or given to another domain. -/
def releaseDatabases (db : Db) (domainId preservedDatabaseTargetId : String)
    (deleteOwnedDatabases : Bool) : Except Fault Db :=
  if deleteOwnedDatabases then
    .ok { db with database := db.database.deleteMany fun d => d.siteDomainId == domainId }
  else if (db.database.find? fun d => d.siteDomainId == domainId).isSome &&
      (db.siteDomain.find? fun d => d.id == preservedDatabaseTargetId).isNone then
    .error foreignKeyViolation
  else do
    let database ← unique (db.database.modify? (fun d => d.siteDomainId == domainId) fun d =>
      { d with siteDomainId := preservedDatabaseTargetId, purpose := .auxiliary })
    return { db with database := database }

/-- `commitDomainDeletionMetadata`. -/
def commitDomainDeletionMetadata (db : Db) (siteId domainId preservedDatabaseTargetId : String)
    (deleteOwnedDatabases : Bool) (operationId result : String) (now : Time) : Except Fault Db := do
  let db ← releaseDatabases db domainId preservedDatabaseTargetId deleteOwnedDatabases
  let db ← db.removeDomain domainId
  let remaining := (db.siteDomain.findMany fun d => d.siteId == siteId).insertionSort fun a b =>
    primaryFirst a b = true
  let db ← renumber db (remaining.map DomainRow.id)
  let running := fun o : Operation => o.id == operationId && o.status == .running
  if db.operation.count running ≠ 1 then
    throw (.conflict "Deletion operation is not running" none)
  else
    return { db with
      operation := db.operation.updateMany running (fun o => { o with
          status := .succeeded, currentStep := none, progress := 100, result := some result,
          errorMessage := none, completedAt := some now }) (keepsKeys fun _ => ⟨rfl, rfl⟩)
      operationLock := db.operationLock.deleteMany fun l => l.operationId == operationId }

/-! ### The status of an application -/

/-- `siteDomain.update({ where: { id }, data: { appStatus, appErrorMessage } })`. -/
def setAppStatus (db : Db) (domainId : String) (appStatus : AppStatus)
    (appErrorMessage : Option String) : Except Fault Db :=
  db.patchDomain domainId fun d => { d with
    appStatus := appStatus, appErrorMessage := appErrorMessage }

/-- `siteDomain.updateMany` on a domain whose status is one of `expected`, if any are given. -/
def claimAppStatus (db : Db) (domainId : String) (expected : List AppStatus)
    (appStatus : AppStatus) (appErrorMessage : Option String) : Db × Nat :=
  let selected := fun d : DomainRow => d.id == domainId &&
    (expected.isEmpty || expected.contains d.appStatus)
  ({ db with
      siteDomain := db.siteDomain.updateMany selected
        (fun d => d.take ⟨d.id, appStatus, appErrorMessage⟩)
        fun k hk d => DomainRow.take_keys k hk d _ },
    db.siteDomain.count selected)

/-! ### Deploys -/

theorem deploy_keeps {f : DeployRow → DeployRow}
    (h : ∀ l, (f l).id = l.id ∧ (f l).operationId = l.operationId) :
    ∀ k ∈ DEPLOY_KEYS, ∀ l, k (f l) = k l := by
  intro k hk l
  obtain ⟨hid, hop⟩ := h l
  simp only [List.mem_cons, List.not_mem_nil, or_false] at hk
  rcases hk with rfl | rfl
  · simp only [DeployRow.idKey, hid]
  · simp only [DeployRow.operationKey, hid, hop]

/-- `deployLog.updateMany`. -/
def Db.updateDeploys (db : Db) (p : DeployRow → Bool) (data : DeployRow → DeployRow)
    (h : ∀ l, (data l).id = l.id ∧ (data l).operationId = l.operationId) : Db :=
  { db with deployLog := db.deployLog.updateMany p data (deploy_keeps h) }

/-- The transaction of `triggerDeploy` and `rollbackDeploy`. -/
def claimDeploy (db : Db) (log : DeployRow) : Except Fault Db := do
  let selected := db.siteDomain.find? fun d => d.id == log.siteDomainId && d.siteId == log.siteId &&
    (d.appStatus == .running || d.appStatus == .error)
  match selected with
  | none => throw (.badRequest "Domain application is busy")
  | some d =>
    let db := (claimAppStatus db d.id [] .deploying none).1
    let deployLog ← unique (db.deployLog.create? log)
    return { db with deployLog := deployLog }

def MAX_DEPLOY_OUTPUT_LENGTH : Nat := 1000000

/-- `${current.output}${safeOutput}`.slice(-MAX_DEPLOY_OUTPUT_LENGTH). -/
def nextOutput (current safeOutput : String) : String :=
  String.ofList (keepLast MAX_DEPLOY_OUTPUT_LENGTH (current.toList ++ safeOutput.toList))

/-- The update of `appendOutput`; `current` is the output as it was read. -/
def appendOutput (db : Db) (deployId current safeOutput : String) : Except Fault Db :=
  match db.deployLog.find? fun l => l.id == deployId with
  | none => .error recordNotFound
  | some _ => .ok (db.updateDeploys (fun l => l.id == deployId)
      (fun l => { l with output := nextOutput current safeOutput, status := .inProgress })
      fun _ => ⟨rfl, rfl⟩)

/-- What the agent reports of a deploy; `message` is what `safeErrorMessage` made of it. -/
structure DeployOutcome where
  success : Bool
  commitSha : Option String
  commitMessage : Option String
  message : String

/-- `JSON.stringify({ deployId, commitSha: commitSha || null })`. -/
def deployResult (deployId : String) (commitSha : Option String) : Option String :=
  stringify (.object [("deployId", .string deployId),
    ("commitSha", (truthy commitSha).elim .null .string)])

/-- The operation of a completed deploy. -/
def completedOperation (deployId : String) (outcome : DeployOutcome) (now : Time) (o : Operation) :
    Operation :=
  { o with
    status := if outcome.success then .succeeded else .failed
    currentStep := none
    progress := if outcome.success then 100 else o.progress
    result := if outcome.success then deployResult deployId outcome.commitSha else none
    errorMessage := if outcome.success then none else some outcome.message
    completedAt := some now }

/-- The log and the domain of a completed deploy. -/
def completeLog (db : Db) (log : DeployRow) (outcome : DeployOutcome) (now : Time) :
    Except Fault Db :=
  setAppStatus (db.updateDeploys (fun l => l.id == log.id)
      (fun l => { l with
        status := if outcome.success then .success else .failed
        commitSha := outcome.commitSha.orElse fun _ => l.commitSha
        commitMessage := outcome.commitMessage.orElse fun _ => l.commitMessage
        completedAt := some now
        durationMs := some ((now : Int) - log.startedAt) }) fun _ => ⟨rfl, rfl⟩)
    log.siteDomainId (if outcome.success then .running else .error)
    (if outcome.success then none else some outcome.message)

/-- The transaction of `completeDeploy`; `none` when it returns `null` and changes nothing. -/
def completeDeploy (db : Db) (deployId : String) (outcome : DeployOutcome) (now : Time) :
    Except Fault (Option Db) :=
  match db.deployLog.find? fun l => l.id == deployId with
  | none => .ok none
  | some log =>
    match truthy log.operationId with
    | none => (completeLog db log outcome now).map some
    | some operationId =>
      let selected := fun o : Operation => o.id == operationId &&
        (o.status == .pending || o.status == .running)
      if db.operation.count selected ≠ 1 then .ok none
      else (completeLog { db with
          operation := db.operation.updateMany selected
            (completedOperation deployId outcome now) (keepsKeys fun _ => ⟨rfl, rfl⟩)
          operationLock := db.operationLock.deleteMany fun l => l.operationId == operationId }
        log outcome now).map some

/-- The update behind a failed trigger. -/
def failDeploys (db : Db) (operationId output : String) (now : Time) : Db :=
  db.updateDeploys (fun l => l.operationId == some operationId)
    (fun l => { l with status := .failed, output := output, completedAt := some now })
    fun _ => ⟨rfl, rfl⟩

/-- `WATCHDOG_DEPLOY_TIMEOUT_MS`. -/
def WATCHDOG_DEPLOY_TIMEOUT_MS : Nat := 60 * 60 * 1000

/-- The read of the watchdog: `stuckDeploys`. -/
def stuckDeploys (db : Db) (now : Time) : List (String × String) :=
  (db.deployLog.findMany fun l => (l.status == .pending || l.status == .inProgress) &&
    decide (l.createdAt + WATCHDOG_DEPLOY_TIMEOUT_MS < now)).map fun l => (l.id, l.siteId)

/-- The update of the watchdog: the logs are matched by id alone. -/
def failStuckDeploys (db : Db) (ids : List String) (now : Time) : Db :=
  db.updateDeploys (fun l => ids.contains l.id)
    (fun l => { l with status := .failed, completedAt := some now }) fun _ => ⟨rfl, rfl⟩

/-- The update of the watchdog on the site of a stuck deploy. -/
def failStuckSite (db : Db) (siteId : String) : Db :=
  { db with
    site := db.site.updateMany (fun s => s.id == siteId && s.status == .deploying)
      (fun s => { s with status := .error }) fun k hk _ => by rw [List.mem_singleton.mp hk] }

end Meowbox.Sites
