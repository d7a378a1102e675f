import Meowbox.Sites.Runtime

/-!
# Restoring a backup

`restoreBackup` and `completeRestore` of `api/src/backups/backups.service.ts`. The handler plans the
restore from the rows it read, stores the plan with the backup and lets the agent restore the
content; the agent's completion event, which may arrive any number of times and at any time, finds
the stored plan and applies it.
-/

namespace Meowbox.Backups

open JsData Sites
open Operations (Fault Time OperationTicket OperationStatus)

/-! ## `restoreBackup` -/

inductive RestoreScope
  | filesAndDb | filesOnly | dbOnly
deriving DecidableEq

def RestoreScope.text : RestoreScope → String
  | .filesAndDb => "FILES_AND_DB"
  | .filesOnly => "FILES_ONLY"
  | .dbOnly => "DB_ONLY"

/-- A request, its paths normalised. -/
structure RestoreRequest where
  cleanup : Bool
  scope : RestoreScope
  includePaths : List String
  databaseIds : Option (List String)

structure RestoreReply where
  success : Bool
  error : Option String
  operationId : Option String

/-- `exactMapping`. -/
def isExactMapping (backup : RestorePoint) (manifest : Option SiteBackupManifest)
    (request : RestoreRequest) : Bool :=
  backup.full && request.scope == .filesAndDb && request.includePaths.isEmpty &&
    request.databaseIds.isNone &&
      manifest.any fun m => m.includedDatabaseIds.length == m.databases.length

/-- The request as it is hashed. -/
def restoreRequestJson (backupId : String) (request : RestoreRequest) (exactMapping : Bool) :
    JsValue :=
  .object [("backupId", .string backupId), ("cleanup", .boolean request.cleanup),
    ("scope", .string request.scope.text),
    ("includePaths", .array (request.includePaths.map .string)),
    ("databaseIds", request.databaseIds.elim .null fun ids => .array (ids.map .string)),
    ("exactMapping", .boolean exactMapping)]

def RESTORE_SAFETY_WINDOW_MS : Nat := 7 * 60 * 60 * 1000

section RestoreBackup

variable (H : Host) (M : ManifestHost) (backup : RestorePoint) (site : SiteWithParts)
  (manifest : Option SiteBackupManifest) (request : RestoreRequest) (operationId : String)

/-- `assertRestoreSlotAvailable`. -/
def assertRestoreSlotAvailable : Call Unit :=
  match backup.restoreContext with
  | none => pure ()
  | some context => do
    let db ← read
    let active := (db.operation.find? fun o => o.id == context.operationId).any fun o =>
      o.status == .pending || o.status == .running
    Sites.ensure (!active && context.phase != .rollbackFailed)
      (.badRequest "This backup already has an active or unresolved restore")
    let now ← clock
    Sites.ensure (decide (context.startedAt + RESTORE_SAFETY_WINDOW_MS ≤ now))
      (.badRequest "Interrupted restore is still inside its safety window")
    execute (.setRestoreContext backup.id none)

/-- `exactPlan`. -/
def exactPlan (exactMapping : Bool) (allDomains : List DomainRow) :
    Except Fault (Option ExactRestorePlan) :=
  match exactMapping, manifest with
  | true, some m => (planExactRestore H M site m allDomains).map some
  | _, _ => .ok none

/-- A selection of databases must not be empty. -/
def checkSelection : Except Fault Unit :=
  match request.scope, request.databaseIds with
  | .dbOnly, some ids =>
    if (site.databases.filter fun d => ids.contains d.id) = [] then
      .error (.badRequest ("Не выбрано ни одной БД для восстановления " ++
        "(DB_ONLY с пустым databaseIds)"))
    else .ok ()
  | _, _ => .ok ()

/-- The context of a restore that begins. -/
def newContext (exactMapping : Bool) (plan : Option ExactRestorePlan) (restoreId : String)
    (now : Time) : RestoreContext where
  restoreId := restoreId
  operationId := operationId
  phase := .awaitingAgent
  exactMapping := exactMapping
  manifestChecksum := manifest.map M.manifestChecksum
  rollbackManifest := plan.map ExactRestorePlan.rollbackManifest
  domainTargets := (plan.map ExactRestorePlan.domainTargets).getD []
  databaseTargets := (plan.map ExactRestorePlan.databaseTargets).getD []
  startedAt := now

/-- The `try` block up to the stored context; from then on there is a restore. -/
def storeContext (exactMapping : Bool) (_restoreId : Option String) : Call (Option String) := do
  let db ← read
  let plan ← Query.ofExcept (exactPlan H M site manifest exactMapping db.siteDomain.rows)
  Query.ofExcept (checkSelection site request)
  let drawn ← draw
  let restoreId := H.uuid drawn
  let now ← clock
  execute (.setRestoreContext backup.id
    (some (newContext M manifest operationId exactMapping plan restoreId now)))
  return some restoreId

/-- The rest of it. -/
def dispatchRestore (restoreId : Option String) : Call (Option String) := do
  step operationId "restoring-content" 5
  match backup.unavailable with
  | some fault => throw fault
  | none => do
    Query.emitToAgentAsync (.restore backup.id (restoreId.getD ""))
    return restoreId

/-- `restoreBackup` behind `begin`. -/
def runRestore (exactMapping : Bool) : Call RestoreReply := do
  match ← attempt (assertRestoreSlotAvailable backup) with
  | .error fault => do
    fail H operationId fault
    throw fault
  | .ok () => do
    start operationId "preflight"
    match ← stages [storeContext H M backup site manifest request operationId exactMapping,
        dispatchRestore backup operationId] none with
    | (none, _) => return ⟨true, none, some operationId⟩
    | (some fault, restoreId) => do
      if restoreId.isSome then ignoring (execute (.setRestoreContext backup.id none))
      fail H operationId fault
      throw fault

end RestoreBackup

/-- `parseSiteBackupManifest` of the stored manifest, if there is one. -/
def storedManifest (H : Host) (M : ManifestHost) (backup : RestorePoint) :
    Except Fault (Option SiteBackupManifest) :=
  match backup.manifest with
  | none => .ok none
  | some m =>
    match normalizeSiteBackupManifest H M m with
    | .ok m => .ok (some m)
    | .error fault => .error (.badRequest (H.errorMessage fault "Backup manifest is invalid"))

/-- The backup and its site, when the caller may restore it. -/
def requireBackup (backupId : String) (caller : Caller) (db : Sites.Db) :
    Except Fault (RestorePoint × SiteWithParts) :=
  match db.backup.find? fun b => b.id == backupId with
  | none => .error (.notFound "Backup not found")
  | some backup =>
    match readSite db backup.siteId with
    | none => .error (.notFound "Backup not found")
    | some site =>
      if caller.role ≠ "ADMIN" ∧ site.site.userId ≠ caller.userId then
        .error (.forbidden "Access denied")
      else if backup.status ≠ .completed then
        .error (.badRequest "Only completed backups can be restored")
      else .ok (backup, site)

/-- `restoreBackup` on what was read. -/
def restoreBackupOn (H : Host) (M : ManifestHost) (backupId : String) (request : RestoreRequest)
    (caller : Caller) (db : Sites.Db) : Call RestoreReply := do
  let (backup, site) ← Query.ofExcept (requireBackup backupId caller db)
  let manifest ← Query.ofExcept (storedManifest H M backup)
  let exactMapping := isExactMapping backup manifest request
  let operation ← begin H caller (inlineInput caller "BACKUP_RESTORE" site.site.id none
    (if exactMapping then some HOSTNAME_REGISTRY_LOCK else none) none
    (restoreRequestJson backup.id request exactMapping))
  if operation.replayed then return ⟨true, none, some operation.id⟩
  else runRestore H M backup site manifest request operation.id exactMapping

def BackupsService.restoreBackup (H : Host) (M : ManifestHost) (backupId : String)
    (request : RestoreRequest) (caller : Caller) : Call RestoreReply := do
  restoreBackupOn H M backupId request caller (← read)

/-! ## `updateRestoreProgress` -/

/-- The backup with its context, when the event speaks of the restore that runs. -/
def currentRestore (db : Sites.Db) (backupId restoreId : String) :
    Option (RestorePoint × RestoreContext) :=
  match db.backup.find? fun b => b.id == backupId with
  | none => none
  | some backup =>
    match backup.restoreContext with
    | none => none
    | some context => if context.restoreId = restoreId then some (backup, context) else none

/-- `Math.max(5, Math.min(85, Math.trunc(progress * 0.8)))`, for a progress in per mille. -/
def restoreProgress (progress : Int) : Int := max 5 (min 85 (Int.tdiv (progress * 8) 10000))

def BackupsService.updateRestoreProgress (backupId restoreId : String) (progress : Int) :
    Call Unit := do
  match currentRestore (← read) backupId restoreId with
  | none => return
  | some (_, context) =>
    ignoring (step context.operationId "restoring-content" (restoreProgress progress))

/-! ## `completeRestore` -/

/-- The completion event of the agent. -/
structure RestoreCompletion where
  backupId : String
  restoreId : String
  success : Bool
  error : Option String

/-- The variables of the `try` block. -/
structure Finalisation where
  manifests : Option (SiteBackupManifest × SiteBackupManifest)
  metadataApplied : Bool

section CompleteRestore

variable (H : Host) (M : ManifestHost) (backup : RestorePoint) (context : RestoreContext)

/-- `writeRestoreContext`. -/
def writePhase (phase : RestorePhase) : Call Unit :=
  execute (.setRestoreContext backup.id (some { context with phase := phase }))

/-- `removeStalePools`: a refusal is only logged. -/
def removeStalePools (previous current : SiteBackupManifest) : Query Unit :=
  previous.domains.forM fun oldDomain =>
    match targetOf context.domainTargets oldDomain.sourceId, truthy oldDomain.phpVersion with
    | some targetId, some phpVersion =>
      let newDomain := current.domains.reverse.find? fun d =>
        targetOf context.domainTargets d.sourceId == some targetId
      if newDomain.any fun d => d.runtimeKey == oldDomain.runtimeKey &&
          d.phpVersion == oldDomain.phpVersion then pure ()
      else do
        let _ ← Query.emitToAgent (.removePool targetId oldDomain.runtimeKey phpVersion)
    | _, _ => pure ()

/-- The manifests of an exact restore. -/
def parseManifests : Except Fault (SiteBackupManifest × SiteBackupManifest) :=
  match backup.manifest, context.rollbackManifest with
  | some manifest, some rollback => do
    let restored ← normalizeSiteBackupManifest H M manifest
    let rollback ← normalizeSiteBackupManifest H M rollback
    if some (M.manifestChecksum restored) ≠ context.manifestChecksum then
      throw (.error "Backup manifest changed during restore")
    return (restored, rollback)
  | _, _ => .error (.error "Restore mapping context is incomplete")

def prepareMetadata (f : Finalisation) : Call Finalisation := do
  step context.operationId "applying-metadata" 88
  if context.exactMapping then do
    let manifests ← Query.ofExcept (parseManifests H M backup context)
    writePhase backup context .applyingMetadata
    return { f with manifests := some manifests }
  else return f

def applyMetadata (f : Finalisation) : Call Finalisation :=
  match f.manifests with
  | none => return f
  | some (restored, _) => do
    execute (.applyManifestMapping backup.siteId restored context)
    return { f with metadataApplied := true }

def applyRestoredRuntime (f : Finalisation) : Call Finalisation := do
  writePhase backup context .applyingRuntime
  step context.operationId "regenerating-runtime" 94
  regenerateRuntime H backup.siteId
  match f.manifests with
  | none => return f
  | some (restored, rollback) => do
    removeStalePools context rollback restored
    return f

/-- The result of the operation. -/
def restoreResult : JsValue :=
  .object [("backupId", .string backup.id), ("exactMapping", .boolean context.exactMapping)]

def settleRestore (f : Finalisation) : Call Finalisation := do
  succeed context.operationId (restoreResult backup context)
  execute (.setRestoreContext backup.id none)
  return f

/-- The `try` block. -/
def finalisationStages : List (Finalisation → Call Finalisation) :=
  [prepareMetadata H M backup context, applyMetadata backup context,
    applyRestoredRuntime H backup context, settleRestore backup context]

/-- The inner `try` block of the `catch` block. -/
def rollbackMetadata (restored rollback : SiteBackupManifest) : Call Unit := do
  writePhase backup context .rollingBack
  execute (.applyManifestMapping backup.siteId rollback context)
  regenerateRuntime H backup.siteId
  removeStalePools context restored rollback

/-- The rollback, when there is something to roll back; the message of its failure. -/
def rollbackRestore (f : Finalisation) : Call (Option String) :=
  match f.metadataApplied, f.manifests with
  | true, some (restored, rollback) => do
    match ← attempt (rollbackMetadata H backup context restored rollback) with
    | .ok () => return none
    | .error failure => do
      ignoring (writePhase backup context .rollbackFailed)
      return some (H.errorMessage failure "Runtime rollback failed")
  | _, _ => return none

/-- The `catch` block. -/
def failRestore (fault : Fault) (f : Finalisation) : Call RestoreReply := do
  let message := H.errorMessage fault "Backup restore finalization failed"
  let rollbackError ← rollbackRestore H backup context f
  let finalMessage := rollbackError.elim message fun e => message ++ "; rollback failed: " ++ e
  failWith context.operationId (H.safeErrorMessage finalMessage "Operation failed" 2000)
  if rollbackError.isNone then execute (.setRestoreContext backup.id none)
  return ⟨false, some finalMessage, none⟩

/-- `completeRestore` of the restore that runs. -/
def finaliseRestore (data : RestoreCompletion) : Call RestoreReply :=
  if !data.success then do
    let message := H.safeErrorMessage (data.error.getD "") "Backup restore failed" 2000
    failWith context.operationId (H.safeErrorMessage message "Operation failed" 2000)
    execute (.setRestoreContext backup.id none)
    return ⟨false, some message, none⟩
  else do
    match ← stages (finalisationStages H M backup context) ⟨none, false⟩ with
    | (none, _) => return ⟨true, none, none⟩
    | (some fault, f) => failRestore H backup context fault f

end CompleteRestore

/-- `completeRestore` on what was read. -/
def completeRestoreOn (H : Host) (M : ManifestHost) (data : RestoreCompletion) (db : Sites.Db) :
    Call RestoreReply :=
  match currentRestore db data.backupId data.restoreId with
  | none => return ⟨false, some "Stale or unknown restore completion event", none⟩
  | some (backup, context) => finaliseRestore H M backup context data

def BackupsService.completeRestore (H : Host) (M : ManifestHost) (data : RestoreCompletion) :
    Call RestoreReply := do
  completeRestoreOn H M data (← read)

end Meowbox.Backups
