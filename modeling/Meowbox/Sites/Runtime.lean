import Meowbox.Sites.Calls

/-!
# What the handlers read, check and regenerate

The private helpers of `site-domains.service.ts` that write nothing: access, the checks of hostnames
and paths, and the configuration the agent writes from the tables.
-/

namespace Meowbox.Sites

open JsData Operations Backups Failing

/-! ## Paths -/

def isAsciiLetter (c : Char) : Bool := isLowerAscii c || isUpperAscii c

/-- `[A-Za-z0-9._-]`. -/
def isPathChar (c : Char) : Bool :=
  isAsciiLetter c || isDigitAscii c || c == '.' || c == '_' || c == '-'

/-- Absolute for POSIX or for Windows, or behind a drive letter. -/
def isAbsolutePath : List Char → Bool
  | '/' :: _ => true
  | '\\' :: _ => true
  | c :: ':' :: _ => isAsciiLetter c
  | _ => false

/-- `normalizeFilesRelPath`; `none` where it throws. -/
def normalizeFilesRelPath (input : String) : Option String :=
  let source := (trim input).toList
  let segments := (source.map fun c => if c == '\\' then '/' else c).splitOn '/'
  let kept := segments.filter fun segment => segment ≠ [] && segment ≠ ['.']
  if source = [] ∨ source.any isControl = true ∨ isAbsolutePath source = true ∨
      segments.contains ['.', '.'] = true ∨ kept = [] ∨
      kept.all (fun segment => segment.all isPathChar) = false then none
  else some (String.ofList (['/'].intercalate kept))

/-- `applicationPath`. -/
def applicationPath (value : String) : Except Fault String :=
  match normalizeFilesRelPath value with
  | some path => .ok path
  | none => .error (.badRequest "Invalid application files path")

/-! ## Hostnames -/

/-- `canonicalHostname`. -/
def canonicalHostname (H : Host) (value : String) : Except Fault String :=
  match canonicalizeHostname H value with
  | some hostname => .ok hostname
  | none => .error (.badRequest "Invalid domain name")

/-- `normalizeAliases`. -/
def normalizeAliases (H : Host) (aliases : List SiteAlias) : Except Fault (List SiteAlias) := do
  refuse (decide (64 < aliases.length)) (.badRequest "Максимум 64 алиаса на домен")
  let normalized ← aliases.mapM fun a => do
    let domain ← canonicalHostname H a.domain
    return { a with domain := domain }
  refuse (!decide (normalized.map SiteAlias.domain).Nodup)
    (.badRequest "Duplicate aliases are not allowed")
  return normalized

/-- A value a helper computes, or its fault. -/
def Query.ofExcept {α : Type} : Except Fault α → Query α
  | .ok a => pure a
  | .error fault => throw fault

/-! ## Reading -/

def Db.certificateOf (db : Db) (domainId : String) : Option SslCertificate :=
  db.sslCertificate.find? fun c => c.domainId == some domainId

def Db.databasesOf (db : Db) (domainId : String) : List DatabaseRow :=
  db.database.findMany fun d => d.siteDomainId == domainId

/-- A certificate that serves. -/
def sslEnabled (certificate : Option SslCertificate) : Bool :=
  certificate.any fun c => c.status == .active || c.status == .expiringSoon

/-- `requireSiteWithDomains` on what was read. -/
def requireSiteWithDomains (db : Db) (siteId : String) (caller : Caller) :
    Except Fault SiteWithParts :=
  match readSite db siteId with
  | none => .error (.notFound "Site not found")
  | some site =>
    if caller.role ≠ "ADMIN" ∧ site.site.userId ≠ caller.userId then
      .error (.forbidden "Access denied")
    else .ok site

/-- `site.domains.find((d) => d.id === domainId)`. -/
def requireDomain (site : SiteWithParts) (domainId : String) : Except Fault DomainRow :=
  match site.domains.find? fun d => d.id == domainId with
  | none => .error (.notFound "Domain not found")
  | some target => .ok target

/-- `listDomains`. -/
def listDomains (siteId : String) (caller : Caller) : Query (List DomainRow) := do
  let db ← Query.read
  let site ← Query.ofExcept (requireSiteWithDomains db siteId caller)
  return site.domains

/-! ## Shared roots -/

/-- `hasRunningSharedApplicationRoot`. -/
def hasRunningSharedApplicationRoot (domains : List DomainRow) (filesRelPath : String)
    (excludeDomainId : Option String) : Except Fault Bool := do
  let targetPath ← applicationPath filesRelPath
  domains.anyM fun d => do
    if some d.id = excludeDomainId ∨ d.appStatus ≠ .running then return false
    else return (← applicationPath d.filesRelPath) == targetPath

/-- `assertSharedRootPreset`. -/
def assertSharedRootPreset (preset : Preset) (reusesExistingRoot : Bool) : Except Fault Unit :=
  refuse (reusesExistingRoot && preset != .custom)
    (.conflict "MODX applications require a dedicated empty application root" none)

/-! ## Free hostnames -/

def siteName (db : Db) (siteId : String) : String :=
  ((db.site.find? fun s => s.id == siteId).map SiteRow.name).getD ""

/-- `findFirst` on the domains: no one else may be found. -/
def assertNone (db : Db) (p : DomainRow → Bool) (taken : String → String) : Query Unit :=
  match db.siteDomain.find? p with
  | none => pure ()
  | some d => throw (.conflict (taken (siteName db d.siteId)) none)

/-- `assertDomainFree`: by its claim, and by rows that an old write left without claims. -/
def assertDomainFree (H : Host) (domain : String) (ignoreDomainId ownDomain : Option String) :
    Query Unit := do
  ensure (ownDomain.all fun own => domain != H.toLowerCase own)
    (.conflict ("Hostname \"" ++ domain ++ "\" cannot be an alias of itself") none)
  let taken := fun site => "Домен \"" ++ domain ++ "\" уже используется сайтом \"" ++ site ++ "\""
  let db ← Query.read
  assertNone db (fun d => some d.id != ignoreDomainId && (db.hostnameClaim.find? fun c =>
    c.hostname == domain && c.siteDomainId == d.id).isSome) taken
  let db ← Query.read
  assertNone db (fun d => d.domain == domain && some d.id != ignoreDomainId) taken
  let db ← Query.read
  assertNone db (fun d => some d.id != ignoreDomainId &&
    d.aliases.any fun a => H.toLowerCase a.domain == domain) fun site =>
      "Домен \"" ++ domain ++ "\" уже используется как алиас сайта \"" ++ site ++ "\""

/-- `catch (error) { throw … }`. -/
def Query.wrapping {α : Type} (H : Host) (summary fallback : String) (q : Query α) : Query α :=
  tryCatch q fun fault =>
    throw (.error (summary ++ ": " ++ H.safeErrorMessage (Method.Fault.message fault) fallback 800))

def nginxValidation : String := "Nginx hostname validation failed"

/-- The check of one hostname. -/
def ensureUnused (H : Host) (ignoreFiles : List String) (domain : String) : Query Unit := do
  let response ← Query.wrapping H nginxValidation "agent request failed"
    (Query.emitToAgent (.findDomainUsage domain))
  match response.success, response.hits with
  | true, some hits =>
    let external := hits.filter fun file => !ignoreFiles.contains file
    ensure (external = []) (.conflict ("Домен \"" ++ domain ++
      "\" уже обслуживается nginx-конфигом: " ++ ", ".intercalate external ++
      ". Удали/перенастрой этот конфиг вручную перед добавлением домена в meowbox.") none)
  | _, _ => throw (.error (nginxValidation ++ ": " ++
      H.safeErrorMessage (response.error.getD "") "invalid agent response" 800))

/-- `ensureDomainFreeInNginx`. -/
def ensureDomainFreeInNginx (H : Host) (domains ignoreFiles : List String) : Query Unit := do
  ensure (← Query.isAgentConnected)
    (.conflict "Agent is offline; Nginx hostname validation is unavailable" none)
  domains.forM (ensureUnused H ignoreFiles)

/-- The files of a domain that may mention it. -/
def ownFiles (names : List String) : List String := names.flatMap fun name => [name ++ ".conf", name]

/-! ## Configuration -/

/-- The payload of `php:create-pool` for a domain. -/
def poolConfig (site : SiteRow) (d : DomainRow) (user : Option String) (ssl : Bool)
    (phpVersion : String) : PoolConfig where
  siteDomainId := d.id
  runtimeKey := d.runtimeKey
  siteName := site.name
  domain := d.domain
  phpVersion := phpVersion
  user := user
  rootPath := site.rootPath
  filesRelPath := d.filesRelPath
  sslEnabled := ssl
  customConfig := d.settings.phpPoolCustom

/-- The payload about an application. -/
def applicationRoot (site : SiteRow) (d : DomainRow) (operationId : Option String) :
    ApplicationRoot :=
  ⟨operationId, d.id, d.runtimeKey, site.rootPath, d.filesRelPath⟩

/-- `syncPrimaryPhpCliShim`: a refusal is only logged. -/
def syncPrimaryPhpCliShim (siteId : String) : Query Unit := do
  let db ← Query.read
  match db.siteDomain.find? fun d => d.siteId == siteId && d.isPrimary, readSite db siteId with
  | some primary, some site =>
    match truthy site.site.systemUser with
    | none => return
    | some systemUser =>
      if ← Query.isAgentConnected then
        let _ ← Query.emitToAgent
          (.setupPhpShim systemUser site.site.rootPath primary.phpVersion)
      else return
  | _, _ => return

def agentOffline : Fault := .error "Agent is not connected"

/-- `regenerateNginx`. -/
def regenerateNginx (H : Host) (siteId : String) (excludeSiteDomainId : Option String) :
    Query Unit := do
  ensure (← Query.isAgentConnected) agentOffline
  let db ← Query.read
  match readSite db siteId with
  | none => return
  | some site =>
    let domains := site.domains.filter fun d => some d.id != excludeSiteDomainId
    Query.wrapping H "Nginx configuration failed" "unknown Nginx error"
      (emitGranted (.createConfig site.site domains)
        (fun error => "nginx:create-config rejected by agent: " ++ error) "unknown")

/-- `regenerateGlobalZones`. -/
def regenerateGlobalZones (H : Host) (excludeSiteDomainId : Option String) : Query Unit := do
  ensure (← Query.isAgentConnected) agentOffline
  Query.wrapping H "Global Nginx zones update failed" "unknown Nginx error" do
    let db ← Query.read
    emitGranted
      (.writeGlobalZones (db.siteDomain.findMany fun d => some d.id != excludeSiteDomainId))
      (fun error => "nginx:write-global-zones rejected by agent: " ++ error) "unknown"

/-- The pool of one domain. -/
def regeneratePool (db : Db) (site : SiteRow) (d : DomainRow) : Query Unit :=
  match truthy d.phpVersion with
  | none => pure ()
  | some phpVersion =>
    emitGranted (.createPool (poolConfig site d (some ((truthy site.systemUser).getD site.name))
        (sslEnabled (db.certificateOf d.id)) phpVersion))
      (fun error => "PHP pool regeneration failed for \"" ++ d.domain ++ "\": " ++ error)
      "unknown agent error"

/-- `regenerateRuntime`. -/
def regenerateRuntime (H : Host) (siteId : String) : Query Unit := do
  ensure (← Query.isAgentConnected) agentOffline
  let db ← Query.read
  match readSite db siteId with
  | none => throw (.notFound "Site not found")
  | some site =>
    site.domains.forM (regeneratePool db site.site)
    syncPrimaryPhpCliShim siteId
    regenerateGlobalZones H none
    regenerateNginx H siteId none

end Meowbox.Sites
