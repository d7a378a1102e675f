import Meowbox.Operations.Writes

/-!
# The tables of the sites

Rows and tables of `api/prisma/schema.prisma` as the services of sites, deploys and restores read
and write them. A unique index over part of the rows is a key as well: `DomainKey` gives a primary
domain its site as a key and every other domain its own id, so no site can have two primary domains.
`aliases` holds the list whose JSON is stored, and `manifest` and `restoreContext` the records.

* `Db.operations`: the tables as `OperationsService` sees them.
* `Db.commit`: a write of `OperationsService` on these tables.
-/

namespace Meowbox.Sites

open Relational Operations

/-! ## Rows -/

/-- `SiteType`. -/
inductive Preset
  | modxRevo | modx3 | custom
deriving DecidableEq

inductive SslStatus
  | active | expiringSoon | expired | pending | none
deriving DecidableEq

inductive DatabaseType
  | mariadb | mysql | postgresql
deriving DecidableEq

inductive DatabasePurpose
  | appPrimary | auxiliary
deriving DecidableEq

inductive ClaimKind
  | canonical | alias
deriving DecidableEq

/-- `SiteAliasParsed`. -/
structure SiteAlias where
  domain : String
  redirect : Bool
deriving DecidableEq

structure SiteRow where
  id : String
  userId : String
  name : String
  displayName : Option String
  status : SiteStatus
  errorMessage : Option String
  rootPath : String
  systemUser : Option String
  backupExcludes : Option String
  backupExcludeTables : Option String
  metadata : Option String
deriving DecidableEq

/-- The columns of a domain that only its configuration files and a restore use. -/
structure DomainSettings where
  phpPoolCustom : Option String
  cmsAdminUser : Option String
  cmsAdminPasswordEnc : Option String
  managerPath : Option String
  connectorsPath : Option String
  cmsTablePrefix : Option String
  modxVersion : Option String
  appPort : Option Nat
  nginxClientMaxBodySize : Option String
  nginxFastcgiReadTimeout : Option Int
  nginxFastcgiSendTimeout : Option Int
  nginxFastcgiConnectTimeout : Option Int
  nginxFastcgiBufferSizeKb : Option Int
  nginxFastcgiBufferCount : Option Int
  nginxHttp2 : Bool
  nginxHsts : Bool
  nginxGzip : Bool
  nginxRateLimitEnabled : Bool
  nginxRateLimitRps : Option Int
  nginxRateLimitBurst : Option Int
  nginxCustomConfig : Option String
deriving DecidableEq

structure DomainRow where
  id : String
  siteId : String
  domain : String
  isPrimary : Bool
  position : Int
  aliases : List SiteAlias
  filesRelPath : String
  preset : Preset
  appStatus : AppStatus
  appErrorMessage : Option String
  phpVersion : Option String
  runtimeKey : String
  gitRepository : Option String
  deployBranch : Option String
  envVars : String
  httpsRedirect : Bool
  settings : DomainSettings
deriving DecidableEq

structure HostnameClaim where
  hostname : String
  siteDomainId : String
  kind : ClaimKind
deriving DecidableEq

structure SslCertificate where
  id : String
  siteId : String
  domainId : Option String
  domains : List String
  status : SslStatus
  issuer : String
  isWildcard : Bool
  issuedAt : Option Time
  expiresAt : Option Time
  daysRemaining : Option Int
  certPath : Option String
  keyPath : Option String
deriving DecidableEq

structure DatabaseRow where
  id : String
  name : String
  type : DatabaseType
  dbUser : String
  dbPasswordHash : String
  dbPasswordEnc : Option String
  siteId : String
  siteDomainId : String
  purpose : DatabasePurpose
deriving DecidableEq

structure DeployRow where
  id : String
  siteId : String
  siteDomainId : String
  operationId : Option String
  status : DeployStatus
  commitSha : Option String
  commitMessage : Option String
  branch : String
  output : String
  triggeredBy : Option String
  durationMs : Option Int
  startedAt : Time
  completedAt : Option Time
  createdAt : Time
deriving DecidableEq

/-! ## Tables -/

/-- The values of the unique indexes on domains. -/
inductive DomainKey
  | id (value : String)
  | domain (value : String)
  | runtimeKey (value : String)
  | position (siteId : String) (value : Int)
  | primary (siteId : String)
  | other (id : String)
deriving DecidableEq

def DomainRow.idKey (d : DomainRow) : DomainKey := .id d.id
def DomainRow.domainKey (d : DomainRow) : DomainKey := .domain d.domain
def DomainRow.runtimeKeyKey (d : DomainRow) : DomainKey := .runtimeKey d.runtimeKey
def DomainRow.positionKey (d : DomainRow) : DomainKey := .position d.siteId d.position

/-- `site_domains_one_primary_per_site`. -/
def DomainRow.primaryKey (d : DomainRow) : DomainKey :=
  if d.isPrimary then .primary d.siteId else .other d.id

abbrev DOMAIN_KEYS : List (DomainRow → DomainKey) :=
  [DomainRow.idKey, DomainRow.domainKey, DomainRow.runtimeKeyKey, DomainRow.positionKey,
    DomainRow.primaryKey]

/-- The values of the unique indexes on certificates and on deploy logs: the id, and the other row it
belongs to. -/
inductive OwnedKey
  | id (value : String)
  | owner (value : String)
  | unowned (id : String)
deriving DecidableEq

def SslCertificate.idKey (c : SslCertificate) : OwnedKey := .id c.id
def SslCertificate.domainKey (c : SslCertificate) : OwnedKey :=
  (c.domainId.map OwnedKey.owner).getD (.unowned c.id)

abbrev CERTIFICATE_KEYS : List (SslCertificate → OwnedKey) :=
  [SslCertificate.idKey, SslCertificate.domainKey]

def DeployRow.idKey (l : DeployRow) : OwnedKey := .id l.id
def DeployRow.operationKey (l : DeployRow) : OwnedKey :=
  (l.operationId.map OwnedKey.owner).getD (.unowned l.id)

abbrev DEPLOY_KEYS : List (DeployRow → OwnedKey) := [DeployRow.idKey, DeployRow.operationKey]

/-- The values of the unique indexes on databases. -/
inductive DatabaseKey
  | id (value : String)
  | name (value : String) (type : DatabaseType)
  | appPrimary (siteDomainId : String)
  | other (id : String)
deriving DecidableEq

def DatabaseRow.idKey (d : DatabaseRow) : DatabaseKey := .id d.id
def DatabaseRow.nameKey (d : DatabaseRow) : DatabaseKey := .name d.name d.type

/-- `databases_one_app_primary_per_domain`. -/
def DatabaseRow.purposeKey (d : DatabaseRow) : DatabaseKey :=
  if d.purpose = .appPrimary then .appPrimary d.siteDomainId else .other d.id

abbrev DATABASE_KEYS : List (DatabaseRow → DatabaseKey) :=
  [DatabaseRow.idKey, DatabaseRow.nameKey, DatabaseRow.purposeKey]

abbrev SiteTable := Table [SiteRow.id]
abbrev DomainTable := Table DOMAIN_KEYS
abbrev ClaimTable := Table [HostnameClaim.hostname]
abbrev CertificateTable := Table CERTIFICATE_KEYS
abbrev DatabaseTable := Table DATABASE_KEYS
abbrev DeployTable := Table DEPLOY_KEYS

end Meowbox.Sites
