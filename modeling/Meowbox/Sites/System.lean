import Meowbox.Backups.Restore
import Meowbox.Deploys.Service

/-!
# The panel as one service

Every request and every event the site, deploy and restore services handle, the promises nobody
awaits, and the methods of `OperationsService` other services call, over one world. Calls interleave
between any two of their instructions, and a process that restarts abandons its calls.
-/

namespace Meowbox.Sites

open Operations Backups Deploys Interleaved

inductive SiteRequest
  | createDomain (siteId : String) (dto : CreateSiteDomainDto) (caller : Caller)
  | updateDomain (siteId domainId : String) (dto : UpdateSiteDomainDto) (caller : Caller)
  | makePrimary (siteId domainId : String) (caller : Caller)
  | updateAliases (siteId domainId : String) (aliases : List SiteAlias) (caller : Caller)
  | deleteDomain (siteId domainId : String) (dto : DeleteSiteDomainDto) (caller : Caller)
  | provisioning
  | restoreBackup (backupId : String) (request : RestoreRequest) (caller : Caller)
  | updateRestoreProgress (backupId restoreId : String) (progress : Int)
  | completeRestore (data : RestoreCompletion)
  | triggerDeploy (siteId domainId : String) (branch : Option String) (caller : Caller)
  | rollbackDeploy (siteId domainId deployId : String) (caller : Caller)
  | deploy (event : DeployEvent)
  | operations (request : Operations.Request)

/-- A promise that has settled. -/
def Call.settled {α : Type} (c : Call α) : Program Unit := c.run.bind fun _ => .done ()

/-- What a request starts. -/
def SiteRequest.program (H : Host) (M : ManifestHost) : SiteRequest → Program Unit
  | .createDomain siteId dto caller => (SiteDomainsService.createDomain H siteId dto caller).settled
  | .updateDomain siteId domainId dto caller =>
    (SiteDomainsService.updateDomain H siteId domainId dto caller).settled
  | .makePrimary siteId domainId caller =>
    (SiteDomainsService.makePrimary H siteId domainId caller).settled
  | .updateAliases siteId domainId aliases caller =>
    (SiteDomainsService.updateAliases H siteId domainId aliases caller).settled
  | .deleteDomain siteId domainId dto caller =>
    (SiteDomainsService.deleteDomain H siteId domainId dto caller).settled
  | .provisioning => (Sites.provisioning H).settled
  | .restoreBackup backupId request caller =>
    (BackupsService.restoreBackup H M backupId request caller).settled
  | .updateRestoreProgress backupId restoreId progress =>
    (BackupsService.updateRestoreProgress backupId restoreId progress).settled
  | .completeRestore data => (BackupsService.completeRestore H M data).settled
  | .triggerDeploy siteId domainId branch caller =>
    (DeployService.triggerDeploy H siteId domainId branch caller).settled
  | .rollbackDeploy siteId domainId deployId caller =>
    (DeployService.rollbackDeploy H siteId domainId deployId caller).settled
  | .deploy event => (event.program H).settled
  | .operations request => (operation (request.program H.sha256)).settled

abbrev SitePool := Pool World Instr Instr.Answer Unit

def service (H : Host) (M : ManifestHost) :
    Service World Outside SiteRequest Instr Instr.Answer Unit where
  program request := request.program H M
  answer := answer H
  outside change world := world.change change

/-! ## A site with two domains -/

def plainSettings : DomainSettings :=
  ⟨none, none, none, none, none, none, none, none, none, none, none, none, none, none, false, false,
    false, false, none, none, none⟩

/-- A running domain of `site`, without PHP. -/
def plainDomain (id domain : String) (isPrimary : Bool) (position : Int) : DomainRow where
  id := id
  siteId := "site"
  domain := domain
  isPrimary := isPrimary
  position := position
  aliases := []
  filesRelPath := "www"
  preset := .custom
  appStatus := .running
  appErrorMessage := none
  phpVersion := none
  runtimeKey := "key-" ++ id
  gitRepository := none
  deployBranch := none
  envVars := ""
  httpsRedirect := false
  settings := plainSettings

def plainSite : SiteRow where
  id := "site"
  userId := "user"
  name := "name"
  displayName := none
  status := .running
  errorMessage := none
  rootPath := "/var/www"
  systemUser := none
  backupExcludes := none
  backupExcludeTables := none
  metadata := none

/-- Two domains, each with its claim. -/
def twoDomains : Db := { Db.empty with
  site := ⟨[plainSite], by decide⟩
  siteDomain := ⟨[plainDomain "a" "a.example" true 0, plainDomain "b" "b.example" false 1],
    by decide⟩
  hostnameClaim :=
    ⟨[⟨"a.example", "a", .canonical⟩, ⟨"b.example", "b", .canonical⟩], by decide⟩ }

/-- The first ids are not long enough for an idempotency key. -/
def siteStart : SitePool := ⟨{ World.of twoDomains with drawn := 8 }, []⟩

def plainManifestHost : ManifestHost := ⟨fun a b => decide (a ≤ b), fun _ => ""⟩

/-- `n` instructions of the call number `i`. -/
def advances (n i : Nat) : List (Event Outside SiteRequest) := List.replicate n (.advance i)

/-- Every operation has ended, and so has every call. -/
def Quiescent (s : SitePool) : Prop :=
  (∀ o ∈ s.store.db.operation, o.status.terminal = true) ∧ ∀ p ∈ s.calls, p.next?.isNone = true

instance (s : SitePool) : Decidable (Quiescent s) :=
  inferInstanceAs (Decidable ((∀ o ∈ s.store.db.operation, _) ∧ ∀ p ∈ s.calls, _))

/-- The owner of the site. -/
def siteOwner : Caller := ⟨"user", "USER", none, false⟩

end Meowbox.Sites
