import Meowbox.Lib.Provenance
import Meowbox.Sites.System

/-!
# Where the services take what they write from

A handler writes what it computed from rows it read before its operation began. `Warranted` says of
a statement on the domains which read rows its arguments come from: a target is a row that was read,
an order is the order of the domains of a site as it was read or the one with a new first domain, a
hostname was canonicalised, and a manifest is applied under the context stored with its backup.

* `warranted_program`: every service method performs warranted instructions only.
-/

namespace Meowbox.Sites

open Relational Operations Backups Deploys Interleaved

/-- The result of `canonicalizeHostname`. -/
def Canonicalized (H : Host) (hostname : String) : Prop :=
  ∃ input, canonicalizeHostname H input = some hostname

/-- A new domain: not the primary one, under canonical names. -/
structure NewDomain (H : Host) (id : String) (row : DomainRow) : Prop where
  id : row.id = id
  notPrimary : row.isPrimary = false
  domain : Canonicalized H row.domain
  aliases : ∀ a ∈ row.aliases, Canonicalized H a.domain

/-- An order a handler computes from the domains of a site. -/
def SiteOrdering (site : SiteWithParts) (ordering : List DomainPlace) : Prop :=
  ordering = previousOrdering site.domains ∨
    ∃ target ∈ site.domains, ordering = nextOrdering site.domains target

/-- The context of an exact restore as `restoreBackup` plans it. -/
def PlannedContext (H : Host) (M : ManifestHost) (db : Db) (b : RestorePoint)
    (context : RestoreContext) : Prop :=
  ∃ site manifest m plan allDomains, readSite db b.siteId = some site ∧
    b.manifest = some manifest ∧ normalizeSiteBackupManifest H M manifest = .ok m ∧
      planExactRestore H M site m allDomains = .ok plan ∧
        context.rollbackManifest = some plan.rollbackManifest ∧
          context.domainTargets = plan.domainTargets

/-- A context that is stored: one in a later phase, one without a rollback, or a planned one. -/
def ContextFrom (H : Host) (M : ManifestHost) (db : Db) (b : RestorePoint)
    (context : RestoreContext) : Prop :=
  (∃ stored, b.restoreContext = some stored ∧ context = { stored with phase := context.phase }) ∨
    context.rollbackManifest = none ∨ PlannedContext H M db b context

section Warranted

variable (H : Host) (M : ManifestHost) (K : Set Db)

/-- What the arguments of a statement come from, for a program that has read `K`. -/
def WarrantedWrite : Write → Prop
  | .updateDomain target data =>
    (∃ db ∈ K, target ∈ db.siteDomain) ∧ ∀ domain, data.domain = some domain → Canonicalized H domain
  | .rollbackDomain target _ _ => ∃ db ∈ K, target ∈ db.siteDomain
  | .updateAliases domainId domain aliases =>
    ∃ db ∈ K, ∃ target ∈ db.siteDomain, domainId = target.id ∧ domain = target.domain ∧
      (aliases = target.aliases ∨ ∀ a ∈ aliases, Canonicalized H a.domain)
  | .setDomainOrdering ordering =>
    ∃ db ∈ K, ∃ siteId site, readSite db siteId = some site ∧ SiteOrdering site ordering
  | .setRestoreContext backupId (some context) =>
    ∃ db ∈ K, ∃ b ∈ db.backup, b.id = backupId ∧ ContextFrom H M db b context
  | .applyManifestMapping siteId m context =>
    ∃ db ∈ K, ∃ b ∈ db.backup, b.siteId = siteId ∧ b.restoreContext = some context ∧
      ∃ manifest rollback, b.manifest = some manifest ∧ context.rollbackManifest = some rollback ∧
        (normalizeSiteBackupManifest H M manifest = .ok m ∨
          normalizeSiteBackupManifest H M rollback = .ok m)
  | _ => True

def Warranted : Instr → Prop
  | .write w => WarrantedWrite H M K w
  | .createDomain row => ∀ id, NewDomain H id (row id)
  | _ => True

end Warranted

/-- What an answer teaches. -/
def teaches : (i : Instr) → i.Answer → Set Db
  | .read, db => {db}
  | .operations _, _ => ∅
  | .write _, _ => ∅
  | .createDomain _, _ => ∅
  | .draw, _ => ∅
  | .spawn _, _ => ∅
  | .take, _ => ∅
  | .connected, _ => ∅
  | .agent _, _ => ∅

theorem warranted_growing (H : Host) (M : ManifestHost) : Growing (Warranted H M) := by
  intro K K' i hK h
  cases i with
  | write w =>
    cases w with
    | updateDomain target data =>
      obtain ⟨⟨db, hdb, ht⟩, hd⟩ := h
      exact ⟨⟨db, hK hdb, ht⟩, hd⟩
    | rollbackDomain target changed certificate =>
      obtain ⟨db, hdb, ht⟩ := h
      exact ⟨db, hK hdb, ht⟩
    | updateAliases domainId domain aliases =>
      obtain ⟨db, hdb, ht⟩ := h
      exact ⟨db, hK hdb, ht⟩
    | setDomainOrdering ordering =>
      obtain ⟨db, hdb, hs⟩ := h
      exact ⟨db, hK hdb, hs⟩
    | setRestoreContext backupId context =>
      cases context with
      | none => trivial
      | some context =>
        obtain ⟨db, hdb, hb⟩ := h
        exact ⟨db, hK hdb, hb⟩
    | applyManifestMapping siteId m context =>
      obtain ⟨db, hdb, hb⟩ := h
      exact ⟨db, hK hdb, hb⟩
    | _ => trivial
  | createDomain row => exact h
  | _ => trivial

/-! ## Composing calls -/

section Rules

variable {H : Host} {M : ManifestHost} {K : Set Db} {α β : Type}

/-- The instructions of a call are warranted by what it has read, and it has read `K`. -/
def Call.Justified (H : Host) (M : ManifestHost) (K : Set Db) (c : Call α) : Prop :=
  c.run.Justified teaches (Warranted H M) K

/-- An instruction that needs no warrant. -/
def Free (H : Host) (M : ManifestHost) (i : Instr) : Prop := Warranted H M ∅ i

theorem justified_of_performs {c : Call α} (h : c.Performs (Free H M)) : c.Justified H M K :=
  Prog.justified_of_issues
    (fun _ i (hi : Free H M i) => warranted_growing H M (Set.empty_subset _) hi) h

theorem justified_pure (a : α) : Call.Justified H M K (pure a) := trivial

theorem justified_throw (fault : Fault) : Call.Justified H M K (throw fault : Call α) := trivial

variable {f : α → Call β}

theorem justified_bind {c : Call α} (hc : c.Justified H M K) (hf : ∀ a, (f a).Justified H M K) :
    Call.Justified H M K (c >>= f) := by
  refine Prog.justified_bind (warranted_growing H M) hc fun r => ?_
  cases r with
  | error fault => trivial
  | ok a => exact hf a

theorem justified_bind_returns {post : α → Prop} {c : Call α} (hc : c.Justified H M K)
    (hr : c.Returns post) (hf : ∀ a, post a → (f a).Justified H M K) :
    Call.Justified H M K (c >>= f) := by
  refine Prog.justified_bind_returns (warranted_growing H M) hc hr fun r hpost => ?_
  cases r with
  | error fault => trivial
  | ok a => exact hf a (hpost a rfl)

/-- What follows a read knows what was read. -/
theorem justified_read_bind {f : Db → Call β} (hf : ∀ db, (f db).Justified H M (K ∪ {db})) :
    Call.Justified H M K (read >>= f) :=
  ⟨trivial, hf⟩

theorem justified_execute {w : Write} (h : WarrantedWrite H M K w) :
    (execute w).Justified H M K :=
  justified_bind ⟨h, fun _ => trivial⟩ fun _ => justified_pure ()

theorem justified_attempt {c : Call α} (hc : c.Justified H M K) :
    (attempt c).Justified H M K := by
  refine Prog.justified_bind (warranted_growing H M) hc fun r => ?_
  trivial

theorem justified_collect {label fallback : String} {c : Call Unit} (hc : c.Justified H M K) :
    (collect H label fallback c).Justified H M K := by
  refine justified_bind (justified_attempt hc) fun outcome => ?_
  cases outcome with
  | ok _ => exact justified_pure _
  | error fault => exact justified_pure _

/-- Stages that keep `J` of the progress are justified one after the other. -/
theorem justified_stages_keeping {π : Type} {J : π → Prop} {fs : List (π → Call π)}
    (h : ∀ f ∈ fs, ∀ progress, J progress → (f progress).Justified H M K ∧ (f progress).Returns J)
    {progress : π} (hJ : J progress) : (stages fs progress).Justified H M K := by
  induction fs generalizing progress with
  | nil => exact justified_pure _
  | cons f fs ih =>
    obtain ⟨hf, hr⟩ := h f List.mem_cons_self progress hJ
    refine justified_bind_returns (justified_attempt hf) (returns_attempt hr) fun outcome ho => ?_
    cases outcome with
    | ok progress => exact ih (fun g hg => h g (List.mem_cons_of_mem f hg)) (ho progress rfl)
    | error fault => exact justified_pure _

theorem justified_stages {π : Type} {fs : List (π → Call π)}
    (h : ∀ f ∈ fs, ∀ progress, (f progress).Justified H M K) (progress : π) :
    (stages fs progress).Justified H M K :=
  justified_stages_keeping (fun f hf progress _ => ⟨h f hf progress, returns_any _⟩) trivial

theorem performs_free_query (q : Query α) : Call.Performs (Free H M) (liftM q : Call α) := by
  refine performs_query (fun i => ?_) q
  cases i <;> trivial

theorem performs_query_bind {q : Query α} (hf : ∀ a, (f a).Performs (Free H M)) :
    Call.Performs (Free H M) ((liftM q : Call α) >>= f) :=
  performs_bind (performs_free_query q) hf

theorem justified_query_bind {q : Query α} (hf : ∀ a, (f a).Justified H M K) :
    Call.Justified H M K ((liftM q : Call α) >>= f) :=
  justified_bind (justified_of_performs (performs_free_query q)) hf

/-- What follows a computation knows that it succeeded. -/
theorem justified_except_bind {e : Except Fault α} (hf : ∀ a, e = .ok a → (f a).Justified H M K) :
    Call.Justified H M K ((liftM (Query.ofExcept e) : Call α) >>= f) := by
  cases e with
  | error fault => trivial
  | ok a => exact hf a rfl

theorem returns_except {e : Except Fault β} {Q : β → Prop} (h : ∀ b, e = .ok b → Q b) :
    Call.Returns Q (liftM (Query.ofExcept e) : Call β) := by
  cases e with
  | error fault => exact returns_throw fault
  | ok b => exact returns_pure (h b rfl)

theorem justified_query (q : Query α) : Call.Justified H M K (liftM q : Call α) :=
  justified_of_performs (performs_free_query q)

theorem justified_operation (p : Operations.Program Outcome) :
    (operation p).Justified H M K :=
  justified_of_performs (performs_operation (fun _ => trivial) p)

theorem justified_begin (caller : Caller) (input : BeginOperationInput) :
    (begin H caller input).Justified H M K :=
  justified_of_performs (performs_begin trivial (fun _ => trivial) input)

theorem justified_failAndThrow (operationId : String) (fault : Fault) :
    Call.Justified H M K (failAndThrow H operationId fault : Call α) :=
  justified_of_performs (performs_failAndThrow (fun _ => trivial) operationId fault)

theorem justified_ignoring {c : Call α} (hc : c.Justified H M K) :
    (ignoring c).Justified H M K :=
  justified_bind (justified_attempt hc) fun _ => justified_pure ()

theorem justified_forM {f : β → Call Unit} (hf : ∀ b, (f b).Justified H M K) (bs : List β) :
    Call.Justified H M K (bs.forM f) := by
  induction bs with
  | nil => exact justified_pure ()
  | cons b bs ih => exact justified_bind (hf b) fun _ => ih

end Rules

/-! ## Calls that need no warrant -/

section FreeCalls

variable {H : Host} {M : ManifestHost}

theorem performs_free_operation (p : Operations.Program Outcome) :
    (operation p).Performs (Free H M) :=
  performs_operation (fun _ => trivial) p

theorem performs_restoreRouting (siteId nginx : String) :
    (restoreRouting H siteId nginx).Performs (Free H M) :=
  performs_bind (performs_collect (performs_free_query _)) fun _ =>
    performs_bind (performs_collect (performs_free_query _)) fun _ => performs_pure _

theorem performs_settledReply (siteId : String) (caller : Caller) (operationId : String)
    (status : OperationStatus) :
    (settledReply siteId caller operationId status).Performs (Free H M) :=
  performs_query_bind fun _ => performs_pure _

/-! ### Installing -/

variable (job : ProvisioningJob) (site : SiteRow) (p : Provisioned)

theorem performs_jobStep (name : String) (progress : Int) :
    (jobStep job name progress).Performs (Free H M) :=
  performs_free_operation _

variable (reuses : Bool)

theorem performs_preflightRoot : (preflightRoot job site reuses p).Performs (Free H M) :=
  performs_bind (performs_jobStep job _ _) fun _ =>
    performs_query_bind fun _ => performs_pure _

theorem performs_createApplicationDatabase :
    (createApplicationDatabase H job site p).Performs (Free H M) :=
  performs_query_bind fun _ =>
    performs_query_bind fun _ =>
      performs_query_bind fun _ =>
        performs_bind (performs_draw trivial) fun _ =>
          performs_bind (performs_draw trivial) fun _ =>
            performs_bind (performs_read trivial) fun _ =>
              performs_query_bind fun _ =>
                performs_bind (performs_execute trivial) fun _ => performs_pure _

theorem performs_prepareDatabase : (prepareDatabase H job site p).Performs (Free H M) := by
  refine performs_bind (performs_jobStep job _ _) fun _ => ?_
  dsimp only
  split
  · split
    · exact performs_createApplicationDatabase job site p
    · exact performs_pure _
  · split
    · exact performs_pure _
    · split
      · exact performs_throw _
      · exact performs_pure _

theorem performs_createPhysicalDatabase :
    (createPhysicalDatabase job p).Performs (Free H M) := by
  unfold createPhysicalDatabase
  split
  · exact performs_query_bind fun _ => performs_pure _
  · exact performs_pure _

theorem performs_prepareCms : (prepareCms H job site p).Performs (Free H M) := by
  unfold prepareCms
  split
  · exact performs_pure _
  · refine performs_bind (performs_draw trivial) fun _ =>
      performs_query_bind fun _ =>
        performs_bind (performs_execute trivial) fun _ =>
          performs_bind (performs_read trivial) fun _ => ?_
    split
    · exact performs_throw _
    · exact performs_pure _

theorem performs_install : (install job site reuses p).Performs (Free H M) :=
  performs_bind (performs_jobStep job _ _) fun _ =>
    performs_query_bind fun _ => performs_pure _

theorem performs_checkInstall : (checkInstall job p).Performs (Free H M) := by
  unfold checkInstall
  split
  · exact performs_pure _
  · refine performs_query_bind fun _ => ?_
    split
    · exact performs_pure _
    · exact performs_bind (performs_execute trivial) fun _ => performs_pure _

theorem performs_startPool : (startPool job p).Performs (Free H M) := by
  unfold startPool
  split
  · exact performs_pure _
  · exact performs_bind (performs_jobStep job _ _) fun _ => performs_pure _

theorem performs_createApplicationPool :
    (createApplicationPool job site p).Performs (Free H M) := by
  unfold createApplicationPool
  split
  · exact performs_pure _
  · exact performs_bind (performs_read trivial) fun _ =>
      performs_query_bind fun _ => performs_pure _

theorem performs_serve : (serve H job p).Performs (Free H M) :=
  performs_bind (performs_jobStep job _ _) fun _ =>
    performs_query_bind fun _ => performs_pure _

theorem performs_healthCheck : (healthCheck job p).Performs (Free H M) :=
  performs_bind (performs_jobStep job _ _) fun _ =>
    performs_query_bind fun _ =>
      performs_query_bind fun _ => performs_pure _

theorem performs_issueCertificate (domains : List String) :
    (issueCertificate H job site domains p).Performs (Free H M) := by
  refine performs_query_bind fun _ => ?_
  split
  · exact performs_bind (performs_clock trivial) fun _ =>
      performs_bind (performs_execute trivial) fun _ => performs_free_query _
  · exact performs_throw _

theorem performs_secure : (secure H job site p).Performs (Free H M) := by
  unfold secure
  split
  · exact performs_pure _
  · refine performs_bind (performs_jobStep job _ _) fun _ =>
      performs_bind (performs_draw trivial) fun _ =>
        performs_bind (performs_execute trivial) fun _ =>
          performs_bind (performs_attempt (performs_issueCertificate job site p _)) fun outcome => ?_
    cases outcome with
    | ok _ => exact performs_pure _
    | error fault => exact performs_bind (performs_execute trivial) fun _ => performs_pure _

theorem performs_provisioningStages :
    ∀ f ∈ provisioningStages H job site reuses, ∀ p, (f p).Performs (Free H M) := by
  intro f hf p
  simp only [provisioningStages, List.mem_cons, List.not_mem_nil, or_false] at hf
  rcases hf with rfl | rfl | rfl | rfl | rfl | rfl | rfl | rfl | rfl | rfl | rfl | rfl | rfl
  · exact performs_preflightRoot job site p reuses
  · exact performs_prepareDatabase job site p
  · exact performs_pure _
  · exact performs_createPhysicalDatabase job p
  · exact performs_prepareCms job site p
  · exact performs_install job site p reuses
  · exact performs_checkInstall job p
  · exact performs_startPool job p
  · exact performs_createApplicationPool job site p
  · exact performs_serve job p
  · exact performs_healthCheck job p
  · exact performs_secure job site p
  · exact performs_bind (performs_execute trivial) fun _ => performs_pure _

theorem performs_compensate : (compensate H job site reuses p).Performs (Free H M) := by
  have hpool : (removeNewPool job p).Performs (Free H M) := by
    unfold removeNewPool
    split
    · exact performs_ignoring (performs_query_bind fun _ => performs_pure _)
    · exact performs_pure _
  have hroot : (removeNewRoot job site reuses p).Performs (Free H M) := by
    unfold removeNewRoot
    split
    · exact performs_ignoring (performs_query_bind fun _ => performs_pure _)
    · exact performs_pure _
  have hdatabase : (removeNewDatabase p).Performs (Free H M) := by
    unfold removeNewDatabase
    split
    · refine performs_ignoring ?_
      split
      · exact performs_query_bind fun _ => performs_execute trivial
      · exact performs_execute trivial
    · exact performs_pure _
  exact performs_bind (performs_ignoring (performs_jobStep job _ _)) fun _ =>
    performs_bind hpool fun _ => performs_bind hroot fun _ => performs_bind hdatabase fun _ =>
      performs_ignoring (performs_free_query _)

theorem performs_runProvisioning : (runProvisioning H job site reuses p).Performs (Free H M) := by
  refine performs_bind (performs_stages (performs_provisioningStages job site reuses) p)
    fun outcome => ?_
  obtain ⟨fault, p⟩ := outcome
  cases fault with
  | none => exact performs_pure _
  | some fault =>
    exact performs_bind (performs_compensate job site p reuses) fun _ => performs_throw _

theorem performs_provisionDomainApplication :
    (provisionDomainApplication H job).Performs (Free H M) := by
  unfold provisionDomainApplication
  refine performs_query_bind fun _ => performs_query_bind fun _ => ?_
  refine performs_bind (performs_read trivial) fun db => ?_
  split
  · rename_i application parts _ _
    -- The unifier would evaluate the check.
    generalize hasRunningSharedApplicationRoot parts.domains application.filesRelPath
      (some job.domainId) = shared
    refine performs_query_bind fun reuses => ?_
    exact performs_query_bind fun _ => performs_runProvisioning job _ _ reuses
  · exact performs_throw _

theorem performs_provisioning : (provisioning H).Performs (Free H M) := by
  refine performs_bind (performs_takeJob trivial) fun taken => ?_
  cases taken with
  | none => exact performs_pure _
  | some job =>
    refine performs_bind (performs_attempt (performs_bind
      (performs_provisionDomainApplication job) fun _ => performs_free_operation _)) fun outcome => ?_
    cases outcome with
    | ok _ => exact performs_pure _
    | error fault => exact performs_bind (performs_ignoring (performs_execute trivial)) fun _ =>
        performs_free_operation _

end FreeCalls

/-! ## What the helpers compute -/

section Helpers

variable {H : Host} {M : ManifestHost} {db : Db} {siteId : String} {site : SiteWithParts}

theorem canonicalHostname_canonicalized {value hostname : String}
    (h : canonicalHostname H value = .ok hostname) : Canonicalized H hostname := by
  unfold canonicalHostname at h
  split at h
  · rename_i hcanonical
    cases h
    exact ⟨value, hcanonical⟩
  · exact absurd h (by simp)

theorem normalizeAliases_canonicalized {aliases normalized : List SiteAlias}
    (h : normalizeAliases H aliases = .ok normalized) :
    ∀ a ∈ normalized, Canonicalized H a.domain := by
  intro a ha
  obtain ⟨-, -, h⟩ := Failing.bind_eq_ok.mp h
  obtain ⟨found, hfnd, h⟩ := Failing.bind_eq_ok.mp h
  obtain ⟨-, -, h⟩ := Failing.bind_eq_ok.mp h
  cases h
  obtain ⟨source, -, hsrc⟩ := Failing.mem_mapM hfnd ha
  obtain ⟨domain, hdom, h⟩ := Failing.bind_eq_ok.mp hsrc
  cases h
  exact canonicalHostname_canonicalized hdom

theorem requireSite_read {caller : Caller}
    (h : requireSiteWithDomains db siteId caller = .ok site) : readSite db siteId = some site := by
  unfold requireSiteWithDomains at h
  split at h
  · exact absurd h (by simp)
  · rename_i found hfnd
    obtain ⟨-, h⟩ := Failing.unless_ok h
    cases h
    exact hfnd

theorem requireDomain_mem {domainId : String} {target : DomainRow}
    (h : requireDomain site domainId = .ok target) : target ∈ site.domains ∧ target.id = domainId := by
  unfold requireDomain at h
  split at h
  · exact absurd h (by simp)
  · rename_i found hfnd
    cases h
    exact ⟨List.mem_of_find?_eq_some hfnd, by simpa using List.find?_some hfnd⟩

/-- The domains of a site as it was read are rows of the table. -/
theorem mem_readSite (h : readSite db siteId = some site) {d : DomainRow} :
    d ∈ site.domains ↔ d ∈ db.siteDomain ∧ d.siteId = siteId := by
  obtain ⟨row, -, hsite⟩ := Option.map_eq_some_iff.mp h
  subst hsite
  rw [List.mem_insertionSort, Table.mem_findMany, beq_iff_eq]

/-- The target of a handler is a row that was read. -/
theorem mem_read {K : Set Db} {caller : Caller} {domainId : String} {target : DomainRow}
    (hsite : requireSiteWithDomains db siteId caller = .ok site)
    (htgt : requireDomain site domainId = .ok target) :
    ∃ db' ∈ K ∪ {db}, target ∈ db'.siteDomain :=
  ⟨db, .inr rfl, ((mem_readSite (requireSite_read hsite)).mp (requireDomain_mem htgt).1).1⟩

end Helpers

/-! ## The handlers of the domains -/

section Handlers

variable {H : Host} {M : ManifestHost} {K : Set Db}

/-- What `createDomain` inserts. -/
theorem newDomain_spec {site : SiteWithParts} {dto : CreateSiteDomainDto} {p : PreparedDomain}
    (hp : prepareDomain H site dto = .ok p) (tablePrefix id : String) :
    NewDomain H id (newDomain H site dto p tablePrefix id) := by
  obtain ⟨domain, hdom, hp⟩ := Failing.bind_eq_ok.mp hp
  obtain ⟨aliases, haliases, hp⟩ := Failing.bind_eq_ok.mp hp
  obtain ⟨filesRelPath, -, hp⟩ := Failing.bind_eq_ok.mp hp
  obtain ⟨reuses, -, hp⟩ := Failing.bind_eq_ok.mp hp
  obtain ⟨-, -, hp⟩ := Failing.bind_eq_ok.mp hp
  obtain ⟨-, -, hp⟩ := Failing.bind_eq_ok.mp hp
  cases hp
  exact ⟨rfl, rfl, canonicalHostname_canonicalized hdom, fun a ha =>
    normalizeAliases_canonicalized haliases a (mem_distinctAliases ha)⟩

variable (siteId : String)

theorem justified_createDomain (dto : CreateSiteDomainDto) (caller : Caller) :
    (SiteDomainsService.createDomain H siteId dto caller).Justified H M K := by
  refine justified_query_bind fun _ => justified_read_bind fun db =>
    justified_except_bind fun site _ => justified_except_bind fun p hp =>
      justified_bind (justified_begin caller _) fun operation => ?_
  split
  · exact justified_pure _
  · refine justified_bind (justified_operation _) fun _ =>
      justified_bind (justified_attempt ?_) fun outcome => ?_
    · refine justified_query_bind fun _ =>
        justified_bind (justified_forM (fun a => justified_query _) _) fun _ =>
          justified_query_bind fun _ =>
            justified_bind (justified_of_performs (performs_draw trivial)) fun secret =>
              justified_bind ⟨newDomain_spec hp _, fun _ => trivial⟩ fun id =>
                justified_bind (justified_operation _) fun _ =>
                  justified_bind (justified_operation _) fun _ =>
                    justified_bind ?_ fun _ =>
                      justified_bind (justified_of_performs (performs_spawn trivial)) fun _ =>
                        justified_of_performs (performs_settledReply siteId caller _ _)
      refine justified_bind (justified_attempt (justified_query _)) fun outcome => ?_
      cases outcome with
      | ok _ => exact justified_pure _
      | error fault => exact justified_bind (justified_execute trivial) fun _ => justified_throw _
    · cases outcome with
      | ok reply => exact justified_pure _
      | error fault => exact justified_bind (justified_operation _) fun _ => justified_throw _

/-- The hostname an update writes was canonicalised. -/
theorem prepareUpdate_domain {target : DomainRow} {dto : UpdateSiteDomainDto} {p : PreparedUpdate}
    (hp : prepareUpdate H target dto = .ok p) :
    ∀ domain, p.data.domain = some domain → Canonicalized H domain := by
  obtain ⟨changed, hch, hp⟩ := Failing.bind_eq_ok.mp hp
  obtain ⟨filesRelPath, -, hp⟩ := Failing.bind_eq_ok.mp hp
  obtain ⟨-, -, hp⟩ := Failing.bind_eq_ok.mp hp
  cases hp
  intro domain hdom
  cases hdom
  unfold changedDomain at hch
  split at hch
  · exact absurd hch (by simp)
  · obtain ⟨hostname, hhostname, hch⟩ := Failing.bind_eq_ok.mp hch
    split at hch
    · exact absurd hch (by simp [pure, Except.pure])
    · cases hch
      exact canonicalHostname_canonicalized hhostname

section Update

variable {site : SiteWithParts} {target : DomainRow} {certificate : Option SslCertificate}
  {p : PreparedUpdate}

theorem justified_updateStages (operationId : String) (ht : ∃ db ∈ K, target ∈ db.siteDomain)
    (hp : ∀ domain, p.data.domain = some domain → Canonicalized H domain) :
    ∀ f ∈ updateStages H siteId site target certificate p operationId, ∀ progress,
      (f progress).Justified H M K := by
  intro f hf progress
  simp only [updateStages, List.mem_cons, List.not_mem_nil, or_false] at hf
  rcases hf with rfl | rfl | rfl | rfl
  · unfold validateHostname
    split
    · exact justified_pure _
    · exact justified_query_bind fun _ => justified_query_bind fun _ =>
        justified_bind (justified_operation _) fun _ => justified_pure _
  · unfold applyPool
    split
    · exact justified_query_bind fun _ => justified_pure _
    · exact justified_pure _
  · exact justified_bind (justified_execute ⟨ht, hp⟩) fun _ => justified_pure _
  · exact justified_query_bind fun _ => justified_pure _

theorem performs_restorePools (progress : UpdateProgress) :
    (restorePools H site target certificate p progress).Performs (Free H M) := by
  have hold : (restoreOldPool H site target certificate).Performs (Free H M) := by
    unfold restoreOldPool
    split
    · exact performs_pure _
    · exact performs_collect (performs_free_query _)
  have hnew : (cleanUpNewPool H target p).Performs (Free H M) := by
    unfold cleanUpNewPool
    split
    · exact performs_pure _
    · split
      · exact performs_pure _
      · exact performs_collect (performs_free_query _)
  unfold restorePools
  split
  · exact performs_pure _
  · exact performs_bind hold fun _ => performs_bind hnew fun _ => performs_pure _

theorem performs_restoreRoutingIf (applied : Bool) (nginx : String) :
    (restoreRoutingIf H siteId applied nginx).Performs (Free H M) := by
  unfold restoreRoutingIf
  split
  · exact performs_restoreRouting siteId nginx
  · exact performs_pure _

theorem justified_rollbackUpdate (ht : ∃ db ∈ K, target ∈ db.siteDomain)
    (progress : UpdateProgress) :
    (rollbackUpdate H siteId site target certificate p progress).Justified H M K := by
  refine justified_bind ?_ fun _ => justified_bind
    (justified_of_performs (performs_restorePools progress)) fun _ => justified_bind
      (justified_of_performs (performs_restoreRoutingIf siteId _ _)) fun _ => justified_pure _
  unfold restoreMetadata
  split
  · exact justified_pure _
  · exact justified_collect (justified_execute ht)

end Update

theorem justified_runUpdateDomain {siteId operationId : String} {caller : Caller}
    {site : SiteWithParts} {target : DomainRow} {certificate : Option SslCertificate}
    {p : PreparedUpdate} (ht : ∃ db ∈ K, target ∈ db.siteDomain)
    (hp : ∀ domain, p.data.domain = some domain → Canonicalized H domain) :
    (runUpdateDomain H siteId site target certificate p operationId caller).Justified H M K := by
  refine justified_bind (justified_operation _) fun _ =>
    justified_bind (justified_stages (justified_updateStages siteId operationId ht hp) _)
      fun outcome => ?_
  obtain ⟨fault, progress⟩ := outcome
  cases fault with
  | some fault =>
    exact justified_bind (justified_rollbackUpdate siteId ht progress) fun _ =>
      justified_failAndThrow operationId _
  | none =>
    refine justified_bind ?_ fun _ => justified_bind (justified_operation _) fun _ =>
      justified_of_performs (performs_settledReply siteId caller operationId _)
    unfold removeOldPool
    split
    · split
      · exact justified_pure _
      · refine justified_query_bind fun connected => ?_
        split
        · exact justified_ignoring (justified_query_bind fun _ => justified_pure _)
        · exact justified_pure _
    · exact justified_pure _

theorem justified_updateDomain (domainId : String) (dto : UpdateSiteDomainDto) (caller : Caller) :
    (SiteDomainsService.updateDomain H siteId domainId dto caller).Justified H M K := by
  refine justified_read_bind fun db => justified_except_bind fun site hsite =>
    justified_except_bind fun target htgt => justified_query_bind fun _ =>
      justified_except_bind fun p hp => justified_query_bind fun _ => justified_query_bind fun _ =>
        justified_bind (justified_begin caller _) fun operation => ?_
  split
  · exact justified_pure _
  · exact justified_runUpdateDomain (mem_read hsite htgt) (prepareUpdate_domain hp)

theorem justified_rollbackOrdering {siteId : String} {site : SiteWithParts}
    (hsite : ∃ db ∈ K, ∃ siteId, readSite db siteId = some site) (metadataApplied : Bool) :
    (rollbackOrdering H siteId site metadataApplied).Justified H M K := by
  obtain ⟨db, hdb, siteId', hread⟩ := hsite
  unfold rollbackOrdering
  split
  · exact justified_pure _
  · refine justified_bind (justified_collect (justified_execute ?_)) fun _ =>
      justified_bind (justified_collect (justified_query _)) fun _ =>
        justified_bind (justified_of_performs (performs_restoreRouting siteId _)) fun _ =>
          justified_pure _
    exact ⟨db, hdb, siteId', site, hread, .inl rfl⟩

theorem justified_makePrimary (domainId : String) (caller : Caller) :
    (SiteDomainsService.makePrimary H siteId domainId caller).Justified H M K := by
  refine justified_read_bind fun db => justified_except_bind fun site hsite =>
    justified_except_bind fun target htgt => ?_
  have hread : ∃ db' ∈ K ∪ {db}, ∃ siteId, readSite db' siteId = some site :=
    ⟨db, .inr rfl, siteId, requireSite_read hsite⟩
  split
  · exact justified_query_bind fun _ => justified_pure _
  · refine justified_query_bind fun _ => justified_query_bind fun _ =>
      justified_bind (justified_begin caller _) fun operation => ?_
    split
    · exact justified_pure _
    · refine justified_bind (justified_operation _) fun _ =>
        justified_bind (justified_stages ?_ _) fun outcome => ?_
      · intro f hf progress
        simp only [List.mem_cons, List.not_mem_nil, or_false] at hf
        rcases hf with rfl | rfl
        · refine justified_bind (justified_execute ?_) fun _ => justified_pure _
          exact ⟨db, .inr rfl, siteId, site, requireSite_read hsite,
            .inr ⟨target, (requireDomain_mem htgt).1, rfl⟩⟩
        · exact justified_bind (justified_operation _) fun _ => justified_query_bind fun _ =>
            justified_bind (justified_operation _) fun _ => justified_pure _
      · obtain ⟨fault, metadataApplied⟩ := outcome
        cases fault with
        | some fault =>
          exact justified_bind (justified_rollbackOrdering hread metadataApplied) fun _ =>
            justified_failAndThrow operation.id _
        | none =>
          refine justified_bind (justified_attempt
            (justified_of_performs (performs_settledReply siteId caller _ _))) fun reply => ?_
          cases reply with
          | ok reply => exact justified_pure _
          | error fault =>
            exact justified_bind (justified_rollbackOrdering hread metadataApplied) fun _ =>
              justified_failAndThrow operation.id _

section Aliases

variable {siteId : String} {site : SiteWithParts} {target : DomainRow} {aliases : List SiteAlias}

theorem justified_commitAliases (operationId : String) (ht : ∃ db ∈ K, target ∈ db.siteDomain)
    (haliases : ∀ a ∈ aliases, Canonicalized H a.domain) (metadataApplied : Bool) :
    (commitAliases H site target aliases operationId metadataApplied).Justified H M K := by
  obtain ⟨db, hdb, ht⟩ := ht
  refine justified_bind (justified_forM (fun a => justified_query _) _) fun _ =>
    justified_query_bind fun _ => justified_bind (justified_operation _) fun _ =>
      justified_bind (justified_execute ?_) fun _ => justified_pure _
  exact ⟨db, hdb, target, ht, rfl, rfl, .inr fun a ha => haliases a (mem_distinctAliases ha)⟩

theorem justified_rollbackAliases (ht : ∃ db ∈ K, target ∈ db.siteDomain)
    (metadataApplied : Bool) :
    (rollbackAliases H siteId target metadataApplied).Justified H M K := by
  obtain ⟨db, hdb, ht⟩ := ht
  unfold rollbackAliases
  split
  · exact justified_pure _
  · refine justified_bind (justified_collect (justified_execute ?_)) fun _ =>
      justified_bind (justified_of_performs (performs_restoreRouting siteId _)) fun _ =>
        justified_pure _
    exact ⟨db, hdb, target, ht, rfl, rfl, .inl rfl⟩

end Aliases

theorem justified_updateAliases (domainId : String) (requested : List SiteAlias) (caller : Caller) :
    (SiteDomainsService.updateAliases H siteId domainId requested caller).Justified H M K := by
  refine justified_read_bind fun db => justified_except_bind fun site hsite =>
    justified_except_bind fun target htgt => justified_query_bind fun _ =>
      justified_query_bind fun _ => justified_except_bind fun aliases haliases =>
        justified_bind (justified_begin caller _) fun operation => ?_
  have ht : ∃ db' ∈ K ∪ {db}, target ∈ db'.siteDomain := mem_read hsite htgt
  split
  · exact justified_pure _
  · refine justified_bind (justified_operation _) fun _ =>
      justified_bind (justified_stages ?_ _) fun outcome => ?_
    · intro f hf progress
      simp only [List.mem_cons, List.not_mem_nil, or_false] at hf
      rcases hf with rfl | rfl
      · exact justified_commitAliases operation.id ht (normalizeAliases_canonicalized haliases) _
      · exact justified_bind (justified_operation _) fun _ => justified_query_bind fun _ =>
          justified_bind (justified_operation _) fun _ => justified_pure _
    · obtain ⟨fault, metadataApplied⟩ := outcome
      cases fault with
      | some fault =>
        exact justified_bind (justified_rollbackAliases ht metadataApplied) fun _ =>
          justified_failAndThrow operation.id _
      | none =>
        refine justified_bind (justified_attempt
          (justified_of_performs (performs_settledReply siteId caller _ _))) fun reply => ?_
        cases reply with
        | ok reply => exact justified_pure _
        | error fault =>
          exact justified_bind (justified_rollbackAliases ht metadataApplied) fun _ =>
            justified_failAndThrow operation.id _

section Delete

variable {site : SiteWithParts} {target : DomainRow} {databases : List DatabaseRow}
  {certificate : Option SslCertificate} {dto : DeleteSiteDomainDto}

theorem performs_removalStages (operationId : String) :
    ∀ f ∈ removalStages H siteId site target databases certificate dto operationId, ∀ r,
      (f r).Performs (Free H M) := by
  have hcont : ∀ f ∈ (if dto.deleteApplicationFiles then
      [snapshotApplication site target databases operationId]
      else if dto.deleteOwnedDatabases then databases.map exportDatabase else []), ∀ r,
        (f r).Performs (Free H M) := by
    intro f hf r
    split at hf
    · rw [List.mem_singleton.mp hf]
      refine performs_query_bind fun response => ?_
      split
      · exact performs_pure _
      · exact performs_throw _
    · split at hf
      · obtain ⟨d, -, rfl⟩ := List.mem_map.mp hf
        refine performs_query_bind fun response => ?_
        split
        · exact performs_pure _
        · exact performs_throw _
      · exact absurd hf List.not_mem_nil
  have hdrops : ∀ f ∈ (if dto.deleteOwnedDatabases then databases.map dropDatabase else []), ∀ r,
      (f r).Performs (Free H M) := by
    intro f hf r
    split at hf
    · obtain ⟨d, -, rfl⟩ := List.mem_map.mp hf
      exact performs_query_bind fun _ => performs_pure _
    · exact absurd hf List.not_mem_nil
  have hfiles : ∀ f ∈ (if dto.deleteApplicationFiles then [deleteFiles site target operationId]
      else []), ∀ r, (f r).Performs (Free H M) := by
    intro f hf r
    split at hf
    · rw [List.mem_singleton.mp hf]
      exact performs_query_bind fun _ => performs_pure _
    · exact absurd hf List.not_mem_nil
  intro f hf r
  simp only [removalStages, List.mem_append, List.mem_cons, List.not_mem_nil, or_false] at hf
  rcases hf with ((((hf | hf) | hf) | hf) | hf) | hf
  · rcases hf with rfl | rfl
    · exact performs_query_bind fun _ => performs_pure _
    · exact performs_query_bind fun _ => performs_bind (performs_free_operation _) fun _ =>
        performs_pure _
  · exact hcont f hf r
  · rw [hf]
    refine performs_bind (performs_free_operation _) fun _ => ?_
    split
    · exact performs_pure _
    · exact performs_query_bind fun _ => performs_pure _
  · exact hdrops f hf r
  · exact hfiles f hf r
  · rcases hf with rfl | rfl
    · refine performs_bind (performs_free_operation _) fun _ => ?_
      split
      · exact performs_throw _
      · exact performs_bind (performs_clock trivial) fun _ =>
          performs_bind (performs_execute trivial) fun _ => performs_pure _
    · unfold revokeCertificate
      split
      · exact performs_bind (performs_ignoring (performs_query_bind fun _ => performs_pure _))
          fun _ => performs_pure _
      · exact performs_pure _

theorem performs_collectEach {α : Type} {f : α → Call (List String)}
    (h : ∀ a, (f a).Performs (Free H M)) (as : List α) :
    (collectEach f as).Performs (Free H M) := by
  induction as with
  | nil => exact performs_pure _
  | cons a as ih => exact performs_bind (h a) fun _ => performs_bind ih fun _ => performs_pure _

theorem performs_rollbackDeletion (r : Removal) :
    (rollbackDeletion H siteId site target databases certificate r).Performs (Free H M) := by
  have hdatabase : ∀ d, (recreateDatabase H target d).Performs (Free H M) := by
    intro d
    unfold recreateDatabase
    split
    · exact performs_pure _
    · exact performs_collect (performs_free_query _)
  have himport : ∀ d, (importDatabase H target r d).Performs (Free H M) := by
    intro d
    unfold importDatabase
    split
    · exact performs_pure _
    · exact performs_collect (performs_free_query _)
  have hcont : (restoreContent H target databases r).Performs (Free H M) := by
    unfold restoreContent
    split
    · exact performs_collect (performs_free_query _)
    · exact performs_collectEach himport _
  have hpool : (restorePool H site target certificate r).Performs (Free H M) := by
    unfold restorePool
    split
    · exact performs_collect (performs_free_query _)
    · exact performs_pure _
  exact performs_bind (performs_collectEach hdatabase _) fun _ =>
    performs_bind hcont fun _ => performs_bind hpool fun _ =>
      performs_bind (performs_collect (performs_execute trivial)) fun _ =>
        performs_bind (performs_restoreRoutingIf siteId _ _) fun _ => performs_pure _

theorem performs_settleDeletion {α : Type} (operationId : String) (fault : Fault)
    (rollbackErrors : List String) :
    Call.Performs (Free H M)
      (settleDeletion H target operationId fault rollbackErrors : Call α) := by
  unfold settleDeletion
  split
  · exact performs_failAndThrow (fun _ => trivial) operationId fault
  · exact performs_bind (performs_ignoring (performs_free_operation _)) fun _ =>
      performs_bind (performs_ignoring (performs_execute trivial)) fun _ => performs_throw _

theorem performs_runDeleteDomain (operationId : String) (caller : Caller) :
    (runDeleteDomain H siteId site target databases certificate dto operationId caller).Performs
      (Free H M) := by
  refine performs_bind (performs_free_operation _) fun _ =>
    performs_bind (performs_execute trivial) fun _ =>
      performs_bind (performs_stages (performs_removalStages siteId operationId) _)
        fun outcome => ?_
  obtain ⟨fault, r⟩ := outcome
  cases fault with
  | none => exact performs_settledReply siteId caller operationId _
  | some fault =>
    dsimp only
    split
    · exact performs_throw _
    · exact performs_bind (performs_rollbackDeletion siteId r) fun errors =>
        performs_settleDeletion operationId fault errors

end Delete

theorem justified_deleteDomain (domainId : String) (dto : DeleteSiteDomainDto) (caller : Caller) :
    (SiteDomainsService.deleteDomain H siteId domainId dto caller).Justified H M K := by
  refine justified_read_bind fun db => justified_except_bind fun site _ =>
    justified_except_bind fun target _ => justified_read_bind fun seen =>
      justified_except_bind fun _ _ => justified_query_bind fun _ => justified_query_bind fun _ =>
        justified_except_bind fun _ _ =>
          justified_bind (justified_begin caller _) fun operation => ?_
  split
  · exact justified_pure _
  · exact justified_of_performs (performs_runDeleteDomain siteId operation.id caller)

section Restore

variable {db : Db} {backup : RestorePoint}

theorem requireBackup_spec {backupId : String} {caller : Caller} {site : SiteWithParts}
    (h : requireBackup backupId caller db = .ok (backup, site)) :
    backup ∈ db.backup ∧ readSite db backup.siteId = some site := by
  unfold requireBackup at h
  split at h
  · exact absurd h (by simp)
  · rename_i found hfnd
    split at h
    · exact absurd h (by simp)
    · rename_i read hread
      obtain ⟨-, h⟩ := Failing.unless_ok h
      obtain ⟨-, h⟩ := Failing.unless_ok h
      cases h
      exact ⟨(Table.mem_of_find? hfnd).1, hread⟩

theorem storedManifest_spec {m : SiteBackupManifest}
    (h : storedManifest H M backup = .ok (some m)) :
    ∃ manifest, backup.manifest = some manifest ∧
      normalizeSiteBackupManifest H M manifest = .ok m := by
  unfold storedManifest at h
  split at h
  · exact absurd h (by simp)
  · rename_i manifest hman
    split at h
    · rename_i normalized hnormalized
      cases h
      exact ⟨manifest, hman, hnormalized⟩
    · exact absurd h (by simp)

/-- The context of a new restore was planned. -/
theorem newContext_from {site : SiteWithParts} {manifest : Option SiteBackupManifest}
    {exactMapping : Bool} {allDomains : List DomainRow} {plan : Option ExactRestorePlan}
    (hsite : readSite db backup.siteId = some site)
    (hman : storedManifest H M backup = .ok manifest)
    (hplan : exactPlan H M site manifest exactMapping allDomains = .ok plan)
    (operationId restoreId : String) (now : Time) :
    ContextFrom H M db backup
      (newContext M manifest operationId exactMapping plan restoreId now) := by
  cases plan with
  | none => exact .inr (.inl rfl)
  | some plan =>
    unfold exactPlan at hplan
    split at hplan
    · rename_i m
      obtain ⟨planned, hplanned, heq⟩ := Failing.map_eq_ok.mp hplan
      cases heq
      obtain ⟨raw, hraw, hm⟩ := storedManifest_spec hman
      exact .inr (.inr ⟨site, raw, m, plan, allDomains, hsite, hraw, hm, hplanned, rfl, rfl⟩)
    · exact absurd hplan (by simp)

theorem justified_restoreBackup (backupId : String) (request : RestoreRequest) (caller : Caller) :
    (BackupsService.restoreBackup H M backupId request caller).Justified H M K := by
  refine justified_read_bind fun db => justified_except_bind fun found hfnd => ?_
  obtain ⟨backup, site⟩ := found
  obtain ⟨hbk, hsite⟩ := requireBackup_spec hfnd
  refine justified_except_bind fun manifest hman =>
    justified_bind (justified_begin caller _) fun operation => ?_
  split
  · exact justified_pure _
  refine justified_bind (justified_attempt ?_) fun slot => ?_
  · unfold assertRestoreSlotAvailable
    split
    · exact justified_pure _
    · exact justified_read_bind fun _ => justified_query_bind fun _ =>
        justified_bind (justified_of_performs (performs_clock trivial)) fun _ =>
          justified_query_bind fun _ => justified_execute trivial
  · cases slot with
    | error fault => exact justified_bind (justified_operation _) fun _ => justified_throw _
    | ok _ =>
      refine justified_bind (justified_operation _) fun _ =>
        justified_bind (justified_stages ?_ _) fun outcome => ?_
      · intro f hf restoreId
        simp only [List.mem_cons, List.not_mem_nil, or_false] at hf
        rcases hf with rfl | rfl
        · refine justified_read_bind fun later => justified_except_bind fun plan hplan =>
            justified_except_bind fun _ _ =>
              justified_bind (justified_of_performs (performs_draw trivial)) fun drawn =>
                justified_bind (justified_of_performs (performs_clock trivial)) fun now =>
                  justified_bind (justified_execute ?_) fun _ => justified_pure _
          exact ⟨db, .inl (.inr rfl), backup, hbk, rfl,
            newContext_from hsite hman hplan _ _ now⟩
        · refine justified_bind (justified_operation _) fun _ => ?_
          split
          · exact justified_throw _
          · exact justified_query_bind fun _ => justified_pure _
      · obtain ⟨fault, restoreId⟩ := outcome
        cases fault with
        | none => exact justified_pure _
        | some fault =>
          dsimp only
          split
          · exact justified_bind (justified_ignoring (justified_execute trivial)) fun _ =>
              justified_bind (justified_operation _) fun _ => justified_throw _
          · exact justified_bind (justified_operation _) fun _ => justified_throw _

variable {context : RestoreContext}

theorem currentRestore_spec {backupId restoreId : String}
    (h : currentRestore db backupId restoreId = some (backup, context)) :
    backup ∈ db.backup ∧ backup.restoreContext = some context := by
  unfold currentRestore at h
  split at h
  · exact absurd h (by simp)
  · rename_i found hfnd
    split at h
    · exact absurd h (by simp)
    · rename_i stored hsto
      split at h
      · cases h
        exact ⟨(Table.mem_of_find? hfnd).1, hsto⟩
      · exact absurd h (by simp)

theorem justified_updateRestoreProgress (backupId restoreId : String) (progress : Int) :
    (BackupsService.updateRestoreProgress backupId restoreId progress).Justified H M K := by
  refine justified_read_bind fun db => ?_
  split
  · exact justified_pure _
  · exact justified_ignoring (justified_operation _)

section Completion

variable (hctx : ∃ db ∈ K, backup ∈ db.backup ∧
  backup.restoreContext = some context)

include hctx

theorem justified_writePhase (phase : RestorePhase) :
    (writePhase backup context phase).Justified H M K := by
  obtain ⟨db, hdb, hbk, hsto⟩ := hctx
  exact justified_execute ⟨db, hdb, backup, hbk, rfl, .inl ⟨context, hsto, rfl⟩⟩

/-- A manifest that is applied was parsed under the stored context. -/
theorem justified_applyMapping {m : SiteBackupManifest}
    (hm : ∃ manifest rollback, backup.manifest = some manifest ∧
      context.rollbackManifest = some rollback ∧
        (normalizeSiteBackupManifest H M manifest = .ok m ∨
          normalizeSiteBackupManifest H M rollback = .ok m)) :
    (execute (.applyManifestMapping backup.siteId m context)).Justified H M K := by
  obtain ⟨db, hdb, hbk, hsto⟩ := hctx
  exact justified_execute ⟨db, hdb, backup, hbk, rfl, hsto, hm⟩

end Completion

theorem parseManifests_spec {restored rollback : SiteBackupManifest}
    (h : parseManifests H M backup context = .ok (restored, rollback)) :
    ∃ manifest previous, backup.manifest = some manifest ∧
      context.rollbackManifest = some previous ∧
        normalizeSiteBackupManifest H M manifest = .ok restored ∧
          normalizeSiteBackupManifest H M previous = .ok rollback := by
  unfold parseManifests at h
  split at h
  · rename_i manifest previous hman hprev
    obtain ⟨first, hfirst, h⟩ := Failing.bind_eq_ok.mp h
    obtain ⟨second, hsnd, h⟩ := Failing.bind_eq_ok.mp h
    split at h
    · exact absurd h (by simp [throw, throwThe, MonadExceptOf.throw, bind, Except.bind])
    · cases h
      exact ⟨manifest, previous, hman, hprev, hfirst, hsnd⟩
  · exact absurd h (by simp)

/-- The manifests of the `try` block were parsed. -/
def Finalisation.Parsed (H : Host) (M : ManifestHost) (backup : RestorePoint)
    (context : RestoreContext) (f : Finalisation) : Prop :=
  ∀ restored rollback, f.manifests = some (restored, rollback) →
    parseManifests H M backup context = .ok (restored, rollback)

theorem justified_finalisationStages
    (hctx : ∃ db ∈ K, backup ∈ db.backup ∧ backup.restoreContext = some context) :
    ∀ f ∈ finalisationStages H M backup context, ∀ progress,
      Finalisation.Parsed H M backup context progress → (f progress).Justified H M K ∧
        (f progress).Returns (Finalisation.Parsed H M backup context) := by
  intro f hf progress hprs
  simp only [finalisationStages, List.mem_cons, List.not_mem_nil, or_false] at hf
  rcases hf with rfl | rfl | rfl | rfl
  · constructor
    · refine justified_bind (justified_operation _) fun _ => ?_
      split
      · exact justified_except_bind fun manifests _ =>
          justified_bind (justified_writePhase hctx _) fun _ => justified_pure _
      · exact justified_pure _
    · refine returns_bind (returns_any _) fun _ _ => ?_
      split
      · refine returns_bind (returns_except (Q := fun manifests =>
          parseManifests H M backup context = .ok manifests) fun manifests h => h)
            fun manifests hmans => returns_bind (returns_any _) fun _ _ => returns_pure ?_
        intro restored rollback heq
        rw [hmans, Option.some.inj heq]
      · exact returns_pure hprs
  · unfold applyMetadata
    split
    · exact ⟨justified_pure _, returns_pure hprs⟩
    · rename_i restored rollback hmans
      obtain ⟨manifest, previous, hman, hprev, hrest, -⟩ :=
        parseManifests_spec (hprs restored rollback hmans)
      refine ⟨justified_bind (justified_applyMapping hctx
        ⟨manifest, previous, hman, hprev, .inl hrest⟩) fun _ => justified_pure _, ?_⟩
      exact returns_bind (returns_any _) fun _ _ => returns_pure hprs
  · constructor
    · refine justified_bind (justified_writePhase hctx _) fun _ =>
        justified_bind (justified_operation _) fun _ => justified_query_bind fun _ => ?_
      split
      · exact justified_pure _
      · exact justified_query_bind fun _ => justified_pure _
    · refine returns_bind (returns_any _) fun _ _ => returns_bind (returns_any _) fun _ _ =>
        returns_bind (returns_any _) fun _ _ => ?_
      split
      · exact returns_pure hprs
      · exact returns_bind (returns_any _) fun _ _ => returns_pure hprs
  · exact ⟨justified_bind (justified_operation _) fun _ =>
        justified_bind (justified_execute trivial) fun _ => justified_pure _,
      returns_bind (returns_any _) fun _ _ => returns_bind (returns_any _) fun _ _ =>
        returns_pure hprs⟩

theorem justified_rollbackRestore {f : Finalisation}
    (hctx : ∃ db ∈ K, backup ∈ db.backup ∧ backup.restoreContext = some context)
    (hprs : Finalisation.Parsed H M backup context f) :
    (rollbackRestore H backup context f).Justified H M K := by
  unfold rollbackRestore
  split
  · rename_i restored rollback _ hmans
    obtain ⟨manifest, previous, hman, hprev, -, hrb⟩ :=
      parseManifests_spec (hprs restored rollback hmans)
    refine justified_bind (justified_attempt ?_) fun outcome => ?_
    · exact justified_bind (justified_writePhase hctx _) fun _ =>
        justified_bind (justified_applyMapping hctx
          ⟨manifest, previous, hman, hprev, .inr hrb⟩) fun _ =>
            justified_query_bind fun _ => justified_query _
    · cases outcome with
      | ok _ => exact justified_pure _
      | error failure =>
        exact justified_bind (justified_ignoring (justified_writePhase hctx _)) fun _ =>
          justified_pure _
  · exact justified_pure _

theorem justified_completeRestore (data : RestoreCompletion) :
    (BackupsService.completeRestore H M data).Justified H M K := by
  refine justified_read_bind fun db => ?_
  unfold completeRestoreOn
  split
  · exact justified_pure _
  rename_i backup context hfnd
  have hctx : ∃ db' ∈ K ∪ {db}, backup ∈ db'.backup ∧ backup.restoreContext = some context :=
    ⟨db, .inr rfl, currentRestore_spec hfnd⟩
  unfold finaliseRestore
  split
  · exact justified_bind (justified_operation _) fun _ =>
      justified_bind (justified_execute trivial) fun _ => justified_pure _
  · have hstages := justified_finalisationStages (H := H) (M := M) hctx
    have hsta : Finalisation.Parsed H M backup context ⟨none, false⟩ := fun _ _ h => nomatch h
    refine justified_bind_returns (justified_stages_keeping hstages hsta)
      (returns_stages (fun f hf progress hJ => (hstages f hf progress hJ).2) hsta)
        fun outcome hprs => ?_
    obtain ⟨fault, f⟩ := outcome
    cases fault with
    | none => exact justified_pure _
    | some fault =>
      refine justified_bind (justified_rollbackRestore hctx hprs) fun rollbackError =>
        justified_bind (justified_operation _) fun _ => ?_
      split
      · exact justified_bind (justified_execute trivial) fun _ => justified_pure _
      · exact justified_pure _

end Restore

/-! ### Deploys -/

theorem performs_beginDeploy (domainId : String) (caller : Caller) (kind : DeployKind) :
    (beginDeploy H siteId domainId caller kind).Performs (Free H M) := by
  refine performs_bind (performs_begin trivial (fun _ => trivial) _) fun operation => ?_
  split
  · refine performs_bind (performs_read trivial) fun db => ?_
    split
    · exact performs_throw _
    · exact performs_pure _
  refine performs_bind (performs_free_operation _) fun _ =>
    performs_bind (performs_attempt ?_) fun outcome => ?_
  · refine performs_bind (performs_read trivial) fun db => performs_query_bind fun found => ?_
    obtain ⟨site, domain⟩ := found
    exact performs_query_bind fun _ => performs_query_bind fun _ =>
      performs_bind (performs_draw trivial) fun _ => performs_bind (performs_clock trivial) fun _ =>
        performs_bind (performs_execute trivial) fun _ => performs_query_bind fun _ =>
          performs_bind (performs_free_operation _) fun _ => performs_pure _
  · cases outcome with
    | ok log => exact performs_pure _
    | error fault =>
      exact performs_bind (performs_ignoring (performs_bind (performs_clock trivial) fun _ =>
        performs_execute trivial)) fun _ =>
          performs_bind (performs_ignoring (performs_execute trivial)) fun _ =>
            performs_failAndThrow (fun _ => trivial) operation.id fault

theorem performs_triggerDeploy (domainId : String) (branch : Option String) (caller : Caller) :
    (DeployService.triggerDeploy H siteId domainId branch caller).Performs (Free H M) := by
  refine performs_bind (performs_read trivial) fun db => performs_query_bind fun found => ?_
  obtain ⟨site, domain⟩ := found
  exact performs_beginDeploy siteId domainId caller _

theorem performs_rollbackDeploy (domainId deployId : String) (caller : Caller) :
    (DeployService.rollbackDeploy H siteId domainId deployId caller).Performs (Free H M) := by
  refine performs_bind (performs_read trivial) fun db => performs_query_bind fun _ =>
    performs_bind (performs_read trivial) fun seen => performs_query_bind fun found => ?_
  obtain ⟨deploy, commitSha⟩ := found
  exact performs_beginDeploy siteId domainId caller _

theorem free_of_deploy {i : Instr} (h : DeployInstr i) : Free H M i := by
  cases h <;> trivial

theorem justified_settled {α : Type} {c : Call α} (h : c.Justified H M K) :
    c.settled.Justified teaches (Warranted H M) K :=
  Prog.justified_bind (warranted_growing H M) h fun _ => trivial

/-- **Every service method writes what its arguments warrant.** -/
theorem warranted_program (request : SiteRequest) :
    ((service H M).program request).Justified teaches (Warranted H M) ∅ := by
  cases request with
  | createDomain siteId dto caller => exact justified_settled (justified_createDomain siteId dto caller)
  | updateDomain siteId domainId dto caller =>
    exact justified_settled (justified_updateDomain siteId domainId dto caller)
  | makePrimary siteId domainId caller =>
    exact justified_settled (justified_makePrimary siteId domainId caller)
  | updateAliases siteId domainId aliases caller =>
    exact justified_settled (justified_updateAliases siteId domainId aliases caller)
  | deleteDomain siteId domainId dto caller =>
    exact justified_settled (justified_deleteDomain siteId domainId dto caller)
  | provisioning => exact justified_settled (justified_of_performs performs_provisioning)
  | restoreBackup backupId request caller =>
    exact justified_settled (justified_restoreBackup backupId request caller)
  | updateRestoreProgress backupId restoreId progress =>
    exact justified_settled (justified_updateRestoreProgress backupId restoreId progress)
  | completeRestore data => exact justified_settled (justified_completeRestore data)
  | triggerDeploy siteId domainId branch caller =>
    exact justified_settled (justified_of_performs (performs_triggerDeploy siteId domainId branch caller))
  | rollbackDeploy siteId domainId deployId caller =>
    exact justified_settled
      (justified_of_performs (performs_rollbackDeploy siteId domainId deployId caller))
  | deploy event =>
    refine justified_settled (Prog.justified_of_issues (fun K i hi => ?_) (performs_program H event))
    exact warranted_growing H M (Set.empty_subset K) (free_of_deploy hi)
  | operations request => exact justified_settled (justified_operation _)

end Handlers

end Meowbox.Sites
