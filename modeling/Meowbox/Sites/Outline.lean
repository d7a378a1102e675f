import Meowbox.Sites.Panel

/-!
# What a statement leaves of the domains

The names, the places and the owners of the domains are all that the registry and the order of the
domains depend on. Most statements leave them alone; none gives a domain another id or another site.

* `run_outline`: the statements that leave names, places, claims and backups alone.
* `run_carried`: no statement makes a domain, moves one to another site or touches a backup, but for
  `setRestoreContext`.
-/

namespace Meowbox.Sites

open Relational Operations Backups Failing

variable {H : Host} {db db' db'' : Db}

/-! ## `siteDomain.update` -/

variable {domainId : String}

/-- **What `siteDomain.update` does**: the row with the id is there and takes the data. -/
theorem patchDomain_spec {data : DomainRow → DomainRow}
    (h : db.patchDomain domainId data = .ok db') :
    (∃ d ∈ db.siteDomain, d.id = domainId) ∧
      db'.siteDomain.rows = db.siteDomain.rows.map (Table.patch (fun d => d.id == domainId) data) ∧
        db' = { db with siteDomain := db'.siteDomain } := by
  unfold Db.patchDomain at h
  split at h
  · exact absurd h (by simp)
  · rename_i found hfnd
    obtain ⟨hmem, hid⟩ := Table.mem_of_find? hfnd
    obtain ⟨siteDomain, hmodify, h⟩ := bind_eq_ok.mp h
    cases h
    refine ⟨⟨found, hmem, beq_iff_eq.mp hid⟩, ?_, rfl⟩
    unfold unique at hmodify
    split at hmodify
    · rename_i hsome
      cases hmodify
      exact Table.modify?_rows hsome
    · exact absurd hmodify (by simp)

/-! ## Names, places and owners -/

structure DomainEntry where
  id : String
  siteId : String
  domain : String
  aliases : List SiteAlias
  isPrimary : Bool
  position : Int

def DomainRow.entry (d : DomainRow) : DomainEntry :=
  ⟨d.id, d.siteId, d.domain, d.aliases, d.isPrimary, d.position⟩

/-- Names, places, claims and backups are as they were. -/
structure SameOutline (db db' : Db) : Prop where
  entries : db'.siteDomain.rows.map DomainRow.entry = db.siteDomain.rows.map DomainRow.entry
  claims : db'.hostnameClaim = db.hostnameClaim
  backups : db'.backup = db.backup

theorem SameOutline.refl (db : Db) : SameOutline db db := ⟨rfl, rfl, rfl⟩

theorem SameOutline.trans (h : SameOutline db db') (h' : SameOutline db' db'') :
    SameOutline db db'' :=
  ⟨h'.entries.trans h.entries, h'.claims.trans h.claims, h'.backups.trans h.backups⟩

theorem map_patch_entry {p : DomainRow → Bool} {f : DomainRow → DomainRow}
    (hf : ∀ d, (f d).entry = d.entry) (rows : List DomainRow) :
    (rows.map (Table.patch p f)).map DomainRow.entry = rows.map DomainRow.entry := by
  rw [List.map_map]
  refine List.map_congr_left fun d _ => ?_
  simp only [Function.comp_apply, Table.patch]
  split
  · exact hf d
  · rfl

theorem patchDomain_outline {data : DomainRow → DomainRow}
    (h : db.patchDomain domainId data = .ok db') (hdata : ∀ d, (data d).entry = d.entry) :
    SameOutline db db' := by
  obtain ⟨-, hrows, heq⟩ := patchDomain_spec h
  refine ⟨?_, ?_, ?_⟩
  · rw [hrows, map_patch_entry hdata]
  · rw [heq]
  · rw [heq]

theorem claimAppStatus_outline (domainId : String) (expected : List AppStatus)
    (appStatus : AppStatus) (appErrorMessage : Option String) :
    SameOutline db (claimAppStatus db domainId expected appStatus appErrorMessage).1 := by
  refine ⟨?_, rfl, rfl⟩
  exact map_patch_entry (f := fun d => d.take ⟨d.id, appStatus, appErrorMessage⟩)
    (fun _ => rfl) db.siteDomain.rows

theorem completeLog_outline {log : DeployRow} {outcome : DeployOutcome} {now : Time}
    (h : completeLog db log outcome now = .ok db') : SameOutline db db' := by
  unfold completeLog setAppStatus at h
  have hlog := patchDomain_outline h fun _ => rfl
  exact ⟨hlog.entries, hlog.claims, hlog.backups⟩

/-- A list of rows that takes over as many. -/
theorem map_zipWith_take {rows : List DomainRow} {seen : List SiteDomain}
    (h : seen.length = rows.length) :
    (List.zipWith DomainRow.take rows seen).map DomainRow.entry = rows.map DomainRow.entry := by
  induction rows generalizing seen with
  | nil => rfl
  | cons d rows ih =>
    cases seen with
    | nil => exact absurd h (by simp)
    | cons s seen =>
      rw [List.zipWith_cons_cons, List.map_cons, List.map_cons,
        ih (Nat.succ.inj (by simpa using h))]
      rfl

variable {reply : Reply}

/-- `OperationsService` leaves them alone. -/
theorem commit_outline {w : Operations.Write} (h : db.commit w = .ok (db', reply)) :
    SameOutline db db' := by
  unfold Db.commit at h
  split at h
  · exact absurd h (by simp)
  · rename_i committed hcommit
    cases h
    refine ⟨map_zipWith_take ?_, rfl, rfl⟩
    rw [commit_siteDomain_length hcommit]
    exact List.length_map _

/-! ## Quiet statements -/

/-- The statements that leave names, places, claims and backups alone. -/
def Write.Quiet : Write → Prop
  | .updateDomain _ _ => False
  | .rollbackDomain _ _ _ => False
  | .updateAliases _ _ _ => False
  | .setDomainOrdering _ => False
  | .commitDomainDeletionMetadata _ _ _ _ _ _ _ => False
  | .applyManifestMapping _ _ _ => False
  | .setRestoreContext _ _ => False
  | _ => True

theorem silent_eq_ok {r : Except Fault Db} (h : silent r = .ok (db', reply)) : r = .ok db' := by
  obtain ⟨done, hdone, h⟩ := map_eq_ok.mp h
  cases h
  exact hdone

theorem updateCertificate_outline {data : SslCertificate → SslCertificate} {hdata}
    (h : updateCertificate db domainId data hdata = .ok db') : SameOutline db db' := by
  unfold updateCertificate at h
  split at h
  · exact absurd h (by simp)
  · cases h
    exact ⟨rfl, rfl, rfl⟩

theorem run_outline {w : Write} (h : db.run H w = .ok (db', reply)) (hw : w.Quiet) :
    SameOutline db db' := by
  cases w with
  | operations w => exact commit_outline h
  | setAppStatus domainId appStatus appErrorMessage =>
    exact patchDomain_outline (silent_eq_ok h) fun _ => rfl
  | claimAppStatus domainId expected appStatus appErrorMessage =>
    cases h
    exact claimAppStatus_outline domainId expected appStatus appErrorMessage
  | claimDeploy log =>
    have hcl := silent_eq_ok h
    unfold claimDeploy at hcl
    dsimp only at hcl
    split at hcl
    · exact absurd hcl (by simp [throw, throwThe, MonadExceptOf.throw])
    · obtain ⟨deployLog, -, hcl⟩ := bind_eq_ok.mp hcl
      cases hcl
      exact (claimAppStatus_outline _ _ _ _).trans ⟨rfl, rfl, rfl⟩
  | appendOutput deployId current safeOutput =>
    have happend := silent_eq_ok h
    unfold appendOutput at happend
    split at happend
    · exact absurd happend (by simp)
    · cases happend
      exact ⟨rfl, rfl, rfl⟩
  | completeDeploy deployId outcome now =>
    obtain ⟨completed, hcomp, h⟩ := map_eq_ok.mp h
    cases h
    unfold completeDeploy at hcomp
    split at hcomp
    · cases hcomp
      exact .refl db
    · split at hcomp
      · obtain ⟨logged, hlogged, heq⟩ := map_eq_ok.mp hcomp
        cases heq
        exact completeLog_outline hlogged
      · dsimp only at hcomp
        split at hcomp
        · cases hcomp
          exact .refl db
        · obtain ⟨logged, hlogged, heq⟩ := map_eq_ok.mp hcomp
          cases heq
          have hlog := completeLog_outline hlogged
          exact ⟨hlog.entries, hlog.claims, hlog.backups⟩
  | failDeploys operationId output now =>
    cases silent_eq_ok h
    exact ⟨rfl, rfl, rfl⟩
  | failStuckDeploys ids now =>
    cases silent_eq_ok h
    exact ⟨rfl, rfl, rfl⟩
  | failStuckSite siteId =>
    cases silent_eq_ok h
    exact ⟨rfl, rfl, rfl⟩
  | createDatabase row =>
    obtain ⟨database, -, hcr⟩ := bind_eq_ok.mp (silent_eq_ok h)
    cases hcr
    exact ⟨rfl, rfl, rfl⟩
  | deleteDatabase databaseId =>
    have hdel := silent_eq_ok h
    unfold deleteDatabase at hdel
    split at hdel
    · exact absurd hdel (by simp)
    · cases hdel
      exact ⟨rfl, rfl, rfl⟩
  | setCmsSettings domainId settings => exact patchDomain_outline (silent_eq_ok h) fun _ => rfl
  | setModxVersion domainId version => exact patchDomain_outline (silent_eq_ok h) fun _ => rfl
  | requestCertificate certificateId siteId domainId domains =>
    have hreq := silent_eq_ok h
    unfold requestCertificate at hreq
    split at hreq
    · cases hreq
      exact ⟨rfl, rfl, rfl⟩
    · obtain ⟨sslCertificate, -, hreq⟩ := bind_eq_ok.mp hreq
      cases hreq
      exact ⟨rfl, rfl, rfl⟩
  | activateCertificate domainId issued now => exact updateCertificate_outline (silent_eq_ok h)
  | resetCertificate domainId => exact updateCertificate_outline (silent_eq_ok h)
  | updateDomain target data => exact absurd hw id
  | rollbackDomain target domainChanged previousCertificate => exact absurd hw id
  | updateAliases domainId domain aliases => exact absurd hw id
  | setDomainOrdering ordering => exact absurd hw id
  | commitDomainDeletionMetadata siteId domainId target owned operationId result now =>
    exact absurd hw id
  | applyManifestMapping siteId m context => exact absurd hw id
  | setRestoreContext backupId context => exact absurd hw id

/-! ## Ids and owners -/

/-- Every domain was there under its id, at its site, and no backup was touched. -/
structure Carried (db db' : Db) : Prop where
  ids : ∀ d' ∈ db'.siteDomain, ∃ d ∈ db.siteDomain, d.id = d'.id ∧ d.siteId = d'.siteId
  backups : db'.backup = db.backup

theorem Carried.refl (db : Db) : Carried db db := ⟨fun d hd => ⟨d, hd, rfl, rfl⟩, rfl⟩

theorem Carried.trans (h : Carried db db') (h' : Carried db' db'') : Carried db db'' := by
  refine ⟨fun d'' hd'' => ?_, h'.backups.trans h.backups⟩
  obtain ⟨d', hd', hid', hsite'⟩ := h'.ids d'' hd''
  obtain ⟨d, hd, hid, hsite⟩ := h.ids d' hd'
  exact ⟨d, hd, hid.trans hid', hsite.trans hsite'⟩

theorem SameOutline.carried (h : SameOutline db db') : Carried db db' := by
  refine ⟨fun d' hd' => ?_, h.backups⟩
  have hmem : d'.entry ∈ db.siteDomain.rows.map DomainRow.entry :=
    h.entries ▸ List.mem_map_of_mem hd'
  obtain ⟨d, hd, heq⟩ := List.mem_map.mp hmem
  exact ⟨d, hd, congrArg DomainEntry.id heq, congrArg DomainEntry.siteId heq⟩

/-- A change to other tables. -/
theorem Carried.of_eq (hdoms : db'.siteDomain = db.siteDomain) (hbackups : db'.backup = db.backup) :
    Carried db db' :=
  ⟨fun d hd => ⟨d, hdoms ▸ hd, rfl, rfl⟩, hbackups⟩

theorem patchDomain_carried {data : DomainRow → DomainRow}
    (h : db.patchDomain domainId data = .ok db')
    (hdata : ∀ d, (data d).id = d.id ∧ (data d).siteId = d.siteId) : Carried db db' := by
  obtain ⟨-, hrows, heq⟩ := patchDomain_spec h
  refine ⟨fun d' hd' => ?_, by rw [heq]⟩
  rw [Table.mem_def, hrows] at hd'
  obtain ⟨d, hd, rfl⟩ := List.mem_map.mp hd'
  refine ⟨d, hd, ?_⟩
  unfold Table.patch
  split
  · exact ⟨(hdata d).1.symm, (hdata d).2.symm⟩
  · exact ⟨rfl, rfl⟩

variable {input : HostnameClaimInput}

/-- **What `createHostnameClaims` does**: the claims are added. -/
theorem createHostnameClaims_spec (h : createHostnameClaims H db input = .ok db') :
    ∃ claims, hostnameClaims H input = .ok claims ∧
      db'.hostnameClaim.rows = db.hostnameClaim.rows ++ claims ∧
        db' = { db with hostnameClaim := db'.hostnameClaim } := by
  obtain ⟨claims, hcls, h⟩ := bind_eq_ok.mp h
  split at h
  · rename_i hostnameClaim hcr
    cases h
    exact ⟨claims, hcls, Table.createMany?_rows hcr, rfl⟩
  · exact absurd h (by simp [throw, throwThe, MonadExceptOf.throw])

/-- **What `replaceHostnameClaims` does**: the claims of the domain make way for the new ones. -/
theorem replaceHostnameClaims_spec (h : replaceHostnameClaims H db input = .ok db') :
    ∃ claims, hostnameClaims H input = .ok claims ∧
      db'.hostnameClaim.rows =
        (db.hostnameClaim.rows.filter fun c => !(c.siteDomainId == input.siteDomainId)) ++ claims ∧
          db' = { db with hostnameClaim := db'.hostnameClaim } := by
  obtain ⟨claims, hcls, hrows, heq⟩ := createHostnameClaims_spec h
  exact ⟨claims, hcls, hrows, heq⟩

theorem createHostnameClaims_carried (h : createHostnameClaims H db input = .ok db') :
    Carried db db' := by
  obtain ⟨claims, -, -, heq⟩ := createHostnameClaims_spec h
  exact .of_eq (by rw [heq]) (by rw [heq])

theorem replaceHostnameClaims_carried (h : replaceHostnameClaims H db input = .ok db') :
    Carried db db' := by
  obtain ⟨claims, -, -, heq⟩ := replaceHostnameClaims_spec h
  exact .of_eq (by rw [heq]) (by rw [heq])

/-- **What the transaction of `createDomain` does**: the row is added, with its claims. -/
theorem createDomain_spec {row : DomainRow} {certificateId : String}
    (h : createDomain H db row certificateId = .ok db') :
    db'.siteDomain.rows = db.siteDomain.rows ++ [row] ∧
      (∃ claims, hostnameClaims H ⟨row.id, row.domain, row.aliases⟩ = .ok claims ∧
        db'.hostnameClaim.rows = db.hostnameClaim.rows ++ claims) ∧ db'.backup = db.backup := by
  obtain ⟨siteDomain, hdom, h⟩ := bind_eq_ok.mp h
  obtain ⟨claimed, hclaimed, h⟩ := bind_eq_ok.mp h
  obtain ⟨sslCertificate, -, h⟩ := bind_eq_ok.mp h
  cases h
  obtain ⟨claims, hcls, hrows, heq⟩ := createHostnameClaims_spec hclaimed
  refine ⟨?_, ⟨claims, hcls, hrows⟩, by rw [heq]⟩
  unfold unique at hdom
  split at hdom
  · rename_i hsome
    cases hdom
    have hsame : claimed.siteDomain = siteDomain := by rw [heq]
    exact (congrArg Table.rows hsame).trans (Table.create?_eq_some hsome).1
  · exact absurd hdom (by simp)

/-- A loop of statements that carry the domains. -/
theorem foldlM_carried {α : Type} {f : Db → α → Except Fault Db} {as : List α}
    (h : as.foldlM f db = .ok db') (hstep : ∀ db a db', f db a = .ok db' → Carried db db') :
    Carried db db' :=
  foldlM_keeps (I := Carried db) h (.refl db) fun x a x' hx hstep' => hx.trans (hstep x a x' hstep')

theorem updateDomain_carried {target : DomainRow} {data : DomainChange}
    (h : updateDomain H db target data = .ok db') : Carried db db' := by
  obtain ⟨patched, hpat, h⟩ := bind_eq_ok.mp h
  have hpatch := patchDomain_carried hpat fun _ => ⟨rfl, rfl⟩
  split at h
  · cases h
    exact hpatch
  · obtain ⟨replaced, hrepl, h⟩ := bind_eq_ok.mp h
    cases h
    exact hpatch.trans ((replaceHostnameClaims_carried hrepl).trans (.of_eq rfl rfl))

theorem restoreClaims_carried {target : DomainRow} {domainChanged : Bool}
    (h : restoreClaims H db target domainChanged = .ok db') : Carried db db' := by
  unfold restoreClaims at h
  split at h
  · exact replaceHostnameClaims_carried h
  · cases h
    exact .refl db

theorem rollbackDomain_carried {target : DomainRow} {domainChanged : Bool}
    {previousCertificate : Option SslCertificate}
    (h : rollbackDomain H db target domainChanged previousCertificate = .ok db') :
    Carried db db' := by
  obtain ⟨patched, hpat, h⟩ := bind_eq_ok.mp h
  obtain ⟨replaced, hrepl, h⟩ := bind_eq_ok.mp h
  refine (patchDomain_carried hpat fun _ => ⟨rfl, rfl⟩).trans
    ((restoreClaims_carried hrepl).trans ?_)
  split at h
  · cases h
    exact .refl _
  · cases h
    exact .of_eq rfl rfl

theorem updateAliases_carried {domain : String} {aliases : List SiteAlias}
    (h : updateAliases H db domainId domain aliases = .ok db') : Carried db db' := by
  obtain ⟨patched, hpat, h⟩ := bind_eq_ok.mp h
  exact (patchDomain_carried hpat fun _ => ⟨rfl, rfl⟩).trans (replaceHostnameClaims_carried h)

theorem setDomainOrdering_carried {ordering : List DomainPlace}
    (h : setDomainOrdering db ordering = .ok db') : Carried db db' := by
  obtain ⟨aside, has, h⟩ := bind_eq_ok.mp h
  exact (foldlM_carried has fun _ _ _ hstep => patchDomain_carried hstep fun _ => ⟨rfl, rfl⟩).trans
    (foldlM_carried h fun _ _ _ hstep => patchDomain_carried hstep fun _ => ⟨rfl, rfl⟩)

theorem renumber_carried {remaining : List String} (h : renumber db remaining = .ok db') :
    Carried db db' := by
  obtain ⟨aside, has, h⟩ := bind_eq_ok.mp h
  exact (foldlM_carried has fun _ _ _ hstep => patchDomain_carried hstep fun _ => ⟨rfl, rfl⟩).trans
    (foldlM_carried h fun _ _ _ hstep => patchDomain_carried hstep fun _ => ⟨rfl, rfl⟩)

/-- **What `siteDomain.delete` does** to the domains, the claims and the backups. -/
theorem removeDomain_spec (h : db.removeDomain domainId = .ok db') :
    db'.siteDomain.rows = db.siteDomain.rows.filter (fun d => !(d.id == domainId)) ∧
      db'.hostnameClaim.rows =
        db.hostnameClaim.rows.filter (fun c => !(c.siteDomainId == domainId)) ∧
          db'.backup = db.backup := by
  unfold Db.removeDomain at h
  split at h
  · exact absurd h (by simp)
  · split at h
    · exact absurd h (by simp)
    · cases h
      exact ⟨rfl, rfl, rfl⟩

theorem removeDomain_carried (h : db.removeDomain domainId = .ok db') : Carried db db' := by
  obtain ⟨hrows, -, hbk⟩ := removeDomain_spec h
  refine ⟨fun d hd => ⟨d, ?_, rfl, rfl⟩, hbk⟩
  rw [Table.mem_def, hrows] at hd
  exact (List.mem_filter.mp hd).1

/-- Databases are released in their own table. -/
theorem releaseDatabases_outline {target : String} {owned : Bool}
    (h : releaseDatabases db domainId target owned = .ok db') : SameOutline db db' := by
  unfold releaseDatabases at h
  split at h
  · cases h
    exact ⟨rfl, rfl, rfl⟩
  · split at h
    · exact absurd h (by simp)
    · obtain ⟨database, -, h⟩ := bind_eq_ok.mp h
      cases h
      exact ⟨rfl, rfl, rfl⟩

/-- The ids of the domains that remain, in their new order. -/
def remainingIds (db : Db) (siteId : String) : List String :=
  ((db.siteDomain.findMany fun d => d.siteId == siteId).insertionSort fun a b =>
    primaryFirst a b = true).map DomainRow.id

variable {siteId : String}

/-- **The parts of `commitDomainDeletionMetadata`** that touch domains and claims. -/
theorem commitDeletion_spec {target operationId result : String} {owned : Bool} {now : Time}
    (h : commitDomainDeletionMetadata db siteId domainId target owned operationId result now = .ok db') :
    ∃ released removed renumbered, releaseDatabases db domainId target owned = .ok released ∧
      released.removeDomain domainId = .ok removed ∧
        renumber removed (remainingIds removed siteId) = .ok renumbered ∧
          SameOutline renumbered db' := by
  obtain ⟨released, hrel, h⟩ := bind_eq_ok.mp h
  obtain ⟨removed, hrmv, h⟩ := bind_eq_ok.mp h
  obtain ⟨renumbered, hrenumbered, h⟩ := bind_eq_ok.mp h
  refine ⟨released, removed, renumbered, hrel, hrmv, hrenumbered, ?_⟩
  dsimp only at h
  split at h
  · exact absurd h (by simp [throw, throwThe, MonadExceptOf.throw])
  · cases h
    exact ⟨rfl, rfl, rfl⟩

theorem commitDeletion_carried {target operationId result : String} {owned : Bool} {now : Time}
    (h : commitDomainDeletionMetadata db siteId domainId target owned operationId result now = .ok db') :
    Carried db db' := by
  obtain ⟨released, removed, renumbered, hrel, hrmv, hrenumbered, hsame⟩ :=
    commitDeletion_spec h
  exact (releaseDatabases_outline hrel).carried.trans ((removeDomain_carried hrmv).trans
    ((renumber_carried hrenumbered).trans hsame.carried))

/-! ### Loops over the domains -/

section Loops

variable {α : Type} {key : α → String} {data : α → DomainRow → DomainRow}
  {f : Db → α → Except Fault Db} {as : List α}

/-- Each turn updates the domain with the id `key a` by `data a`. -/
def Patches (key : α → String) (data : α → DomainRow → DomainRow)
    (f : Db → α → Except Fault Db) : Prop :=
  ∀ db a db', f db a = .ok db' → (∃ d ∈ db.siteDomain, d.id = key a) ∧
    db'.siteDomain.rows = db.siteDomain.rows.map (Table.patch (fun d => d.id == key a) (data a))

theorem patches_patchDomain (key : α → String) (data : α → DomainRow → DomainRow) :
    Patches key data fun db a => db.patchDomain (key a) (data a) := by
  intro db a db' h
  obtain ⟨hfnd, hrows, -⟩ := patchDomain_spec h
  exact ⟨hfnd, hrows⟩

/-- A domain that no turn is about stays as it is. -/
theorem foldlM_patch_other (hf : Patches key data f) (h : as.foldlM f db = .ok db')
    {d : DomainRow} (hd : d ∈ db.siteDomain) (hid : d.id ∉ as.map key) : d ∈ db'.siteDomain := by
  induction as generalizing db with
  | nil =>
    cases h
    exact hd
  | cons a as ih =>
    obtain ⟨next, hnext, h⟩ := bind_eq_ok.mp ((List.foldlM_cons ..).symm.trans h)
    rw [List.map_cons, List.mem_cons, not_or] at hid
    refine ih h ?_ hid.2
    rw [Table.mem_def, (hf db a next hnext).2]
    exact List.mem_map.mpr ⟨d, hd, Table.patch_neg (by simpa using hid.1)⟩

/-- A domain that one turn is about is there, and takes the data of that turn. -/
theorem foldlM_patch_mem (hf : Patches key data f) (hdata : ∀ a d, (data a d).id = d.id)
    (h : as.foldlM f db = .ok db') (hnd : (as.map key).Nodup) {a : α} (ha : a ∈ as) :
    ∃ d ∈ db.siteDomain, d.id = key a ∧ data a d ∈ db'.siteDomain := by
  induction as generalizing db with
  | nil => exact absurd ha List.not_mem_nil
  | cons b as ih =>
    obtain ⟨next, hnext, hrest⟩ := bind_eq_ok.mp ((List.foldlM_cons ..).symm.trans h)
    obtain ⟨⟨found, hfnd, hid⟩, hrows⟩ := hf db b next hnext
    rw [List.map_cons, List.nodup_cons] at hnd
    rcases List.mem_cons.mp ha with rfl | ha
    · refine ⟨found, hfnd, hid, foldlM_patch_other hf hrest ?_ ?_⟩
      · rw [Table.mem_def, hrows]
        exact List.mem_map.mpr ⟨found, hfnd, Table.patch_pos (by simpa using hid)⟩
      · rw [hdata, hid]
        exact hnd.1
    · obtain ⟨d, hd, hkey, hmem⟩ := ih hrest hnd.2 ha
      rw [Table.mem_def, hrows] at hd
      obtain ⟨e, he, heq⟩ := List.mem_map.mp hd
      have hother : ¬ (e.id == key b) = true := by
        intro hb
        refine hnd.1 (List.mem_map.mpr ⟨a, ha, ?_⟩)
        rw [Table.patch_pos (p := fun d : DomainRow => d.id == key b) hb] at heq
        rw [← hkey, ← heq, hdata]
        exact beq_iff_eq.mp hb
      rw [Table.patch_neg (p := fun d : DomainRow => d.id == key b) hother] at heq
      exact ⟨d, heq ▸ he, hkey, hmem⟩

end Loops

/-! ### Restoring a manifest -/

theorem updateDatabase_outline {databaseId : String} {data : DatabaseRow → DatabaseRow}
    (h : updateDatabase db databaseId data = .ok db') : SameOutline db db' := by
  unfold updateDatabase at h
  split at h
  · exact absurd h (by simp)
  · obtain ⟨database, -, h⟩ := bind_eq_ok.mp h
    cases h
    exact ⟨rfl, rfl, rfl⟩

variable {context : RestoreContext}

theorem restoreDatabases_outline {databases : List (ManifestDatabase × String)}
    (h : restoreDatabases db context databases = .ok db') : SameOutline db db' := by
  obtain ⟨aside, has, h⟩ := bind_eq_ok.mp h
  have has : SameOutline db aside := foldlM_keeps (I := SameOutline db) has (.refl db)
    fun x p x' hx hstep => hx.trans (updateDatabase_outline hstep)
  refine foldlM_keeps (I := SameOutline db) h has fun x p x' hx hstep => hx.trans ?_
  unfold restoreDatabase at hstep
  split at hstep
  · exact absurd hstep (by simp)
  · exact updateDatabase_outline hstep

/-- **The parts of `applyManifestMapping`** that touch domains and claims. -/
theorem applyManifestMapping_spec {m : SiteBackupManifest}
    (h : applyManifestMapping H db siteId m context = .ok db') :
    ∃ cleared restored, (domainPairs context m).length = m.domains.length ∧
      topologyKept db siteId m context = true ∧ restoreSite db siteId m context = .ok cleared ∧
        restoreDomains H cleared siteId context.restoreId (domainPairs context m) = .ok restored ∧
          SameOutline restored db' := by
  unfold applyManifestMapping at h
  dsimp only at h
  obtain ⟨hlen, h⟩ := unless_ok h
  obtain ⟨htop, h⟩ := unless_ok h
  obtain ⟨cleared, hcleared, h⟩ := bind_eq_ok.mp h
  obtain ⟨restored, hrestored, h⟩ := bind_eq_ok.mp h
  exact ⟨cleared, restored, by omega, by simpa using htop, hcleared, hrestored,
    restoreDatabases_outline h⟩

theorem restoreSite_spec {m : SiteBackupManifest} (h : restoreSite db siteId m context = .ok db') :
    db'.siteDomain = db.siteDomain ∧ db'.backup = db.backup ∧ db'.hostnameClaim.rows =
      db.hostnameClaim.rows.filter fun c =>
        !(context.domainTargets.map Prod.snd).contains c.siteDomainId := by
  unfold restoreSite at h
  split at h
  · exact absurd h (by simp)
  · cases h
    exact ⟨rfl, rfl, rfl⟩

/-- **The parts of `restoreDomain`.** -/
theorem restoreDomain_spec {targetId : String} {domain : ManifestDomain}
    (h : restoreDomain H siteId targetId db domain = .ok db') :
    ∃ patched claimed, db.patchDomain targetId domain.restore = .ok patched ∧
      createHostnameClaims H patched ⟨targetId, domain.domain, domain.aliases⟩ = .ok claimed ∧
        db'.siteDomain = claimed.siteDomain ∧ db'.hostnameClaim = claimed.hostnameClaim ∧
          db'.backup = claimed.backup := by
  obtain ⟨patched, hpat, h⟩ := bind_eq_ok.mp h
  obtain ⟨claimed, hclaimed, h⟩ := bind_eq_ok.mp h
  cases h
  exact ⟨patched, claimed, hpat, hclaimed, rfl, rfl, rfl⟩

theorem restoreDomain_carried {targetId : String} {domain : ManifestDomain}
    (h : restoreDomain H siteId targetId db domain = .ok db') : Carried db db' := by
  obtain ⟨patched, claimed, hpat, hclaimed, hdoms, -, hbackups⟩ := restoreDomain_spec h
  exact (patchDomain_carried hpat fun _ => ⟨rfl, rfl⟩).trans
    ((createHostnameClaims_carried hclaimed).trans (.of_eq hdoms hbackups))

theorem applyManifestMapping_carried {m : SiteBackupManifest}
    (h : applyManifestMapping H db siteId m context = .ok db') :
    Carried db db' := by
  obtain ⟨cleared, restored, -, -, hcleared, hrestored, hsame⟩ := applyManifestMapping_spec h
  obtain ⟨hdoms, hbackups, -⟩ := restoreSite_spec hcleared
  obtain ⟨aside, has, hrestored⟩ := bind_eq_ok.mp hrestored
  have hsite : Carried db cleared := .of_eq hdoms hbackups
  have has : Carried cleared aside :=
    foldlM_carried has fun _ _ _ hstep => patchDomain_carried hstep fun _ => ⟨rfl, rfl⟩
  have hdom : Carried aside restored :=
    foldlM_carried hrestored fun _ _ _ hstep => restoreDomain_carried hstep
  exact hsite.trans (has.trans (hdom.trans hsame.carried))

theorem patches_outOfTheWay (restoreId : String) :
    Patches (fun p : (ManifestDomain × String) × Nat => p.1.2)
      (fun p d => outOfTheWay H restoreId p.1.2 p.2 d) fun db p =>
        db.patchDomain p.1.2 (outOfTheWay H restoreId p.1.2 p.2) :=
  patches_patchDomain _ _

theorem patches_restoreDomain (siteId : String) :
    Patches (fun p : ManifestDomain × String => p.2) (fun p d => p.1.restore d) fun db p =>
      restoreDomain H siteId p.2 db p.1 := by
  intro db p db' h
  obtain ⟨patched, claimed, hpat, hclaimed, hdoms, -, -⟩ := restoreDomain_spec h
  obtain ⟨claims, -, -, heq⟩ := createHostnameClaims_spec hclaimed
  obtain ⟨hfnd, hrows, -⟩ := patchDomain_spec hpat
  exact ⟨hfnd, by rw [hdoms, heq, hrows]⟩

/-! ### All statements -/

/-- **No statement makes a domain or moves one to another site**, and only one touches a backup. -/
theorem run_carried {w : Write} (hw : ∀ backupId context, w ≠ .setRestoreContext backupId context)
    (h : db.run H w = .ok (db', reply)) : Carried db db' := by
  cases w with
  | updateDomain target data => exact updateDomain_carried (silent_eq_ok h)
  | rollbackDomain target domainChanged previousCertificate =>
    exact rollbackDomain_carried (silent_eq_ok h)
  | updateAliases domainId domain aliases => exact updateAliases_carried (silent_eq_ok h)
  | setDomainOrdering ordering => exact setDomainOrdering_carried (silent_eq_ok h)
  | commitDomainDeletionMetadata siteId domainId target owned operationId result now =>
    exact commitDeletion_carried (silent_eq_ok h)
  | applyManifestMapping siteId m context => exact applyManifestMapping_carried (silent_eq_ok h)
  | setRestoreContext backupId context => exact absurd rfl (hw backupId context)
  | _ => exact (run_outline h trivial).carried

end Meowbox.Sites
