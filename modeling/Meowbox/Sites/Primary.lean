import Meowbox.Sites.History

/-!
# The primary domain

A site has exactly one primary domain, it is the first, and no two domains have the same place. The
handlers check and compute on rows they read before their operation began; what keeps the order is
that an order is written as a whole, that ids do not move between sites, and the unique indexes.
`deleteDomain` alone writes without looking again: it deletes a domain that was made primary after it
looked.

* `one_primary_domain`: in every run in which no deletion commits on a domain that is primary by
  then, the order stands in every state.
* `deletion_of_new_primary`: a run in which one does, and the site is left without a primary domain.
-/

namespace Meowbox.Sites

open Relational Operations Backups Interleaved Failing

/-! ## The order -/

/-- Exactly one domain of the site is primary, it is at position 0, and positions differ. -/
def OnePrimary (db : Db) (siteId : String) : Prop :=
  (∃ d ∈ db.siteDomain, d.siteId = siteId ∧ d.isPrimary = true ∧ d.position = 0 ∧
    ∀ e ∈ db.siteDomain, e.siteId = siteId → e.isPrimary = true → e = d) ∧
  ∀ d ∈ db.siteDomain, ∀ e ∈ db.siteDomain, d.siteId = siteId → e.siteId = siteId →
    d.position = e.position → d = e

/-- The part of it that the unique indexes do not give. -/
def PrimaryFirst (siteId : String) (db : Db) : Prop :=
  ∃ d ∈ db.siteDomain, d.siteId = siteId ∧ d.isPrimary = true ∧ d.position = 0

variable {H : Host} {M : ManifestHost} {db db' : Db} {siteId : String}

/-- A site has one primary domain at most. -/
theorem primary_unique {d e : DomainRow} (hd : d ∈ db.siteDomain) (he : e ∈ db.siteDomain)
    (hsite : d.siteId = e.siteId) (hprimary : d.isPrimary = true) (heprimary : e.isPrimary = true) :
    d = e := by
  have hkey : DomainRow.primaryKey ∈ DOMAIN_KEYS := by simp
  refine Table.eq_of_key hkey hd he ?_
  simp only [DomainRow.primaryKey, hprimary, heprimary, if_true, hsite]

theorem onePrimary_iff : OnePrimary db siteId ↔ PrimaryFirst siteId db := by
  constructor
  · rintro ⟨⟨d, hd, hsite, hprimary, hpos, -⟩, -⟩
    exact ⟨d, hd, hsite, hprimary, hpos⟩
  · rintro ⟨d, hd, hsite, hprimary, hpos⟩
    refine ⟨⟨d, hd, hsite, hprimary, hpos, fun e he hsite' hprim' => ?_⟩, ?_⟩
    · exact primary_unique he hd (hsite'.trans hsite.symm) hprim' hprimary
    · intro a ha b hb hsa hsb hab
      have hkey : DomainRow.positionKey ∈ DOMAIN_KEYS := by simp
      refine Table.eq_of_key hkey ha hb ?_
      simp only [DomainRow.positionKey, hsa, hsb, hab]

/-! ## Statements that keep the places -/

/-- The owner and the place of a domain. -/
def DomainRow.place (d : DomainRow) : String × Bool × Int := (d.siteId, d.isPrimary, d.position)

/-- Every place is taken as before. -/
def SamePlaces (db db' : Db) : Prop :=
  db'.siteDomain.rows.map DomainRow.place = db.siteDomain.rows.map DomainRow.place

theorem PrimaryFirst.same (h : PrimaryFirst siteId db) (hsame : SamePlaces db db') :
    PrimaryFirst siteId db' := by
  obtain ⟨d, hd, hsite, hprimary, hpos⟩ := h
  have hmem : d.place ∈ db'.siteDomain.rows.map DomainRow.place :=
    hsame ▸ List.mem_map_of_mem hd
  obtain ⟨d', hd', hplc⟩ := List.mem_map.mp hmem
  simp only [DomainRow.place, Prod.mk.injEq] at hplc
  exact ⟨d', hd', hplc.1.trans hsite, hplc.2.1.trans hprimary, hplc.2.2.trans hpos⟩

theorem SameOutline.places (h : SameOutline db db') : SamePlaces db db' := by
  have heq := congrArg (List.map fun e : DomainEntry => (e.siteId, e.isPrimary, e.position)) h.entries
  rwa [List.map_map, List.map_map] at heq

theorem patchDomain_places {domainId : String} {data : DomainRow → DomainRow}
    (h : db.patchDomain domainId data = .ok db') (hdata : ∀ d, (data d).place = d.place) :
    SamePlaces db db' := by
  unfold SamePlaces
  rw [(patchDomain_spec h).2.1, List.map_map]
  refine List.map_congr_left fun d _ => ?_
  simp only [Function.comp_apply, Table.patch]
  split
  · exact hdata d
  · rfl

theorem replaceHostnameClaims_places {input : HostnameClaimInput}
    (h : replaceHostnameClaims H db input = .ok db') : SamePlaces db db' := by
  obtain ⟨claims, -, -, heq⟩ := replaceHostnameClaims_spec h
  unfold SamePlaces
  rw [heq]

theorem updateDomain_places {target : DomainRow} {data : DomainChange}
    (h : updateDomain H db target data = .ok db') : SamePlaces db db' := by
  obtain ⟨patched, hpat, h⟩ := bind_eq_ok.mp h
  have hpatch := patchDomain_places hpat fun _ => rfl
  split at h
  · cases h
    exact hpatch
  · obtain ⟨replaced, hrepl, h⟩ := bind_eq_ok.mp h
    cases h
    exact (replaceHostnameClaims_places hrepl).trans hpatch

theorem rollbackDomain_places {target : DomainRow} {domainChanged : Bool}
    {previousCertificate : Option SslCertificate}
    (h : rollbackDomain H db target domainChanged previousCertificate = .ok db') :
    SamePlaces db db' := by
  obtain ⟨patched, hpat, h⟩ := bind_eq_ok.mp h
  obtain ⟨replaced, hrepl, h⟩ := bind_eq_ok.mp h
  have hpatch := patchDomain_places hpat fun _ => rfl
  have hcls : SamePlaces patched replaced := by
    unfold restoreClaims at hrepl
    split at hrepl
    · exact replaceHostnameClaims_places hrepl
    · cases hrepl
      exact rfl
  split at h
  · cases h
    exact hcls.trans hpatch
  · cases h
    exact hcls.trans hpatch

theorem updateAliases_places {domainId domain : String} {aliases : List SiteAlias}
    (h : updateAliases H db domainId domain aliases = .ok db') : SamePlaces db db' := by
  obtain ⟨patched, hpat, h⟩ := bind_eq_ok.mp h
  exact (replaceHostnameClaims_places h).trans (patchDomain_places hpat fun _ => rfl)

theorem setRestoreContext_places {backupId : String} {context : Option RestoreContext}
    (h : setRestoreContext db backupId context = .ok db') : SamePlaces db db' := by
  unfold SamePlaces
  rw [(setRestoreContext_spec h).2]

/-! ## An order that is written -/

/-- A handler's order names domains of one site, each once, and puts a primary one first. -/
structure OrderOf (domains : List DomainRow) (ordering : List DomainPlace) : Prop where
  nodup : (ordering.map DomainPlace.id).Nodup
  ids : ∀ place ∈ ordering, place.id ∈ domains.map DomainRow.id
  first : (∃ d ∈ domains, d.isPrimary = true ∧ d.position = 0) →
    ∃ place ∈ ordering, place.isPrimary = true ∧ place.position = 0

theorem previousOrdering_order {domains : List DomainRow}
    (hids : (domains.map DomainRow.id).Nodup) : OrderOf domains (previousOrdering domains) := by
  have hmap : (previousOrdering domains).map DomainPlace.id = domains.map DomainRow.id := by
    rw [previousOrdering, List.map_map]
    rfl
  refine ⟨hmap ▸ hids, fun place hplc => hmap ▸ List.mem_map_of_mem hplc, ?_⟩
  rintro ⟨d, hd, hprimary, hpos⟩
  exact ⟨_, List.mem_map_of_mem hd, hprimary, hpos⟩

theorem nextOrdering_order {domains : List DomainRow} {target : DomainRow}
    (hids : (domains.map DomainRow.id).Nodup) (htgt : target ∈ domains) :
    OrderOf domains (nextOrdering domains target) := by
  have hmap : (nextOrdering domains target).map DomainPlace.id =
      (target :: (domains.filter fun d => d.id != target.id).insertionSort fun a b =>
        a.position ≤ b.position).map DomainRow.id := by
    refine List.ext_getElem (by simp [nextOrdering]) fun i h₁ h₂ => ?_
    simp only [nextOrdering, List.getElem_map, List.getElem_mapIdx]
  have hrest : (((domains.filter fun d => d.id != target.id).insertionSort fun a b =>
      a.position ≤ b.position).map DomainRow.id).Perm
        ((domains.filter fun d => d.id != target.id).map DomainRow.id) :=
    (List.perm_insertionSort _ _).map _
  refine ⟨?_, fun place hplc => ?_, fun _ => ?_⟩
  · rw [hmap, List.map_cons, List.nodup_cons]
    refine ⟨fun hmem => ?_, hrest.nodup_iff.mpr ((List.filter_sublist.map _).nodup hids)⟩
    obtain ⟨d, hd, hid⟩ := List.mem_map.mp (hrest.mem_iff.mp hmem)
    exact absurd hid (by simpa using (List.mem_filter.mp hd).2)
  · have hmem : place.id ∈ (nextOrdering domains target).map DomainPlace.id :=
      List.mem_map_of_mem hplc
    rw [hmap, List.map_cons] at hmem
    rcases List.mem_cons.mp hmem with heq | hmem
    · exact heq ▸ List.mem_map_of_mem htgt
    · obtain ⟨d, hd, hid⟩ := List.mem_map.mp (hrest.mem_iff.mp hmem)
      exact hid ▸ List.mem_map_of_mem (List.mem_filter.mp hd).1
  · refine ⟨⟨target.id, true, 0⟩, ?_, rfl, rfl⟩
    simp only [nextOrdering, List.mapIdx_cons]
    exact List.mem_cons_self

theorem siteOrdering_order {site : SiteWithParts} {ordering : List DomainPlace}
    (hids : (site.domains.map DomainRow.id).Nodup) (h : SiteOrdering site ordering) :
    OrderOf site.domains ordering := by
  rcases h with rfl | ⟨target, htgt, rfl⟩
  · exact previousOrdering_order hids
  · exact nextOrdering_order hids htgt

theorem readSite_ids {site : SiteWithParts} (h : readSite db siteId = some site) :
    (site.domains.map DomainRow.id).Nodup := by
  obtain ⟨row, -, hsite⟩ := Option.map_eq_some_iff.mp h
  subst hsite
  refine ((List.perm_insertionSort _ _).map _).nodup_iff.mpr ?_
  have hkeys := db.siteDomain.unique DomainRow.idKey List.mem_cons_self
  have hids : (db.siteDomain.rows.map DomainRow.id).Nodup := by
    refine List.Nodup.of_map DomainKey.id ?_
    rwa [List.map_map]
  exact (List.filter_sublist.map _).nodup hids

theorem map_zipIdx_fst {α β : Type} (f : α → β) (as : List α) :
    (as.zipIdx.map fun a => f a.1) = as.map f := by
  have h := congrArg (List.map f) (List.zipIdx_map_fst 0 as)
  rwa [List.map_map] at h

/-- The primary domain of another site is not touched. -/
theorem not_mem_owned {world : World} {site : String} {ids : List String} {d : DomainRow}
    (hd : d ∈ world.db.siteDomain) (hsite : d.siteId ≠ site)
    (hown : ∀ id ∈ ids, Owned H world site id) : d.id ∉ ids :=
  fun hmem => hsite ((hown d.id hmem).site d hd rfl)

/-- **An order keeps its site in order.** -/
theorem setDomainOrdering_primary {world : World} {site : SiteWithParts} {readSiteId : String}
    {ordering : List DomainPlace} (hprimary : PrimaryFirst siteId world.db)
    (hseen : db ∈ Known H M (PrimaryFirst siteId) world)
    (hread : readSite db readSiteId = some site) (hordering : SiteOrdering site ordering)
    (h : setDomainOrdering world.db ordering = .ok db') : PrimaryFirst siteId db' := by
  obtain ⟨hnd, hids, hfirst⟩ := siteOrdering_order (readSite_ids hread) hordering
  have hown : ∀ id ∈ ordering.map DomainPlace.id, Owned H world readSiteId id := by
    intro id hid
    obtain ⟨place, hplc, rfl⟩ := List.mem_map.mp hid
    obtain ⟨d, hd, heq⟩ := List.mem_map.mp (hids place hplc)
    obtain ⟨hrow, hsite⟩ := (mem_readSite hread).mp hd
    exact heq ▸ hsite ▸ hseen.2.domains d hrow
  obtain ⟨aside, has, h⟩ := bind_eq_ok.mp h
  have hcar : Carried world.db aside :=
    foldlM_carried has fun _ _ _ hstep => patchDomain_carried hstep fun _ => ⟨rfl, rfl⟩
  have hmoves : Patches (fun a : DomainPlace × Nat => a.1.id) (fun a d => { d with
      isPrimary := false, position := -((ordering.length + a.2 + 1 : Nat) : Int) }) _ :=
    patches_patchDomain _ _
  have hplaces : Patches DomainPlace.id (fun place d => { d with
      isPrimary := place.isPrimary, position := place.position }) _ := patches_patchDomain _ _
  by_cases hsite : readSiteId = siteId
  · subst hsite
    obtain ⟨d, hd, hdsite, hdprimary, hdposition⟩ := hseen.1
    obtain ⟨place, hplc, hone, hzero⟩ :=
      hfirst ⟨d, (mem_readSite hread).mpr ⟨hd, hdsite⟩, hdprimary, hdposition⟩
    obtain ⟨e, he, heid, hmem⟩ := foldlM_patch_mem hplaces (fun _ _ => rfl) h hnd hplc
    refine ⟨_, hmem, ?_, hone, hzero⟩
    obtain ⟨e', he', heid', hesite⟩ := hcar.ids e he
    exact hesite.symm.trans
      ((hown place.id (List.mem_map_of_mem hplc)).site e' he' (heid'.trans heid))
  · obtain ⟨d, hd, hdsite, hdprimary, hdposition⟩ := hprimary
    have hother : d.id ∉ ordering.map DomainPlace.id :=
      not_mem_owned hd (fun heq => hsite (heq.symm.trans hdsite)) hown
    refine ⟨d, ?_, hdsite, hdprimary, hdposition⟩
    refine foldlM_patch_other hplaces h (foldlM_patch_other hmoves has hd ?_) hother
    rwa [map_zipIdx_fst DomainPlace.id]

/-! ## A domain that is deleted -/

theorem primaryFirst_total (a b : DomainRow) : (primaryFirst a b || primaryFirst b a) = true := by
  unfold primaryFirst
  cases ha : a.isPrimary <;> cases hb : b.isPrimary <;> simp [Int.le_total]

theorem primaryFirst_trans (a b c : DomainRow) (hab : primaryFirst a b = true)
    (hbc : primaryFirst b c = true) : primaryFirst a c = true := by
  unfold primaryFirst at *
  revert hab hbc
  cases ha : a.isPrimary <;> cases hb : b.isPrimary <;> cases hc : c.isPrimary <;>
    simp <;> omega

/-- The primary domain is the first of those that remain. -/
theorem remainingIds_head {d : DomainRow} (hd : d ∈ db.siteDomain) (hsite : d.siteId = siteId)
    (hprimary : d.isPrimary = true) : (remainingIds db siteId)[0]? = some d.id := by
  have htotal : Std.Total fun a b => primaryFirst a b = true :=
    ⟨fun a b => by simpa using primaryFirst_total a b⟩
  have htrans : IsTrans DomainRow fun a b => primaryFirst a b = true :=
    ⟨fun a b c => primaryFirst_trans a b c⟩
  have hsor := List.pairwise_insertionSort (fun a b => primaryFirst a b = true)
    (db.siteDomain.findMany fun e => e.siteId == siteId)
  have hrow : ∀ e, e ∈ (db.siteDomain.findMany fun e => e.siteId == siteId).insertionSort
      (fun a b => primaryFirst a b = true) ↔ e ∈ db.siteDomain ∧ e.siteId = siteId := by
    intro e
    rw [List.mem_insertionSort, Table.mem_findMany, beq_iff_eq]
  have hmem := (hrow d).mpr ⟨hd, hsite⟩
  unfold remainingIds
  cases hlist : (db.siteDomain.findMany fun e => e.siteId == siteId).insertionSort
      (fun a b => primaryFirst a b = true) with
  | nil =>
    rw [hlist] at hmem
    exact absurd hmem List.not_mem_nil
  | cons first rest =>
    have hfirst := (hrow first).mp (hlist ▸ List.mem_cons_self)
    rw [hlist] at hmem hsor
    rcases List.mem_cons.mp hmem with rfl | hrest
    · rfl
    · have hle := (List.pairwise_cons.mp hsor).1 d hrest
      have hone : first.isPrimary = true := by
        unfold primaryFirst at hle
        rw [hprimary] at hle
        cases hf : first.isPrimary with
        | true => rfl
        | false => simp [hf] at hle
      rw [primary_unique hd hfirst.1 (hsite.trans hfirst.2.symm) hprimary hone]
      rfl

theorem remainingIds_nodup : (remainingIds db siteId).Nodup := by
  refine ((List.perm_insertionSort _ _).map _).nodup_iff.mpr ?_
  have hkeys := db.siteDomain.unique DomainRow.idKey List.mem_cons_self
  refine (List.filter_sublist.map _).nodup (List.Nodup.of_map DomainKey.id ?_)
  rwa [List.map_map]

/-- Renumbering keeps the primary domain primary, and puts the one of the site first. -/
theorem renumber_primary {site : String} (hprimary : PrimaryFirst siteId db)
    (h : renumber db (remainingIds db site) = .ok db') : PrimaryFirst siteId db' := by
  obtain ⟨d, hd, hsite, hone, hzero⟩ := hprimary
  obtain ⟨aside, has, h⟩ := bind_eq_ok.mp h
  have hkeys : (remainingIds db site).zipIdx.map (fun a => a.1) = remainingIds db site := by simp
  have hnd : ((remainingIds db site).zipIdx.map fun a => a.1).Nodup := by
    rw [hkeys]
    exact remainingIds_nodup
  have hmoves : Patches (fun a : String × Nat => a.1) (fun a d => { d with
      position := -(((remainingIds db site).length + a.2 + 1 : Nat) : Int) }) _ :=
    patches_patchDomain _ _
  have hplaces : Patches (fun a : String × Nat => a.1) (fun a d => { d with
      position := (a.2 : Int) }) _ := patches_patchDomain _ _
  by_cases hsame : site = siteId
  · subst hsame
    have hhead := remainingIds_head hd hsite hone
    have hmem : (d.id, 0) ∈ (remainingIds db site).zipIdx :=
      List.mem_zipIdx_iff_getElem?.mpr hhead
    obtain ⟨e, he, heid, hmem'⟩ :=
      foldlM_patch_mem hplaces (fun _ _ => rfl) h hnd hmem
    obtain ⟨e', he', heid', heq⟩ :=
      foldlM_patch_mem hmoves (fun _ _ => rfl) has hnd hmem
    -- Both rows have the id of `d`; the move changed nothing but the position.
    have hd' : e' = d := Table.eq_of_key List.mem_cons_self he' hd (congrArg DomainKey.id heid')
    subst hd'
    have hrow := Table.eq_of_key (k := DomainRow.idKey) List.mem_cons_self he heq
      (congrArg DomainKey.id heid)
    refine ⟨_, hmem', ?_, ?_, rfl⟩
    · rw [hrow]
      exact hsite
    · rw [hrow]
      exact hone
  · have hother : d.id ∉ remainingIds db site := by
      intro hmem
      obtain ⟨e, he, heid⟩ := List.mem_map.mp hmem
      have hrow := Table.mem_findMany.mp ((List.mem_insertionSort _).mp he)
      have heq : e = d :=
        Table.eq_of_key List.mem_cons_self hrow.1 hd (congrArg DomainKey.id heid)
      exact hsame ((beq_iff_eq.mp (heq ▸ hrow.2)).symm.trans hsite)
    rw [← hkeys] at hother
    refine ⟨d, ?_, hsite, hone, hzero⟩
    exact foldlM_patch_other hplaces h (foldlM_patch_other hmoves has hd hother) hother

/-- **A deletion keeps the order** when the domain that goes is not primary. -/
theorem commitDeletion_primary {site domainId target operationId result : String} {owned : Bool}
    {now : Time} (hprimary : PrimaryFirst siteId db)
    (hspares : ∀ d ∈ db.siteDomain, d.id = domainId → d.isPrimary = false)
    (h : commitDomainDeletionMetadata db site domainId target owned operationId result now =
      .ok db') : PrimaryFirst siteId db' := by
  obtain ⟨released, removed, renumbered, hrel, hrmv, hrenumbered, hsame⟩ :=
    commitDeletion_spec h
  obtain ⟨d, hd, hsite, hone, hzero⟩ := hprimary
  have hdoms : released.siteDomain.rows = db.siteDomain.rows := by
    unfold releaseDatabases at hrel
    split at hrel
    · cases hrel
      rfl
    · split at hrel
      · exact absurd hrel (by simp)
      · obtain ⟨database, -, hrel⟩ := bind_eq_ok.mp hrel
        cases hrel
        rfl
  have hkept : PrimaryFirst siteId removed := by
    refine ⟨d, ?_, hsite, hone, hzero⟩
    rw [Table.mem_def, (removeDomain_spec hrmv).1, hdoms]
    refine List.mem_filter.mpr ⟨hd, ?_⟩
    simp only [Bool.not_eq_true', beq_eq_false_iff_ne]
    intro hid
    rw [hspares d hd hid] at hone
    exact absurd hone (by simp)
  exact (renumber_primary hkept hrenumbered).same hsame.places

/-! ## A manifest that is restored -/

/-- **A restore puts the site in order.** -/
theorem applyManifestMapping_primary {world : World} {site : String} {m : SiteBackupManifest}
    {context : RestoreContext} (hprimary : PrimaryFirst siteId world.db)
    (hw : WarrantedWrite H M (Known H M (PrimaryFirst siteId) world)
      (.applyManifestMapping site m context))
    (h : applyManifestMapping H world.db site m context = .ok db') : PrimaryFirst siteId db' := by
  obtain ⟨hnor, hmapped, htgs, hown⟩ := applied_mapped hw
  obtain ⟨cleared, restored, -, -, hcleared, hrestored, hsame⟩ := applyManifestMapping_spec h
  obtain ⟨hdoms, -, -⟩ := restoreSite_spec hcleared
  obtain ⟨hfst, hperm⟩ := domainPairs_spec hmapped
  obtain ⟨aside, has, hrestored⟩ := bind_eq_ok.mp hrestored
  have hnd : ((domainPairs context m).map fun p => p.2).Nodup := hperm.nodup_iff.mpr htgs
  have hown' : ∀ t ∈ (domainPairs context m).map fun p => p.2, Owned H world site t :=
    fun t ht => hown t (hperm.mem_iff.mp ht)
  suffices hfirst : PrimaryFirst siteId restored from hfirst.same hsame.places
  by_cases hsite : site = siteId
  · subst hsite
    obtain ⟨first, rest, hlist⟩ := List.exists_cons_of_ne_nil hnor.nonempty
    obtain ⟨hone, hzero⟩ := hnor.places 0 first (by rw [hlist]; rfl)
    have hfirst : first ∈ (domainPairs context m).map Prod.fst :=
      hfst ▸ hlist ▸ List.mem_cons_self
    obtain ⟨pair, hpair, heq⟩ := List.mem_map.mp hfirst
    obtain ⟨d, hd, hid, hmem⟩ :=
      foldlM_patch_mem (patches_restoreDomain site) (fun _ _ => rfl) hrestored hnd hpair
    refine ⟨_, hmem, ?_, ?_, ?_⟩
    · have hcar : Carried cleared aside :=
        foldlM_carried has fun _ _ _ hstep => patchDomain_carried hstep fun _ => ⟨rfl, rfl⟩
      obtain ⟨e, he, heid, hesite⟩ := hcar.ids d hd
      rw [hdoms] at he
      exact hesite.symm.trans
        ((hown' pair.2 (List.mem_map_of_mem hpair)).site e he (heid.trans hid))
    · exact heq ▸ hone
    · exact heq ▸ hzero
  · obtain ⟨d, hd, hdsite, hdone, hdzero⟩ := hprimary
    have hother : d.id ∉ (domainPairs context m).map fun p => p.2 :=
      not_mem_owned hd (fun heq => hsite (heq.symm.trans hdsite)) hown'
    refine ⟨d, foldlM_patch_other (patches_restoreDomain site) hrestored ?_ hother, hdsite, hdone,
      hdzero⟩
    refine foldlM_patch_other (patches_outOfTheWay context.restoreId) has (hdoms ▸ hd) ?_
    rwa [map_zipIdx_fst fun p : ManifestDomain × String => p.2]

/-! ## Runs -/

/-- No deletion commits on a domain that is primary. -/
def SparesPrimary (world : World) : Instr → Prop
  | .write (.commitDomainDeletionMetadata _ domainId _ _ _ _ _) =>
    ∀ d ∈ world.db.siteDomain, d.id = domainId → d.isPrimary = false
  | _ => True

/-- **One primary domain**: a site that has one keeps one, at position 0, in every state of every
run in which no deletion commits on a domain that is primary by then. -/
theorem one_primary_domain (hfresh : Function.Injective H.uuid) {s₀ s : SitePool}
    (hlaunched : Launched H s₀) (hprimary : OnePrimary s₀.store.db siteId)
    (hs : Stepping.Reach (Pool.step (service H M)) (Pool.Within SparesPrimary) s₀ s) :
    OnePrimary s.store.db siteId := by
  refine onePrimary_iff.mpr (Reach.outline hfresh (Q := PrimaryFirst siteId)
    (fun _ _ hsame hprimary => hprimary.same hsame.places) ?_ ?_ hlaunched
      (onePrimary_iff.mp hprimary) hs)
  · intro world w db' reply hprimary hpast hg hw hloud hrun
    cases w with
    | updateDomain target data => exact hprimary.same (updateDomain_places (silent_eq_ok hrun))
    | rollbackDomain target domainChanged previousCertificate =>
      exact hprimary.same (rollbackDomain_places (silent_eq_ok hrun))
    | updateAliases domainId domain aliases =>
      exact hprimary.same (updateAliases_places (silent_eq_ok hrun))
    | setDomainOrdering ordering =>
      obtain ⟨db, hseen, readSiteId, site, hread, hordering⟩ := hw
      exact setDomainOrdering_primary hprimary hseen hread hordering (silent_eq_ok hrun)
    | commitDomainDeletionMetadata site domainId target owned operationId result now =>
      exact commitDeletion_primary hprimary hg (silent_eq_ok hrun)
    | applyManifestMapping site m context =>
      exact applyManifestMapping_primary hprimary hw (silent_eq_ok hrun)
    | setRestoreContext backupId context =>
      exact hprimary.same (setRestoreContext_places (silent_eq_ok hrun))
    | _ => exact absurd trivial hloud
  · intro db id row certificateId db' hprimary hnew hcr
    obtain ⟨d, hd, hsite, hone, hzero⟩ := hprimary
    refine ⟨d, ?_, hsite, hone, hzero⟩
    rw [Table.mem_def, (createDomain_spec hcr).1]
    exact List.mem_append_left _ hd

/-! ## Two runs -/

instance (world : World) (i : Instr) : Decidable (SparesPrimary world i) := by
  cases i with
  | write w =>
    cases w with
    | commitDomainDeletionMetadata siteId domainId target owned operationId result now =>
      exact inferInstanceAs (Decidable (∀ d ∈ world.db.siteDomain, _))
    | _ => exact .isTrue trivial
  | _ => exact .isTrue trivial

/-- A panel without restores whose ids are shorter than those it will draw. -/
theorem siteStart_launched : Launched plainHost siteStart where
  calls := rfl
  restores b hb := absurd hb (Table.not_mem_empty b)
  fresh d hd n hn heq := by
    have hlen : d.id.toList.length = n := by
      rw [← heq]
      simp [plainHost]
    have hsho : ∀ d ∈ siteStart.store.db.siteDomain, d.id.toList.length < 8 := by decide
    have := hsho d hd
    have h8 : 8 ≤ n := hn
    omega

/-- The second domain is made primary. -/
def madePrimary : List (Event Outside SiteRequest) :=
  .call (.makePrimary "site" "b" siteOwner) :: advances 22 0

theorem one_primary_domain_made : ∃ s : SitePool, OnePrimary s.store.db "site" ∧ Quiescent s ∧
    ∀ d ∈ s.store.db.siteDomain, d.isPrimary = true → d.id = "b" := by
  have hmade : (Stepping.run (Pool.step (service plainHost plainManifestHost))
      (Pool.Within SparesPrimary) siteStart madePrimary).any (fun s : SitePool =>
        decide (Quiescent s ∧ ∀ d ∈ s.store.db.siteDomain, d.isPrimary = true → d.id = "b")) =
          true := by
    decide +kernel
  obtain ⟨s, hs, hquiescent, hb⟩ := Stepping.Reach.of_run_any hmade
  have hprimary : PrimaryFirst "site" twoDomains :=
    ⟨plainDomain "a" "a.example" true 0, List.mem_cons_self, rfl, rfl, rfl⟩
  exact ⟨s, one_primary_domain plainHost_lawful.fresh siteStart_launched
    (onePrimary_iff.mpr hprimary) hs, hquiescent, hb⟩

/-- `deleteDomain` reads that the second domain is not primary, `makePrimary` makes it so, and the
deletion goes on. -/
def deletedAfter : List (Event Outside SiteRequest) :=
  [.call (.deleteDomain "site" "b" ⟨"b.example", false, false⟩ siteOwner)] ++ advances 3 0 ++
    [.call (.makePrimary "site" "b" siteOwner)] ++ advances 22 1 ++ advances 21 0

/-- Every operation has succeeded, and the site has no primary domain. -/
theorem deletion_of_new_primary : OnePrimary siteStart.store.db "site" ∧ ∃ s : SitePool,
    Stepping.Reach (Pool.step (service plainHost plainManifestHost)) Stepping.anyStep siteStart s ∧
      Quiescent s ∧ (∃ d ∈ s.store.db.siteDomain, d.siteId = "site") ∧
        ¬ OnePrimary s.store.db "site" := by
  constructor
  · exact onePrimary_iff.mpr
      ⟨plainDomain "a" "a.example" true 0, List.mem_cons_self, rfl, rfl, rfl⟩
  · have hdel : (Stepping.run (Pool.step (service plainHost plainManifestHost)) Stepping.anyStep
        siteStart deletedAfter).any (fun s : SitePool => decide (Quiescent s ∧
          (∃ d ∈ s.store.db.siteDomain, d.siteId = "site") ∧
            ∀ d ∈ s.store.db.siteDomain, d.isPrimary = false)) = true := by
      decide +kernel
    obtain ⟨s, hs, hquiescent, hsite, hnone⟩ := Stepping.Reach.of_run_any hdel
    refine ⟨s, hs, hquiescent, hsite, ?_⟩
    rintro ⟨⟨d, hd, -, hprimary, -⟩, -⟩
    rw [hnone d hd] at hprimary
    exact absurd hprimary (by simp)

end Meowbox.Sites
