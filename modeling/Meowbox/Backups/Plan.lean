import Mathlib.Data.List.Perm.Subperm
import Meowbox.Backups.Mapping

/-!
# What an exact restore plans

The targets of a plan are the domains of the site, each once. The manifest that is restored and the
manifest of the site as it stood give every target to exactly one of their domains, so either can be
applied under the same context.

* `planExactRestore_targets`: the targets of a plan.
* `planExactRestore_mapped`: both manifests map their domains onto them.
-/

namespace Meowbox.Backups

open Operations Sites Failing

variable {H : Host} {M : ManifestHost}

/-- A manifest gives every target to one of its domains. -/
def Mapped (targets : List (String × String)) (m : SiteBackupManifest) : Prop :=
  ∃ ids : List String, m.domains.map (fun d => targetOf targets d.sourceId) = ids.map some ∧
    ids.Perm (targets.map Prod.snd)

/-- **What `pairTargets` does**: each source has its target, and no target is used twice. -/
theorem pairTargets_spec {α : Type} {sourceId : α → String} {target : α → Option String}
    {missing : α → Fault} {check : α → String → Option Fault} {used : List String}
    {sources : List α} {pairs : List (String × String)}
    (h : pairTargets sourceId target missing check used sources = .ok pairs) :
    List.Forall₂ (fun source pair => sourceId source = pair.1 ∧ target source = some pair.2)
        sources pairs ∧ (pairs.map Prod.snd).Nodup ∧ ∀ t ∈ pairs.map Prod.snd, t ∉ used := by
  induction sources generalizing used pairs with
  | nil =>
    cases h
    exact ⟨.nil, List.nodup_nil, fun t ht => absurd ht List.not_mem_nil⟩
  | cons source rest ih =>
    unfold pairTargets at h
    split at h
    · exact absurd h (by simp)
    · rename_i t ht
      obtain ⟨hun, h⟩ := unless_ok h
      split at h
      · exact absurd h (by simp)
      · obtain ⟨others, hothers, h⟩ := map_eq_ok.mp h
        cases h
        obtain ⟨hps, hnd, hused⟩ := ih hothers
        refine ⟨.cons ⟨rfl, ht⟩ hps, ?_, ?_⟩
        · rw [List.map_cons, List.nodup_cons]
          exact ⟨fun hmem => hused t hmem List.mem_cons_self, hnd⟩
        · intro t' ht'
          rcases List.mem_cons.mp ht' with rfl | ht'
          · simpa using hun
          · exact fun hmem => hused t' ht' (List.mem_cons_of_mem t hmem)

/-- A target is a domain of the site, and a source that is one is its own target. -/
theorem domainTarget_spec {site : SiteWithParts} {source : ManifestDomain} {t : String}
    (h : domainTarget H site source = some t) :
    t ∈ site.domains.map DomainRow.id ∧
      (source.sourceId ∈ site.domains.map DomainRow.id → t = source.sourceId) := by
  unfold domainTarget at h
  obtain ⟨d, hd, rfl⟩ := Option.map_eq_some_iff.mp h
  cases hfnd : site.domains.find? fun d => d.id == source.sourceId with
  | some found =>
    rw [hfnd] at hd
    cases hd
    exact ⟨List.mem_map_of_mem (List.mem_of_find?_eq_some hfnd),
      fun _ => by simpa using List.find?_some hfnd⟩
  | none =>
    rw [hfnd] at hd
    have hmem : d ∈ site.domains.reverse := List.mem_of_find?_eq_some hd
    refine ⟨List.mem_map_of_mem (List.mem_reverse.mp hmem), fun hsrc => ?_⟩
    obtain ⟨e, he, heq⟩ := List.mem_map.mp hsrc
    exact absurd heq (by simpa using List.find?_eq_none.mp hfnd e he)

theorem filterMap_eq_zip {α β : Type} {f : α → Option β} :
    ∀ {as : List α} {bs : List β}, as.map f = bs.map some →
      (as.filterMap fun a => (f a).map fun b => (a, b)) = as.zip bs
  | [], [], _ => rfl
  | [], b :: bs, h => absurd h (by simp)
  | a :: as, [], h => absurd h (by simp)
  | a :: as, b :: bs, h => by
    rw [List.map_cons, List.map_cons, List.cons.injEq] at h
    rw [List.filterMap_cons, h.1, List.zip_cons_cons, ← filterMap_eq_zip h.2]
    rfl

/-- The domains of a mapped manifest, each with its target. -/
theorem domainPairs_spec {context : RestoreContext} {m : SiteBackupManifest}
    (h : Mapped context.domainTargets m) :
    (domainPairs context m).map Prod.fst = m.domains ∧
      ((domainPairs context m).map Prod.snd).Perm (context.domainTargets.map Prod.snd) := by
  obtain ⟨ids, hids, hperm⟩ := h
  have hlen : m.domains.length = ids.length := by simpa using congrArg List.length hids
  unfold domainPairs
  rw [filterMap_eq_zip hids, List.map_fst_zip hlen.le, List.map_snd_zip hlen.ge]
  exact ⟨rfl, hperm⟩

section Plan

variable {site : SiteWithParts} {m : SiteBackupManifest} {targets : List (String × String)}

/-- The manifest that is restored. -/
theorem mapped_restored (hsources : (m.domains.map ManifestDomain.sourceId).Nodup)
    (hps : List.Forall₂ (fun source pair => source.sourceId = pair.1 ∧
      domainTarget H site source = some pair.2) m.domains targets) : Mapped targets m := by
  have hfst : targets.map Prod.fst = m.domains.map ManifestDomain.sourceId := by
    have heq := hps.imp fun _ _ h => h.1
    exact (List.forall₂_eq_eq_eq ▸ List.forall₂_map_left_iff.mpr
      (List.forall₂_map_right_iff.mpr heq)).symm
  refine ⟨targets.map Prod.snd, ?_, .refl _⟩
  refine List.ext_getElem (by simp [hps.length_eq]) fun i h₁ h₂ => ?_
  have hi : i < m.domains.length := by simpa using h₁
  have hi' : i < targets.length := by simpa using h₂
  obtain ⟨hsrc, htgt⟩ := (List.forall₂_iff_get.mp hps).2 i hi hi'
  obtain ⟨-, hown⟩ := domainTarget_spec htgt
  simp only [List.getElem_map]
  unfold targetOf
  split
  · rename_i hmem
    have hsite : m.domains[i].sourceId ∈ site.domains.map DomainRow.id := by
      obtain ⟨pair, hpair, heq⟩ := List.mem_map.mp (List.contains_iff_mem.mp hmem)
      obtain ⟨j, hj, rfl⟩ := List.getElem_of_mem hpair
      have hj' := (List.forall₂_iff_get.mp hps).2 j (hps.length_eq ▸ hj) hj
      exact heq ▸ (domainTarget_spec hj'.2).1
    exact congrArg some (hown hsite).symm
  · -- The source is no target, so the pair with its id is the one that was made for it.
    have hfnd : targets.reverse.find? (fun t => t.1 == m.domains[i].sourceId) =
        some targets[i] := by
      cases hfind : targets.reverse.find? (fun t => t.1 == m.domains[i].sourceId) with
      | none =>
        have := List.find?_eq_none.mp hfind targets[i] (List.mem_reverse.mpr (List.getElem_mem hi'))
        exact absurd hsrc.symm (by simpa using this)
      | some pair =>
        have hpair := List.mem_reverse.mp (List.mem_of_find?_eq_some hfind)
        have hkey : pair.1 = targets[i].1 := by
          have := List.find?_some hfind
          exact (beq_iff_eq.mp this).trans hsrc
        exact congrArg some
          (List.inj_on_of_nodup_map (hfst ▸ hsources) hpair (List.getElem_mem hi') hkey)
    rw [hfnd, Option.map_some]

/-- The manifest of the site as it stood: every domain is its own target. -/
theorem mapped_rollback
    (hsources : (m.domains.map ManifestDomain.sourceId).Perm (site.domains.map DomainRow.id))
    (htgs : (targets.map Prod.snd).Nodup)
    (hsite : ∀ t ∈ targets.map Prod.snd, t ∈ site.domains.map DomainRow.id)
    (hlen : site.domains.length ≤ targets.length) : Mapped targets m := by
  have hperm : (targets.map Prod.snd).Perm (site.domains.map DomainRow.id) :=
    (List.subperm_of_subset htgs hsite).perm_of_length_le (by simpa using hlen)
  refine ⟨m.domains.map ManifestDomain.sourceId, ?_, hsources.trans hperm.symm⟩
  rw [List.map_map]
  refine List.map_congr_left fun d hd => ?_
  have hmem : d.sourceId ∈ targets.map Prod.snd :=
    (hsources.trans hperm.symm).mem_iff.mp (List.mem_map_of_mem hd)
  unfold targetOf
  rw [if_pos (List.contains_iff_mem.mpr hmem)]
  rfl

theorem buildSiteBackupManifest_sourceIds {built : SiteBackupManifest}
    (h : buildSiteBackupManifest H M site = .ok built) :
    (built.domains.map ManifestDomain.sourceId).Perm (site.domains.map DomainRow.id) := by
  have hids := normalize_sourceIds h
  rwa [List.map_map] at hids

variable {allDomains : List DomainRow} {plan : ExactRestorePlan}

/-- **The targets of a plan** are domains of the site, each once. -/
theorem planExactRestore_targets (h : planExactRestore H M site m allDomains = .ok plan) :
    (plan.domainTargets.map Prod.snd).Nodup ∧
      ∀ t ∈ plan.domainTargets.map Prod.snd, t ∈ site.domains.map DomainRow.id := by
  unfold planExactRestore at h
  obtain ⟨_, -, h⟩ := bind_eq_ok.mp h
  obtain ⟨targets, htgs, h⟩ := bind_eq_ok.mp h
  obtain ⟨_, -, h⟩ := bind_eq_ok.mp h
  obtain ⟨_, -, h⟩ := bind_eq_ok.mp h
  obtain ⟨_, -, h⟩ := bind_eq_ok.mp h
  cases h
  obtain ⟨hps, hnd, -⟩ := pairTargets_spec htgs
  refine ⟨hnd, fun t ht => ?_⟩
  obtain ⟨pair, hpair, rfl⟩ := List.mem_map.mp ht
  obtain ⟨j, hj, rfl⟩ := List.getElem_of_mem hpair
  have hj' := (List.forall₂_iff_get.mp hps).2 j (hps.length_eq ▸ hj) hj
  exact (domainTarget_spec hj'.2).1

/-- **Both manifests of a plan map their domains onto its targets.** -/
theorem planExactRestore_mapped (hnor : Normal H m)
    (h : planExactRestore H M site m allDomains = .ok plan) :
    Mapped plan.domainTargets m ∧ ∀ rollback,
      normalizeSiteBackupManifest H M plan.rollbackManifest = .ok rollback →
        Mapped plan.domainTargets rollback := by
  obtain ⟨htgs, hsite⟩ := planExactRestore_targets h
  unfold planExactRestore at h
  obtain ⟨_, htop, h⟩ := bind_eq_ok.mp h
  obtain ⟨targets, hpaired, h⟩ := bind_eq_ok.mp h
  obtain ⟨_, -, h⟩ := bind_eq_ok.mp h
  obtain ⟨_, -, h⟩ := bind_eq_ok.mp h
  obtain ⟨built, hbuilt, h⟩ := bind_eq_ok.mp h
  cases h
  obtain ⟨hps, -, -⟩ := pairTargets_spec hpaired
  refine ⟨mapped_restored hnor.sourceIds hps, fun rollback hrb => ?_⟩
  refine mapped_rollback
    ((normalize_sourceIds hrb).trans (buildSiteBackupManifest_sourceIds hbuilt)) htgs hsite ?_
  obtain ⟨_, -, htop⟩ := bind_eq_ok.mp htop
  obtain ⟨_, -, htop⟩ := bind_eq_ok.mp htop
  have hlen := refuse_eq_ok.mp htop
  simp only [Bool.or_eq_false_iff, bne_eq_false_iff_eq] at hlen
  exact (hlen.1.symm.trans hps.length_eq).le

end Plan

end Meowbox.Backups
