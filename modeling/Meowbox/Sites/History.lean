import Meowbox.Backups.Plan
import Meowbox.Sites.Outline
import Meowbox.Sites.Warrants

/-!
# What was read stays known

A handler writes what it computed from tables it read earlier. Of those tables some things stay so in
every later state: a domain's id belongs to the site it belonged to, a backup keeps its site and its
manifest, and a context that was stored maps its manifests onto the domains of its site.

* `Past`: what stays so.
* `past_answer`: no warranted instruction ends it.
* `Reach.outline`: the invariant rule for what depends on names, places and claims alone.
-/

namespace Meowbox.Sites

open Relational Operations Backups Interleaved

section Facts

variable (H : Host) (M : ManifestHost)

/-- No other site has a domain with the id, and none will: `randomUUID` draws it no more. -/
structure Owned (world : World) (siteId id : String) : Prop where
  site : ∀ d ∈ world.db.siteDomain, d.id = id → d.siteId = siteId
  drawn : ∀ n, world.drawn ≤ n → H.uuid n ≠ id

/-- The targets of a context are domains of its site, and both of its manifests map their domains
onto them. -/
def SoundContext (world : World) (siteId : String) (manifest : Option SiteBackupManifest)
    (context : RestoreContext) : Prop :=
  ∀ rollback, context.rollbackManifest = some rollback →
    (context.domainTargets.map Prod.snd).Nodup ∧
      (∀ t ∈ context.domainTargets.map Prod.snd, Owned H world siteId t) ∧
        ∀ source m, (manifest = some source ∨ source = rollback) →
          normalizeSiteBackupManifest H M source = .ok m → Mapped context.domainTargets m

/-- What stays so of tables that were read. -/
structure Past (db : Db) (world : World) : Prop where
  domains : ∀ d ∈ db.siteDomain, Owned H world d.siteId d.id
  backups : ∀ b ∈ db.backup, ∃ b' ∈ world.db.backup,
    b'.id = b.id ∧ b'.siteId = b.siteId ∧ b'.manifest = b.manifest
  contexts : ∀ b ∈ db.backup, ∀ context, b.restoreContext = some context →
    SoundContext H M world b.siteId b.manifest context

/-- The tables a program may have read, when all of them meet `Q`. -/
def Known (Q : Db → Prop) (world : World) : Set Db := {db | Q db ∧ Past H M db world}

/-- A step of the world: no domain without an owner, no backup lost. -/
structure Advance (world world' : World) : Prop where
  domains : ∀ d' ∈ world'.db.siteDomain,
    (∃ d ∈ world.db.siteDomain, d.id = d'.id ∧ d.siteId = d'.siteId) ∨
      ∃ n, world.drawn ≤ n ∧ n < world'.drawn ∧ d'.id = H.uuid n
  drawn : world.drawn ≤ world'.drawn
  backups : ∀ b ∈ world.db.backup, ∃ b' ∈ world'.db.backup,
    b'.id = b.id ∧ b'.siteId = b.siteId ∧ b'.manifest = b.manifest

end Facts

variable {H : Host} {M : ManifestHost} {world world' : World} {db : Db}

/-! ## A step ends no fact -/

theorem Owned.advance {siteId id : String} (h : Owned H world siteId id)
    (hstep : Advance H world world') : Owned H world' siteId id := by
  refine ⟨fun d' hd' hid => ?_, fun n hn => h.drawn n (hstep.drawn.trans hn)⟩
  rcases hstep.domains d' hd' with ⟨d, hd, hid', hsite⟩ | ⟨n, hn, -, hnew⟩
  · exact hsite ▸ h.site d hd (hid'.trans hid)
  · exact absurd (hnew.symm.trans hid) (h.drawn n hn)

theorem SoundContext.advance {siteId : String} {manifest : Option SiteBackupManifest}
    {context : RestoreContext} (h : SoundContext H M world siteId manifest context)
    (hstep : Advance H world world') : SoundContext H M world' siteId manifest context := by
  intro rollback hrb
  obtain ⟨hnd, hown, hmap⟩ := h rollback hrb
  exact ⟨hnd, fun t ht => (hown t ht).advance hstep, hmap⟩

theorem Past.advance (h : Past H M db world) (hstep : Advance H world world') :
    Past H M db world' where
  domains d hd := (h.domains d hd).advance hstep
  backups b hb := by
    obtain ⟨b', hb', hid, hsite, hman⟩ := h.backups b hb
    obtain ⟨b'', hb'', hid', hsite', hman'⟩ := hstep.backups b' hb'
    exact ⟨b'', hb'', hid'.trans hid, hsite'.trans hsite, hman'.trans hman⟩
  contexts b hb context hctx := (h.contexts b hb context hctx).advance hstep

theorem known_advance {Q : Db → Prop} (hstep : Advance H world world') :
    Known H M Q world ⊆ Known H M Q world' := by
  rintro db ⟨hQ, hpast⟩
  exact ⟨hQ, hpast.advance hstep⟩

/-- The domains after a step are owned. -/
theorem owned_advance (hfr : Function.Injective H.uuid) (h : Past H M world.db world)
    (hstep : Advance H world world') :
    ∀ d ∈ world'.db.siteDomain, Owned H world' d.siteId d.id := by
  intro d' hd'
  refine ⟨fun e he hid => ?_, fun n hn heq => ?_⟩
  · rw [Table.eq_of_key List.mem_cons_self he hd' (congrArg DomainKey.id hid)]
  · rcases hstep.domains d' hd' with ⟨d, hd, hid, -⟩ | ⟨k, -, hk, hnew⟩
    · exact (h.domains d hd).drawn n (hstep.drawn.trans hn) (heq.trans hid.symm)
    · have : n = k := hfr (heq.trans hnew)
      omega

/-- A step that keeps the backups. -/
theorem past_advance (hfr : Function.Injective H.uuid) (h : Past H M world.db world)
    (hstep : Advance H world world') (hbackups : world'.db.backup = world.db.backup) :
    Past H M world'.db world' where
  domains := owned_advance hfr h hstep
  backups b hb := ⟨b, hb, rfl, rfl, rfl⟩
  contexts b hb context hctx :=
    (h.contexts b (hbackups ▸ hb) context hctx).advance hstep

theorem advance_of_carried (h : Carried world.db world'.db) (hdr : world.drawn ≤ world'.drawn) :
    Advance H world world' where
  domains d' hd' := .inl (h.ids d' hd')
  drawn := hdr
  backups b hb := ⟨b, h.backups ▸ hb, rfl, rfl, rfl⟩

/-! ## The contexts that are stored -/

/-- A planned context is sound. -/
theorem planned_sound {b : RestorePoint} {context : RestoreContext} (hpast : Past H M db world)
    (hplanned : PlannedContext H M db b context) :
    SoundContext H M world b.siteId b.manifest context := by
  obtain ⟨site, manifest, m, plan, allDomains, hsite, hman, hm, hplan, hrb, htgs⟩ :=
    hplanned
  obtain ⟨hnd, hmem⟩ := planExactRestore_targets hplan
  obtain ⟨hrest, hback⟩ := planExactRestore_mapped (normalize_spec hm) hplan
  intro rollback hctx
  rw [hrb] at hctx
  cases hctx
  rw [htgs]
  refine ⟨hnd, fun t ht => ?_, fun source m' hsrc hm' => ?_⟩
  · obtain ⟨d, hd, rfl⟩ := List.mem_map.mp (hmem t ht)
    obtain ⟨hrow, hsiteId⟩ := (mem_readSite hsite).mp hd
    exact hsiteId ▸ hpast.domains d hrow
  · rcases hsrc with hsrc | rfl
    · rw [hman] at hsrc
      cases hsrc
      rw [hm] at hm'
      cases hm'
      exact hrest
    · exact hback m' hm'

/-- Whatever a handler stores is a sound context. -/
theorem contextFrom_sound {b : RestorePoint} {context : RestoreContext}
    (hpast : Past H M db world) (hb : b ∈ db.backup) (hfrom : ContextFrom H M db b context) :
    SoundContext H M world b.siteId b.manifest context := by
  rcases hfrom with ⟨stored, hsto, hph⟩ | hnone | hplanned
  · rw [hph]
    exact hpast.contexts b hb stored hsto
  · intro rollback hrb
    exact absurd (hnone.symm.trans hrb) (by simp)
  · exact planned_sound hpast hplanned

variable {context : Option RestoreContext} {backupId : String}

theorem setRestoreContext_spec {db' : Db} (h : setRestoreContext db backupId context = .ok db') :
    db'.backup.rows = db.backup.rows.map
        (Table.patch (fun b => b.id == backupId) fun b => { b with restoreContext := context }) ∧
      db' = { db with backup := db'.backup } := by
  unfold setRestoreContext at h
  split at h
  · exact absurd h (by simp)
  · cases h
    exact ⟨rfl, rfl⟩

/-- A row of the backups after a context was stored. -/
theorem mem_setRestoreContext {db' : Db} (h : setRestoreContext db backupId context = .ok db')
    {b' : RestorePoint} (hb' : b' ∈ db'.backup) :
    ∃ b ∈ db.backup, b'.id = b.id ∧ b'.siteId = b.siteId ∧
      b'.manifest = b.manifest ∧ (b'.restoreContext = b.restoreContext ∨
        b.id = backupId ∧ b'.restoreContext = context) := by
  rw [Table.mem_def, (setRestoreContext_spec h).1] at hb'
  obtain ⟨b, hb, rfl⟩ := List.mem_map.mp hb'
  refine ⟨b, hb, ?_⟩
  unfold Table.patch
  split
  · rename_i hid
    exact ⟨rfl, rfl, rfl, .inr ⟨beq_iff_eq.mp hid, rfl⟩⟩
  · exact ⟨rfl, rfl, rfl, .inl rfl⟩

theorem setRestoreContext_keeps {db' : Db} (h : setRestoreContext db backupId context = .ok db')
    {b : RestorePoint} (hb : b ∈ db.backup) :
    ∃ b' ∈ db'.backup, b'.id = b.id ∧ b'.siteId = b.siteId ∧ b'.manifest = b.manifest := by
  have hmem : Table.patch (fun b => b.id == backupId)
      (fun b => { b with restoreContext := context }) b ∈ db'.backup := by
    rw [Table.mem_def, (setRestoreContext_spec h).1]
    exact List.mem_map_of_mem hb
  refine ⟨_, hmem, ?_⟩
  unfold Table.patch
  split
  · exact ⟨rfl, rfl, rfl⟩
  · exact ⟨rfl, rfl, rfl⟩

/-- A manifest that a handler applies maps its domains onto domains of the site. -/
theorem applied_mapped {Q : Db → Prop} {siteId : String} {m : SiteBackupManifest}
    {context : RestoreContext}
    (hw : WarrantedWrite H M (Known H M Q world) (.applyManifestMapping siteId m context)) :
    Normal H m ∧ Mapped context.domainTargets m ∧
      (context.domainTargets.map Prod.snd).Nodup ∧
        ∀ t ∈ context.domainTargets.map Prod.snd, Owned H world siteId t := by
  obtain ⟨db, ⟨-, hpast⟩, b, hb, rfl, hctx, manifest, rollback, hman, hrb, hm⟩ := hw
  obtain ⟨hnd, hown, hmap⟩ := hpast.contexts b hb context hctx rollback hrb
  rcases hm with hm | hm
  · exact ⟨normalize_spec hm, hmap manifest m (.inl hman) hm, hnd, hown⟩
  · exact ⟨normalize_spec hm, hmap rollback m (.inr rfl) hm, hnd, hown⟩

/-! ## Statements -/

@[simp] theorem after_db (w : Write) : (world.after db w).db = db := by
  cases w <;> rfl

@[simp] theorem after_drawn (w : Write) : (world.after db w).drawn = world.drawn := by
  cases w <;> rfl

variable {Q : Db → Prop}

/-- A context that is stored by a handler. -/
theorem past_setRestoreContext {db' : Db} (hfr : Function.Injective H.uuid)
    (hpast : Past H M world.db world)
    (hw : WarrantedWrite H M (Known H M Q world) (.setRestoreContext backupId context))
    (h : setRestoreContext world.db backupId context = .ok db') (hdb : world'.db = db')
    (hdr : world'.drawn = world.drawn) :
    Past H M world'.db world' ∧ Advance H world world' := by
  subst hdb
  have hstep : Advance H world world' := by
    refine ⟨fun d' hd' => .inl ⟨d', ?_, rfl, rfl⟩, hdr.ge, fun b hb => setRestoreContext_keeps h hb⟩
    rwa [(setRestoreContext_spec h).2] at hd'
  refine ⟨⟨owned_advance hfr hpast hstep, fun b hb => ⟨b, hb, rfl, rfl, rfl⟩, ?_⟩, hstep⟩
  intro b' hb' stored hsto
  obtain ⟨b, hb, -, hsite, hman, hctx⟩ := mem_setRestoreContext h hb'
  rw [hsite, hman]
  rcases hctx with hsame | ⟨hid, hnew⟩
  · exact (hpast.contexts b hb stored (hsame ▸ hsto)).advance hstep
  · rw [hnew] at hsto
    subst hsto
    -- The context was computed from a row that was read; the row is there under its id.
    obtain ⟨seen, ⟨-, hseen⟩, c, hc, hcid, hfrom⟩ := hw
    obtain ⟨c', hc', hcid', hcsite, hcmanifest⟩ := hseen.backups c hc
    have heq : c' = b := Table.eq_of_key List.mem_cons_self hc' hb ((hcid'.trans hcid).trans hid.symm)
    subst heq
    rw [hcsite, hcmanifest]
    exact (contextFrom_sound hseen hc hfrom).advance hstep

/-- **No warranted instruction ends what is known.** -/
theorem past_answer (hfr : Function.Injective H.uuid) (hpast : Past H M world.db world)
    (i : Instr) (hw : Warranted H M (Known H M Q world) i) :
    Past H M (answer H i world).2.db (answer H i world).2 ∧
      Advance H world (answer H i world).2 := by
  have hsame : ∀ world', world'.db = world.db → world.drawn ≤ world'.drawn →
      Past H M world'.db world' ∧ Advance H world world' := by
    intro world' hdb hdr
    have hstep : Advance H world world' := advance_of_carried (hdb ▸ .refl _) hdr
    exact ⟨past_advance hfr hpast hstep (by rw [hdb]), hstep⟩
  have hperform : ∀ w, WarrantedWrite H M (Known H M Q world) w →
      Past H M (world.perform H w).2.db (world.perform H w).2 ∧
        Advance H world (world.perform H w).2 := by
    intro w hw
    rcases perform_cases H world w with heq | ⟨db', reply, -, hrun, heq⟩
    · rw [heq]
      exact hsame world rfl le_rfl
    · rw [heq]
      by_cases hctx : ∃ backupId context, w = .setRestoreContext backupId context
      · obtain ⟨backupId, context, rfl⟩ := hctx
        exact past_setRestoreContext hfr hpast hw (silent_eq_ok hrun) (after_db _) (after_drawn _)
      · have hcar := run_carried (fun backupId context h => hctx ⟨backupId, context, h⟩) hrun
        have hstep : Advance H world (world.after db' w) :=
          advance_of_carried (by rw [after_db]; exact hcar) (by rw [after_drawn])
        exact ⟨past_advance hfr hpast hstep (by rw [after_db]; exact hcar.backups), hstep⟩
  cases i with
  | operations i =>
    cases i with
    | write w => exact hperform _ trivial
    | _ => exact hsame _ rfl le_rfl
  | write w => exact hperform w hw
  | draw => exact hsame _ rfl (Nat.le_succ _)
  | createDomain row =>
    have hcr : ∀ db', Sites.createDomain H world.db (row (H.uuid world.drawn))
        (H.uuid (world.drawn + 1)) = .ok db' →
          Past H M db' { world with db := db', drawn := world.drawn + 2 } ∧
            Advance H world { world with db := db', drawn := world.drawn + 2 } := by
      intro db' h
      obtain ⟨hdoms, -, hbk⟩ := createDomain_spec h
      have hstep : Advance H world { world with db := db', drawn := world.drawn + 2 } := by
        refine ⟨fun d' hd' => ?_, Nat.le_add_right _ _, fun b hb => ⟨b, hbk ▸ hb, rfl, rfl, rfl⟩⟩
        rw [Table.mem_def, hdoms] at hd'
        rcases List.mem_snoc.mp hd' with hold | rfl
        · exact .inl ⟨d', hold, rfl, rfl⟩
        · exact .inr ⟨world.drawn, le_rfl, Nat.lt_add_of_pos_right (by omega), (hw _).id⟩
      exact ⟨past_advance hfr hpast hstep hbk, hstep⟩
    simp only [answer, World.createDomain]
    split
    · exact hsame _ rfl (Nat.le_add_right _ _)
    · exact hsame _ rfl (Nat.le_add_right _ _)
    · rename_i hrun
      exact hcr _ hrun
    · rename_i hrun
      exact hcr _ hrun
  | _ => exact hsame _ rfl le_rfl

/-! ## Runs -/

/-- What happens outside touches no domain, no claim and no backup. -/
theorem change_outline (world : World) (change : Outside) :
    SameOutline world.db (world.change change).db := by
  cases change with
  | operations operation operationLock => exact ⟨rfl, rfl, rfl⟩
  | _ => exact .refl _

theorem change_drawn (world : World) (change : Outside) :
    (world.change change).drawn = world.drawn := by
  cases change <;> rfl

section Runs

/-- A panel at its start: no call has been made, no restore is under way, and `randomUUID` is yet to
draw ids that no domain has. -/
structure Launched (H : Host) (s : SitePool) : Prop where
  calls : s.calls = []
  restores : ∀ b ∈ s.store.db.backup, b.restoreContext = none
  fresh : ∀ d ∈ s.store.db.siteDomain, ∀ n, s.store.drawn ≤ n → H.uuid n ≠ d.id

theorem Launched.past {s : SitePool} (h : Launched H s) : Past H M s.store.db s.store where
  domains d hd := ⟨fun e he hid => by
    rw [Table.eq_of_key List.mem_cons_self he hd (congrArg DomainKey.id hid)], h.fresh d hd⟩
  backups b hb := ⟨b, hb, rfl, rfl, rfl⟩
  contexts b hb context hctx := absurd ((h.restores b hb).symm.trans hctx) (by simp)

variable {G : World → Instr → Prop} {s₀ s : SitePool}

/-- **What the names, the places and the claims keep.** What no quiet statement can change, what
the other statements keep where they are warranted and what creating a domain keeps is so in every
state of a run. -/
theorem Reach.outline (hfr : Function.Injective H.uuid)
    (hsame : ∀ db db', SameOutline db db' → Q db → Q db')
    (hwrite : ∀ world w db' reply, Q world.db → Past H M world.db world → G world (.write w) →
      WarrantedWrite H M (Known H M Q world) w → ¬ w.Quiet → world.db.run H w = .ok (db', reply) →
        Q db')
    (hcr : ∀ db id row certificateId db', Q db → NewDomain H id row →
      createDomain H db row certificateId = .ok db' → Q db')
    (hlaunched : Launched H s₀) (hsta : Q s₀.store.db)
    (hs : Stepping.Reach (Pool.step (service H M)) (Pool.Within G) s₀ s) : Q s.store.db := by
  have hperform : ∀ (world : World) w, Q world.db → Past H M world.db world →
      (¬ w.Quiet → G world (.write w)) → WarrantedWrite H M (Known H M Q world) w →
        Q (world.perform H w).2.db := by
    intro world w hQ hpast hG hw
    rcases perform_cases H world w with heq | ⟨db', reply, -, hrun, heq⟩
    · rwa [heq]
    · rw [heq, after_db]
      by_cases hqt : w.Quiet
      · exact hsame _ _ (run_outline hrun hqt) hQ
      · exact hwrite world w db' reply hQ hpast (hG hqt) hw hqt hrun
  refine (Reach.justified (I := fun world => Q world.db ∧ Past H M world.db world)
    (T := Known H M Q) (warranted_growing H M) warranted_program ?_ ?_ ⟨hsta, hlaunched.past⟩
      hlaunched.calls hs).1.1
  · intro change world ⟨hQ, hpast⟩
    have hkps := change_outline world change
    have hstep : Advance H world (world.change change) :=
      advance_of_carried hkps.carried (change_drawn world change).ge
    exact ⟨⟨hsame _ _ hkps hQ, past_advance hfr hpast hstep hkps.backups⟩,
      known_advance hstep⟩
  · intro i world ⟨hQ, hpast⟩ hG hw
    obtain ⟨hpast', hstep⟩ := past_answer hfr hpast i hw
    refine ⟨⟨?_, hpast'⟩, known_advance hstep, ?_⟩
    · cases i with
      | operations i =>
        cases i with
        | write w => exact hperform world _ hQ hpast (fun hloud => absurd trivial hloud) trivial
        | _ => exact hQ
      | write w => exact hperform world w hQ hpast (fun _ => hG) hw
      | createDomain row =>
        change Q (world.createDomain H row).2.db
        simp only [World.createDomain]
        split
        · exact hQ
        · exact hQ
        · rename_i hrun
          exact hcr _ _ _ _ _ hQ (hw _) hrun
        · rename_i hrun
          exact hcr _ _ _ _ _ hQ (hw _) hrun
      | _ => exact hQ
    · cases i with
      | read =>
        intro db hdb
        rw [Set.mem_singleton_iff.mp hdb]
        exact ⟨hQ, hpast⟩
      | _ => exact Set.empty_subset _

end Runs

end Meowbox.Sites
