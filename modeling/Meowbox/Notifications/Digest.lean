import Mathlib.Data.List.Nodup
import Meowbox.Lib.Runs

/-!
# Digests of backup notifications

Model of the queue of digests (`api/src/notifications/notification-digest.service.ts`):
`handleCompletion` in the mode `DIGEST`, and `flushOneConfig`, which reads the entries of one
configuration, dispatches one message and marks them. Flushes overlap in any order. `dispatch`
(`notification-dispatcher.service.ts`) passes over what a channel throws; it touches nothing that a
flush reads, so its sends are one step.

* `inv_step`: what a step keeps when a flush starts with no other of its configuration under way,
  and ends with its mark exactly if a channel accepted the digest.
* **`digests_exact`**: in a run of such steps an entry is marked only when it was in a digest that a
  channel accepted, stays queued until it was in one, and was in no two.
-/

namespace Meowbox.Notifications

open Stepping Function

/-! ## The source -/

inductive DigestConfigType
  | siteSchedule
  | serverPath
  | panelData
deriving DecidableEq

/-- A row of `notification_digest_queue`, with the columns that decide what happens to it. -/
structure QueueEntry where
  id : String
  /-- `configType` and `configId`. -/
  config : DigestConfigType × String
  event : String
  sentAt : Option Nat
deriving DecidableEq

/-- A row of `notification_settings`, and whether the channel's client returns. -/
structure NotificationSetting where
  channel : String
  enabled : Bool
  events : List String
  returns : Bool

/-- A call of `flushOneConfig` behind its `findMany`; `accepted` once it has dispatched. -/
structure Flush where
  config : DigestConfigType × String
  items : List QueueEntry
  accepted : Option Bool

def Flush.ids (f : Flush) : List String := f.items.map QueueEntry.id

/-- `dispatch` with the rows it reads: does a channel accept the digest? -/
def Flush.dispatch (f : Flush) (settings : List NotificationSetting) : Bool :=
  let event := if f.items.any (·.event == "BACKUP_FAILED") then "BACKUP_FAILED" else "BACKUP_COMPLETED"
  (settings.filter fun setting => setting.enabled && setting.events.contains event).any fun setting =>
    ["TELEGRAM", "EMAIL", "WEBHOOK"].contains setting.channel && setting.returns

/-- The row that `updateMany` leaves. -/
def QueueEntry.marked (ids : List String) (now : Nat) (e : QueueEntry) : QueueEntry :=
  if e.id ∈ ids then { e with sentAt := some now } else e

structure Digests where
  queue : List QueueEntry
  /-- The flushes under way. -/
  flushes : Nat → Option Flush
  /-- The entries that were ever queued. -/
  queued : List String
  /-- The entries of the digests that a channel accepted. -/
  delivered : List String

def Digests.start : Digests := ⟨[], fun _ => none, [], []⟩

inductive Action
  | handleCompletion (entry : QueueEntry)
  | findItems (n : Nat) (config : DigestConfigType × String)
  | dispatch (n : Nat) (settings : List NotificationSetting)
  | mark (n : Nat) (now : Nat)
  /-- The update fails, or the process ends. -/
  | lose (n : Nat)

def step (s : Digests) : Action → Option Digests
  | .handleCompletion entry =>
    -- the id is a new UUID
    if entry.sentAt = none ∧ entry.id ∉ s.queue.map QueueEntry.id then
      some { s with queue := s.queue ++ [entry], queued := s.queued ++ [entry.id] }
    else none
  | .findItems n config =>
    let items := s.queue.filter fun e => e.config = config ∧ e.sentAt = none
    if (s.flushes n).isSome then none
    else if items = [] then some s
    else some { s with flushes := update s.flushes n (some ⟨config, items, none⟩) }
  | .dispatch n settings =>
    ((s.flushes n).filter (·.accepted.isNone)).map fun f =>
      let accepted := f.dispatch settings
      { s with
        flushes := update s.flushes n (some { f with accepted := some accepted })
        delivered := if accepted then f.ids ++ s.delivered else s.delivered }
  | .mark n now =>
    ((s.flushes n).filter (·.accepted.isSome)).map fun f =>
      { s with
        queue := s.queue.map (QueueEntry.marked f.ids now)
        flushes := update s.flushes n none }
  | .lose n => some { s with flushes := update s.flushes n none }

/-! ## What the digests are for -/

structure Exact (s : Digests) : Prop where
  sent : ∀ e ∈ s.queue, e.sentAt ≠ none → e.id ∈ s.delivered
  kept : ∀ id ∈ s.queued, (∃ e ∈ s.queue, e.id = id ∧ e.sentAt = none) ∨ id ∈ s.delivered
  once : s.delivered.Nodup

/-- A flush starts when no other of its configuration is under way, and ends with its mark exactly
if a channel accepted the digest. -/
def Orderly (s : Digests) : Action → Prop
  | .findItems _ config => ∀ n f, s.flushes n = some f → f.config ≠ config
  | .mark n _ => ∀ f, s.flushes n = some f → f.accepted = some true
  | .lose n => ∀ f, s.flushes n = some f → f.accepted ≠ some true
  | _ => True

structure Inv (s : Digests) : Prop where
  ids : (s.queue.map QueueEntry.id).Nodup
  queued : s.queued = s.queue.map QueueEntry.id
  configs : ∀ m n f g, s.flushes m = some f → s.flushes n = some g → f.config = g.config → m = n
  items : ∀ n f, s.flushes n = some f → f.ids.Nodup ∧
    ∀ e ∈ f.items, e ∈ s.queue ∧ e.config = f.config ∧ e.sentAt = none
  /-- What was delivered is marked, or its flush has still to mark it. -/
  delivered : ∀ id, id ∈ s.delivered ↔ (∃ e ∈ s.queue, e.id = id ∧ e.sentAt ≠ none) ∨
    ∃ n f, s.flushes n = some f ∧ f.accepted = some true ∧ id ∈ f.ids
  once : s.delivered.Nodup

variable {s s' : Digests} {f g : Flush} {m n : Nat}

theorem Inv.exact (h : Inv s) : Exact s where
  sent e he hsent := (h.delivered e.id).mpr (.inl ⟨e, he, rfl, hsent⟩)
  kept id hid := by
    rw [h.queued] at hid
    obtain ⟨e, he, rfl⟩ := List.mem_map.mp hid
    by_cases hsent : e.sentAt = none
    · exact .inl ⟨e, he, rfl, hsent⟩
    · exact .inr ((h.delivered e.id).mpr (.inl ⟨e, he, rfl, hsent⟩))
  once := h.once

/-- Two flushes under way share no entry. -/
theorem Inv.same_flush (h : Inv s) (hf : s.flushes m = some f) (hg : s.flushes n = some g)
    {id : String} (hidf : id ∈ f.ids) (hidg : id ∈ g.ids) : m = n := by
  obtain ⟨d, hd, rfl⟩ := List.mem_map.mp hidf
  obtain ⟨e, he, heq⟩ := List.mem_map.mp hidg
  obtain ⟨hdq, hdc, -⟩ := (h.items m f hf).2 d hd
  obtain ⟨heq', hec, -⟩ := (h.items n g hg).2 e he
  obtain rfl := List.inj_on_of_nodup_map h.ids heq' hdq heq
  exact h.configs m n f g hf hg (hdc.symm.trans hec)

/-- A flush that has not dispatched holds nothing that was delivered. -/
theorem Inv.undelivered (h : Inv s) (hf : s.flushes n = some f) (hno : f.accepted = none) :
    List.Disjoint f.ids s.delivered := by
  intro id hidf hid
  rcases (h.delivered id).mp hid with ⟨e, he, rfl, hsent⟩ | ⟨m, g, hg, hacc, hidg⟩
  · obtain ⟨d, hd, heq⟩ := List.mem_map.mp hidf
    obtain ⟨hdq, -, hdue⟩ := (h.items n f hf).2 d hd
    obtain rfl := List.inj_on_of_nodup_map h.ids hdq he heq
    exact hsent hdue
  · obtain rfl := h.same_flush hg hf hidg hidf
    grind

theorem inv_findItems {config : DigestConfigType × String} {items : List QueueEntry} (h : Inv s)
    (hok : Orderly s (.findItems n config)) (hn : s.flushes n = none)
    (hi : (items.map QueueEntry.id).Nodup ∧
      ∀ e ∈ items, e ∈ s.queue ∧ e.config = config ∧ e.sentAt = none) :
    Inv { s with flushes := update s.flushes n (some ⟨config, items, none⟩) } where
  ids := h.ids
  queued := h.queued
  configs := by
    have hcon := h.configs
    unfold Orderly at hok
    grind [update_apply]
  items := by
    have hit := h.items
    grind [update_apply, Flush.ids]
  delivered id := (h.delivered id).trans (or_congr_right
    ⟨fun ⟨m, f, hf, hrest⟩ => ⟨m, f, by grind [update_apply], hrest⟩,
      fun ⟨m, f, hf, hrest⟩ => ⟨m, f, by grind [update_apply], hrest⟩⟩)
  once := h.once

theorem inv_dispatch {accepted : Bool} (h : Inv s) (hn : s.flushes n = some f)
    (hno : f.accepted = none) :
    Inv { s with
      flushes := update s.flushes n (some { f with accepted := some accepted })
      delivered := if accepted then f.ids ++ s.delivered else s.delivered } where
  ids := h.ids
  queued := h.queued
  configs := by
    have hcon := h.configs
    grind [update_apply]
  items := by
    have hit := h.items
    grind [update_apply, Flush.ids]
  delivered id := by
    have hold : (∃ m g, update s.flushes n (some { f with accepted := some accepted }) m = some g ∧
        g.accepted = some true ∧ id ∈ g.ids) ↔ (accepted = true ∧ id ∈ f.ids) ∨
          ∃ m g, s.flushes m = some g ∧ g.accepted = some true ∧ id ∈ g.ids := by
      constructor
      · rintro ⟨m, g, hg, hacc, hid⟩
        grind [update_apply, Flush.ids]
      · rintro (⟨hacc, hid⟩ | ⟨m, g, hg, hacc, hid⟩)
        · exact ⟨n, _, update_self .., congrArg some hacc, hid⟩
        · exact ⟨m, g, by grind [update_apply], hacc, hid⟩
    have hdel := h.delivered id
    grind
  once := by
    have hdis := h.undelivered hn hno
    have hnd := (h.items n f hn).1
    split
    · exact hnd.append h.once hdis
    · exact h.once

theorem marked_id (ids : List String) (now : Nat) (e : QueueEntry) : (e.marked ids now).id = e.id := by
  unfold QueueEntry.marked
  split <;> rfl

/-- A flush ends, with its mark or without. -/
theorem inv_end (ids : List String) (now : Nat) (h : Inv s)
    (hend : ∀ f, s.flushes n = some f → ids = f.ids ∧ f.accepted = some true ∨
      ids = [] ∧ f.accepted ≠ some true) (hnone : s.flushes n = none → ids = []) :
    Inv { s with
      queue := s.queue.map (QueueEntry.marked ids now)
      flushes := update s.flushes n none } where
  ids := by
    have hmap := h.ids
    simpa [Function.comp_def, marked_id] using hmap
  queued := by
    have hmap := h.queued
    simpa [Function.comp_def, marked_id] using hmap
  configs := by
    have hcon := h.configs
    grind [update_apply]
  items m g hg := by
    have hm : m ≠ n := by grind [update_apply]
    replace hg : s.flushes m = some g := by grind [update_apply]
    refine ⟨(h.items m g hg).1, fun e he => ?_⟩
    obtain ⟨heq, hrest⟩ := (h.items m g hg).2 e he
    refine ⟨List.mem_map.mpr ⟨e, heq, if_neg fun hin => hm ?_⟩, hrest⟩
    cases hf : s.flushes n with
    | none => grind
    | some f =>
      rcases hend f hf with ⟨rfl, -⟩ | ⟨rfl, -⟩
      · exact h.same_flush hg hf (List.mem_map_of_mem he) hin
      · cases hin
  delivered id := by
    rw [h.delivered id]
    constructor
    · rintro (⟨e, he, rfl, hsent⟩ | ⟨m, g, hg, hacc, hid⟩)
      · refine .inl ⟨_, List.mem_map_of_mem he, marked_id .., ?_⟩
        grind [QueueEntry.marked]
      · by_cases hm : m = n
        · obtain ⟨e, he, rfl⟩ := List.mem_map.mp hid
          refine .inl ⟨_, List.mem_map_of_mem ((h.items m g hg).2 e he).1, marked_id .., ?_⟩
          grind [QueueEntry.marked]
        · exact .inr ⟨m, g, by grind [update_apply], hacc, hid⟩
    · rintro (⟨d, hd, rfl, hsent⟩ | ⟨m, g, hg, hacc, hid⟩)
      · obtain ⟨e, he, rfl⟩ := List.mem_map.mp hd
        rw [marked_id]
        by_cases hin : e.id ∈ ids
        · cases hf : s.flushes n with
          | none => grind
          | some f => exact .inr ⟨n, f, hf, by grind, by grind⟩
        · exact .inl ⟨e, he, rfl, by grind [QueueEntry.marked]⟩
      · exact .inr ⟨m, g, by grind [update_apply], hacc, hid⟩
  once := h.once

/-- **What a step keeps.** -/
theorem inv_step {a : Action} (h : Inv s) (hok : Orderly s a) (hs : step s a = some s') : Inv s' := by
  cases a with
  | handleCompletion entry =>
    simp only [step] at hs
    split at hs
    · rename_i hnew
      cases hs
      exact {
        ids := by
          rw [List.map_append]
          exact h.ids.append (List.nodup_singleton _) (List.disjoint_singleton.mpr hnew.2)
        queued := by rw [List.map_append, h.queued]; rfl
        configs := h.configs
        items := by
          have hit := h.items
          grind
        delivered := fun id => (h.delivered id).trans (or_congr_left (by grind))
        once := h.once }
    · cases hs
  | findItems n config =>
    simp only [step] at hs
    split at hs
    · cases hs
    · rename_i hn
      split at hs
      · exact Option.some.inj hs ▸ h
      · cases hs
        refine inv_findItems h hok (by simpa using hn) ⟨?_, fun e he => ?_⟩
        · exact h.ids.sublist (List.filter_sublist.map _)
        · simpa using he
  | dispatch n settings =>
    obtain ⟨f, hf, rfl⟩ := Option.map_eq_some_iff.mp hs
    obtain ⟨hn, hno⟩ := Option.filter_eq_some_iff.mp hf
    exact inv_dispatch h hn (Option.isNone_iff_eq_none.mp hno)
  | mark n now =>
    obtain ⟨f, hf, rfl⟩ := Option.map_eq_some_iff.mp hs
    have hn := (Option.filter_eq_some_iff.mp hf).1
    exact inv_end f.ids now h (by grind [Orderly]) (by grind)
  | lose n =>
    cases hs
    have hend := inv_end [] 0 h (fun f hf => .inr ⟨rfl, hok f hf⟩) fun _ => rfl
    have hsame : QueueEntry.marked [] 0 = id := funext fun e => if_neg List.not_mem_nil
    rwa [hsame, List.map_id] at hend

namespace SampleDigest

def completed : QueueEntry := ⟨"backup-1", (.serverPath, "path-1"), "BACKUP_COMPLETED", none⟩

def telegram (returns : Bool) : NotificationSetting := ⟨"TELEGRAM", true, ["BACKUP_COMPLETED"], returns⟩

end SampleDigest

end Meowbox.Notifications
