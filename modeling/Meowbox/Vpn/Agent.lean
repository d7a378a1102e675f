import Mathlib.Logic.Function.Basic

/-!
# VPN services on the server

The agent's side of a VPN service, `agent/src/vpn/amnezia-wg.manager.ts` and `xray.manager.ts`.

* `stored` is what the configuration file of the service holds: the `[Peer]` blocks of
  `awg-<id>.conf`, or the clients of `config.json`. `live` is what the interface or the process runs
  with, when it is up.
* A request of the panel is a row of commands, numbered from 0 in the order of the source. A command
  fails when its number is listed; a failing restart leaves the service as it was, or down.
* `awg set` moves an address to the peer it is set for, as the interface knows one peer for each.
* A lock for each service lets its requests run one at a time, so a request is one step.

A key pair or UUID is named by the number of its draw. Firewall rules and file modes are left out.
-/

namespace Meowbox.Vpn

/-- `VpnProtocol`. -/
inductive VpnProtocol
  | vlessReality
  | amneziaWg
deriving DecidableEq

/-- A `[Peer]` block, a peer of an interface, or a client of Xray, which has no address. -/
structure Peer where
  key : Nat
  allowedIp : Option String
deriving DecidableEq

structure AgentService where
  stored : Option (List Peer)
  live : Option (List Peer)
deriving DecidableEq

namespace AgentService

/-- Nothing is installed. -/
def absent : AgentService := ⟨none, none⟩

/-- `systemctl restart`, as command `n`; command `n + 1` fails when a failure leaves it down. -/
def restart (failing : List Nat) (n : Nat) (a : AgentService) : Bool × AgentService :=
  if n ∈ failing then (false, if n + 1 ∈ failing then { a with live := none } else a)
  else (true, { a with live := a.stored })

/-! ### Xray -/

/-- `XrayManager.addUser`. -/
def xrayAddUser (failing : List Nat) (p : Peer) (a : AgentService) : Bool × AgentService :=
  match a.stored with
  | none => (false, a)
  | some clients =>
    if 0 ∈ failing then (false, a)
    else if clients.any fun c => c.key == p.key then (true, a)
    else if 1 ∈ failing then (false, a)
    else restart failing 2 { a with stored := some (clients ++ [p]) }

/-- `XrayManager.removeUser`. -/
def xrayRemoveUser (failing : List Nat) (key : Nat) (a : AgentService) : Bool × AgentService :=
  match a.stored with
  | none => (false, a)
  | some clients =>
    if 0 ∈ failing then (false, a)
    else if (clients.filter fun c => c.key != key).length = clients.length then (true, a)
    else if 1 ∈ failing then (false, a)
    else restart failing 2 { a with stored := some (clients.filter fun c => c.key != key) }

/-! ### AmneziaWG -/

/-- `awg set … allowed-ips`: no other peer keeps the address. -/
def setPeer (p : Peer) (live : List Peer) : List Peer :=
  ((live.filter fun q => q.key != p.key).map fun q =>
    if q.allowedIp = p.allowedIp then { q with allowedIp := none } else q) ++ [p]

/-- The second part of `AmneziaWgManager.addUser`: the block in the file. -/
def storePeer (failing : List Nat) (p : Peer) (a : AgentService) : Bool × AgentService :=
  match a.stored with
  | none => (false, a)
  | some blocks =>
    if 2 ∈ failing then (false, a)
    else if blocks.any fun b => b.key == p.key then (true, a)
    else if 3 ∈ failing then (false, a)
    else (true, { a with stored := some (blocks ++ [p]) })

/-- `AmneziaWgManager.addUser`: the file with the preshared key, `awg set`, and the block. -/
def awgAddUser (failing : List Nat) (p : Peer) (a : AgentService) : Bool × AgentService :=
  match a.live with
  | none => (false, a)
  | some live =>
    if 0 ∈ failing ∨ 1 ∈ failing then (false, a)
    else storePeer failing p { a with live := some (setPeer p live) }

/-- The second part of `AmneziaWgManager.removeUser`: the block in the file. -/
def purgePeer (failing : List Nat) (key : Nat) (a : AgentService) : Bool × AgentService :=
  match a.stored with
  | none => (false, a)
  | some blocks =>
    if 1 ∈ failing then (false, a)
    else if (blocks.filter fun b => b.key != key).length = blocks.length then (true, a)
    else if 2 ∈ failing then (false, a)
    else (true, { a with stored := some (blocks.filter fun b => b.key != key) })

/-- `AmneziaWgManager.removeUser`: that `awg set … remove` fails is ignored. -/
def awgRemoveUser (failing : List Nat) (key : Nat) (a : AgentService) : Bool × AgentService :=
  purgePeer failing key (if 0 ∈ failing then a
    else { a with live := a.live.map fun live => live.filter fun q => q.key != key })

/-! ### Both -/

/-- `rotateKeys`: a new key pair, the file read and written, and a restart. The peers stay. -/
def rotateKeys (failing : List Nat) (a : AgentService) : Bool × AgentService :=
  match a.stored with
  | none => (false, a)
  | some _ => if 0 ∈ failing ∨ 1 ∈ failing ∨ 2 ∈ failing then (false, a) else restart failing 3 a

/-- `start`: what is up already stays as it is. -/
def start (failing : List Nat) (a : AgentService) : Bool × AgentService :=
  match a.live with
  | some _ => if 0 ∈ failing then (false, a) else (true, a)
  | none =>
    match a.stored with
    | none => (false, a)
    | some blocks => if 0 ∈ failing then (false, a) else (true, { a with live := some blocks })

/-- `stop`. -/
def stop (failing : List Nat) (a : AgentService) : Bool × AgentService :=
  if 0 ∈ failing then (false, a) else (true, { a with live := none })

/-- `uninstall`: that the unit cannot be disabled is ignored; Xray's directory has to go. -/
def uninstall (protocol : VpnProtocol) (failing : List Nat) (a : AgentService) :
    Bool × AgentService :=
  let down := if 0 ∈ failing then a else { a with live := none }
  if 1 ∈ failing then (decide (protocol = .amneziaWg), down)
  else (true, { down with stored := none })

end AgentService

/-! ## Requests -/

/-- A request of the panel about one service. -/
inductive AgentRequest
  | addUser (p : Peer)
  | removeUser (key : Nat)
  | start
  | stop
  | rotateKeys
  | uninstall
deriving DecidableEq

namespace AgentService

/-- What the agent does with a request: whether it reports success, and the service after it. -/
def perform (protocol : VpnProtocol) (request : AgentRequest) (failing : List Nat)
    (a : AgentService) : Bool × AgentService :=
  match request, protocol with
  | .addUser p, .vlessReality => a.xrayAddUser failing p
  | .addUser p, .amneziaWg => a.awgAddUser failing p
  | .removeUser key, .vlessReality => a.xrayRemoveUser failing key
  | .removeUser key, .amneziaWg => a.awgRemoveUser failing key
  | .start, _ => a.start failing
  | .stop, _ => a.stop failing
  | .rotateKeys, _ => a.rotateKeys failing
  | .uninstall, _ => a.uninstall protocol failing

/-! ## Addresses -/

/-- A peer with this address is in the file or on the interface. -/
def Holds (a : AgentService) (key : Nat) (ip : String) : Prop :=
  (∃ l ∈ a.stored, ⟨key, some ip⟩ ∈ l) ∨ ∃ l ∈ a.live, (⟨key, some ip⟩ : Peer) ∈ l

instance (a : AgentService) (key : Nat) (ip : String) : Decidable (a.Holds key ip) :=
  inferInstanceAs (Decidable (_ ∨ _))

variable {a b : AgentService} {key : Nat} {ip : String} {p : Peer} {failing : List Nat}

theorem Holds.of_restart {n : Nat} (h : (a.restart failing n).2.Holds key ip) :
    a.Holds key ip := by
  unfold restart at h
  split at h
  · split at h
    · exact h.imp id fun ⟨l, hl, _⟩ => absurd hl (by simp)
    · exact h
  · exact h.elim .inl .inl

variable {l : List Peer}

/-- A file with one more peer. -/
theorem Holds.of_stored (hl : a.stored = some l)
    (h : ({ a with stored := some (l ++ [p]) } : AgentService).Holds key ip) :
    a.Holds key ip ∨ p = ⟨key, some ip⟩ := by
  rcases h with ⟨l', hl', hmem⟩ | hlive
  · cases hl'
    rcases List.mem_append.mp hmem with hold | hnew
    · exact .inl (.inl ⟨l, hl, hold⟩)
    · exact .inr (List.mem_singleton.mp hnew).symm
  · exact .inl (.inr hlive)

/-- A file without a peer. -/
theorem Holds.of_purged (hl : a.stored = some l) {f : Peer → Bool}
    (h : ({ a with stored := some (l.filter f) } : AgentService).Holds key ip) :
    a.Holds key ip := by
  rcases h with ⟨l', hl', hmem⟩ | hlive
  · cases hl'
    exact .inl ⟨l, hl, (List.mem_filter.mp hmem).1⟩
  · exact .inr hlive

variable {q : Peer}

theorem mem_setPeer {live : List Peer} (h : q ∈ setPeer p live) :
    q = p ∨ q.allowedIp = none ∨ (q ∈ live ∧ q.key ≠ p.key) := by
  rcases List.mem_append.mp h with hold | hnew
  · obtain ⟨q', hq', heq⟩ := List.mem_map.mp hold
    obtain ⟨hmem, hkey⟩ := List.mem_filter.mp hq'
    split at heq
    · exact .inr (.inl (heq ▸ rfl))
    · subst heq
      exact .inr (.inr ⟨hmem, by simpa using hkey⟩)
  · exact .inl (List.mem_singleton.mp hnew)

/-- **What a request brings**: the peer it adds, and nothing else. -/
theorem Holds.of_perform {protocol : VpnProtocol} {request : AgentRequest}
    (h : (a.perform protocol request failing).2.Holds key ip) :
    a.Holds key ip ∨ request = .addUser ⟨key, some ip⟩ := by
  cases request with
  | addUser p =>
    cases protocol with
    | vlessReality =>
      simp only [perform, xrayAddUser] at h
      split at h
      · exact .inl h
      · rename_i clients hclients
        split at h
        · exact .inl h
        split at h
        · exact .inl h
        split at h
        · exact .inl h
        rcases Holds.of_stored hclients h.of_restart with hold | rfl
        · exact .inl hold
        · exact .inr rfl
    | amneziaWg =>
      simp only [perform, awgAddUser] at h
      split at h
      · exact .inl h
      · rename_i live hlive
        split at h
        · exact .inl h
        have hset : ∀ k i, ({ a with live := some (setPeer p live) } : AgentService).Holds k i →
            a.Holds k i ∨ p = ⟨k, some i⟩ := by
          rintro k i (hsto | ⟨l, hl, hmem⟩)
          · exact .inl (.inl hsto)
          · cases hl
            rcases mem_setPeer hmem with hp | hnone | ⟨hold, -⟩
            · exact .inr hp.symm
            · exact absurd hnone (by simp)
            · exact .inl (.inr ⟨live, hlive, hold⟩)
        have hdone : ∀ k i, a.Holds k i ∨ p = ⟨k, some i⟩ →
            a.Holds k i ∨ AgentRequest.addUser p = .addUser ⟨k, some i⟩ := by
          rintro k i (hold | rfl)
          · exact .inl hold
          · exact .inr rfl
        simp only [storePeer] at h
        split at h
        · exact hdone _ _ (hset _ _ h)
        · rename_i blocks hblocks
          split at h
          · exact hdone _ _ (hset _ _ h)
          split at h
          · exact hdone _ _ (hset _ _ h)
          split at h
          · exact hdone _ _ (hset _ _ h)
          rcases Holds.of_stored (a := { a with live := some (setPeer p live) }) hblocks h with
            hold | hp
          · exact hdone _ _ (hset _ _ hold)
          · exact hdone _ _ (.inr hp)
  | removeUser k =>
    left
    cases protocol with
    | vlessReality =>
      simp only [perform, xrayRemoveUser] at h
      split at h
      · exact h
      · rename_i clients hclients
        split at h
        · exact h
        split at h
        · exact h
        split at h
        · exact h
        exact Holds.of_purged hclients h.of_restart
    | amneziaWg =>
      have hlive : ∀ {k' i}, (if 0 ∈ failing then a else { a with
          live := a.live.map fun live => live.filter fun q => q.key != k } :
            AgentService).Holds k' i → a.Holds k' i := by
        intro k' i hk
        split at hk
        · exact hk
        · refine hk.imp id ?_
          rintro ⟨l, hl, hmem⟩
          obtain ⟨l', hl', rfl⟩ := Option.map_eq_some_iff.mp hl
          exact ⟨l', hl', (List.mem_filter.mp hmem).1⟩
      simp only [perform, awgRemoveUser, purgePeer] at h
      split at h
      · exact hlive h
      · rename_i blocks hblocks
        split at h
        · exact hlive h
        split at h
        · exact hlive h
        split at h
        · exact hlive h
        exact hlive (Holds.of_purged hblocks h)
  | start =>
    left
    simp only [perform, start] at h
    split at h
    · split at h
      · exact h
      · exact h
    · split at h
      · exact h
      · rename_i blocks hblocks
        split at h
        · exact h
        · rcases h with hsto | ⟨l, hl, hmem⟩
          · exact .inl hsto
          · cases hl
            exact .inl ⟨blocks, hblocks, hmem⟩
  | stop =>
    left
    simp only [perform, stop] at h
    split at h
    · exact h
    · exact h.imp id fun ⟨l, hl, _⟩ => absurd hl (by simp)
  | rotateKeys =>
    left
    simp only [perform, rotateKeys] at h
    split at h
    · exact h
    · split at h
      · exact h
      · exact h.of_restart
  | uninstall =>
    left
    have hdown : ∀ {k i}, (if 0 ∈ failing then a else { a with live := none } :
        AgentService).Holds k i → a.Holds k i := by
      intro k i hk
      split at hk
      · exact hk
      · exact hk.imp id fun ⟨l, hl, _⟩ => absurd hl (by simp)
    simp only [perform, uninstall] at h
    split at h
    · exact hdown h
    · rcases h with ⟨l, hl, hmem⟩ | hlive
      · exact absurd hl (by simp)
      · exact hdown (.inr hlive)

/-! ## Peers, when nothing fails -/

/-- The file has this peer. -/
def Has (a : AgentService) (q : Peer) : Prop := ∃ l ∈ a.stored, q ∈ l

instance (a : AgentService) (q : Peer) : Decidable (a.Has q) :=
  inferInstanceAs (Decidable (∃ l ∈ a.stored, q ∈ l))

/-- What is up runs with the peers of the file. -/
def InStep (a : AgentService) : Prop := ∀ l ∈ a.live, a.stored.isSome ∧ ∀ q, q ∈ l ↔ a.Has q

theorem has_iff (h : a.stored = some l) : a.Has q ↔ q ∈ l := by
  unfold Has
  rw [h]
  simp

theorem inStep_down (h : a.live = none) : a.InStep := by
  intro l hl
  rw [h] at hl
  cases hl

/-- Just restarted. -/
theorem inStep_restarted : (⟨some l, some l⟩ : AgentService).InStep := by
  rintro l' ⟨⟩
  exact ⟨rfl, fun q => (has_iff rfl).symm⟩

/-- Nothing in the file is at odds with the peer. -/
def Suits (a : AgentService) (p : Peer) : Prop :=
  ∀ q, a.Has q → q.key = p.key ∨ q.allowedIp = p.allowedIp ∧ p.allowedIp.isSome = true → q = p

theorem mem_setPeer_iff {live : List Peer}
    (hlive : ∀ q ∈ live, q.key = p.key ∨ q.allowedIp = p.allowedIp → q = p) :
    q ∈ setPeer p live ↔ q ∈ live ∨ q = p := by
  unfold setPeer
  rw [List.mem_append, List.mem_singleton]
  constructor
  · rintro (h | rfl)
    · obtain ⟨q', hq', heq⟩ := List.mem_map.mp h
      obtain ⟨hmem, hkey⟩ := List.mem_filter.mp hq'
      have hne : q' ≠ p := by
        rintro rfl
        simp at hkey
      have hip : q'.allowedIp ≠ p.allowedIp := fun hip => hne (hlive q' hmem (.inr hip))
      rw [if_neg hip] at heq
      exact .inl (heq ▸ hmem)
    · exact .inr rfl
  · rintro (h | rfl)
    · by_cases hp : q = p
      · exact .inr hp
      · refine .inl (List.mem_map.mpr ⟨q, List.mem_filter.mpr ⟨h, ?_⟩, ?_⟩)
        · have hkey : q.key ≠ p.key := fun hkey => hp (hlive q h (.inl hkey))
          simpa using hkey
        · exact if_neg fun hip => hp (hlive q h (.inr hip))
    · exact .inr rfl

variable {live : Option (List Peer)}

theorem has_append : (⟨some (l ++ [p]), live⟩ : AgentService).Has q ↔ q ∈ l ∨ q = p := by
  rw [has_iff (l := l ++ [p]) rfl, List.mem_append, List.mem_singleton]

theorem has_filter :
    (⟨some (l.filter fun c => c.key != key), live⟩ : AgentService).Has q ↔
      q ∈ l ∧ q.key ≠ key := by
  rw [has_iff (l := l.filter fun c => c.key != key) rfl, List.mem_filter]
  simp

theorem not_has : ¬(⟨none, live⟩ : AgentService).Has q := by
  rintro ⟨l, h, -⟩
  cases h

/-- **Adding a peer**: it is there after a success, and a failure leaves the service. What is up
stays up and takes the peer. -/
structure Added (a : AgentService) (p : Peer) (result : Bool × AgentService) : Prop where
  inStep : result.2.InStep
  up : a.live.isSome = true → result.1 = true ∧ result.2.live.isSome = true
  failed : result.1 = false → result.2 = a
  has : result.1 = true → ∀ q, result.2.Has q ↔ a.Has q ∨ q = p

/-- A peer that the file has already. -/
theorem Added.present {live' : Option (List Peer)} (hp : (⟨some l, live⟩ : AgentService).Suits p)
    (hany : (l.any fun c => c.key == p.key) = true)
    (hlive : ∀ l' ∈ live', ∀ q, q ∈ l' ↔ q ∈ l ∨ q = p)
    (hup : live.isSome = true → live'.isSome = true) :
    Added ⟨some l, live⟩ p (true, ⟨some l, live'⟩) := by
  obtain ⟨c, hc, hkey⟩ := List.any_eq_true.mp hany
  have hcp : c = p := hp c ((has_iff rfl).mpr hc) (.inl (by simpa using hkey))
  have hhas : ∀ q, q ∈ l ↔ q ∈ l ∨ q = p := fun q => ⟨.inl, fun h => h.elim id fun hq => by
    rw [hq, ← hcp]
    exact hc⟩
  refine ⟨fun l' hl' => ⟨rfl, fun q => ?_⟩, fun h => ⟨rfl, hup h⟩, nofun, fun _ q => ?_⟩
  · rw [hlive l' hl', has_iff (l := l) rfl]
    exact (hhas q).symm
  · rw [has_iff (l := l) rfl, has_iff (l := l) rfl]
    exact hhas q

variable (protocol : VpnProtocol)

theorem perform_add (ha : a.InStep) (hp : a.Suits p)
    (hip : protocol = .amneziaWg → p.allowedIp.isSome = true) :
    Added a p (a.perform protocol (.addUser p) []) := by
  obtain ⟨_ | l, live⟩ := a
  · have hdown : live = none := by
      cases live with
      | none => rfl
      | some l => exact absurd (ha l rfl).1 (by simp)
    subst hdown
    cases protocol with
    | vlessReality => exact ⟨ha, nofun, fun _ => rfl, nofun⟩
    | amneziaWg => exact ⟨ha, nofun, fun _ => rfl, nofun⟩
  · cases protocol with
    | vlessReality =>
      simp only [perform, xrayAddUser, List.not_mem_nil, if_false, restart]
      split
      · rename_i hany
        refine Added.present hp hany (fun l' hl' q => ?_) id
        obtain ⟨c, hc, hkey⟩ := List.any_eq_true.mp hany
        have hcp : c = p := hp c ((has_iff rfl).mpr hc) (.inl (by simpa using hkey))
        rw [(ha l' hl').2, has_iff (l := l) rfl]
        exact ⟨.inl, fun h => h.elim id fun hq => hq ▸ hcp ▸ hc⟩
      · exact ⟨inStep_restarted, fun _ => ⟨rfl, rfl⟩, nofun,
          fun _ q => has_append.trans (by rw [has_iff (l := l) rfl])⟩
    | amneziaWg =>
      cases live with
      | none => exact ⟨ha, nofun, fun _ => rfl, nofun⟩
      | some live =>
        have hmem : ∀ q, q ∈ setPeer p live ↔ q ∈ l ∨ q = p := by
          intro q
          rw [mem_setPeer_iff fun q hq hconflict => hp q (((ha live rfl).2 q).mp hq)
            (hconflict.imp_right fun h => ⟨h, hip rfl⟩), (ha live rfl).2, has_iff rfl]
        simp only [perform, awgAddUser, List.not_mem_nil, or_self, if_false, storePeer]
        split
        · rename_i hany
          refine Added.present hp hany ?_ fun _ => rfl
          rintro l' ⟨⟩
          exact hmem
        · refine ⟨?_, fun _ => ⟨rfl, rfl⟩, nofun,
            fun _ q => has_append.trans (by rw [has_iff (l := l) rfl])⟩
          rintro l' ⟨⟩
          exact ⟨rfl, fun q => (hmem q).trans has_append.symm⟩

/-- **Removing a peer.** -/
theorem perform_remove (key : Nat) (ha : a.InStep) :
    (a.perform protocol (.removeUser key) []).2.InStep ∧
      (a.live.isSome = true →
        (a.perform protocol (.removeUser key) []).2.live.isSome = true) ∧
      ∀ q, (a.perform protocol (.removeUser key) []).2.Has q ↔ a.Has q ∧ q.key ≠ key := by
  obtain ⟨_ | l, live⟩ := a
  · have hdown : live = none := by
      cases live with
      | none => rfl
      | some l => exact absurd (ha l rfl).1 (by simp)
    subst hdown
    have hnone : ∀ q, (⟨none, none⟩ : AgentService).Has q ↔
        (⟨none, none⟩ : AgentService).Has q ∧ q.key ≠ key := fun q =>
      ⟨fun h => absurd h not_has, And.left⟩
    cases protocol with
    | vlessReality => exact ⟨ha, nofun, hnone⟩
    | amneziaWg => exact ⟨inStep_down rfl, nofun, hnone⟩
  · have hpurged : ∀ live' q, (⟨some (l.filter fun c => c.key != key), live'⟩ :
        AgentService).Has q ↔ (⟨some l, live⟩ : AgentService).Has q ∧ q.key ≠ key :=
      fun live' q => has_filter.trans (by rw [has_iff (l := l) rfl])
    have habsent : (l.filter fun c => c.key != key).length = l.length →
        ∀ q, q ∈ l ↔ q ∈ l ∧ q.key ≠ key := by
      intro hlen q
      have hall := List.length_filter_eq_length_iff.mp hlen
      refine ⟨fun h => ⟨h, ?_⟩, And.left⟩
      simpa using hall q h
    have hsame : ∀ live', (l.filter fun c => c.key != key).length = l.length →
        ∀ q, (⟨some l, live'⟩ : AgentService).Has q ↔
          (⟨some l, live⟩ : AgentService).Has q ∧ q.key ≠ key := by
      intro live' hlen q
      rw [has_iff (l := l) rfl, has_iff (l := l) rfl]
      exact habsent hlen q
    cases protocol with
    | vlessReality =>
      simp only [perform, xrayRemoveUser, List.not_mem_nil, if_false, restart]
      split
      · rename_i hlen
        exact ⟨ha, id, hsame live hlen⟩
      · exact ⟨inStep_restarted, fun _ => rfl, hpurged _⟩
    | amneziaWg =>
      have hmem : ∀ l' ∈ live, ∀ q, q ∈ (l'.filter fun c => c.key != key) ↔
          q ∈ l ∧ q.key ≠ key := by
        intro l' hl' q
        rw [List.mem_filter, (ha l' hl').2, has_iff (l := l) rfl]
        simp
      have hup : live.isSome = true → (live.map fun l' =>
          l'.filter fun c => c.key != key).isSome = true := fun h => by simpa using h
      simp only [perform, awgRemoveUser, List.not_mem_nil, if_false, purgePeer]
      split
      · rename_i hlen
        refine ⟨?_, hup, hsame _ hlen⟩
        intro l' hl'
        obtain ⟨l'', hl'', rfl⟩ := Option.map_eq_some_iff.mp hl'
        exact ⟨rfl, fun q => (hmem l'' hl'' q).trans ((habsent hlen q).symm.trans
          (has_iff (l := l) rfl).symm)⟩
      · refine ⟨?_, hup, hpurged _⟩
        intro l' hl'
        obtain ⟨l'', hl'', rfl⟩ := Option.map_eq_some_iff.mp hl'
        exact ⟨rfl, fun q => (hmem l'' hl'' q).trans has_filter.symm⟩

/-- **Starting**, with the peers of the file. -/
theorem perform_start (ha : a.InStep) :
    (a.perform protocol .start []).2.InStep ∧
      (∀ q, (a.perform protocol .start []).2.Has q ↔ a.Has q) ∧
      (a.live.isSome = true → (a.perform protocol .start []).2.live.isSome = true) ∧
      ((a.perform protocol .start []).1 = true →
        (a.perform protocol .start []).2.live.isSome = true) := by
  obtain ⟨_ | l, _ | live⟩ := a
  · exact ⟨ha, fun _ => Iff.rfl, nofun, nofun⟩
  · exact absurd (ha live rfl).1 (by simp)
  · exact ⟨inStep_restarted, fun _ => Iff.rfl, fun _ => rfl, fun _ => rfl⟩
  · exact ⟨ha, fun _ => Iff.rfl, fun _ => rfl, fun _ => rfl⟩

/-- **Stopping.** -/
theorem perform_stop :
    (a.perform protocol .stop []).2.InStep ∧
      ∀ q, (a.perform protocol .stop []).2.Has q ↔ a.Has q := by
  simp only [perform, stop, List.not_mem_nil, if_false]
  exact ⟨inStep_down rfl, fun _ => Iff.rfl⟩

/-- **New keys**: the peers stay, and what is up stays up. -/
theorem perform_rotateKeys (ha : a.InStep) :
    (a.perform protocol .rotateKeys []).2.InStep ∧
      (∀ q, (a.perform protocol .rotateKeys []).2.Has q ↔ a.Has q) ∧
      (a.live.isSome = true → (a.perform protocol .rotateKeys []).2.live.isSome = true) := by
  obtain ⟨_ | l, live⟩ := a
  · exact ⟨ha, fun _ => Iff.rfl, id⟩
  · simp only [perform, rotateKeys, restart, List.not_mem_nil, or_self, if_false]
    exact ⟨inStep_restarted, fun _ => Iff.rfl, fun _ => rfl⟩

/-- **Uninstalling** leaves nothing. -/
theorem perform_uninstall : a.perform protocol .uninstall [] = (true, absent) := by
  simp [perform, uninstall, absent]

end AgentService

end Meowbox.Vpn
