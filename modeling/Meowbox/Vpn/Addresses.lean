import Meowbox.Lib.Phases
import Meowbox.Vpn.Service

/-!
# Addresses of the users of a service

An addition reads the addresses that are taken, then asks the agent for keys, and only then creates
its row; a removal deletes the row whatever the agent made of the request.

* `AddressGuard`: the address that an addition is about to choose is held by no other addition under
  way and by no row that cannot be read, and a row goes only when its peer is off the server.
* `peer_addresses_unique`: in runs of such steps the users of a service have different addresses, and
  so have the peers on its interface and in its file.
* `peer_addresses_shared`: two additions at once, a row that cannot be read, and a peer that stays.
-/

namespace Meowbox.Vpn

open Interleaved Stepping

/-! ## The calls -/

inductive MembershipOrder
  | addUserToService (userId serviceId : Nat)
  | removeUserFromService (userId serviceId : Nat)
  | deleteUser (id : Nat)
deriving DecidableEq

def MembershipOrder.toOrder : MembershipOrder → VpnOrder
  | addUserToService userId serviceId => .addUserToService userId serviceId
  | removeUserFromService userId serviceId => .removeUserFromService userId serviceId
  | deleteUser id => .deleteUser id

/-- What happens besides these calls. -/
inductive VpnChange
  | setFates (fates : List Fate)
  | setConnected (connected : Bool)
  | createUser (name : String) (notes : Option String)
  | setEnabled (userId : Nat) (enabled : Bool)
  | setStatus (serviceId : Nat) (status : VpnServiceStatus)
  /-- Some secrets become unreadable. -/
  | loseSecrets (userId serviceId : Nat)
  /-- The agent performs a request that the panel has given up. -/
  | performLate (n : Nat) (failing : List Nat)
  /-- Other requests about a service. -/
  | other (r : PendingRequest) (failing : List Nat)

/-- A request that adds no peer. -/
def AgentRequest.adds : AgentRequest → Bool
  | .addUser _ => true
  | _ => false

/-- The row, when it is this one, can no longer be read. -/
def CredsRow.lose (userId serviceId : Nat) (r : CredsRow) : CredsRow :=
  if r.userId = userId ∧ r.serviceId = serviceId then
    { r with credsBlob := { r.credsBlob with readable := false } }
  else r

def VpnState.outside : VpnChange → VpnState → VpnState
  | .setFates fates, x => { x with fates := fates }
  | .setConnected connected, x => { x with connected := connected }
  | .createUser name notes, x => (x.createUser name notes).2
  | .setEnabled userId enabled, x => (x.updateUser userId fun u => { u with enabled := enabled }).2
  | .setStatus serviceId status, x =>
    (x.updateService serviceId fun s => { s with status := status }).2
  | .loseSecrets userId serviceId, x => { x with creds := x.creds.map (CredsRow.lose userId serviceId) }
  | .performLate n failing, x => x.performLate n failing
  | .other r failing, x => if r.request.adds then x else (x.perform r failing).2

def memberships : Service VpnState VpnChange MembershipOrder VpnInstr Reply
    (Except VpnError Unit) where
  program order := (orderProgram order.toOrder).run
  answer := reply
  outside := VpnState.outside

/-! ## Phases -/

/-- What an addition has read and drawn. -/
inductive Phase
  | plain
  /-- It has read the service, which has this network. -/
  | service (id : Nat) (network : Cidr)
  /-- It has chosen an address, and has no row yet. -/
  | allocated (id : Nat) (ip : String)
  /-- Its row is created, and it may be about to have the peer added. -/
  | created (id : Nat) (p : Peer)
deriving DecidableEq

/-- The network of a service, where its configuration has one. -/
def networkOf (s : ServiceRow) : Option Cidr :=
  match decryptVpnJson s.configBlob with
  | .ok (.amneziaWg _ network) => some network
  | _ => none

/-- The phase after the service is read. -/
def afterService : Option ServiceRow → Phase
  | some s => ((networkOf s).map (Phase.service s.id)).getD .plain
  | none => .plain

/-- The phase after the addresses are read. -/
def afterRows (rows : List CredsRow) : Phase → Phase
  | .service id network =>
    match allocateNextIp network (takenIps rows) with
    | .ok ip => .allocated id ip
    | .error _ => .plain
  | _ => .plain

/-- The phase after the row is created. -/
def afterCreate (row : CredsRow) : Except VpnError Unit → Phase
  | .ok _ => if row.peer.allowedIp.isSome then .created row.serviceId row.peer else .plain
  | .error _ => .plain

/-- The instructions of an addition in their order. -/
def additions : Protocol Phase VpnInstr Reply where
  allows y
    | .findService _ => y = .plain
    | .credsOfService id => ∃ network, y = .service id network
    | .createCreds row => ∀ ip, row.peer.allowedIp = some ip → y = .allocated row.serviceId ip
    | .emitToAgent r => ∀ p, r.request = .addUser p → p.allowedIp.isSome = true →
        y = .created r.serviceId p
    | .createUser _ _ => False
    | .updateUser _ _ _ _ => False
    | .setServiceStatus _ _ => False
    | .setServiceConfig _ _ => False
    | .deleteService _ => False
    | _ => True
  after y
    | .findService _, r => afterService r
    | .credsOfService _, rows => afterRows rows y
    | .createCreds row, r => afterCreate row r
    | .emitToAgent _, _ => .plain
    | .deleteCreds _ _, _ => .plain
    | .deleteUser _, _ => .plain
    | _, _ => y

/-! ## The guard -/

/-- Nothing on the server has the peer of a row, and no request for it is under way. -/
def Unused (x : VpnState) (l : List Phase) (r : CredsRow) : Prop :=
  ∀ ip ∈ r.peer.allowedIp, ¬(x.agent r.serviceId).Holds r.peer.key ip ∧
    (∀ q ∈ x.pending, ¬(q.serviceId = r.serviceId ∧ q.request = .addUser r.peer)) ∧
      .created r.serviceId r.peer ∉ l

/-- An address that no other addition has chosen, and that no unreadable row holds. -/
def Vacant (x : VpnState) (l : List Phase) (id : Nat) (ip : String) : Prop :=
  .allocated id ip ∉ l ∧ ∀ r ∈ x.creds, r.serviceId = id → r.credsBlob.readable = false →
    r.peer.allowedIp ≠ some ip

/-- The addresses chosen in the phase `y`, when these rows are read. -/
def Phase.chosen (rows : List CredsRow) (y : Phase) : Option (Nat × String) :=
  match afterRows rows y with
  | .allocated id ip => some (id, ip)
  | _ => none

/-- **The guard.** -/
def AddressGuard (x : VpnState) (l : List Phase) (k : Nat) : VpnInstr → Prop
  | .credsOfService id => ∀ y ∈ l[k]?, ∀ c ∈ y.chosen (x.credsOfService id), Vacant x l c.1 c.2
  | .deleteCreds userId serviceId =>
    ∀ r ∈ x.creds, r.userId = userId → r.serviceId = serviceId → Unused x l r
  | .deleteUser userId => ∀ r ∈ x.creds, r.userId = userId → Unused x l r
  | _ => True

/-! ## The invariant -/

/-- What is on the server has its row, and the rows of a service have different addresses. -/
structure Assigned (x : VpnState) : Prop where
  unique : ∀ r₁ ∈ x.creds, ∀ r₂ ∈ x.creds, r₁.serviceId = r₂.serviceId →
    ∀ ip, r₁.peer.allowedIp = some ip → r₂.peer.allowedIp = some ip →
      r₁.userId = r₂.userId ∧ r₁.peer = r₂.peer
  backed : ∀ s key ip, (x.agent s).Holds key ip →
    ∃ r ∈ x.creds, r.serviceId = s ∧ r.peer = ⟨key, some ip⟩
  pending : ∀ q ∈ x.pending, ∀ p, q.request = .addUser p → p.allowedIp.isSome = true →
    ∃ r ∈ x.creds, r.serviceId = q.serviceId ∧ r.peer = p

structure AddressInv (x : VpnState) (l : List Phase) : Prop extends Assigned x where
  vacant : ∀ id ip, .allocated id ip ∈ l → ∀ r ∈ x.creds, r.serviceId = id →
    r.peer.allowedIp ≠ some ip
  distinct : ∀ (k m : Nat) id ip, l[k]? = some (.allocated id ip) →
    l[m]? = some (.allocated id ip) → k = m
  created : ∀ id p, .created id p ∈ l → p.allowedIp.isSome = true →
    ∃ r ∈ x.creds, r.serviceId = id ∧ r.peer = p

variable {x x' : VpnState} {l l' : List Phase} {k : Nat} {y : Phase}

/-- Changes that leave the rows' addresses, the peers and the requests. -/
theorem AddressInv.congr (h : AddressInv x l)
    (hcrs : x'.creds.map (fun r => (r.userId, r.serviceId, r.peer)) =
      x.creds.map fun r => (r.userId, r.serviceId, r.peer))
    (hag : ∀ s key ip, (x'.agent s).Holds key ip → (x.agent s).Holds key ip)
    (hpend : ∀ q ∈ x'.pending, q ∈ x.pending) : AddressInv x' l := by
  have hback : ∀ r ∈ x'.creds, ∃ r' ∈ x.creds, r'.userId = r.userId ∧ r'.serviceId = r.serviceId ∧
      r'.peer = r.peer := by
    intro r hr
    have hmem : (r.userId, r.serviceId, r.peer) ∈
        x.creds.map fun r => (r.userId, r.serviceId, r.peer) := by
      rw [← hcrs]
      exact List.mem_map_of_mem hr
    obtain ⟨r', hr', heq⟩ := List.mem_map.mp hmem
    simp only [Prod.mk.injEq] at heq
    exact ⟨r', hr', heq⟩
  have hforth : ∀ r ∈ x.creds, ∃ r' ∈ x'.creds, r'.serviceId = r.serviceId ∧ r'.peer = r.peer := by
    intro r hr
    have hmem : (r.userId, r.serviceId, r.peer) ∈
        x'.creds.map fun r => (r.userId, r.serviceId, r.peer) := by
      rw [hcrs]
      exact List.mem_map_of_mem hr
    obtain ⟨r', hr', heq⟩ := List.mem_map.mp hmem
    simp only [Prod.mk.injEq] at heq
    exact ⟨r', hr', heq.2⟩
  have hmove : ∀ s p, (∃ r ∈ x.creds, r.serviceId = s ∧ r.peer = p) →
      ∃ r ∈ x'.creds, r.serviceId = s ∧ r.peer = p := by
    rintro s p ⟨r, hr, hs, hp⟩
    obtain ⟨r', hr', hs', hp'⟩ := hforth r hr
    exact ⟨r', hr', hs'.trans hs, hp'.trans hp⟩
  refine ⟨⟨?_, fun s key ip hholds => hmove _ _ (h.backed s key ip (hag s key ip hholds)),
    fun q hq p hp hip => hmove _ _ (h.pending q (hpend q hq) p hp hip)⟩, ?_, h.distinct,
    fun id p hp hip => hmove _ _ (h.created id p hp hip)⟩
  · intro r₁ hr₁ r₂ hr₂ hsvc ip hip₁ hip₂
    obtain ⟨r₁', hr₁', hu₁, hs₁, hp₁⟩ := hback r₁ hr₁
    obtain ⟨r₂', hr₂', hu₂, hs₂, hp₂⟩ := hback r₂ hr₂
    have hsame := h.unique r₁' hr₁' r₂' hr₂' (by rw [hs₁, hs₂, hsvc]) ip (by rw [hp₁, hip₁])
      (by rw [hp₂, hip₂])
    rwa [hu₁, hu₂, hp₁, hp₂] at hsame
  · intro id ip hl r hr hid
    obtain ⟨r', hr', -, hs', hp'⟩ := hback r hr
    rw [← hp']
    exact h.vacant id ip hl r' hr' (hs'.trans hid)

/-- A call that lets go of what it has chosen. -/
theorem AddressInv.set (h : AddressInv x l) (hallocated : ∀ id ip, y ≠ .allocated id ip)
    (hcr : ∀ id p, y = .created id p → ∃ r ∈ x.creds, r.serviceId = id ∧ r.peer = p) :
    AddressInv x (l.set k y) := by
  refine ⟨h.toAssigned, fun id ip hl => ?_, fun m n id ip hm hn => ?_, fun id p hl hip => ?_⟩
  · rcases mem_set_cases hl with heq | ⟨m, -, hm⟩
    · exact absurd heq.symm (hallocated id ip)
    · exact h.vacant id ip (List.mem_of_getElem? hm)
  · rcases getElem?_set_cases hm with ⟨-, heq⟩ | ⟨-, hm⟩
    · exact absurd heq.symm (hallocated id ip)
    · rcases getElem?_set_cases hn with ⟨-, heq⟩ | ⟨-, hn⟩
      · exact absurd heq.symm (hallocated id ip)
      · exact h.distinct m n id ip hm hn
  · rcases mem_set_cases hl with heq | ⟨m, -, hm⟩
    · exact hcr id p heq.symm
    · exact h.created id p (List.mem_of_getElem? hm) hip

theorem AddressInv.plain (h : AddressInv x l) : AddressInv x (l.set k .plain) :=
  h.set (fun _ _ => nofun) fun _ _ => nofun

/-! ### What the statements change -/

section Statements

theorem perform_holds {r : PendingRequest} {failing : List Nat} {s key : Nat} {ip : String}
    (h : ((x.perform r failing).2.agent s).Holds key ip) :
    (x.agent s).Holds key ip ∨ (s = r.serviceId ∧ r.request = .addUser ⟨key, some ip⟩) := by
  by_cases hs : s = r.serviceId
  · subst hs
    simp only [VpnState.perform, Function.update_self] at h
    exact h.of_perform.imp_right fun hadd => ⟨rfl, hadd⟩
  · simp only [VpnState.perform, Function.update_of_ne hs] at h
    exact .inl h

/-- The agent performs a request whose peer, if it adds one, has its row. -/
theorem AddressInv.perform (h : AddressInv x l) {r : PendingRequest} {failing : List Nat}
    (hr : ∀ p, r.request = .addUser p → p.allowedIp.isSome = true →
      ∃ c ∈ x.creds, c.serviceId = r.serviceId ∧ c.peer = p) :
    AddressInv (x.perform r failing).2 l := by
  refine ⟨⟨h.unique, fun s key ip hholds => ?_, h.pending⟩, h.vacant, h.distinct, h.created⟩
  rcases perform_holds hholds with hold | ⟨rfl, hadd⟩
  · exact h.backed s key ip hold
  · exact hr _ hadd rfl

/-- The same, for a request that is answered, refused or left to the agent. -/
theorem AddressInv.emit (h : AddressInv x l) {r : PendingRequest}
    (hr : ∀ p, r.request = .addUser p → p.allowedIp.isSome = true →
      ∃ c ∈ x.creds, c.serviceId = r.serviceId ∧ c.peer = p) :
    AddressInv (x.emitToAgent r).2 l := by
  unfold VpnState.emitToAgent
  split
  · exact h
  · have hy : AddressInv { x with fates := x.fates.tail, drawn := x.drawn + 1 } l :=
      h.congr rfl (fun _ _ _ => id) fun _ => id
    dsimp only
    split
    · exact hy
    · refine ⟨⟨hy.unique, hy.backed, fun q hq p hp hip => ?_⟩, hy.vacant, hy.distinct, hy.created⟩
      rcases List.mem_snoc.mp hq with hold | rfl
      · exact hy.pending q hold p hp hip
      · exact hr p hp hip
    · exact hy.perform hr

/-- Rows go whose peers are off the server. -/
theorem AddressInv.delete (h : AddressInv x l) {users : List UserRow} {f : CredsRow → Bool}
    (hunused : ∀ r ∈ x.creds, f r = false → Unused x l r) :
    AddressInv { x with users := users, creds := x.creds.filter f } l := by
  have hkeep : ∀ s p, p.allowedIp.isSome = true → (∃ r ∈ x.creds, r.serviceId = s ∧ r.peer = p) →
      (∀ r, r.serviceId = s → r.peer = p → ¬Unused x l r) →
        ∃ r ∈ x.creds.filter f, r.serviceId = s ∧ r.peer = p := by
    rintro s p - ⟨r, hr, hs, hp⟩ hused
    refine ⟨r, List.mem_filter.mpr ⟨hr, ?_⟩, hs, hp⟩
    cases hf : f r with
    | true => rfl
    | false => exact absurd (hunused r hr hf) (hused r hs hp)
  refine ⟨⟨?_, fun s key ip hholds => ?_, fun q hq p hp hip => ?_⟩, ?_, h.distinct,
    fun id p hl hip => ?_⟩
  · intro r₁ hr₁ r₂ hr₂
    exact h.unique r₁ (List.mem_filter.mp hr₁).1 r₂ (List.mem_filter.mp hr₂).1
  · refine hkeep s _ rfl (h.backed s key ip hholds) ?_
    rintro r rfl hpeer hun
    refine (hun ip (by rw [hpeer]; rfl)).1 ?_
    rw [hpeer]
    exact hholds
  · refine hkeep _ _ hip (h.pending q hq p hp hip) ?_
    rintro r hs rfl hun
    obtain ⟨ip, hsome⟩ := Option.isSome_iff_exists.mp hip
    exact (hun ip hsome).2.1 q hq ⟨hs.symm, hp⟩
  · intro id ip hl r hr
    exact h.vacant id ip hl r (List.mem_filter.mp hr).1
  · refine hkeep id p hip (h.created id p hl hip) ?_
    rintro r rfl rfl hun
    obtain ⟨ip, hsome⟩ := Option.isSome_iff_exists.mp hip
    exact (hun ip hsome).2.2 hl

theorem afterCreate_cases (row : CredsRow) (r : Except VpnError Unit) :
    afterCreate row r = .plain ∨ afterCreate row r = .created row.serviceId row.peer := by
  cases r with
  | error e => exact .inl rfl
  | ok u =>
    simp only [afterCreate]
    split
    · exact .inr rfl
    · exact .inl rfl

theorem afterCreate_ne {row : CredsRow} {r : Except VpnError Unit} {id : Nat} {ip : String} :
    afterCreate row r ≠ .allocated id ip := by
  rcases afterCreate_cases row r with h | h
  · rw [h]
    exact nofun
  · rw [h]
    exact nofun

/-- A row is created, with the address its addition has chosen. -/
theorem AddressInv.create (h : AddressInv x l) {row : CredsRow} (hk : l[k]? = some y)
    (halw : additions.allows y (.createCreds row)) :
    AddressInv (x.createCreds row).2 (l.set k (afterCreate row (x.createCreds row).1)) := by
  unfold VpnState.createCreds
  split
  · exact h.plain
  · have hfree : ∀ ip, row.peer.allowedIp = some ip → ∀ r ∈ x.creds,
        r.serviceId = row.serviceId → r.peer.allowedIp ≠ some ip := fun ip hip =>
      h.vacant _ ip (halw ip hip ▸ List.mem_of_getElem? hk)
    have hkeep : ∀ s p, (∃ r ∈ x.creds, r.serviceId = s ∧ r.peer = p) →
        ∃ r ∈ x.creds ++ [row], r.serviceId = s ∧ r.peer = p := fun s p ⟨r, hr, hrest⟩ =>
      ⟨r, List.mem_append_left _ hr, hrest⟩
    have hnew : ∃ r ∈ x.creds ++ [row], r.serviceId = row.serviceId ∧ r.peer = row.peer :=
      ⟨row, List.mem_append_right _ (List.mem_singleton.mpr rfl), rfl, rfl⟩
    refine ⟨⟨?_, fun s key ip hholds => hkeep _ _ (h.backed s key ip hholds),
      fun q hq p hp hip => hkeep _ _ (h.pending q hq p hp hip)⟩, fun id ip hl r hr hid => ?_,
      fun m n id ip hm hn => ?_, fun id p hl hip => ?_⟩
    · intro r₁ hr₁ r₂ hr₂ hsvc ip hip₁ hip₂
      rcases List.mem_append.mp hr₁ with hold₁ | hnew₁
      · rcases List.mem_snoc.mp hr₂ with hold₂ | rfl
        · exact h.unique r₁ hold₁ r₂ hold₂ hsvc ip hip₁ hip₂
        · exact absurd hip₁ (hfree ip hip₂ r₁ hold₁ hsvc)
      · rcases List.mem_snoc.mp hr₂ with hold₂ | hnew₂
        · rw [List.mem_singleton.mp hnew₁] at hsvc hip₁
          exact absurd hip₂ (hfree ip hip₁ r₂ hold₂ hsvc.symm)
        · rw [List.mem_singleton.mp hnew₁, hnew₂]
          exact ⟨rfl, rfl⟩
    · have hother : ∃ m, m ≠ k ∧ l[m]? = some (.allocated id ip) := by
        rcases mem_set_cases hl with heq | hother
        · exact absurd heq.symm afterCreate_ne
        · exact hother
      obtain ⟨m, hne, hm⟩ := hother
      rcases List.mem_snoc.mp hr with hold | rfl
      · exact h.vacant id ip (List.mem_of_getElem? hm) r hold hid
      · intro hip
        have hy := halw ip hip
        rw [hid] at hy
        exact hne (h.distinct m k id ip hm (hk.trans (congrArg some hy)))
    · rcases getElem?_set_cases hm with ⟨-, heq⟩ | ⟨-, hm⟩
      · exact absurd heq.symm afterCreate_ne
      · rcases getElem?_set_cases hn with ⟨-, heq⟩ | ⟨-, hn⟩
        · exact absurd heq.symm afterCreate_ne
        · exact h.distinct m n id ip hm hn
    · rcases mem_set_cases hl with heq | ⟨m, -, hm⟩
      · rcases afterCreate_cases row (.ok ()) with hpl | hcr
        · rw [hpl] at heq
          cases heq
        · rw [hcr] at heq
          cases heq
          exact hnew
      · exact hkeep _ _ (h.created id p (List.mem_of_getElem? hm) hip)

/-- An addition chooses an address. -/
theorem AddressInv.choose (h : AddressInv x l) {id : Nat} (hk : l[k]? = some y)
    (halw : additions.allows y (.credsOfService id))
    (hg : AddressGuard x l k (.credsOfService id)) :
    AddressInv x (l.set k (afterRows (x.credsOfService id) y)) := by
  obtain ⟨network, rfl⟩ := halw
  cases hip : allocateNextIp network (takenIps (x.credsOfService id)) with
  | error e =>
    simp only [afterRows, hip]
    exact h.plain
  | ok ip =>
    have hchosen : (Phase.service id network).chosen (x.credsOfService id) = some (id, ip) := by
      simp only [Phase.chosen, afterRows, hip]
    obtain ⟨hfree, hrd⟩ := hg _ hk _ hchosen
    simp only [afterRows, hip]
    refine ⟨h.toAssigned, fun id' ip' hl r hr hid => ?_, fun m n id' ip' hm hn => ?_,
      fun id' p hl hip' => ?_⟩
    · rcases mem_set_cases hl with heq | ⟨m, -, hm⟩
      · cases heq
        cases hr' : r.credsBlob.readable with
        | false => exact hrd r hr hid hr'
        | true =>
          intro hsome
          refine allocateNextIp_free hip (List.mem_filterMap.mpr ⟨r, ?_, ?_⟩)
          · exact List.mem_filter.mpr ⟨hr, by simpa using hid⟩
          · unfold CredsRow.takenIp decryptVpnJson
            rw [hr']
            unfold CredsRow.peer VpnUserCreds.toPeer at hsome
            split at hsome
            · cases hsome
            · rename_i hval
              simp only [if_true, hval]
              exact hsome
      · exact h.vacant id' ip' (List.mem_of_getElem? hm) r hr hid
    · rcases getElem?_set_cases hm with ⟨rfl, heq⟩ | ⟨hne, hm⟩
      · cases heq
        rcases getElem?_set_cases hn with ⟨rfl, -⟩ | ⟨-, hn⟩
        · rfl
        · exact absurd (List.mem_of_getElem? hn) hfree
      · rcases getElem?_set_cases hn with ⟨-, heq⟩ | ⟨-, hn⟩
        · cases heq
          exact absurd (List.mem_of_getElem? hm) hfree
        · exact h.distinct m n id' ip' hm hn
    · rcases mem_set_cases hl with heq | ⟨m, -, hm⟩
      · cases heq
      · exact h.created id' p (List.mem_of_getElem? hm) hip'

end Statements

/-! ## Steps -/

theorem afterService_ne (s : Option ServiceRow) :
    (∀ id ip, afterService s ≠ .allocated id ip) ∧ ∀ id p, afterService s ≠ .created id p := by
  cases s with
  | none => exact ⟨fun _ _ => nofun, fun _ _ => nofun⟩
  | some s =>
    simp only [afterService]
    cases networkOf s with
    | none => exact ⟨fun _ _ => nofun, fun _ _ => nofun⟩
    | some network => exact ⟨fun _ _ => nofun, fun _ _ => nofun⟩

theorem reply_inv (i : VpnInstr) (h : AddressInv x l) (hk : l[k]? = some y)
    (halw : additions.allows y i) (hg : AddressGuard x l k i) :
    AddressInv (reply i x).2 (l.set k (additions.after y i (reply i x).1)) := by
  have hstay : AddressInv x (l.set k y) := by
    rw [set_getElem?_self hk]
    exact h
  cases i with
  | findService id =>
    exact h.set (afterService_ne _).1 fun id' p heq => absurd heq ((afterService_ne _).2 id' p)
  | credsOfService id => exact h.choose hk halw hg
  | createCreds row => exact h.create hk halw
  | emitToAgent r =>
    refine (h.emit fun p hp hip => ?_).plain
    have hy := halw p hp hip
    exact h.created _ _ (hy ▸ List.mem_of_getElem? hk) hip
  | deleteCreds userId serviceId =>
    refine AddressInv.plain ?_
    simp only [reply, VpnState.deleteCreds]
    split
    · exact h.delete fun r hr hf => hg r hr (by simp_all) (by simp_all)
    · exact h
  | deleteUser id =>
    refine AddressInv.plain ?_
    simp only [reply, VpnState.deleteUser]
    split
    · exact h.delete fun r hr hf => hg r hr (by simpa using hf)
    · exact h
  | genPeer =>
    simp only [reply, VpnState.genPeer]
    split
    · exact hstay
    · exact hstay.congr rfl (fun _ _ _ => id) fun _ => id
  | randomUuid => exact hstay.congr rfl (fun _ _ _ => id) fun _ => id
  | createUser name notes => exact halw.elim
  | updateUser id name enabled notes => exact halw.elim
  | setServiceStatus id status => exact halw.elim
  | setServiceConfig id config => exact halw.elim
  | deleteService id => exact halw.elim
  | findUser _ => exact hstay
  | findUserByName _ => exact hstay
  | findCreds _ _ => exact hstay
  | credsOfUser _ => exact hstay
  | isAgentConnected => exact hstay

theorem outside_inv (change : VpnChange) (h : AddressInv x l) :
    AddressInv (x.outside change) l := by
  cases change with
  | setFates fates => exact h.congr rfl (fun _ _ _ => id) fun _ => id
  | setConnected connected => exact h.congr rfl (fun _ _ _ => id) fun _ => id
  | createUser name notes =>
    simp only [VpnState.outside, VpnState.createUser]
    split
    · exact h
    · exact h.congr rfl (fun _ _ _ => id) fun _ => id
  | setEnabled userId enabled =>
    simp only [VpnState.outside, VpnState.updateUser]
    split
    · exact h.congr rfl (fun _ _ _ => id) fun _ => id
    · exact h
  | setStatus serviceId status =>
    simp only [VpnState.outside, VpnState.updateService]
    split
    · exact h.congr rfl (fun _ _ _ => id) fun _ => id
    · exact h
  | loseSecrets userId serviceId =>
    refine h.congr ?_ (fun _ _ _ => id) fun _ => id
    simp only [VpnState.outside, List.map_map]
    refine List.map_congr_left fun r _ => ?_
    simp only [Function.comp, CredsRow.lose]
    split
    · rfl
    · rfl
  | performLate n failing =>
    simp only [VpnState.outside, VpnState.performLate]
    split
    · rename_i r hr
      have hr' := List.mem_of_getElem? hr
      exact (h.perform (h.pending r hr')).congr rfl (fun _ _ _ => id) fun q hq =>
        List.mem_of_mem_eraseIdx hq
    · exact h
  | other r failing =>
    simp only [VpnState.outside]
    split
    · exact h
    · rename_i hadds
      refine h.perform fun p hp => ?_
      rw [hp] at hadds
      exact absurd rfl hadds

/-! ## The programs -/

section Stages

open Fallible

abbrev Anywhere {α : Type} : Phase → Except VpnError α → Prop := fun _ _ => True

/-- It ends in the phase it began in. -/
abbrev Unmoved {α : Type} (y : Phase) : Phase → Except VpnError α → Prop := fun z _ => z = y

theorem view_stages (userId serviceId : Nat) :
    Follows additions Anywhere y (getUserCredsView userId serviceId) := by
  refine follows_ask trivial ?_
  rintro (_ | ⟨cred, service, user⟩)
  · exact follows_throw trivial
  · refine follows_ofExcept_bind (fun cfg _ => ?_) fun _ _ => trivial
    refine follows_ofExcept_bind (fun creds _ => ?_) fun _ _ => trivial
    show Follows additions Anywhere _ (if _ then _ else _)
    split
    · exact follows_throw trivial
    · exact follows_pure trivial

theorem applyAdd_stages {protocol : VpnProtocol} {serviceId : Nat} {creds : VpnUserCreds}
    (hy : creds.toPeer.allowedIp.isSome = true → y = .created serviceId creds.toPeer) :
    Follows additions Anywhere y (applyAddUser protocol serviceId creds) := by
  unfold applyAddUser
  split
  · exact follows_throw trivial
  · refine follows_ask?_end (fun p hp hip => ?_) fun _ => trivial
    cases hp
    exact hy hip

theorem applyRemove_stages (protocol : VpnProtocol) (serviceId : Nat) (creds : VpnUserCreds)
    (hy : y = .plain) : Follows additions (Unmoved .plain) y
      (applyRemoveUser protocol serviceId creds) := by
  unfold applyRemoveUser
  split
  · exact follows_throw hy
  · exact follows_ask?_end (fun p hp => by cases hp) fun _ => rfl

theorem removeFromAgent_stages (cred : CredsRow) (service : ServiceRow) :
    Follows additions (Unmoved .plain) .plain (removeFromAgent cred service) := by
  refine follows_ofExcept_bind (fun cfg _ => ?_) fun _ _ => rfl
  refine follows_ofExcept_bind (fun creds _ => ?_) fun _ _ => rfl
  exact applyRemove_stages _ _ _ rfl

theorem allocate_stages {id : Nat} {cfg : VpnServiceConfig}
    (hy : ∀ srv network, cfg = .amneziaWg srv network → y = .service id network) :
    Follows additions (fun z r => ∀ ip, r = .ok (some ip) → z = .allocated id ip) y
      (allocateIp id cfg) := by
  cases cfg with
  | vlessReality keys => exact follows_pure fun ip h => by cases h
  | amneziaWg srv network =>
    have hsvc := hy srv network rfl
    subst hsvc
    refine follows_ask ⟨network, rfl⟩ fun rows => ?_
    refine follows_ofExcept_bind (fun ip hip => ?_) fun e _ ip h => by cases h
    refine follows_pure ?_
    rintro ip' ⟨⟩
    simp only [additions, afterRows, hip]

theorem generate_stages {protocol : VpnProtocol} {cfg : VpnServiceConfig}
    {allocatedIp : Option String} :
    Follows additions (fun z r => z = y ∧ ∀ creds, r = .ok creds →
      ∀ ip, creds.toPeer.allowedIp = some ip → allocatedIp = some ip) y
      (generateUserCreds protocol cfg allocatedIp) := by
  cases protocol with
  | vlessReality =>
    refine follows_ask trivial fun n => follows_pure ⟨rfl, ?_⟩
    rintro creds ⟨⟩ ip hip
    cases hip
  | amneziaWg =>
    simp only [generateUserCreds]
    split
    · exact follows_throw ⟨rfl, fun _ h => by cases h⟩
    · cases allocatedIp with
      | none => exact follows_throw ⟨rfl, fun _ h => by cases h⟩
      | some ip =>
        refine follows_ask? trivial (fun r n _ => follows_pure ⟨rfl, ?_⟩)
          fun r e _ => ⟨rfl, fun _ h => by cases h⟩
        rintro creds ⟨⟩ ip' hip
        exact hip

theorem createAndApply_stages {user : UserRow} {service : ServiceRow} {creds : VpnUserCreds}
    (hy : ∀ ip, creds.toPeer.allowedIp = some ip → y = .allocated service.id ip) :
    Follows additions Anywhere y (createAndApply user service creds) := by
  refine follows_ask? hy (fun r u hr => ?_) fun _ _ _ => trivial
  show Follows additions Anywhere _ (if _ then _ else _)
  split
  · have hcr : creds.toPeer.allowedIp.isSome = true →
        additions.after y (.createCreds ⟨user.id, service.id, encryptVpnJson creds⟩) r =
          .created service.id creds.toPeer := by
      intro hsome
      have hr' : r = .ok u := hr
      rw [hr']
      simp only [additions, afterCreate, CredsRow.peer, encryptVpnJson, hsome, if_true]
    refine follows_attempt (applyAdd_stages hcr) ?_
    rintro z (e | n) -
    · exact follows_ask? trivial (fun _ _ _ => follows_throw trivial) fun _ _ _ => trivial
    · exact view_stages _ _
  · exact view_stages _ _

theorem addUser_stages (userId serviceId : Nat) :
    Follows additions Anywhere .plain (addUserToService userId serviceId) := by
  refine follows_ask trivial ?_
  rintro (_ | user)
  · exact follows_throw trivial
  refine follows_ask rfl ?_
  rintro (_ | service)
  · exact follows_throw trivial
  refine follows_ask trivial ?_
  rintro (_ | found)
  · refine follows_ofExcept_bind (fun cfg hcfg => ?_) fun _ _ => trivial
    refine follows_bind (allocate_stages fun srv network hnetwork => ?_) (fun z ip? hz => ?_)
      fun _ _ _ => trivial
    · have hof : networkOf service = some network := by
        unfold networkOf
        rw [hcfg, hnetwork]
      simp only [additions, afterService, hof, Option.map_some, Option.getD_some]
    · refine follows_bind generate_stages (fun z' creds hcrs => ?_) fun _ _ _ => trivial
      obtain ⟨rfl, hip⟩ := hcrs
      exact createAndApply_stages fun ip hsome => hz ip (by rw [hip creds rfl ip hsome])
  · exact follows_throw trivial

theorem removeUser_stages (userId serviceId : Nat) :
    Follows additions Anywhere .plain (removeUserFromService userId serviceId) := by
  refine follows_ask trivial ?_
  rintro (_ | ⟨cred, service, user⟩)
  · exact follows_throw trivial
  · exact follows_attempt (removeFromAgent_stages cred service) fun _ _ _ =>
      follows_ask?_end trivial fun _ => trivial

theorem deleteUser_stages (id : Nat) : Follows additions Anywhere .plain (deleteUser id) := by
  refine follows_ask trivial ?_
  rintro (_ | user)
  · exact follows_throw trivial
  refine follows_ask trivial fun allCreds => ?_
  have hloop : Follows additions (Unmoved .plain) .plain (each (fun c => do
      let _ ← attempt (removeFromAgent c.1 c.2)
      return ()) allCreds) := by
    refine follows_each (Unmoved .plain) rfl fun c _ => ?_
    refine follows_attempt (removeFromAgent_stages c.1 c.2) fun z r hz => ?_
    exact follows_pure ⟨hz, fun _ => hz⟩
  refine follows_bind hloop (fun z _ hz => ?_) fun _ _ _ => trivial
  exact follows_ask?_end trivial fun _ => trivial

theorem discard_stages {α : Type} {c : VpnCall α} (hc : Follows additions Anywhere .plain c) :
    Follows additions Anywhere .plain (discard c) :=
  follows_bind hc (fun _ _ _ => follows_pure trivial) fun _ _ _ => trivial

theorem membership_stages (order : MembershipOrder) :
    (memberships.program order).Follows additions Anywhere .plain := by
  cases order with
  | addUserToService userId serviceId => exact discard_stages (addUser_stages userId serviceId)
  | removeUserFromService userId serviceId => exact removeUser_stages userId serviceId
  | deleteUser id => exact deleteUser_stages id

end Stages

/-! ## The result -/

abbrev MembershipRun := Phased VpnState Phase VpnInstr Reply (Except VpnError Unit)

def membershipStep : MembershipRun → Event VpnChange MembershipOrder → Option MembershipRun :=
  Phased.step memberships additions fun _ => .plain

/-- No two users of a service have one address, and no two peers of a service on the server. -/
structure PeerAddressesUnique (x : VpnState) : Prop where
  credentials : ∀ r₁ ∈ x.creds, ∀ r₂ ∈ x.creds, r₁.serviceId = r₂.serviceId →
    ∀ ip, r₁.peer.allowedIp = some ip → r₂.peer.allowedIp = some ip → r₁.userId = r₂.userId
  server : ∀ s key₁ key₂ ip, (x.agent s).Holds key₁ ip → (x.agent s).Holds key₂ ip → key₁ = key₂

theorem Assigned.addresses (h : Assigned x) : PeerAddressesUnique x := by
  refine ⟨fun r₁ hr₁ r₂ hr₂ hsvc ip hip₁ hip₂ =>
    (h.unique r₁ hr₁ r₂ hr₂ hsvc ip hip₁ hip₂).1, fun s key₁ key₂ ip h₁ h₂ => ?_⟩
  obtain ⟨r₁, hr₁, hs₁, hp₁⟩ := h.backed s key₁ ip h₁
  obtain ⟨r₂, hr₂, hs₂, hp₂⟩ := h.backed s key₂ ip h₂
  have hsame := (h.unique r₁ hr₁ r₂ hr₂ (hs₁.trans hs₂.symm) ip (by rw [hp₁]) (by rw [hp₂])).2
  rw [hp₁, hp₂] at hsame
  exact (Peer.mk.inj hsame).1

/-- **Addresses are unique** in every state of a run whose steps meet the guard. -/
theorem peer_addresses_unique {x₀ : VpnState} {s : MembershipRun} (h0 : Assigned x₀)
    (hs : Reach membershipStep (Phased.Within AddressGuard) ⟨x₀, []⟩ s) :
    PeerAddressesUnique s.store := by
  have h : AddressInv s.store s.phases := (Phased.invariant (I := AddressInv) membership_stages
    ⟨h0, fun _ _ => nofun, fun _ _ _ _ => nofun, fun _ _ => nofun⟩
    (fun change x l h => outside_inv change h) (fun _ x l h => ?_)
    (fun x l k y i h hk halw hg => reply_inv i h hk halw hg) hs).1
  · exact h.addresses
  · refine ⟨h.toAssigned, fun id ip hl => ?_, fun m n id ip hm hn => ?_, fun id p hl => ?_⟩
    · rcases List.mem_snoc.mp hl with hold | hnew
      · exact h.vacant id ip hold
      · cases hnew
    · rcases getElem?_append_cases hm with ⟨-, heq⟩ | ⟨-, hm⟩
      · cases heq
      · rcases getElem?_append_cases hn with ⟨-, heq⟩ | ⟨-, hn⟩
        · cases heq
        · exact h.distinct m n id ip hm hn
    · rcases List.mem_snoc.mp hl with hold | hnew
      · exact h.created id p hold
      · cases hnew

instance (x : VpnState) (l : List Phase) (r : CredsRow) : Decidable (Unused x l r) :=
  inferInstanceAs (Decidable (∀ ip ∈ r.peer.allowedIp, _ ∧ (∀ q ∈ x.pending, _) ∧ _))

instance (x : VpnState) (l : List Phase) (id : Nat) (ip : String) : Decidable (Vacant x l id ip) :=
  inferInstanceAs (Decidable (_ ∧ ∀ r ∈ x.creds, _))

instance (x : VpnState) (l : List Phase) (k : Nat) (i : VpnInstr) :
    Decidable (AddressGuard x l k i) := by
  apply VpnInstr.casesOn (motive := fun i => Decidable (AddressGuard x l k i)) i <;> intros <;>
    dsimp only [AddressGuard] <;> infer_instance

/-! ### A service with two users -/

namespace Sample

def network : Cidr := ⟨10#8, 13#8, 13#8, 0#8, ⟨24, by decide⟩⟩

def service : ServiceRow := ⟨7, .amneziaWg, 51820, .running, encryptVpnJson (.amneziaWg 1 network)⟩

/-- The service is up, and nobody is in it. -/
def panel : VpnState where
  users := [⟨1, "anna", true, none⟩, ⟨2, "boris", true, none⟩]
  services := [service]
  creds := []
  agent := Function.update (fun _ => .absent) 7 ⟨some [], some []⟩
  connected := true
  fates := []
  pending := []
  drawn := 10

theorem panel_assigned : Assigned panel := by
  refine ⟨fun _ => nofun, fun s key ip h => ?_, fun _ => nofun⟩
  by_cases hs : s = 7
  · subst hs
    rcases h with ⟨l, hl, hmem⟩ | ⟨l, hl, hmem⟩
    · cases hl
      cases hmem
    · cases hl
      cases hmem
  · have hag : panel.agent s = .absent := by
      simp only [panel, Function.update_of_ne hs]
    rw [hag] at h
    rcases h with ⟨l, hl, -⟩ | ⟨l, hl, -⟩
    · cases hl
    · cases hl

end Sample

/-- Two users of the service hold this address. -/
def SharedByUsers (x : VpnState) (ip : String) : Prop :=
  ∃ r₁ ∈ x.creds, ∃ r₂ ∈ x.creds, r₁.serviceId = r₂.serviceId ∧ r₁.userId ≠ r₂.userId ∧
    r₁.peer.allowedIp = some ip ∧ r₂.peer.allowedIp = some ip

instance (x : VpnState) (ip : String) : Decidable (SharedByUsers x ip) :=
  inferInstanceAs (Decidable (∃ r₁ ∈ x.creds, ∃ r₂ ∈ x.creds, _))

/-- One user after the other is added. -/
theorem peer_addresses_unique_two : ∃ s : MembershipRun,
    (s.store.creds.map fun r => (r.userId, r.peer.allowedIp)) =
      [(1, some "10.13.13.2"), (2, some "10.13.13.3")] ∧ PeerAddressesUnique s.store := by
  have hrun : ∃ s, Reach membershipStep (Phased.Within AddressGuard) ⟨Sample.panel, []⟩ s ∧
      (s.store.creds.map fun r => (r.userId, r.peer.allowedIp)) =
        [(1, some "10.13.13.2"), (2, some "10.13.13.3")] :=
    Reach.of_run_any (l := .call (.addUserToService 1 7) :: List.replicate 8 (Event.advance 0) ++
      .call (.addUserToService 2 7) :: List.replicate 8 (Event.advance 1)) (by decide)
  obtain ⟨s, hs, hrows⟩ := hrun
  exact ⟨s, hrows, peer_addresses_unique Sample.panel_assigned hs⟩

/-- **Addresses that two users share**: two additions read the addresses before either has its row;
a row that cannot be read is not counted; and a peer stays on the server when the agent refuses to
take it off, while its address is given to the next user. -/
theorem peer_addresses_shared :
    (∃ s, Reach membershipStep anyStep ⟨Sample.panel, []⟩ s ∧
      SharedByUsers s.store "10.13.13.2" ∧ ∀ r ∈ s.store.creds, r.credsBlob.readable = true) ∧
    (∃ s, Reach membershipStep anyStep ⟨Sample.panel, []⟩ s ∧
      SharedByUsers s.store "10.13.13.2" ∧ ∃ r ∈ s.store.creds, r.credsBlob.readable = false) ∧
    ∃ s, Reach membershipStep anyStep ⟨Sample.panel, []⟩ s ∧
      (s.store.agent 7).Holds 10 "10.13.13.2" ∧ (s.store.agent 7).Holds 13 "10.13.13.2" := by
  refine ⟨?_, ?_, ?_⟩
  · exact Reach.of_run_any (l := [Event.call (MembershipOrder.addUserToService 1 7),
      .call (.addUserToService 2 7)] ++ List.replicate 5 (Event.advance 0) ++
      List.replicate 6 (Event.advance 1) ++ [Event.advance 0]) (by decide)
  · exact Reach.of_run_any (l := [Event.call (MembershipOrder.addUserToService 1 7)] ++
      List.replicate 8 (Event.advance 0) ++ [Event.outside (VpnChange.loseSecrets 1 7),
        .call (.addUserToService 2 7)] ++ List.replicate 6 (Event.advance 1)) (by decide)
  · exact Reach.of_run_any (l := [Event.call (MembershipOrder.addUserToService 1 7)] ++
      List.replicate 8 (Event.advance 0) ++ [Event.outside (VpnChange.setFates [.refused]),
        .call (.removeUserFromService 1 7)] ++ List.replicate 3 (Event.advance 1) ++
      [Event.call (MembershipOrder.addUserToService 2 7)] ++ List.replicate 8 (Event.advance 2))
      (by decide)

end Meowbox.Vpn
