import Meowbox.Vpn.Service

/-!
# Panel and server in step

What holds of the tables and the server while one call changes both.

* `MatchedFor x may must`: the file of every service has peers of rows in `may` only, and the file of
  a running service has the peers of all rows in `must`; what is up runs with its file.
* `emit_cases`: a request that is refused changes nothing on the server, and another is performed.
* `removeFromAgent_ends`, `applyAdd_ends`: what the two requests about a peer leave.
-/

namespace Meowbox.Vpn

open Interleaved Fallible

/-- The user is there and enabled. -/
def VpnState.Enabled (x : VpnState) (userId : Nat) : Prop :=
  ∃ u ∈ x.users, u.id = userId ∧ u.enabled = true

instance (x : VpnState) (userId : Nat) : Decidable (x.Enabled userId) :=
  inferInstanceAs (Decidable (∃ u ∈ x.users, _))

/-- How the rows hang together. -/
structure Tables (x : VpnState) : Prop where
  keys : ∀ r₁ ∈ x.creds, ∀ r₂ ∈ x.creds, r₁.peer.key = r₂.peer.key → r₁ = r₂
  addresses : ∀ r₁ ∈ x.creds, ∀ r₂ ∈ x.creds, r₁.serviceId = r₂.serviceId →
    r₁.peer.allowedIp = r₂.peer.allowedIp → r₂.peer.allowedIp.isSome = true → r₁ = r₂
  pairs : ∀ r₁ ∈ x.creds, ∀ r₂ ∈ x.creds, r₁.userId = r₂.userId →
    r₁.serviceId = r₂.serviceId → r₁ = r₂
  drawn : ∀ r ∈ x.creds, r.peer.key < x.drawn
  userIds : ∀ u₁ ∈ x.users, ∀ u₂ ∈ x.users, u₁.id = u₂.id → u₁ = u₂
  drawnUsers : ∀ u ∈ x.users, u.id < x.drawn
  serviceIds : ∀ v₁ ∈ x.services, ∀ v₂ ∈ x.services, v₁.id = v₂.id → v₁ = v₂
  user : ∀ r ∈ x.creds, ∃ u ∈ x.users, u.id = r.userId
  service : ∀ r ∈ x.creds, ∃ v ∈ x.services, v.id = r.serviceId ∧
    r.credsBlob.value.protocol = v.protocol
  config : ∀ v ∈ x.services, v.configBlob.value.protocol = v.protocol

/-- Every secret can be read. -/
structure Readable (x : VpnState) : Prop where
  creds : ∀ r ∈ x.creds, r.credsBlob.readable = true
  config : ∀ v ∈ x.services, v.configBlob.readable = true

structure MatchedFor (x : VpnState) (may must : CredsRow → Prop) : Prop where
  stored : ∀ s q, (x.agent s).Has q → ∃ r ∈ x.creds, r.serviceId = s ∧ r.peer = q ∧ may r
  inStep : ∀ s, (x.agent s).InStep
  running : ∀ v ∈ x.services, v.status = .running → (x.agent v.id).live.isSome = true ∧
    ∀ r ∈ x.creds, r.serviceId = v.id → must r → (x.agent v.id).Has r.peer

/-- The next requests to the agent succeed, unless the service is not there or down. -/
def Sure (x : VpnState) : Prop := x.connected = true ∧ ∀ f ∈ x.fates, f = .performed [] true

/-- The next requests to the agent that do not succeed change nothing. -/
def Clean (x : VpnState) : Prop :=
  ∀ f ∈ x.fates, f = .refused ∨ f = .late ∨ f = .performed [] true

theorem Sure.clean {x : VpnState} (h : Sure x) : Clean x := fun f hf => .inr (.inr (h.2 f hf))

/-- The tables stay as they are. -/
structure SameTables (x y : VpnState) : Prop where
  users : y.users = x.users
  services : y.services = x.services
  creds : y.creds = x.creds
  drawn : x.drawn ≤ y.drawn

variable {x y z : VpnState} {may may' must must' : CredsRow → Prop}

theorem SameTables.refl (x : VpnState) : SameTables x x := ⟨rfl, rfl, rfl, Nat.le_refl _⟩

theorem SameTables.trans (h : SameTables x y) (h' : SameTables y z) : SameTables x z :=
  ⟨h'.users.trans h.users, h'.services.trans h.services, h'.creds.trans h.creds,
    Nat.le_trans h.drawn h'.drawn⟩

theorem SameTables.enabled (h : SameTables x y) (userId : Nat) :
    y.Enabled userId ↔ x.Enabled userId := by
  unfold VpnState.Enabled
  rw [h.users]

theorem Tables.same (h : Tables x) (hs : SameTables x y) : Tables y := by
  obtain ⟨husers, hsvs, hcrs, hdr⟩ := hs
  refine ⟨?_, ?_, ?_, ?_, ?_, ?_, ?_, ?_, ?_, ?_⟩
  · rw [hcrs]
    exact h.keys
  · rw [hcrs]
    exact h.addresses
  · rw [hcrs]
    exact h.pairs
  · rw [hcrs]
    exact fun r hr => Nat.lt_of_lt_of_le (h.drawn r hr) hdr
  · rw [husers]
    exact h.userIds
  · rw [husers]
    exact fun u hu => Nat.lt_of_lt_of_le (h.drawnUsers u hu) hdr
  · rw [hsvs]
    exact h.serviceIds
  · rw [hcrs, husers]
    exact h.user
  · rw [hcrs, hsvs]
    exact h.service
  · rw [hsvs]
    exact h.config

theorem Readable.same (h : Readable x) (hs : SameTables x y) : Readable y :=
  ⟨hs.creds ▸ h.creds, hs.services ▸ h.config⟩

/-! ### What is read -/

theorem findUser_some {id : Nat} {u : UserRow} (h : x.findUser id = some u) :
    u ∈ x.users ∧ u.id = id :=
  ⟨List.mem_of_find?_eq_some h, by simpa using List.find?_some h⟩

theorem findService_some {id : Nat} {v : ServiceRow} (h : x.findService id = some v) :
    v ∈ x.services ∧ v.id = id :=
  ⟨List.mem_of_find?_eq_some h, by simpa using List.find?_some h⟩

theorem findCreds_some {userId serviceId : Nat} {r : CredsRow} {v : ServiceRow} {u : UserRow}
    (h : x.findCreds userId serviceId = some (r, v, u)) :
    r ∈ x.creds ∧ r.userId = userId ∧ r.serviceId = serviceId ∧ v ∈ x.services ∧
      v.id = serviceId := by
  obtain ⟨r', hr, h⟩ := Option.bind_eq_some_iff.mp h
  obtain ⟨v', hv, h⟩ := Option.bind_eq_some_iff.mp h
  obtain ⟨u', hu, h⟩ := Option.map_eq_some_iff.mp h
  cases h
  have hmat := List.find?_some hr
  simp only [Bool.and_eq_true, beq_iff_eq] at hmat
  exact ⟨List.mem_of_find?_eq_some hr, hmat.1, hmat.2, findService_some hv⟩

/-- The rows of a user, each with its service. -/
theorem mem_credsOfUser (hT : Tables x) {userId : Nat} {r : CredsRow} {v : ServiceRow} :
    (r, v) ∈ x.credsOfUser userId ↔
      r ∈ x.creds ∧ r.userId = userId ∧ v ∈ x.services ∧ v.id = r.serviceId := by
  unfold VpnState.credsOfUser
  rw [List.mem_filterMap]
  constructor
  · rintro ⟨r', hr', h⟩
    obtain ⟨v', hv', h⟩ := Option.map_eq_some_iff.mp h
    cases h
    obtain ⟨hmem, huser⟩ := List.mem_filter.mp hr'
    exact ⟨hmem, by simpa using huser, findService_some hv'⟩
  · rintro ⟨hr, huser, hv, hid⟩
    refine ⟨r, List.mem_filter.mpr ⟨hr, by simpa using huser⟩, ?_⟩
    have hfind : x.findService r.serviceId = some v := by
      cases hf : x.findService r.serviceId with
      | none =>
        have := List.find?_eq_none.mp hf v hv
        simp [hid] at this
      | some v' =>
        obtain ⟨hv', hid'⟩ := findService_some hf
        rw [hT.serviceIds v' hv' v hv (hid'.trans hid.symm)]
    rw [hfind]
    rfl

/-! ### The server changes -/

theorem MatchedFor.congr (h : MatchedFor x may must) (hag : y.agent = x.agent)
    (hsvs : y.services = x.services) (hcrs : y.creds = x.creds) : MatchedFor y may must := by
  refine ⟨?_, ?_, ?_⟩
  · rw [hag, hcrs]
    exact h.stored
  · rw [hag]
    exact h.inStep
  · rw [hag, hsvs, hcrs]
    exact h.running

theorem MatchedFor.weaken (h : MatchedFor x may must) (hmay : ∀ r ∈ x.creds, may r → may' r)
    (hmust : ∀ v ∈ x.services, v.status = .running → ∀ r ∈ x.creds, r.serviceId = v.id →
      must' r → must r) : MatchedFor x may' must' := by
  refine ⟨fun s q hq => ?_, h.inStep, fun v hv hrun => ?_⟩
  · obtain ⟨r, hr, hs, hp, hr'⟩ := h.stored s q hq
    exact ⟨r, hr, hs, hp, hmay r hr hr'⟩
  · obtain ⟨hup, hall⟩ := h.running v hv hrun
    exact ⟨hup, fun r hr hs hr' => hall r hr hs (hmust v hv hrun r hr hs hr')⟩

/-- One service changes. -/
theorem MatchedFor.agent (h : MatchedFor x may must) {s : Nat} {b : AgentService}
    (hsame : SameTables x y) (hag : y.agent = Function.update x.agent s b) (hin : b.InStep)
    (hsto : ∀ q, b.Has q → ∃ r ∈ x.creds, r.serviceId = s ∧ r.peer = q ∧ may' r)
    (hmay : ∀ r ∈ x.creds, r.serviceId ≠ s → may r → may' r)
    (hrun : ∀ v ∈ x.services, v.id = s → v.status = .running → b.live.isSome = true ∧
      ∀ r ∈ x.creds, r.serviceId = s → must' r → b.Has r.peer)
    (hmust : ∀ r ∈ x.creds, r.serviceId ≠ s → must' r → must r) : MatchedFor y may' must' := by
  have hself : y.agent s = b := by rw [hag, Function.update_self]
  have hother : ∀ t, t ≠ s → y.agent t = x.agent t := fun t ht => by
    rw [hag, Function.update_of_ne ht]
  refine ⟨fun t q hq => ?_, fun t => ?_, fun v hv hst => ?_⟩
  · rw [hsame.creds]
    by_cases ht : t = s
    · subst ht
      rw [hself] at hq
      exact hsto q hq
    · rw [hother t ht] at hq
      obtain ⟨r, hr, rfl, hp, hr'⟩ := h.stored t q hq
      exact ⟨r, hr, rfl, hp, hmay r hr ht hr'⟩
  · by_cases ht : t = s
    · subst ht
      rw [hself]
      exact hin
    · rw [hother t ht]
      exact h.inStep t
  · rw [hsame.services] at hv
    rw [hsame.creds]
    by_cases ht : v.id = s
    · rw [ht, hself]
      exact hrun v hv ht hst
    · rw [hother _ ht]
      obtain ⟨hup, hall⟩ := h.running v hv hst
      exact ⟨hup, fun r hr hs hr' => hall r hr hs (hmust r hr (hs ▸ ht) hr')⟩

/-! ### Requests -/

/-- **What comes of a request**: it is refused and nothing changes, or it is performed. -/
theorem emit_cases (h : Clean x) (r : PendingRequest) :
    (((x.emitToAgent r).1 = none ∧ (x.emitToAgent r).2.agent = x.agent ∧ ¬Sure x) ∨
      ((x.emitToAgent r).1 = (if ((x.agent r.serviceId).perform r.protocol r.request []).1 then
          some x.drawn else none) ∧
        (x.emitToAgent r).2.agent = Function.update x.agent r.serviceId
          ((x.agent r.serviceId).perform r.protocol r.request []).2)) ∧
      SameTables x (x.emitToAgent r).2 ∧ Clean (x.emitToAgent r).2 ∧
      (Sure x → Sure (x.emitToAgent r).2) := by
  have htail : ∀ f ∈ x.fates.tail, f = .refused ∨ f = .late ∨ f = .performed [] true :=
    fun f hf => h f (List.mem_of_mem_tail hf)
  have hhead : x.fates.headD (.performed [] true) = .refused ∨
      x.fates.headD (.performed [] true) = .late ∨
        x.fates.headD (.performed [] true) = .performed [] true := by
    cases hfat : x.fates with
    | nil => exact .inr (.inr rfl)
    | cons f fs => exact h f (by rw [hfat]; exact .head _)
  have hsure : Sure x → x.fates.headD (.performed [] true) = .performed [] true := by
    rintro ⟨-, hall⟩
    cases hfat : x.fates with
    | nil => rfl
    | cons f fs => exact hall f (by rw [hfat]; exact .head _)
  have hkeep : Sure x → x.connected = true ∧ ∀ f ∈ x.fates.tail, f = .performed [] true :=
    fun hx => ⟨hx.1, fun f hf => hx.2 f (List.mem_of_mem_tail hf)⟩
  unfold VpnState.emitToAgent
  split
  · rename_i hconn
    have hnot : ¬Sure x := by
      rintro ⟨hyes, -⟩
      rw [hyes] at hconn
      cases hconn
    exact ⟨.inl ⟨rfl, rfl, hnot⟩, SameTables.refl x, h, fun hx => absurd hx hnot⟩
  · have htb : SameTables x { x with fates := x.fates.tail, drawn := x.drawn + 1 } :=
      ⟨rfl, rfl, rfl, Nat.le_succ _⟩
    rcases hhead with hf | hf | hf
    · rw [hf]
      refine ⟨.inl ⟨rfl, rfl, fun hx => ?_⟩, htb, htail, hkeep⟩
      have := hsure hx
      rw [hf] at this
      cases this
    · rw [hf]
      refine ⟨.inl ⟨rfl, rfl, fun hx => ?_⟩, ⟨rfl, rfl, rfl, Nat.le_succ _⟩, htail, hkeep⟩
      have := hsure hx
      rw [hf] at this
      cases this
    · rw [hf]
      refine ⟨.inr ⟨?_, rfl⟩, ⟨rfl, rfl, rfl, Nat.le_succ _⟩, htail, hkeep⟩
      simp only [VpnState.perform, Bool.and_true]

/-- The rest of a file suits the peer of a row. -/
theorem MatchedFor.suits (h : MatchedFor x may must) (hT : Tables x) {cred : CredsRow}
    (hcred : cred ∈ x.creds) : (x.agent cred.serviceId).Suits cred.peer := by
  intro q hq hconflict
  obtain ⟨r, hr, hs, rfl, -⟩ := h.stored _ q hq
  rcases hconflict with hkey | ⟨hip, hsome⟩
  · rw [hT.keys r hr cred hcred hkey]
  · rw [hT.addresses r hr cred hcred hs hip hsome]

/-- **A peer is taken off.** -/
theorem removeFromAgent_ends (hT : Tables x) (hR : Readable x) (hS : Sure x)
    (hM : MatchedFor x may must) {cred : CredsRow} {service : ServiceRow}
    (hcred : cred ∈ x.creds) (hsvc : service ∈ x.services)
    (hid : service.id = cred.serviceId) :
    Ends reply (removeFromAgent cred service) x fun _ y => SameTables x y ∧ Sure y ∧
      MatchedFor y (fun r => may r ∧ r ≠ cred) fun r => must r ∧ r ≠ cred := by
  obtain ⟨v, hv, hvid, hprot⟩ := hT.service cred hcred
  have hsame : v = service := hT.serviceIds v hv service hsvc (hvid.trans hid.symm)
  subst hsame
  refine ends_ofExcept_bind (fun cfg _ => ?_) fun e he => ?_
  · refine ends_ofExcept_bind (fun creds hcrs => ?_) fun e he => ?_
    · obtain ⟨rfl, -⟩ := decryptVpnJson_ok hcrs
      show Ends reply (if _ then _ else _) _ _
      rw [if_neg (fun hne => hne hprot)]
      obtain ⟨hcas, htb, -, hsure⟩ := emit_cases hS.clean
        ⟨v.protocol, cred.serviceId, .removeUser cred.credsBlob.value.toPeer.key⟩
      refine ends_ask?_end ⟨htb, hsure hS, ?_⟩
      rcases hcas with ⟨-, -, hnot⟩ | ⟨-, hag⟩
      · exact absurd hS hnot
      · obtain ⟨hin, hup, hhas⟩ := AgentService.perform_remove v.protocol
          cred.credsBlob.value.toPeer.key (hM.inStep cred.serviceId)
        refine hM.agent htb hag hin (fun q hq => ?_) (fun r _ hs hr => ⟨hr, ?_⟩)
          (fun w hw hwid hst => ?_) fun r _ hs hr => hr.1
        · obtain ⟨hq, hkey⟩ := (hhas q).mp hq
          obtain ⟨r, hr, hs, rfl, hr'⟩ := hM.stored _ q hq
          refine ⟨r, hr, hs, rfl, hr', ?_⟩
          rintro rfl
          exact hkey rfl
        · rintro rfl
          exact hs rfl
        · obtain ⟨hlive, hall⟩ := hM.running w hw hst
          rw [hwid] at hlive hall
          refine ⟨hup hlive, fun r hr hs hr' => (hhas _).mpr ⟨hall r hr hs hr'.1, fun hkey => ?_⟩⟩
          exact hr'.2 (hT.keys r hr cred hcred hkey)
    · rw [decryptVpnJson, if_pos (hR.creds cred hcred)] at he
      cases he
  · rw [decryptVpnJson, if_pos (hR.config v hsvc)] at he
    cases he

/-- **A peer is added**: when the request succeeds, or when it fails for nothing but that the service
is not up. -/
theorem applyAdd_ends (hT : Tables x) (hC : Clean x) (hM : MatchedFor x may must)
    {cred : CredsRow} {service : ServiceRow} (hcred : cred ∈ x.creds) (hmay : may cred)
    (hsvc : service ∈ x.services) (hid : service.id = cred.serviceId) :
    Ends reply (applyAddUser service.protocol cred.serviceId cred.credsBlob.value) x fun r y =>
      SameTables x y ∧ Clean y ∧ (Sure x → Sure y) ∧ (∀ e, r = .error e → y.agent = x.agent) ∧
        ((∃ n, r = .ok n) ∨ Sure x → MatchedFor y may fun c => must c ∨ c = cred) := by
  obtain ⟨v, hv, hvid, hprot⟩ := hT.service cred hcred
  have hsame : v = service := hT.serviceIds v hv service hsvc (hvid.trans hid.symm)
  subst hsame
  unfold applyAddUser
  rw [if_neg (fun hne => hne hprot)]
  obtain ⟨hcas, htb, hcln, hsure⟩ := emit_cases hC
    ⟨v.protocol, cred.serviceId, .addUser cred.credsBlob.value.toPeer⟩
  have hip : v.protocol = .amneziaWg → cred.peer.allowedIp.isSome = true := by
    intro hawg
    rw [hawg] at hprot
    unfold CredsRow.peer
    cases hval : cred.credsBlob.value with
    | vlessReality uuid =>
      rw [hval] at hprot
      cases hprot
    | amneziaWg peer ip => rfl
  refine ends_ask?_end ⟨htb, hcln, hsure, ?_⟩
  rcases hcas with ⟨hnone, hag, hnot⟩ | ⟨hans, hag⟩
  · refine ⟨fun _ _ => hag, ?_⟩
    rintro (⟨n, hn⟩ | hS)
    · have hnone' : (reply (.emitToAgent ⟨v.protocol, cred.serviceId,
          .addUser cred.credsBlob.value.toPeer⟩) x).1 = none := hnone
      rw [hnone'] at hn
      cases hn
    · exact absurd hS hnot
  · have hadd := AgentService.perform_add v.protocol (hM.inStep cred.serviceId)
      (hM.suits hT hcred) hip
    -- whether the peer is in the file now
    cases hres : ((x.agent cred.serviceId).perform v.protocol (.addUser cred.peer) []).1 with
    | true =>
      have hhas := hadd.has hres
      have hsto : ∀ q, ((x.agent cred.serviceId).perform v.protocol (.addUser cred.peer)
          []).2.Has q → ∃ r ∈ x.creds, r.serviceId = cred.serviceId ∧ r.peer = q ∧ may r := by
        intro q hq
        rcases (hhas q).mp hq with hold | rfl
        · exact hM.stored _ q hold
        · exact ⟨cred, hcred, rfl, rfl, hmay⟩
      have hmatched : MatchedFor (x.emitToAgent ⟨v.protocol, cred.serviceId,
          .addUser cred.credsBlob.value.toPeer⟩).2 may fun c => must c ∨ c = cred := by
        refine hM.agent htb hag hadd.inStep hsto (fun r _ _ hr => hr)
          (fun w hw hwid hst => ?_) fun r _ hs hr => ?_
        · obtain ⟨hlive, hall⟩ := hM.running w hw hst
          rw [hwid] at hlive hall
          refine ⟨(hadd.up hlive).2, fun r hr hs hr' => (hhas _).mpr ?_⟩
          rcases hr' with hr' | rfl
          · exact .inl (hall r hr hs hr')
          · exact .inr rfl
        · rcases hr with hr | rfl
          · exact hr
          · exact absurd rfl hs
      refine ⟨fun e he => ?_, fun _ => hmatched⟩
      have hok : (reply (.emitToAgent ⟨v.protocol, cred.serviceId,
          .addUser cred.credsBlob.value.toPeer⟩) x).1 = some x.drawn :=
        hans.trans (if_pos hres)
      rw [hok] at he
      cases he
    | false =>
      have hfail := hadd.failed hres
      have hag' : (x.emitToAgent ⟨v.protocol, cred.serviceId,
          .addUser cred.credsBlob.value.toPeer⟩).2.agent = x.agent := by
        rw [hag]
        show Function.update x.agent cred.serviceId _ = _
        rw [show ((x.agent cred.serviceId).perform v.protocol
          (.addUser cred.credsBlob.value.toPeer) []).2 = x.agent cred.serviceId from hfail,
          Function.update_eq_self]
      have hkept := hM.congr hag' htb.services htb.creds
      refine ⟨fun _ _ => hag', fun _ => hkept.weaken (fun _ _ hr => hr) ?_⟩
      -- the service is down, so it is not running
      intro w hw hst r _ hs hr
      rw [htb.services] at hw
      rcases hr with hr | rfl
      · exact hr
      · have hlive := (hM.running w hw hst).1
        rw [← hs] at hlive
        rw [(hadd.up hlive).1] at hres
        cases hres

end Meowbox.Vpn
