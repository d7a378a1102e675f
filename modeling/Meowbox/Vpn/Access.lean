import Meowbox.Vpn.Matched

/-!
# What the panel grants and what the server gives

The calls of the panel, one after the other, with every request to the agent allowed to be refused,
to fail halfway or to go without its answer.

* `AccessMatches`: a service that is up has peers of enabled users with credentials for it only, and a
  running service has all of them.
* `AccessGuard`: the calls that swallow what the agent answers get its success, a request of another
  call that does not succeed has changed nothing, and a service is started when its file has the peers
  of its enabled users.
* `access_matches`: in runs of such calls the two match after each call.
* `access_differs`: a user who stays on the server after being disabled, and one who is not there
  after a start.
-/

namespace Meowbox.Vpn

open Interleaved Fallible Stepping

/-! ## The calls -/

inductive VpnAction
  /-- A call, while the agent is connected or not, and what comes of its requests. -/
  | call (order : VpnOrder) (connected : Bool) (fates : List Fate)
  /-- The agent performs a request that the panel has given up. -/
  | late (n : Nat) (failing : List Nat)

structure VpnRun where
  store : VpnState
  /-- The last call has reported success. -/
  succeeded : Bool

def vpnStep (s : VpnRun) : VpnAction → Option VpnRun
  | .call order connected fates =>
    ((orderProgram order).run.alone (fun i x => some (reply i x))
      { s.store with connected := connected, fates := fates }).map fun r => ⟨r.2, r.1.isOk⟩
  | .late n failing => some ⟨s.store.performLate n failing, s.succeeded⟩

/-- **What the server gives is what the panel grants.** -/
structure AccessMatches (x : VpnState) : Prop where
  only : ∀ s, ∀ l ∈ (x.agent s).live, ∀ q ∈ l,
    ∃ r ∈ x.creds, r.serviceId = s ∧ r.peer.key = q.key ∧ x.Enabled r.userId
  all : ∀ v ∈ x.services, v.status = .running → ∀ r ∈ x.creds, r.serviceId = v.id →
    x.Enabled r.userId → ∃ l ∈ (x.agent v.id).live, r.peer ∈ l

/-! ## The guard -/

/-- The service's file has the peers of its enabled users. -/
def FileComplete (x : VpnState) (id : Nat) : Prop :=
  ∀ r ∈ x.creds, r.serviceId = id → x.Enabled r.userId → (x.agent id).Has r.peer

/-- The condition on a call, when the agent is connected or not and its requests come to this. -/
def CallGuard (x : VpnState) : VpnOrder → Prop
  | .createUser _ => Clean x
  | .updateUser _ dto => dto.enabled.isSome = true → Sure x
  | .deleteUser _ => Sure x
  | .addUserToService _ _ => Clean x
  | .removeUserFromService _ _ => Sure x
  | .startService id => Clean x ∧ FileComplete x id
  | .stopService _ => Clean x
  | .rotateKeys _ => Clean x
  | .deleteService _ => Sure x

/-- **The guard.** -/
def AccessGuard (s : VpnRun) : VpnAction → Prop
  | .call order connected fates => Readable s.store ∧
      CallGuard { s.store with connected := connected, fates := fates } order
  | .late n failing => ∀ r ∈ s.store.pending[n]?,
      ((s.store.agent r.serviceId).perform r.protocol r.request failing).2 =
        s.store.agent r.serviceId

/-! ## The invariant -/

/-- Panel and server are in step. -/
structure Matched (x : VpnState) : Prop where
  tables : Tables x
  server : MatchedFor x (fun r => x.Enabled r.userId) fun r => x.Enabled r.userId

variable {x y : VpnState}

theorem Matched.access (h : Matched x) : AccessMatches x := by
  refine ⟨fun s l hl q hq => ?_, fun v hv hst r hr hs hen => ?_⟩
  · obtain ⟨r, hr, hs, hp, hen⟩ := h.server.stored s q (((h.server.inStep s l hl).2 q).mp hq)
    exact ⟨r, hr, hs, by rw [hp], hen⟩
  · obtain ⟨hup, hall⟩ := h.server.running v hv hst
    obtain ⟨l, hl⟩ := Option.isSome_iff_exists.mp hup
    exact ⟨l, hl, ((h.server.inStep v.id l hl).2 _).mpr (hall r hr hs hen)⟩

/-- Nothing but the fates and the numbers drawn changes. -/
theorem Matched.same (h : Matched x) (hs : SameTables x y) (hag : y.agent = x.agent) :
    Matched y := by
  refine ⟨h.tables.same hs, (h.server.congr hag hs.services hs.creds).weaken ?_ ?_⟩
  · exact fun r _ hr => (hs.enabled r.userId).mpr hr
  · exact fun _ _ _ r _ _ hr => (hs.enabled r.userId).mp hr

/-! ### Calls that only read -/

theorem view_ends (userId serviceId : Nat) :
    Ends reply (getUserCredsView userId serviceId) x fun _ y => y = x := by
  refine ends_ask ?_
  simp only [reply]
  cases x.findCreds userId serviceId with
  | none => exact ends_throw rfl
  | some found =>
    refine ends_ofExcept_bind (fun cfg _ => ?_) fun _ _ => rfl
    refine ends_ofExcept_bind (fun creds _ => ?_) fun _ _ => rfl
    show Ends reply (if _ then _ else _) x _
    split
    · exact ends_throw rfl
    · exact ends_pure rfl

theorem getUser_ends (id : Nat) : Ends reply (getUser id) x fun _ y => y = x := by
  refine ends_ask ?_
  simp only [reply]
  cases x.findUser id with
  | none => exact ends_throw rfl
  | some u => exact ends_ask (ends_pure rfl)

theorem discard_ends {α : Type} {c : VpnCall α} {P : VpnState → Prop}
    (h : Ends reply c x fun _ y => P y) : Ends reply (discard c) x fun _ y => P y := by
  refine ends_bind (h.weaken fun r y hy => ?_)
  cases r with
  | error e => exact hy
  | ok a => exact ends_pure hy

/-! ### Rows that go -/

theorem Tables.filterCreds (h : Tables x) (f : CredsRow → Bool) :
    Tables { x with creds := x.creds.filter f } := by
  have hmem : ∀ r ∈ x.creds.filter f, r ∈ x.creds := fun r hr => (List.mem_filter.mp hr).1
  exact ⟨fun r₁ h₁ r₂ h₂ => h.keys r₁ (hmem r₁ h₁) r₂ (hmem r₂ h₂),
    fun r₁ h₁ r₂ h₂ => h.addresses r₁ (hmem r₁ h₁) r₂ (hmem r₂ h₂),
    fun r₁ h₁ r₂ h₂ => h.pairs r₁ (hmem r₁ h₁) r₂ (hmem r₂ h₂),
    fun r hr => h.drawn r (hmem r hr), h.userIds, h.drawnUsers, h.serviceIds,
    fun r hr => h.user r (hmem r hr), fun r hr => h.service r (hmem r hr), h.config⟩

theorem MatchedFor.filterCreds {may must : CredsRow → Prop} (h : MatchedFor x may must)
    {f : CredsRow → Bool} (hkeep : ∀ r ∈ x.creds, may r → f r = true) :
    MatchedFor { x with creds := x.creds.filter f } may must := by
  refine ⟨fun s q hq => ?_, h.inStep, fun v hv hst => ?_⟩
  · obtain ⟨r, hr, hs, hp, hr'⟩ := h.stored s q hq
    exact ⟨r, List.mem_filter.mpr ⟨hr, hkeep r hr hr'⟩, hs, hp, hr'⟩
  · obtain ⟨hup, hall⟩ := h.running v hv hst
    exact ⟨hup, fun r hr => hall r (List.mem_filter.mp hr).1⟩

theorem Sure.of_reply (h : Sure x) (hR : Readable x) {cred : CredsRow} {service : ServiceRow}
    (hcred : cred ∈ x.creds) (hsvc : service ∈ x.services) :
    decryptVpnJson service.configBlob = .ok service.configBlob.value ∧
      decryptVpnJson cred.credsBlob = .ok cred.credsBlob.value := by
  unfold decryptVpnJson
  rw [if_pos (hR.config service hsvc), if_pos (hR.creds cred hcred)]
  exact ⟨rfl, rfl⟩

/-- `removeUserFromService`. -/
theorem removeUser_ends (h : Matched x) (hR : Readable x) (hS : Sure x) (userId serviceId : Nat) :
    Ends reply (removeUserFromService userId serviceId) x fun _ y => Matched y := by
  refine ends_ask ?_
  simp only [reply]
  cases hfind : x.findCreds userId serviceId with
  | none => exact ends_throw h
  | some found =>
    obtain ⟨cred, service, user⟩ := found
    obtain ⟨hcred, rfl, rfl, hsvc, hid⟩ := findCreds_some hfind
    refine ends_attempt ((removeFromAgent_ends h.tables hR hS h.server hcred hsvc hid).weaken
      fun r y hy => ?_)
    obtain ⟨hsame, -, hmat⟩ := hy
    have htb := h.tables.same hsame
    have hcred' : cred ∈ y.creds := hsame.creds ▸ hcred
    refine ends_ask?_end ?_
    simp only [reply, VpnState.deleteCreds]
    rw [if_pos (List.any_eq_true.mpr ⟨cred, hcred', by simp⟩)]
    have hkept : ∀ r ∈ y.creds, r ≠ cred ↔
        (!(r.userId == cred.userId && r.serviceId == cred.serviceId)) = true := by
      intro r hr
      simp only [Bool.not_eq_true', Bool.and_eq_false_iff, beq_eq_false_iff_ne]
      constructor
      · intro hne
        by_cases hu : r.userId = cred.userId
        · exact .inr fun hs => hne (htb.pairs r hr cred hcred' hu hs)
        · exact .inl hu
      · rintro hne rfl
        exact hne.elim (fun hu => hu rfl) fun hs => hs rfl
    refine ⟨htb.filterCreds _, (hmat.filterCreds fun r hr hr' =>
      (hkept r hr).mp hr'.2).weaken (fun r _ hr => (hsame.enabled _).mpr hr.1)
        fun v _ _ r hr _ hen => ⟨(hsame.enabled _).mp hen, ?_⟩⟩
    obtain ⟨hmem, hf⟩ := List.mem_filter.mp hr
    exact (hkept r hmem).mpr hf

/-! ### All peers of a user -/

/-- The peers of the user's rows in `rest` may still be there, and nobody counts on them. -/
structure Removing (x : VpnState) (userId : Nat) (rest : List (CredsRow × ServiceRow))
    (y : VpnState) : Prop where
  same : SameTables x y
  sure : Sure y
  left : ∀ c ∈ rest, c ∈ x.credsOfUser userId
  matched : MatchedFor y (fun r => x.Enabled r.userId ∧ (r.userId = userId → ∃ c ∈ rest, c.1 = r))
    fun r => x.Enabled r.userId ∧ r.userId ≠ userId

theorem Removing.start (h : Matched x) (hS : Sure x) (userId : Nat) :
    Removing x userId (x.credsOfUser userId) x := by
  refine ⟨SameTables.refl x, hS, fun _ hc => hc, h.server.weaken (fun r hr hen =>
    ⟨hen, fun huser => ?_⟩) fun _ _ _ _ _ _ hr => hr.1⟩
  obtain ⟨v, hv, hid, -⟩ := h.tables.service r hr
  exact ⟨(r, v), (mem_credsOfUser h.tables).mpr ⟨hr, huser, hv, hid⟩, rfl⟩

/-- One of them is taken off. -/
theorem Removing.turn (hT : Tables x) (hR : Readable x) {userId : Nat} {c : CredsRow × ServiceRow}
    {rest : List (CredsRow × ServiceRow)} (h : Removing x userId (c :: rest) y) :
    Ends reply (removeFromAgent c.1 c.2) y fun _ z => Removing x userId rest z := by
  obtain ⟨hcred, huser, hsvc, hid⟩ := (mem_credsOfUser hT).mp (h.left c (.head _))
  refine (removeFromAgent_ends (hT.same h.same) (hR.same h.same) h.sure h.matched
    (h.same.creds ▸ hcred) (h.same.services ▸ hsvc) hid).weaken fun _ z hz => ?_
  obtain ⟨hsame, hsure, hmat⟩ := hz
  refine ⟨h.same.trans hsame, hsure, fun c' hc' => h.left c' (.tail _ hc'),
    hmat.weaken (fun r _ hr => ⟨hr.1.1, fun hu => ?_⟩) fun _ _ _ r _ _ hr => ⟨hr, ?_⟩⟩
  · obtain ⟨c', hc', rfl⟩ := hr.1.2 hu
    rcases List.mem_cons.mp hc' with rfl | hrest
    · exact absurd rfl hr.2
    · exact ⟨c', hrest, rfl⟩
  · rintro rfl
    exact hr.2 huser

/-- The peers of the user are off. -/
theorem Removing.done {userId : Nat} (h : Removing x userId [] y) :
    MatchedFor y (fun r => x.Enabled r.userId ∧ r.userId ≠ userId)
      fun r => x.Enabled r.userId ∧ r.userId ≠ userId := by
  refine h.matched.weaken (fun r _ hr => ⟨hr.1, fun hu => ?_⟩) fun _ _ _ _ _ _ hr => hr
  obtain ⟨c, hc, -⟩ := hr.2 hu
  cases hc

/-- `deleteUser`. -/
theorem deleteUser_ends (h : Matched x) (hR : Readable x) (hS : Sure x) (id : Nat) :
    Ends reply (deleteUser id) x fun _ y => Matched y := by
  refine ends_ask ?_
  simp only [reply]
  cases hfind : x.findUser id with
  | none => exact ends_throw h
  | some u =>
    obtain ⟨hu, rfl⟩ := findUser_some hfind
    refine ends_ask ?_
    have hloop : Ends reply (each (fun c => do
        let _ ← attempt (removeFromAgent c.1 c.2)
        return ()) (x.credsOfUser u.id)) x fun r y => r = .ok () ∧ Removing x u.id [] y := by
      refine ends_each (Removing x u.id) (fun y hy => ⟨rfl, hy⟩) (fun c rest y hy => ?_)
        (Removing.start h hS u.id)
      exact ends_attempt ((hy.turn h.tables hR).weaken fun _ z hz => ends_pure hz)
    refine ends_bind (hloop.weaken fun r y hy => ?_)
    obtain ⟨rfl, hy⟩ := hy
    have htb := h.tables.same hy.same
    refine ends_ask?_end ?_
    simp only [reply, VpnState.deleteUser]
    have hfnd : (y.findUser u.id).isSome = true := by
      unfold VpnState.findUser
      rw [hy.same.users]
      show (x.findUser u.id).isSome = true
      rw [hfind]
      rfl
    rw [if_pos hfnd]
    have hen : ∀ n, n ≠ u.id → ((∃ w ∈ y.users.filter fun w => w.id != u.id,
        w.id = n ∧ w.enabled = true) ↔ x.Enabled n) := by
      intro n hn
      rw [hy.same.users]
      constructor
      · rintro ⟨w, hw, hrest⟩
        exact ⟨w, (List.mem_filter.mp hw).1, hrest⟩
      · rintro ⟨w, hw, hid, hrest⟩
        exact ⟨w, List.mem_filter.mpr ⟨hw, by simpa [hid] using hn⟩, hid, hrest⟩
    refine ⟨?_, ?_⟩
    · have hfil := htb.filterCreds fun r => r.userId != u.id
      refine ⟨hfil.keys, hfil.addresses, hfil.pairs, hfil.drawn,
        fun u₁ h₁ u₂ h₂ => htb.userIds u₁ (List.mem_filter.mp h₁).1 u₂
          (List.mem_filter.mp h₂).1, fun w hw => htb.drawnUsers w (List.mem_filter.mp hw).1,
        hfil.serviceIds, fun r hr => ?_, hfil.service, hfil.config⟩
      obtain ⟨hmem, hne⟩ := List.mem_filter.mp hr
      obtain ⟨w, hw, hid⟩ := htb.user r hmem
      exact ⟨w, List.mem_filter.mpr ⟨hw, by rwa [hid]⟩, hid⟩
    · have hdone : MatchedFor { y with creds := y.creds.filter fun r => r.userId != u.id }
          (fun r => ∃ w ∈ y.users.filter fun w => w.id != u.id, w.id = r.userId ∧ w.enabled = true)
          fun r => ∃ w ∈ y.users.filter fun w => w.id != u.id,
            w.id = r.userId ∧ w.enabled = true := by
        refine (hy.done.filterCreds fun r _ hr => by simpa using hr.2).weaken
          (fun r _ hr => (hen _ hr.2).mpr hr.1) fun v _ _ r hr _ hr' => ?_
        have hne : r.userId ≠ u.id := by simpa using (List.mem_filter.mp hr).2
        exact ⟨(hen _ hne).mp hr', hne⟩
      exact hdone.congr rfl rfl rfl

/-! ### A user is enabled or disabled -/

/-- The peers of the user's rows may be there, and are where no row in `rest` says otherwise. -/
structure Adding (x : VpnState) (userId : Nat) (rest : List (CredsRow × ServiceRow))
    (y : VpnState) : Prop where
  same : SameTables x y
  sure : Sure y
  left : ∀ c ∈ rest, c ∈ x.credsOfUser userId
  matched : MatchedFor y (fun r => x.Enabled r.userId ∨ r.userId = userId)
    fun r => x.Enabled r.userId ∨ (r.userId = userId ∧ ∀ c ∈ rest, c.1 ≠ r)

theorem Adding.start (h : Matched x) (hS : Sure x) (userId : Nat) :
    Adding x userId (x.credsOfUser userId) x := by
  refine ⟨SameTables.refl x, hS, fun _ hc => hc, h.server.weaken (fun _ _ hr => .inl hr)
    fun _ _ _ r hr _ hr' => ?_⟩
  rcases hr' with hen | ⟨huser, hrest⟩
  · exact hen
  · obtain ⟨v, hv, hid, -⟩ := h.tables.service r hr
    exact absurd rfl (hrest (r, v) ((mem_credsOfUser h.tables).mpr ⟨hr, huser, hv, hid⟩))

/-- One of them is added. -/
theorem Adding.turn (hT : Tables x) {userId : Nat} {c : CredsRow × ServiceRow}
    {rest : List (CredsRow × ServiceRow)} (h : Adding x userId (c :: rest) y) :
    Ends reply (applyAddUser c.2.protocol c.1.serviceId c.1.credsBlob.value) y
      fun _ z => Adding x userId rest z := by
  obtain ⟨hcred, huser, hsvc, hid⟩ := (mem_credsOfUser hT).mp (h.left c (.head _))
  refine (applyAdd_ends (hT.same h.same) h.sure.clean h.matched (h.same.creds ▸ hcred)
    (.inr huser) (h.same.services ▸ hsvc) hid).weaken fun _ z hz => ?_
  obtain ⟨hsame, -, hsure, -, hadded⟩ := hz
  refine ⟨h.same.trans hsame, hsure h.sure, fun c' hc' => h.left c' (.tail _ hc'),
    (hadded (.inr h.sure)).weaken (fun _ _ hr => hr) fun _ _ _ r _ _ hr => ?_⟩
  rcases hr with hen | ⟨hu, hrest⟩
  · exact .inl (.inl hen)
  · by_cases hc : r = c.1
    · exact .inr hc
    · refine .inl (.inr ⟨hu, fun c' hc' => ?_⟩)
      rcases List.mem_cons.mp hc' with rfl | htail
      · exact Ne.symm hc
      · exact hrest c' htail

/-- Who is enabled, once the user is enabled or not. -/
def EnabledWith (x : VpnState) (userId : Nat) (enabled : Bool) (r : CredsRow) : Prop :=
  (r.userId = userId ∧ enabled = true) ∨ (r.userId ≠ userId ∧ x.Enabled r.userId)

theorem enabled_iff (hT : Tables x) {u : UserRow} (hu : u ∈ x.users) (r : CredsRow) :
    x.Enabled r.userId ↔ EnabledWith x u.id u.enabled r := by
  unfold EnabledWith
  by_cases hid : r.userId = u.id
  · have hiff : x.Enabled u.id ↔ u.enabled = true := by
      constructor
      · rintro ⟨w, hw, hwid, hen⟩
        rwa [← hT.userIds w hw u hu hwid]
      · exact fun hen => ⟨u, hu, rfl, hen⟩
    rw [hid, hiff]
    simp
  · simp [hid]

/-- `enabled` on the server. -/
theorem toggleAll_ends (h : Matched x) (hR : Readable x) {u : UserRow} (hu : u ∈ x.users)
    {enabled : Option Bool} (hS : enabled.isSome = true → Sure x) :
    Ends reply (toggleAll u enabled) x fun r y => r = .ok () ∧ SameTables x y ∧
      MatchedFor y (EnabledWith x u.id (enabled.getD u.enabled))
        (EnabledWith x u.id (enabled.getD u.enabled)) := by
  have hiff := enabled_iff h.tables hu
  unfold toggleAll
  cases hf : enabled.filter fun b => b != u.enabled with
  | none =>
    have hsame : enabled.getD u.enabled = u.enabled := by
      cases enabled with
      | none => rfl
      | some b => simpa using hf
    rw [hsame]
    exact ends_pure ⟨rfl, SameTables.refl x, h.server.weaken (fun r _ hr => (hiff r).mp hr)
      fun _ _ _ r _ _ hr => (hiff r).mpr hr⟩
  | some b =>
    obtain ⟨rfl, hne⟩ := Option.filter_eq_some_iff.mp hf
    have hchg : b ≠ u.enabled := by simpa using hne
    have hsure := hS rfl
    refine ends_ask ?_
    simp only [reply, Option.getD_some]
    have hread : ∀ {y : VpnState} {c : CredsRow × ServiceRow}, SameTables x y →
        c ∈ x.credsOfUser u.id → decryptVpnJson c.2.configBlob = .ok c.2.configBlob.value ∧
          decryptVpnJson c.1.credsBlob = .ok c.1.credsBlob.value := by
      intro y c _ hc
      obtain ⟨hcred, -, hsvc, -⟩ := (mem_credsOfUser h.tables).mp hc
      exact hsure.of_reply hR hcred hsvc
    cases b with
    | true =>
      have hdisabled : u.enabled = false := by simpa using hchg.symm
      have hloop : Ends reply (each (toggleOnAgent true) (x.credsOfUser u.id)) x
          fun r y => r = .ok () ∧ Adding x u.id [] y := by
        refine ends_each (Adding x u.id) (fun y hy => ⟨rfl, hy⟩) (fun c rest y hy => ?_)
          (Adding.start h hsure u.id)
        obtain ⟨hconfig, hcrs⟩ := hread hy.same (hy.left c (.head _))
        refine ends_ofExcept_bind (fun _ _ => ?_) fun e he => by
          rw [hconfig] at he
          cases he
        refine ends_ofExcept_bind (fun creds hc => ?_) fun e he => by
          rw [hcrs] at he
          cases he
        rw [hcrs] at hc
        cases hc
        exact ends_attempt ((hy.turn h.tables).weaken fun _ z hz => ends_pure hz)
      refine hloop.weaken fun r y hy => ⟨hy.1, hy.2.same, hy.2.matched.weaken (fun r _ hr => ?_)
        fun _ _ _ r _ _ hr => ?_⟩
      · by_cases hid : r.userId = u.id
        · exact .inl ⟨hid, rfl⟩
        · exact .inr ⟨hid, hr.resolve_right hid⟩
      · rcases hr with ⟨hid, -⟩ | ⟨-, hen⟩
        · exact .inr ⟨hid, fun c hc => by cases hc⟩
        · exact .inl hen
    | false =>
      have hloop : Ends reply (each (toggleOnAgent false) (x.credsOfUser u.id)) x
          fun r y => r = .ok () ∧ Removing x u.id [] y := by
        refine ends_each (Removing x u.id) (fun y hy => ⟨rfl, hy⟩) (fun c rest y hy => ?_)
          (Removing.start h hsure u.id)
        obtain ⟨hconfig, hcrs⟩ := hread hy.same (hy.left c (.head _))
        have hturn := hy.turn h.tables hR
        unfold removeFromAgent at hturn
        rw [hconfig, hcrs] at hturn
        unfold toggleOnAgent
        rw [hconfig, hcrs]
        exact ends_attempt (hturn.weaken fun _ z hz => ends_pure hz)
      refine hloop.weaken fun r y hy => ⟨hy.1, hy.2.same, hy.2.done.weaken (fun r _ hr => ?_)
        fun _ _ _ r _ _ hr => ?_⟩
      · exact .inr ⟨hr.2, hr.1⟩
      · rcases hr with ⟨-, hfalse⟩ | ⟨hid, hen⟩
        · cases hfalse
        · exact ⟨hen, hid⟩

/-- The row is written. -/
theorem updateUser_matched (hT : Tables x) {u : UserRow} (hu : u ∈ x.users) (enabled : Bool)
    {f : UserRow → UserRow} (hid : ∀ w, (f w).id = w.id)
    (hen : (f u).enabled = enabled)
    (hM : MatchedFor x (EnabledWith x u.id enabled) (EnabledWith x u.id enabled)) :
    Matched (x.updateUser u.id f).2 := by
  unfold VpnState.updateUser
  split
  · have hmem : ∀ w', w' ∈ (x.users.map fun w => if w.id = u.id then f w else w) ↔
        ∃ w ∈ x.users, w' = if w.id = u.id then f w else w := by
      intro w'
      rw [List.mem_map]
      exact ⟨fun ⟨w, hw, h⟩ => ⟨w, hw, h.symm⟩, fun ⟨w, hw, h⟩ => ⟨w, hw, h.symm⟩⟩
    have hsameId : ∀ w, (if w.id = u.id then f w else w).id = w.id := by
      intro w
      split
      · exact hid w
      · rfl
    have hiff : ∀ r, (∃ w' ∈ x.users.map fun w => if w.id = u.id then f w else w,
        w'.id = r.userId ∧ w'.enabled = true) ↔ EnabledWith x u.id enabled r := by
      intro r
      constructor
      · rintro ⟨w', hw', hwid, hw⟩
        obtain ⟨w, hwmem, rfl⟩ := (hmem w').mp hw'
        rw [hsameId] at hwid
        by_cases hwu : w.id = u.id
        · have hsame := hT.userIds w hwmem u hu hwu
          subst hsame
          rw [if_pos rfl] at hw
          exact .inl ⟨hwid.symm, hen ▸ hw⟩
        · rw [if_neg hwu] at hw
          exact .inr ⟨fun h => hwu (hwid.trans h), w, hwmem, hwid, hw⟩
      · rintro (⟨hru, hen'⟩ | ⟨hru, w, hw, hwid, hwenabled⟩)
        · refine ⟨f u, (hmem _).mpr ⟨u, hu, by rw [if_pos rfl]⟩, (hid u).trans hru.symm, ?_⟩
          rw [hen, hen']
        · refine ⟨w, (hmem _).mpr ⟨w, hw, ?_⟩, hwid, hwenabled⟩
          rw [if_neg fun h => hru (hwid.symm.trans h)]
    refine ⟨⟨hT.keys, hT.addresses, hT.pairs, hT.drawn, ?_, ?_, hT.serviceIds, ?_, hT.service,
      hT.config⟩, ?_⟩
    · intro w₁ h₁ w₂ h₂ heq
      obtain ⟨v₁, hv₁, rfl⟩ := (hmem w₁).mp h₁
      obtain ⟨v₂, hv₂, rfl⟩ := (hmem w₂).mp h₂
      rw [hsameId, hsameId] at heq
      rw [hT.userIds v₁ hv₁ v₂ hv₂ heq]
    · intro w hw
      obtain ⟨v, hv, rfl⟩ := (hmem w).mp hw
      rw [hsameId]
      exact hT.drawnUsers v hv
    · intro r hr
      obtain ⟨w, hw, hwid⟩ := hT.user r hr
      exact ⟨_, (hmem _).mpr ⟨w, hw, rfl⟩, (hsameId w).trans hwid⟩
    · exact (hM.weaken (fun r _ hr => (hiff r).mpr hr)
        fun _ _ _ r _ _ hr => (hiff r).mp hr).congr rfl rfl rfl
  · rename_i hnone
    refine absurd ?_ hnone
    unfold VpnState.findUser
    exact List.find?_isSome.mpr ⟨u, hu, by simp⟩

theorem nameTaken_ends (u : UserRow) (name : Option String) :
    Ends reply (nameTaken u name) x fun r y => y = x ∧ ∃ b, r = .ok b := by
  unfold nameTaken
  cases name.filter fun n => n != "" && n != u.name with
  | none => exact ends_pure ⟨rfl, _, rfl⟩
  | some n => exact ends_ask (ends_pure ⟨rfl, _, rfl⟩)

/-- `updateUser`. -/
theorem updateUser_ends (h : Matched x) (hR : Readable x) (id : Nat) (dto : UpdateUserDto)
    (hS : dto.enabled.isSome = true → Sure x) :
    Ends reply (updateUser id dto) x fun _ y => Matched y := by
  refine ends_ask ?_
  simp only [reply]
  cases hfind : x.findUser id with
  | none => exact ends_throw h
  | some u =>
    obtain ⟨hu, rfl⟩ := findUser_some hfind
    refine ends_bind ((nameTaken_ends u dto.name).weaken fun r y hy => ?_)
    obtain ⟨rfl, b, rfl⟩ := hy
    cases b with
    | true => exact ends_throw h
    | false =>
      refine ends_bind ((toggleAll_ends h hR hu hS).weaken fun r z hz => ?_)
      obtain ⟨rfl, hsame, hmat⟩ := hz
      have hu' : u ∈ z.users := hsame.users ▸ hu
      have hwith : ∀ r, EnabledWith z u.id (dto.enabled.getD u.enabled) r ↔
          EnabledWith y u.id (dto.enabled.getD u.enabled) r := by
        intro r
        unfold EnabledWith
        rw [hsame.enabled]
      have hupd := updateUser_matched (h.tables.same hsame) hu'
        (dto.enabled.getD u.enabled) (f := fun w => { w with
          name := dto.name.getD w.name
          enabled := dto.enabled.getD w.enabled
          notes := dto.notes.or w.notes }) (fun _ => rfl) rfl
        (hmat.weaken (fun r _ hr => (hwith r).mpr hr) fun _ _ _ r _ _ hr => (hwith r).mp hr)
      refine ends_ask? (fun _ _ => ?_) fun _ _ => hupd
      refine (getUser_ends u.id).weaken fun _ w hw => ?_
      rw [hw]
      exact hupd

/-! ### A user is added to a service -/

/-- In step, and ready for a call whose failing requests change nothing. -/
structure Ready (x : VpnState) : Prop extends Matched x where
  readable : Readable x
  clean : Clean x

theorem allocateIp_ends (hR : Readable x) (id : Nat) (cfg : VpnServiceConfig) :
    Ends reply (allocateIp id cfg) x fun r y => y = x ∧ ∀ ip, r = .ok (some ip) →
      ∀ c ∈ x.creds, c.serviceId = id → c.peer.allowedIp ≠ some ip := by
  cases cfg with
  | vlessReality keys => exact ends_pure ⟨rfl, fun ip h => by cases h⟩
  | amneziaWg srv network =>
    refine ends_ask (ends_ofExcept_bind (fun ip hip => ends_pure ⟨rfl, ?_⟩)
      fun e _ => ⟨rfl, fun ip h => by cases h⟩)
    rintro ip' ⟨⟩ c hc hid hsome
    refine allocateNextIp_free hip (List.mem_filterMap.mpr ⟨c, ?_, ?_⟩)
    · exact List.mem_filter.mpr ⟨hc, by simpa using hid⟩
    · unfold CredsRow.takenIp decryptVpnJson
      rw [hR.creds c hc]
      unfold CredsRow.peer VpnUserCreds.toPeer at hsome
      split at hsome
      · cases hsome
      · rename_i hval
        simp only [if_true, hval]
        exact hsome

/-- New credentials: keys that nobody has, and the address that was allocated. -/
structure Generated (x y : VpnState) (protocol : VpnProtocol) (allocatedIp : Option String)
    (creds : VpnUserCreds) : Prop where
  protocol : creds.protocol = protocol
  new : x.drawn ≤ creds.toPeer.key
  drawn : creds.toPeer.key < y.drawn
  address : ∀ ip, creds.toPeer.allowedIp = some ip → allocatedIp = some ip

theorem generate_ends (hC : Clean x) (protocol : VpnProtocol) (cfg : VpnServiceConfig)
    (allocatedIp : Option String) :
    Ends reply (generateUserCreds protocol cfg allocatedIp) x fun r y => SameTables x y ∧
      y.agent = x.agent ∧ Clean y ∧
        ∀ creds, r = .ok creds → Generated x y protocol allocatedIp creds := by
  cases protocol with
  | vlessReality =>
    refine ends_ask (ends_pure ⟨⟨rfl, rfl, rfl, Nat.le_succ _⟩, rfl, hC, ?_⟩)
    rintro creds ⟨⟩
    exact ⟨rfl, Nat.le_refl _, Nat.lt_succ_self _, fun ip h => by cases h⟩
  | amneziaWg =>
    simp only [generateUserCreds]
    split
    · exact ends_throw ⟨SameTables.refl x, rfl, hC, fun _ h => by cases h⟩
    · cases allocatedIp with
      | none => exact ends_throw ⟨SameTables.refl x, rfl, hC, fun _ h => by cases h⟩
      | some ip =>
        have haft : SameTables x x.genPeer.2 ∧ x.genPeer.2.agent = x.agent ∧
            Clean x.genPeer.2 ∧ ∀ n, x.genPeer.1 = some n → n = x.drawn ∧ n < x.genPeer.2.drawn := by
          unfold VpnState.genPeer
          split
          · exact ⟨SameTables.refl x, rfl, hC, fun n h => by cases h⟩
          · refine ⟨⟨rfl, rfl, rfl, Nat.le_succ _⟩, rfl,
              fun f hf => hC f (List.mem_of_mem_tail hf), fun n hn => ?_⟩
            obtain ⟨-, hn⟩ := Option.ite_none_right_eq_some.mp hn
            cases hn
            exact ⟨rfl, Nat.lt_succ_self _⟩
        obtain ⟨hsame, hag, hcln, hdr⟩ := haft
        refine ends_ask? (fun n hn => ends_pure ⟨hsame, hag, hcln, ?_⟩)
          fun e _ => ⟨hsame, hag, hcln, fun _ h => by cases h⟩
        rintro creds ⟨⟩
        have hn' : x.genPeer.1 = some n := by
          have hrep : answered "gen-peer failed" x.genPeer.1 = .ok n := hn
          cases hg : x.genPeer.1 with
          | none =>
            rw [hg] at hrep
            cases hrep
          | some m =>
            rw [hg] at hrep
            cases hrep
            rfl
        obtain ⟨rfl, hlt⟩ := hdr n hn'
        exact ⟨rfl, Nat.le_refl _, hlt, fun ip' h => h⟩

/-- What a new row has to be. -/
structure NewRow (x : VpnState) (row : CredsRow) : Prop where
  readable : row.credsBlob.readable = true
  new : ∀ r ∈ x.creds, r.peer.key < row.peer.key
  drawn : row.peer.key < x.drawn
  address : ∀ ip, row.peer.allowedIp = some ip → ∀ r ∈ x.creds, r.serviceId = row.serviceId →
    r.peer.allowedIp ≠ some ip
  pair : ∀ r ∈ x.creds, r.userId = row.userId → r.serviceId ≠ row.serviceId
  user : ∃ u ∈ x.users, u.id = row.userId
  service : ∃ v ∈ x.services, v.id = row.serviceId ∧ row.credsBlob.value.protocol = v.protocol

theorem Tables.add (h : Tables x) {row : CredsRow} (hrow : NewRow x row) :
    Tables { x with creds := x.creds ++ [row] } := by
  have hcas : ∀ r ∈ x.creds ++ [row], r ∈ x.creds ∨ r = row := fun r hr =>
    (List.mem_append.mp hr).imp_right List.mem_singleton.mp
  refine ⟨fun r₁ h₁ r₂ h₂ hkey => ?_, fun r₁ h₁ r₂ h₂ hs hip hsome => ?_,
    fun r₁ h₁ r₂ h₂ hu hs => ?_, fun r hr => ?_, h.userIds, h.drawnUsers, h.serviceIds,
    fun r hr => ?_, fun r hr => ?_, h.config⟩
  · rcases hcas r₁ h₁ with hold₁ | rfl
    · rcases hcas r₂ h₂ with hold₂ | rfl
      · exact h.keys r₁ hold₁ r₂ hold₂ hkey
      · exact absurd hkey (Nat.ne_of_lt (hrow.new r₁ hold₁))
    · rcases hcas r₂ h₂ with hold₂ | rfl
      · exact absurd hkey.symm (Nat.ne_of_lt (hrow.new r₂ hold₂))
      · rfl
  · obtain ⟨ip, hip₂⟩ := Option.isSome_iff_exists.mp hsome
    rcases hcas r₁ h₁ with hold₁ | rfl
    · rcases hcas r₂ h₂ with hold₂ | rfl
      · exact h.addresses r₁ hold₁ r₂ hold₂ hs hip hsome
      · exact absurd (hip.trans hip₂) (hrow.address ip hip₂ r₁ hold₁ hs)
    · rcases hcas r₂ h₂ with hold₂ | rfl
      · exact absurd hip₂ (hrow.address ip (hip.trans hip₂) r₂ hold₂ hs.symm)
      · rfl
  · rcases hcas r₁ h₁ with hold₁ | rfl
    · rcases hcas r₂ h₂ with hold₂ | rfl
      · exact h.pairs r₁ hold₁ r₂ hold₂ hu hs
      · exact absurd hs (hrow.pair r₁ hold₁ hu)
    · rcases hcas r₂ h₂ with hold₂ | rfl
      · exact absurd hs.symm (hrow.pair r₂ hold₂ hu.symm)
      · rfl
  · rcases hcas r hr with hold | rfl
    · exact h.drawn r hold
    · exact hrow.drawn
  · rcases hcas r hr with hold | rfl
    · exact h.user r hold
    · exact hrow.user
  · rcases hcas r hr with hold | rfl
    · exact h.service r hold
    · exact hrow.service

/-- A row that nothing on the server follows yet. -/
theorem MatchedFor.add {may must : CredsRow → Prop} (h : MatchedFor x may must) {row : CredsRow}
    (hrow : row ∉ x.creds) : MatchedFor { x with creds := x.creds ++ [row] }
      (fun r => may r ∧ r ≠ row) fun r => must r ∧ r ≠ row := by
  refine ⟨fun s q hq => ?_, h.inStep, fun v hv hst => ?_⟩
  · obtain ⟨r, hr, hs, hp, hr'⟩ := h.stored s q hq
    exact ⟨r, List.mem_append_left _ hr, hs, hp, hr', fun heq => hrow (heq ▸ hr)⟩
  · obtain ⟨hup, hall⟩ := h.running v hv hst
    refine ⟨hup, fun r hr hs hr' => ?_⟩
    rcases List.mem_snoc.mp hr with hold | hnew
    · exact hall r hold hs hr'.1
    · exact absurd hnew hr'.2

theorem createCreds_cases (x : VpnState) (row : CredsRow) :
    x.createCreds row = (.error VpnState.constraintFailed, x) ∨
      (x.createCreds row = (.ok (), { x with creds := x.creds ++ [row] }) ∧
        ∀ r ∈ x.creds, r.userId = row.userId → r.serviceId ≠ row.serviceId) := by
  unfold VpnState.createCreds
  split
  · exact .inl rfl
  · rename_i hfree
    simp only [Bool.or_eq_true, not_or, Bool.not_eq_true] at hfree
    refine .inr ⟨rfl, fun r hr hu hs => ?_⟩
    have hany := List.any_eq_false.mp hfree.1.1 r hr
    simp [hu, hs] at hany

/-- `addUserToService`, from the creation of the row on. -/
theorem createAndApply_ends (h : Ready x) {user : UserRow} {service : ServiceRow}
    {creds : VpnUserCreds} (huser : user ∈ x.users) (hsvc : service ∈ x.services)
    (hrow : (∀ r ∈ x.creds, r.userId = user.id → r.serviceId ≠ service.id) →
      NewRow x ⟨user.id, service.id, encryptVpnJson creds⟩) :
    Ends reply (createAndApply user service creds) x fun _ y => Ready y := by
  have hT := h.tables
  have hrep : reply (.createCreds ⟨user.id, service.id, encryptVpnJson creds⟩) x =
    x.createCreds ⟨user.id, service.id, encryptVpnJson creds⟩ := rfl
  rcases createCreds_cases x ⟨user.id, service.id, encryptVpnJson creds⟩ with heq | ⟨heq, hpair⟩
  · refine ends_ask? (fun _ hok => ?_) fun _ _ => ?_
    · rw [hrep, heq] at hok
      cases hok
    · rw [hrep, heq]
      exact h
  · refine ends_ask? (fun _ _ => ?_) fun e he => by
      rw [hrep, heq] at he
      cases he
    -- the row is there, and may go again
    rw [hrep, heq]
    have hnew := hrow hpair
    obtain ⟨row, hrowdef⟩ : ∃ row : CredsRow,
        row = ⟨user.id, service.id, encryptVpnJson creds⟩ := ⟨_, rfl⟩
    rw [← hrowdef] at hnew ⊢
    have hnotmem : row ∉ x.creds := fun hmem => Nat.lt_irrefl _ (hnew.new row hmem)
    have htb := hT.add hnew
    have hadded := h.server.add hnotmem
    have hrd : Readable { x with creds := x.creds ++ [row] } := by
      refine ⟨fun r hr => ?_, h.readable.config⟩
      rcases List.mem_snoc.mp hr with hold | rfl
      · exact h.readable.creds r hold
      · exact hnew.readable
    have hmem : row ∈ x.creds ++ [row] := List.mem_append_right _ (List.mem_singleton.mpr rfl)
    have hfr : ∀ {y : VpnState}, SameTables { x with creds := x.creds ++ [row] } y →
        ∀ n, y.Enabled n ↔ x.Enabled n := fun hs n => hs.enabled n
    split
    · rename_i hcond
      obtain ⟨hen, -⟩ := hcond
      have happly := applyAdd_ends htb h.clean (hadded.weaken (fun r _ hr => hr.1)
        fun _ _ _ _ _ _ hr => hr) hmem ⟨user, huser, by rw [hrowdef], hen⟩ hsvc
        (by rw [hrowdef])
      have hcall : applyAddUser service.protocol row.serviceId row.credsBlob.value =
          applyAddUser service.protocol service.id creds := by
        rw [hrowdef]
        rfl
      rw [hcall] at happly
      refine ends_attempt (happly.weaken fun r y hy => ?_)
      obtain ⟨hsame, hcln, -, hfail, hok⟩ := hy
      cases r with
      | ok n =>
        have hmat := hok (.inl ⟨n, rfl⟩)
        have hrdy : Ready y := by
          refine ⟨⟨htb.same hsame, hmat.weaken (fun r _ hr => (hfr hsame _).mpr hr)
            fun _ _ _ r _ _ hr => ?_⟩, hrd.same hsame, hcln⟩
          by_cases heq : r = row
          · exact .inr heq
          · exact .inl ⟨(hfr hsame _).mp hr, heq⟩
        exact (view_ends user.id service.id).weaken fun _ z hz => hz ▸ hrdy
      | error e =>
        have hag := hfail e rfl
        have hmat := hadded.congr hag hsame.services hsame.creds
        have hdel : Ready (y.deleteCreds user.id service.id).2 := by
          unfold VpnState.deleteCreds
          have hin : row ∈ y.creds := hsame.creds ▸ hmem
          rw [if_pos (List.any_eq_true.mpr ⟨row, hin, by simp [hrowdef]⟩)]
          have htb' := htb.same hsame
          refine ⟨⟨htb'.filterCreds _, (hmat.filterCreds fun r hr hr' => ?_).weaken
            (fun r _ hr => (hfr hsame _).mpr hr.1) fun _ _ _ r hr _ hen' =>
              ⟨(hfr hsame _).mp hen', ?_⟩⟩, ⟨fun r hr => ?_, ?_⟩, hcln⟩
          · by_cases hu : r.userId = user.id
            · have hs : r.serviceId ≠ service.id := fun hs => hr'.2
                (htb'.pairs r hr row hin (by rw [hu, hrowdef]) (by rw [hs, hrowdef]))
              simp [hu, hs]
            · simp [hu]
          · rintro rfl
            have := (List.mem_filter.mp hr).2
            simp [hrowdef] at this
          · exact (hrd.same hsame).creds r (List.mem_filter.mp hr).1
          · exact (hrd.same hsame).config
        exact ends_ask? (fun _ _ => ends_throw hdel) fun _ _ => hdel
    · rename_i hcond
      have hrdy : Ready { x with creds := x.creds ++ [row] } := by
        refine ⟨⟨htb, hadded.weaken (fun r _ hr => hr.1) fun v hv hst r hr hs hen =>
          ⟨hen, ?_⟩⟩, hrd, h.clean⟩
        -- the user is disabled, or the service is not running
        rintro rfl
        refine hcond ⟨?_, ?_⟩
        · obtain ⟨w, hw, hid, hwenabled⟩ := hen
          rw [← hT.userIds w hw user huser (by rw [hid, hrowdef])]
          exact hwenabled
        · rw [← hT.serviceIds v hv service hsvc (by rw [← hs, hrowdef])]
          exact hst
      exact (view_ends user.id service.id).weaken fun _ z hz => hz ▸ hrdy

/-- `addUserToService`. -/
theorem addUser_ends (h : Ready x) (userId serviceId : Nat) :
    Ends reply (addUserToService userId serviceId) x fun _ y => Ready y := by
  refine ends_ask ?_
  simp only [reply]
  cases hu : x.findUser userId with
  | none => exact ends_throw h
  | some user =>
    obtain ⟨huser, -⟩ := findUser_some hu
    refine ends_ask ?_
    simp only [reply]
    cases hs : x.findService serviceId with
    | none => exact ends_throw h
    | some service =>
      obtain ⟨hsvc, -⟩ := findService_some hs
      refine ends_ask ?_
      simp only [reply]
      cases x.findCreds user.id service.id with
      | some found => exact ends_throw h
      | none =>
        refine ends_ofExcept_bind (fun cfg _ => ?_) fun _ _ => h
        refine ends_bind ((allocateIp_ends h.readable service.id cfg).weaken fun r y hy => ?_)
        obtain ⟨rfl, hfree⟩ := hy
        cases r with
        | error e => exact h
        | ok allocatedIp =>
          refine ends_bind ((generate_ends h.clean service.protocol cfg allocatedIp).weaken
            fun r z hz => ?_)
          obtain ⟨hsame, hag, hcln, hgenerated⟩ := hz
          have hrdy : Ready z :=
            ⟨h.toMatched.same hsame hag, h.readable.same hsame, hcln⟩
          cases r with
          | error e => exact hrdy
          | ok creds =>
            obtain ⟨hprot, hnew, hdr, haddress⟩ := hgenerated creds rfl
            refine createAndApply_ends hrdy (hsame.users ▸ huser) (hsame.services ▸ hsvc)
              fun hpair => ?_
            refine ⟨rfl, fun r hr => ?_, hdr, fun ip hip r hr hid => ?_, hpair, ?_, ?_⟩
            · exact Nat.lt_of_lt_of_le (h.tables.drawn r (hsame.creds ▸ hr)) hnew
            · exact hfree ip (by rw [haddress ip hip]) r (hsame.creds ▸ hr) hid
            · exact ⟨user, hsame.users ▸ huser, rfl⟩
            · exact ⟨service, hsame.services ▸ hsvc, rfl, hprot⟩

/-- A new user has no rows, so nothing is due. -/
theorem createUser_ready (h : Ready x) (name : String) (notes : Option String) :
    Ready (x.createUser name notes).2 := by
  unfold VpnState.createUser
  split
  · exact h
  · have hT := h.tables
    have hold : ∀ r ∈ x.creds, r.userId < x.drawn := by
      intro r hr
      obtain ⟨u, hu, hid⟩ := hT.user r hr
      exact hid ▸ hT.drawnUsers u hu
    have hiff : ∀ r ∈ x.creds, (∃ u ∈ x.users ++ [⟨x.drawn, name, true, notes⟩],
        u.id = r.userId ∧ u.enabled = true) ↔ x.Enabled r.userId := by
      intro r hr
      constructor
      · rintro ⟨u, hu, hid, hen⟩
        rcases List.mem_snoc.mp hu with hu | rfl
        · exact ⟨u, hu, hid, hen⟩
        · exact absurd (hid ▸ hold r hr) (Nat.lt_irrefl _)
      · rintro ⟨u, hu, hrest⟩
        exact ⟨u, List.mem_append_left _ hu, hrest⟩
    refine ⟨⟨⟨hT.keys, hT.addresses, hT.pairs, fun r hr => Nat.lt_succ_of_lt (hT.drawn r hr), ?_,
      ?_, hT.serviceIds, fun r hr => ?_, hT.service, hT.config⟩, ?_⟩,
      ⟨h.readable.creds, h.readable.config⟩, h.clean⟩
    · intro u₁ h₁ u₂ h₂ hid
      rcases List.mem_append.mp h₁ with hold₁ | hnew₁
      · rcases List.mem_snoc.mp h₂ with hold₂ | rfl
        · exact hT.userIds u₁ hold₁ u₂ hold₂ hid
        · exact absurd (hid ▸ hT.drawnUsers u₁ hold₁) (Nat.lt_irrefl _)
      · rcases List.mem_snoc.mp h₂ with hold₂ | hnew₂
        · rw [List.mem_singleton.mp hnew₁] at hid
          exact absurd (hid ▸ hT.drawnUsers u₂ hold₂) (Nat.lt_irrefl _)
        · rw [List.mem_singleton.mp hnew₁, hnew₂]
    · intro u hu
      rcases List.mem_snoc.mp hu with hu | rfl
      · exact Nat.lt_succ_of_lt (hT.drawnUsers u hu)
      · exact Nat.lt_succ_self _
    · obtain ⟨u, hu, hid⟩ := hT.user r hr
      exact ⟨u, List.mem_append_left _ hu, hid⟩
    · exact (h.server.weaken (fun r hr hen => (hiff r hr).mpr hen)
        fun _ _ _ r hr _ hen => (hiff r hr).mp hen).congr rfl rfl rfl

/-- `createUser`. -/
theorem createUser_ends (h : Ready x) (dto : CreateUserDto) :
    Ends reply (createUser dto) x fun _ y => Ready y := by
  refine ends_ask ?_
  simp only [reply]
  cases x.users.find? fun u => u.name == dto.name with
  | some u => exact ends_throw h
  | none =>
    have hrdy := createUser_ready h dto.name dto.notes
    refine ends_ask? (fun id _ => ?_) fun _ _ => hrdy
    have hloop : Ends reply (each (fun serviceId => do
        let _ ← attempt (addUserToService id serviceId)
        return ()) dto.serviceIds) (x.createUser dto.name dto.notes).2 fun _ y => Ready y := by
      refine ends_each (fun _ y => Ready y) (fun _ hy => hy) (fun serviceId rest y hy => ?_) hrdy
      exact ends_attempt ((addUser_ends hy id serviceId).weaken fun _ z hz => ends_pure hz)
    refine ends_bind (hloop.weaken fun r y hy => ?_)
    cases r with
    | error e => exact hy
    | ok u => exact (getUser_ends id).weaken fun _ z hz => hz ▸ hy

/-! ### Services -/

/-- The service is up, with the peers of its enabled users. -/
def Serves (x : VpnState) (v : ServiceRow) : Prop :=
  (x.agent v.id).live.isSome = true ∧ ∀ r ∈ x.creds, r.serviceId = v.id →
    x.Enabled r.userId → (x.agent v.id).Has r.peer

theorem Matched.serves (h : Matched x) (hs : SameTables x y) {v : ServiceRow}
    (hv : v ∈ y.services) (hst : v.status = .running)
    (hup : (x.agent v.id).live.isSome = true → (y.agent v.id).live.isSome = true)
    (hhas : ∀ q, (x.agent v.id).Has q → (y.agent v.id).Has q) : Serves y v := by
  obtain ⟨hlive, hall⟩ := h.server.running v (hs.services ▸ hv) hst
  refine ⟨hup hlive, fun r hr hid hen => hhas _ ?_⟩
  exact hall r (hs.creds ▸ hr) hid ((hs.enabled _).mp hen)

/-- A service row is written: its id and its protocol stay. -/
theorem updateService_matched (hT : Tables x) {id : Nat} {f : ServiceRow → ServiceRow}
    (hid : ∀ v, (f v).id = v.id) (hprot : ∀ v, (f v).protocol = v.protocol)
    (hconfig : ∀ v ∈ x.services, v.id = id → (f v).configBlob.value.protocol = v.protocol)
    (hsto : ∀ s q, (x.agent s).Has q →
      ∃ r ∈ x.creds, r.serviceId = s ∧ r.peer = q ∧ x.Enabled r.userId)
    (hin : ∀ s, (x.agent s).InStep)
    (hother : ∀ v ∈ x.services, v.id ≠ id → v.status = .running → Serves x v)
    (hself : ∀ v ∈ x.services, v.id = id → (f v).status = .running → Serves x v) :
    (x.findService id).isSome = true → Matched (x.updateService id f).2 := by
  intro hfnd
  unfold VpnState.updateService
  rw [if_pos hfnd]
  have hmem : ∀ v', v' ∈ (x.services.map fun v => if v.id = id then f v else v) →
      ∃ v ∈ x.services, v' = if v.id = id then f v else v := fun v' hv' => by
    obtain ⟨v, hv, h⟩ := List.mem_map.mp hv'
    exact ⟨v, hv, h.symm⟩
  have hsame : ∀ v, (if v.id = id then f v else v).id = v.id ∧
      (if v.id = id then f v else v).protocol = v.protocol := by
    intro v
    split
    · exact ⟨hid v, hprot v⟩
    · exact ⟨rfl, rfl⟩
  refine ⟨⟨hT.keys, hT.addresses, hT.pairs, hT.drawn, hT.userIds, hT.drawnUsers, ?_, hT.user, ?_,
    ?_⟩, ⟨hsto, hin, ?_⟩⟩
  · intro v₁ h₁ v₂ h₂ heq
    obtain ⟨w₁, hw₁, rfl⟩ := hmem v₁ h₁
    obtain ⟨w₂, hw₂, rfl⟩ := hmem v₂ h₂
    rw [(hsame w₁).1, (hsame w₂).1] at heq
    rw [hT.serviceIds w₁ hw₁ w₂ hw₂ heq]
  · intro r hr
    obtain ⟨v, hv, hvid, hvp⟩ := hT.service r hr
    exact ⟨_, List.mem_map_of_mem hv, (hsame v).1.trans hvid, hvp.trans (hsame v).2.symm⟩
  · intro v hv
    obtain ⟨w, hw, rfl⟩ := hmem v hv
    rw [(hsame w).2]
    split
    · rename_i hwid
      exact hconfig w hw hwid
    · exact hT.config w hw
  · intro v hv hst
    obtain ⟨w, hw, rfl⟩ := hmem v hv
    rw [(hsame w).1]
    by_cases hwid : w.id = id
    · rw [if_pos hwid] at hst
      exact hself w hw hwid hst
    · rw [if_neg hwid] at hst
      exact hother w hw hwid hst

/-- A request to a service that leaves its file: refused, or performed on the service of the row. -/
theorem request_cases (h : Matched x) (hC : Clean x) {v : ServiceRow} {r : AgentRequest}
    {protocol : VpnProtocol} {message : String} {b : AgentService}
    (hb : ((x.agent v.id).perform protocol r []).2 = b) (hin : b.InStep)
    (hhas : ∀ q, b.Has q ↔ (x.agent v.id).Has q)
    {P : Except VpnError Nat → VpnState → Prop}
    (href : ∀ e y, Matched y → P (.error e) y)
    (hperformed : ∀ result y, SameTables x y → y.agent = Function.update x.agent v.id b →
      ((∃ n, result = .ok n) ↔ ((x.agent v.id).perform protocol r []).1 = true) →
        P result y) :
    Ends reply (request protocol v.id r message) x P := by
  obtain ⟨hcas, hsame, -, -⟩ := emit_cases hC ⟨protocol, v.id, r⟩
  refine ends_ask?_end ?_
  rcases hcas with ⟨hnone, hag, -⟩ | ⟨hans, hag⟩
  · have hrep : (reply (.emitToAgent ⟨protocol, v.id, r⟩) x).1 = none := hnone
    rw [hrep]
    exact href _ _ (h.same hsame hag)
  · refine hperformed _ _ hsame (hag.trans (by rw [← hb])) ?_
    have hrep : (reply (.emitToAgent ⟨protocol, v.id, r⟩) x).1 =
      if ((x.agent v.id).perform protocol r []).1 then some x.drawn else none := hans
    rw [hrep]
    split
    · rename_i hok
      exact ⟨fun _ => hok, fun _ => ⟨_, rfl⟩⟩
    · rename_i hok
      exact ⟨fun ⟨n, hn⟩ => (by cases hn), fun hyes => absurd hyes hok⟩

theorem findService_same (h : SameTables x y) {id : Nat} (hfnd : (x.findService id).isSome = true) :
    (y.findService id).isSome = true := by
  unfold VpnState.findService at hfnd ⊢
  rwa [h.services]

/-- What the server holds, once a service with the same file has taken the place of another. -/
theorem Matched.replaced (h : Matched x) (hsame : SameTables x y) {s : Nat} {b : AgentService}
    (hag : y.agent = Function.update x.agent s b) (hin : b.InStep)
    (hhas : ∀ q, b.Has q ↔ (x.agent s).Has q) :
    (∀ t, (y.agent t).InStep) ∧ (∀ t q, (y.agent t).Has q ↔ (x.agent t).Has q) ∧
      (∀ t q, (y.agent t).Has q →
        ∃ r ∈ y.creds, r.serviceId = t ∧ r.peer = q ∧ y.Enabled r.userId) ∧
      ∀ v ∈ y.services, v.id ≠ s → v.status = .running → Serves y v := by
  have hself : y.agent s = b := by rw [hag, Function.update_self]
  have hother : ∀ t, t ≠ s → y.agent t = x.agent t := fun t ht => by
    rw [hag, Function.update_of_ne ht]
  have hiff : ∀ t q, (y.agent t).Has q ↔ (x.agent t).Has q := by
    intro t q
    by_cases ht : t = s
    · subst ht
      rw [hself]
      exact hhas q
    · rw [hother t ht]
  refine ⟨fun t => ?_, hiff, fun t q hq => ?_, fun v hv hne hst => ?_⟩
  · by_cases ht : t = s
    · subst ht
      rw [hself]
      exact hin
    · rw [hother t ht]
      exact h.server.inStep t
  · obtain ⟨r, hr, hs, hp, hen⟩ := h.server.stored t q ((hiff t q).mp hq)
    exact ⟨r, hsame.creds ▸ hr, hs, hp, (hsame.enabled _).mpr hen⟩
  · refine h.serves hsame hv hst (fun hup => ?_) fun q => (hiff _ q).mpr
    rw [hother _ hne]
    exact hup

/-- `startService`. -/
theorem startService_ends (h : Matched x) (hC : Clean x) {id : Nat} (hfile : FileComplete x id) :
    Ends reply (startService id) x fun _ y => Matched y := by
  refine ends_ask ?_
  simp only [reply]
  cases hfind : x.findService id with
  | none => exact ends_throw h
  | some v =>
    obtain ⟨hv, rfl⟩ := findService_some hfind
    show Ends reply (if _ then _ else _) x _
    split
    · exact ends_throw h
    · obtain ⟨hin, hhas, hup, hsta⟩ := AgentService.perform_start v.protocol
        (h.server.inStep v.id)
      refine ends_bind (request_cases h hC rfl hin hhas (fun e y hy => hy)
        fun result y hsame hag hres => ?_)
      obtain ⟨hin', hiff, hsto, hother⟩ := h.replaced hsame hag hin hhas
      have hself : y.agent v.id = ((x.agent v.id).perform v.protocol .start []).2 := by
        rw [hag, Function.update_self]
      cases result with
      | error e =>
        refine ⟨h.tables.same hsame, ⟨hsto, hin', fun w hw hst => ?_⟩⟩
        by_cases hwid : w.id = v.id
        · refine h.serves hsame hw hst (fun hlive => ?_) fun q => (hiff _ q).mpr
          rw [hwid] at hlive ⊢
          rw [hself]
          exact hup hlive
        · exact hother w hw hwid hst
      | ok n =>
        have hok := hres.mp ⟨n, rfl⟩
        have hwr : Matched (y.updateService v.id fun s => { s with status := .running }).2 := by
          refine updateService_matched (h.tables.same hsame) (fun _ => rfl) (fun _ => rfl)
            (fun w hw _ => (h.tables.same hsame).config w hw) hsto hin' hother
            (fun w _ hwid _ => ?_) (findService_same hsame (by rw [hfind]; rfl))
          rw [Serves, hwid, hself]
          refine ⟨hsta hok, fun r hr hs hen => (hhas _).mpr ?_⟩
          exact hfile r (hsame.creds ▸ hr) hs ((hsame.enabled _).mp hen)
        exact ends_ask?_end hwr

/-- `stopService`. -/
theorem stopService_ends (h : Matched x) (hC : Clean x) (id : Nat) :
    Ends reply (stopService id) x fun _ y => Matched y := by
  refine ends_ask ?_
  simp only [reply]
  cases hfind : x.findService id with
  | none => exact ends_throw h
  | some v =>
    obtain ⟨hv, rfl⟩ := findService_some hfind
    obtain ⟨hin, hhas⟩ := AgentService.perform_stop (a := x.agent v.id) v.protocol
    refine ends_bind (request_cases h hC rfl hin hhas (fun e y hy => hy)
      fun result y hsame hag hres => ?_)
    obtain ⟨hin', -, hsto, hother⟩ := h.replaced hsame hag hin hhas
    cases result with
    | error e =>
      -- with no command failing, stopping succeeds
      have hok : ((x.agent v.id).perform v.protocol .stop []).1 = true := rfl
      obtain ⟨n, hn⟩ := hres.mpr hok
      cases hn
    | ok n =>
      have hwr : Matched (y.updateService v.id fun s => { s with status := .stopped }).2 :=
        updateService_matched (h.tables.same hsame) (fun _ => rfl) (fun _ => rfl)
          (fun w hw _ => (h.tables.same hsame).config w hw) hsto hin' hother
          (fun w _ _ hst => by cases hst)
          (findService_same hsame (by rw [hfind]; rfl))
      exact ends_ask?_end hwr

/-- `rotateKeys`. -/
theorem rotateKeys_ends (h : Matched x) (hC : Clean x) (id : Nat) :
    Ends reply (rotateServiceKeys id) x fun _ y => Matched y := by
  refine ends_ask ?_
  simp only [reply]
  cases hfind : x.findService id with
  | none => exact ends_throw h
  | some v =>
    obtain ⟨hv, rfl⟩ := findService_some hfind
    refine ends_ofExcept_bind (fun cfg hcfg => ?_) fun _ _ => h
    obtain ⟨rfl, -⟩ := decryptVpnJson_ok hcfg
    obtain ⟨hin, hhas, hup⟩ := AgentService.perform_rotateKeys v.configBlob.value.protocol
      (h.server.inStep v.id)
    refine ends_bind (request_cases h hC rfl hin hhas (fun e y hy => hy)
      fun result y hsame hag _ => ?_)
    obtain ⟨hin', hiff, hsto, hother⟩ := h.replaced hsame hag hin hhas
    have hself : y.agent v.id =
        ((x.agent v.id).perform v.configBlob.value.protocol .rotateKeys []).2 := by
      rw [hag, Function.update_self]
    have hkept : ∀ w ∈ y.services, w.id = v.id → w.status = .running → Serves y w := by
      intro w hw hwid hst
      refine h.serves hsame hw hst (fun hlive => ?_) fun q => (hiff _ q).mpr
      rw [hwid] at hlive ⊢
      rw [hself]
      exact hup hlive
    cases result with
    | error e =>
      refine ⟨h.tables.same hsame, ⟨hsto, hin', fun w hw hst => ?_⟩⟩
      by_cases hwid : w.id = v.id
      · exact hkept w hw hwid hst
      · exact hother w hw hwid hst
    | ok n =>
      have hwr : Matched (y.updateService v.id fun s => { s with
          configBlob := encryptVpnJson (v.configBlob.value.withKeys n) }).2 := by
        refine updateService_matched (h.tables.same hsame) (fun _ => rfl) (fun _ => rfl)
          (fun w hw hwid => ?_) hsto hin' hother (fun w hw hwid hst =>
            hkept w hw hwid hst) (findService_same hsame (by rw [hfind]; rfl))
        have hwv := h.tables.serviceIds w (hsame.services ▸ hw) v hv hwid
        subst hwv
        rw [← h.tables.config w hv]
        simp only [encryptVpnJson]
        cases w.configBlob.value with
        | vlessReality keys => rfl
        | amneziaWg srv network => rfl
      exact ends_ask?_end hwr

/-- Everything of a service goes. -/
theorem deleteService_matched (hT : Tables x) {id : Nat}
    (hfnd : (x.findService id).isSome = true) (hin : ∀ s, (x.agent s).InStep)
    (habsent : ∀ q, ¬(x.agent id).Has q)
    (hsto : ∀ s q, s ≠ id → (x.agent s).Has q →
      ∃ r ∈ x.creds, r.serviceId = s ∧ r.peer = q ∧ x.Enabled r.userId)
    (hother : ∀ v ∈ x.services, v.id ≠ id → v.status = .running → Serves x v) :
    Matched (x.deleteService id).2 := by
  unfold VpnState.deleteService
  rw [if_pos hfnd]
  have hfil := hT.filterCreds fun r => r.serviceId != id
  refine ⟨⟨hfil.keys, hfil.addresses, hfil.pairs, hfil.drawn,
    hfil.userIds, hfil.drawnUsers, fun v₁ h₁ v₂ h₂ =>
      hT.serviceIds v₁ (List.mem_filter.mp h₁).1 v₂ (List.mem_filter.mp h₂).1,
    hfil.user, fun r hr => ?_, fun v hv => hT.config v (List.mem_filter.mp hv).1⟩,
    ⟨fun s q hq => ?_, hin, fun v hv hst => ?_⟩⟩
  · obtain ⟨hmem, hne⟩ := List.mem_filter.mp hr
    obtain ⟨v, hv, hvid, hvp⟩ := hT.service r hmem
    exact ⟨v, List.mem_filter.mpr ⟨hv, by rwa [hvid]⟩, hvid, hvp⟩
  · by_cases hs : s = id
    · subst hs
      exact absurd hq (habsent q)
    · obtain ⟨r, hr, hrs, hp, hen⟩ := hsto s q hs hq
      exact ⟨r, List.mem_filter.mpr ⟨hr, by simpa [hrs] using hs⟩, hrs, hp, hen⟩
  · obtain ⟨hmem, hne⟩ := List.mem_filter.mp hv
    obtain ⟨hup, hall⟩ := hother v hmem (by simpa using hne) hst
    exact ⟨hup, fun r hr => hall r (List.mem_filter.mp hr).1⟩

/-- `deleteService`. -/
theorem deleteService_ends (h : Matched x) (hS : Sure x) (id : Nat) :
    Ends reply (deleteService id) x fun _ y => Matched y := by
  refine ends_ask ?_
  simp only [reply]
  cases hfind : x.findService id with
  | none => exact ends_throw h
  | some v =>
    obtain ⟨hv, rfl⟩ := findService_some hfind
    refine ends_ask ?_
    rw [if_pos (show (reply .isAgentConnected x).1 = true from hS.1)]
    obtain ⟨hcas, hsame, -, -⟩ := emit_cases hS.clean ⟨v.protocol, v.id, .uninstall⟩
    refine ends_attempt (ends_ask?_end ?_)
    rcases hcas with ⟨-, -, hnot⟩ | ⟨-, hag⟩
    · exact absurd hS hnot
    · rw [AgentService.perform_uninstall] at hag
      have hself : (x.emitToAgent ⟨v.protocol, v.id, .uninstall⟩).2.agent v.id = .absent := by
        rw [hag, Function.update_self]
      have hother : ∀ t, t ≠ v.id →
          (x.emitToAgent ⟨v.protocol, v.id, .uninstall⟩).2.agent t = x.agent t := fun t ht => by
        rw [hag, Function.update_of_ne ht]
      refine ends_ask?_end (deleteService_matched (h.tables.same hsame)
        (findService_same hsame (by rw [hfind]; rfl)) (fun t => ?_) (fun q => ?_)
        (fun t q ht hq => ?_) fun w hw hne hst => ?_)
      · by_cases ht : t = v.id
        · subst ht
          exact AgentService.inStep_down (by rw [hself]; rfl)
        · rw [hother t ht]
          exact h.server.inStep t
      · rw [hself]
        exact AgentService.not_has
      · rw [hother t ht] at hq
        obtain ⟨r, hr, hs, hp, hen⟩ := h.server.stored t q hq
        exact ⟨r, hsame.creds ▸ hr, hs, hp, (hsame.enabled _).mpr hen⟩
      · refine h.serves hsame hw hst ?_ ?_
        all_goals
          rw [hother _ hne]
          simp

/-! ## Runs -/

/-- **One call** keeps the two in step. -/
theorem order_ends (h : Matched x) (hR : Readable x) (order : VpnOrder)
    (hguard : CallGuard x order) : Ends reply (orderProgram order) x fun _ y => Matched y := by
  cases order with
  | createUser dto =>
    exact discard_ends ((createUser_ends ⟨h, hR, hguard⟩ dto).weaken fun _ _ hy => hy.toMatched)
  | updateUser id dto => exact discard_ends (updateUser_ends h hR id dto hguard)
  | deleteUser id => exact deleteUser_ends h hR hguard id
  | addUserToService userId serviceId =>
    exact discard_ends ((addUser_ends ⟨h, hR, hguard⟩ userId serviceId).weaken
      fun _ _ hy => hy.toMatched)
  | removeUserFromService userId serviceId => exact removeUser_ends h hR hguard userId serviceId
  | startService id => exact startService_ends h hguard.1 hguard.2
  | stopService id => exact stopService_ends h hguard id
  | rotateKeys id => exact rotateKeys_ends h hguard id
  | deleteService id => exact deleteService_ends h hguard id

/-- A late request that changes nothing. -/
theorem performLate_matched (h : Matched x) {n : Nat} {failing : List Nat}
    (hguard : ∀ r ∈ x.pending[n]?, ((x.agent r.serviceId).perform r.protocol r.request failing).2 =
      x.agent r.serviceId) : Matched (x.performLate n failing) := by
  unfold VpnState.performLate
  split
  · rename_i r hr
    refine h.same ⟨rfl, rfl, rfl, Nat.le_refl _⟩ ?_
    simp only [VpnState.perform]
    rw [hguard r hr, Function.update_eq_self]
  · exact h

/-- **Access matches the panel** after every call of a run whose steps meet the guard. -/
theorem access_matches {s₀ s : VpnRun} (h0 : Matched s₀.store)
    (hs : Reach vpnStep AccessGuard s₀ s) : AccessMatches s.store := by
  suffices h : Matched s.store from h.access
  refine hs.invariant (I := fun s => Matched s.store) h0 fun s a s' h hguard hstep => ?_
  cases a with
  | call order connected fates =>
    obtain ⟨hrd, hcall⟩ := hguard
    have hsame : Matched { s.store with connected := connected, fates := fates } :=
      h.same ⟨rfl, rfl, rfl, Nat.le_refl _⟩ rfl
    obtain ⟨r, hruns, rfl⟩ := Option.map_eq_some_iff.mp hstep
    exact (order_ends hsame ⟨hrd.creds, hrd.config⟩ order hcall).of_runs hruns
  | late n failing =>
    cases hstep
    exact performLate_matched h hguard

instance (x : VpnState) : Decidable (Sure x) :=
  inferInstanceAs (Decidable (_ ∧ ∀ f ∈ x.fates, _))

instance (x : VpnState) : Decidable (Clean x) :=
  inferInstanceAs (Decidable (∀ f ∈ x.fates, _))

instance (x : VpnState) (id : Nat) : Decidable (FileComplete x id) :=
  inferInstanceAs (Decidable (∀ r ∈ x.creds, _ → _ → _))

instance (x : VpnState) (order : VpnOrder) : Decidable (CallGuard x order) := by
  apply VpnOrder.casesOn (motive := fun order => Decidable (CallGuard x order)) order <;> intros <;>
    dsimp only [CallGuard] <;> infer_instance

instance (x : VpnState) : Decidable (Readable x) :=
  decidable_of_iff ((∀ r ∈ x.creds, r.credsBlob.readable = true) ∧
    ∀ v ∈ x.services, v.configBlob.readable = true) ⟨fun h => ⟨h.1, h.2⟩, fun h => ⟨h.1, h.2⟩⟩

instance (s : VpnRun) (a : VpnAction) : Decidable (AccessGuard s a) := by
  apply VpnAction.casesOn (motive := fun a => Decidable (AccessGuard s a)) a <;> intros <;>
    dsimp only [AccessGuard] <;> infer_instance

/-! ### A service with one user -/

namespace SampleAccess

def network : Cidr := ⟨10#8, 13#8, 13#8, 0#8, 24⟩

def service : ServiceRow := ⟨7, .amneziaWg, 51820, .running, encryptVpnJson (.amneziaWg 1 network)⟩

/-- The service is up, and nobody is in it. -/
def panel : VpnState where
  users := [⟨1, "anna", true, none⟩]
  services := [service]
  creds := []
  agent := Function.update (fun _ => .absent) 7 ⟨some [], some []⟩
  connected := true
  fates := []
  pending := []
  drawn := 10

theorem agent_has (s : Nat) (q : Peer) : ¬(panel.agent s).Has q := by
  rintro ⟨l, hl, hq⟩
  by_cases hs : s = 7
  · subst hs
    cases hl
    cases hq
  · simp only [panel, Function.update_of_ne hs] at hl
    cases hl

theorem panel_matched : Matched panel := by
  refine ⟨⟨fun _ => nofun, fun _ => nofun, fun _ => nofun, fun _ => nofun, ?_, ?_, ?_,
    fun _ => nofun, fun _ => nofun, ?_⟩, ⟨fun s q hq => absurd hq (agent_has s q), fun s => ?_, ?_⟩⟩
  · decide
  · decide
  · decide
  · decide
  · intro l hl
    by_cases hs : s = 7
    · subst hs
      cases hl
      exact ⟨rfl, fun q => ⟨nofun, fun hq => absurd hq (agent_has 7 q)⟩⟩
    · simp only [panel, Function.update_of_ne hs] at hl
      cases hl
  · intro v hv _
    rw [List.mem_singleton.mp hv]
    exact ⟨rfl, fun _ => nofun⟩

end SampleAccess

/-- The user is added, disabled and enabled again, and her peer is on the interface. -/
theorem access_matches_toggled : ∃ s : VpnRun, s.succeeded = true ∧
    (s.store.agent 7).live = some [⟨10, some "10.13.13.2"⟩] ∧ AccessMatches s.store := by
  have hrun : ∃ s : VpnRun, Reach vpnStep AccessGuard ⟨SampleAccess.panel, false⟩ s ∧
      s.succeeded = true ∧ (s.store.agent 7).live = some [⟨10, some "10.13.13.2"⟩] :=
    Reach.of_run_any (l := [.call (.addUserToService 1 7) true [],
      .call (.updateUser 1 ⟨none, some false, none⟩) true [],
      .call (.updateUser 1 ⟨none, some true, none⟩) true []]) (by decide)
  obtain ⟨s, hs, hsucceeded, hlive⟩ := hrun
  exact ⟨s, hsucceeded, hlive, access_matches SampleAccess.panel_matched hs⟩

/-- A user has credentials for a running service, and the service is up without her peer. -/
def LeftOut (x : VpnState) (userId id : Nat) : Prop :=
  x.Enabled userId ∧ (∃ v ∈ x.services, v.id = id ∧ v.status = .running) ∧
    ∃ r ∈ x.creds, r.userId = userId ∧ r.serviceId = id ∧ ∀ l ∈ (x.agent id).live, r.peer ∉ l

instance (x : VpnState) (userId id : Nat) : Decidable (LeftOut x userId id) :=
  inferInstanceAs (Decidable (_ ∧ (∃ v ∈ x.services, _) ∧ ∃ r ∈ x.creds, _ ∧ _ ∧
    ∀ l ∈ (x.agent id).live, _))

/-- **Access that differs** though each call reports success: a disabled user whose peer the agent
refused to take off, a user who was added while the service was stopped, and a peer that an addition
left behind when it failed halfway. -/
theorem access_differs :
    (∃ s : VpnRun, Reach vpnStep anyStep ⟨SampleAccess.panel, false⟩ s ∧ s.succeeded = true ∧
      (s.store.agent 7).live = some [⟨10, some "10.13.13.2"⟩] ∧ ¬s.store.Enabled 1) ∧
    (∃ s : VpnRun, Reach vpnStep anyStep ⟨SampleAccess.panel, false⟩ s ∧ s.succeeded = true ∧
      LeftOut s.store 1 7) ∧
    ∃ s : VpnRun, Reach vpnStep anyStep ⟨SampleAccess.panel, false⟩ s ∧ s.succeeded = true ∧
      (s.store.agent 7).live = some [⟨10, some "10.13.13.2"⟩] ∧ s.store.creds = [] := by
  refine ⟨?_, ?_, ?_⟩
  · exact Reach.of_run_any (l := [.call (.addUserToService 1 7) true [],
      .call (.updateUser 1 ⟨none, some false, none⟩) true [.refused]]) (by decide)
  · exact Reach.of_run_any (l := [.call (.stopService 7) true [],
      .call (.addUserToService 1 7) true [], .call (.startService 7) true []]) (by decide)
  · exact Reach.of_run_any (l := [
      .call (.addUserToService 1 7) true [.performed [] true, .performed [2] true],
      .call (.updateUser 1 ⟨none, none, some "away"⟩) true []]) (by decide)

end Meowbox.Vpn
