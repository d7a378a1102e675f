import Meowbox.Auth.Stages

/-!
# Concurrent refreshes from one device

Several calls of `refreshTokens` present one valid token from one device. Each adds a session of its
own and then removes the other sessions of the device.

`device_stays_logged_in`: when no call adds its session while another is between its new session and
the listing of duplicates, the session that was added last is in nobody's list, so its token can be
refreshed after all calls have settled. Two calls that add their sessions first and list afterwards
remove each other's (`device_logged_out`).
-/

namespace Meowbox.Auth

open Interleaved Fallible Stepping

/-! ## The device -/

/-- The calls of the device; only time passes besides. -/
def deviceService (C : AuthConfig) (H : AuthHost) (refreshToken : Nat) (ip userAgent : String) :
    Service AuthDb Nat Unit AuthInstr Answer (Except AuthError AuthResult) where
  program _ := (refreshTokens C refreshToken ip userAgent).run
  answer := answer C H
  outside elapsed := AuthDb.outside (.tick elapsed)

/-- The numbers of sessions, tokens and blacklist rows were drawn. -/
structure AllDrawn (x : AuthDb) : Prop where
  session : ∀ s ∈ x.session, s.jti < x.drawn
  issued : ∀ t ∈ x.issued, t.jti < x.drawn
  tokenBlacklist : ∀ jti, x.drawn ≤ jti → x.tokenBlacklist jti = none

/-- The device presents a valid token of the user. -/
structure ValidToken (x : AuthDb) (ip : String) (payload : RefreshToken) (user : User) : Prop where
  drawn : AllDrawn x
  issued : payload ∈ x.issued
  unexpired : x.clock / 1000 < payload.exp
  once : ∀ t ∈ x.issued, t.jti = payload.jti → t = payload
  valid : x.isTokenBlacklisted payload.jti = false
  bound : ∀ s ∈ x.session, s.jti = payload.jti → s.ip = ip
  user : x.findById payload.sub = some user

/-- A session was added whose duplicates are not yet listed. -/
def Stage.unlisted : Stage → Bool
  | added _ _ _ _ => true
  | _ => false

def AuthInstr.adds : AuthInstr → Bool
  | .addSession _ _ _ _ => true
  | _ => false

/-- A session is added only while no other call is still to list the duplicates of its own. -/
def AddsAlone (_ : AuthDb) (stages : List Stage) (n : Nat) (i : AuthInstr) : Prop :=
  i.adds = true → NoOther Stage.unlisted stages n

instance (x : AuthDb) (stages : List Stage) (n : Nat) (i : AuthInstr) :
    Decidable (AddsAlone x stages n i) :=
  inferInstanceAs (Decidable (i.adds = true → NoOther Stage.unlisted stages n))

/-- The pair a call has handed out. -/
def handedOut : Prog AuthInstr Answer (Except AuthError AuthResult) → Option TokenPair
  | .done (.ok (.tokens pair)) => some pair
  | .done (.ok (.loggedIn pair _)) => some pair
  | _ => none

/-- A call of `refreshTokens`, with no other besides, hands out a pair. -/
def Refreshable (C : AuthConfig) (H : AuthHost) (x : AuthDb) (refreshToken : Nat)
    (ip userAgent : String) : Prop :=
  ∃ pair x', (refreshTokens C refreshToken ip userAgent).run.alone
    (fun i x => some (answer C H i x)) x = some (.ok (.tokens pair), x')

/-- The device can go on with the token. -/
structure LoggedIn (C : AuthConfig) (H : AuthHost) (x : AuthDb) (refreshToken : Nat)
    (ip userAgent : String) : Prop where
  allowed : x.isTokenBlacklisted refreshToken = false
  active : ∃ s, x.getSessionMeta refreshToken = some s ∧ s.ip = ip ∧ s.userAgent = userAgent
  refreshable : Refreshable C H x refreshToken ip userAgent

/-- The protocol of the device's calls. -/
def deviceProtocol (C : AuthConfig) : Protocol Stage AuthInstr Answer :=
  (stageProtocol C).restrict fun i => i.offTokens = false

theorem device_follows {C : AuthConfig} {refreshToken : Nat} {ip userAgent : String} :
    (refreshTokens C refreshToken ip userAgent).run.Follows (deviceProtocol C) Stage.ends
      (.presenting refreshToken ip userAgent) :=
  Prog.Follows.restrict refreshTokens_follows (performs_refreshTokens rfl (fun _ => rfl)
    (fun _ => rfl) (fun _ => rfl) (fun _ => rfl) (fun _ _ => rfl) (fun _ => rfl) (fun _ _ => rfl)
    fun _ _ => rfl)

/-! ## A refresh by itself -/

section Alone

variable {C : AuthConfig} {H : AuthHost} {x : AuthDb}

/-- Whatever it is answered, the program returns. -/
def Completes {α : Type} (c : AuthCall α) : Prop := c.run.Returns fun r => ∃ a, r = .ok a

theorem completes_pure {α : Type} (a : α) : Completes (pure a : AuthCall α) := ⟨a, rfl⟩

theorem completes_ask {α : Type} {i : AuthInstr} {f : Answer i → AuthCall α}
    (hf : ∀ r, Completes (f r)) : Completes (perform i >>= f) := hf

theorem completes_bind {α β : Type} {c : AuthCall α} {f : α → AuthCall β} (hc : Completes c)
    (hf : ∀ a, Completes (f a)) : Completes (c >>= f) :=
  Prog.returns_bind hc fun r hr => by
    obtain ⟨a, rfl⟩ := hr
    exact hf a

theorem completes_blacklistAll {ttlSeconds : Nat} {reason : Reason} :
    ∀ jtis, Completes (blacklistAll ttlSeconds reason jtis)
  | [] => completes_pure ()
  | _ :: jtis => completes_ask fun _ => completes_blacklistAll jtis

theorem completes_generateTokenPair {user : User} {ip userAgent : String} {parent : Option Nat} :
    Completes (generateTokenPair C user ip userAgent parent) := by
  refine completes_ask fun jti => completes_ask fun dupes => ?_
  have hdel : Completes (deleteListed dupes) := by
    cases dupes with
    | nil => exact completes_pure ()
    | cons j js => exact completes_ask fun _ => completes_pure ()
  exact completes_bind hdel fun _ => completes_bind (completes_blacklistAll dupes) fun _ =>
    completes_pure _

/-- A statement that only reads. -/
theorem alone_read {α : Type} {i : AuthInstr} {f : Answer i → AuthCall α} {r : Answer i}
    (h : answer C H i x = (r, x)) :
    (perform i >>= f).run.alone (fun i x => some (answer C H i x)) x =
      (f r).run.alone (fun i x => some (answer C H i x)) x := by
  show (f (answer C H i x).1).run.alone _ (answer C H i x).2 = _
  rw [h]

/-- A valid token that is bound to the address can be refreshed from there. -/
theorem refreshable_of {refreshToken : Nat} {ip userAgent : String} {payload : RefreshToken}
    {user : User} (hver : x.verifyRefreshToken refreshToken = some payload)
    (hvalid : x.isTokenBlacklisted payload.jti = false)
    (hbd : (x.getSessionMeta payload.jti).any (fun s => s.ip != ip) = false)
    (huser : x.findById payload.sub = some user) :
    Refreshable C H x refreshToken ip userAgent := by
  have hrest : (do
      invalidate C payload.jti .rotation
      let tokens ← generateTokenPair C user ip userAgent (some payload.jti)
      return AuthResult.tokens tokens : AuthCall AuthResult).run.Returns
        fun r => ∃ pair, r = .ok (.tokens pair) := by
    have hpair : (generateTokenPair C user ip userAgent (some payload.jti) >>= fun tokens =>
        (pure (.tokens tokens) : AuthCall AuthResult)).run.Returns
          fun r => ∃ pair, r = .ok (.tokens pair) :=
      Prog.returns_bind completes_generateTokenPair fun r hr => by
        obtain ⟨pair, rfl⟩ := hr
        exact ⟨pair, rfl⟩
    exact fun _ _ => hpair
  obtain ⟨r, x', halone, pair, rfl⟩ := hrest.alone (answer C H) x
  refine ⟨pair, x', ?_⟩
  have hprog : (refreshTokens C refreshToken ip userAgent).run.alone
      (fun i x => some (answer C H i x)) x =
      (do
        invalidate C payload.jti .rotation
        let tokens ← generateTokenPair C user ip userAgent (some payload.jti)
        return AuthResult.tokens tokens : AuthCall AuthResult).run.alone
          (fun i x => some (answer C H i x)) x := by
    have hverify : answer C H (.verifyRefreshToken refreshToken) x = (some payload, x) :=
      congrArg (·, x) hver
    have hlis : answer C H (.isTokenBlacklisted payload.jti) x = (false, x) :=
      congrArg (·, x) hvalid
    have hfind : answer C H (.findById payload.sub) x = (some user, x) := congrArg (·, x) huser
    have hmeta : answer C H (.getSessionMeta payload.jti) x =
        (x.getSessionMeta payload.jti, x) := rfl
    rw [refreshTokens, alone_read hverify]
    dsimp only
    rw [alone_read hlis, if_neg (by simp), alone_read hmeta, if_neg (by simp [hbd]), rotate,
      alone_read hfind]
  rw [hprog, halone]

end Alone

/-! ## What a run keeps -/

namespace Stage

/-- The token a call will hand out. -/
def handing : Stage → Option Nat
  | added _ _ _ jti => some jti
  | sweeping _ _ _ handed => handed
  | _ => none

/-- The call has rotated its token, or has a session of its own. -/
def succeeding : Stage → Bool
  | rotated _ _ => true
  | issuing _ _ => true
  | added _ _ _ _ => true
  | sweeping _ _ _ _ => true
  | _ => false

/-- The call found its token on the blacklist, or was refused. -/
def behind : Stage → Bool
  | raced _ => true
  | quiet => true
  | _ => false

end Stage

/-- The stages of the device's calls; their sessions have the numbers from `first` to `drawn`. -/
def DeviceStage (payload : RefreshToken) (ip userAgent : String) (user : User)
    (first drawn : Nat) : Stage → Prop
  | .quiet => True
  | .presenting token ip' userAgent' => token = payload.jti ∧ ip' = ip ∧ userAgent' = userAgent
  | .checking p => p = ⟨payload, ip, userAgent⟩
  | .raced p => p = ⟨payload, ip, userAgent⟩
  | .unbound p => p = ⟨payload, ip, userAgent⟩
  | .admitted p _ => p = ⟨payload, ip, userAgent⟩
  | .rotating p userId => p = ⟨payload, ip, userAgent⟩ ∧ userId = user.id
  | .rotated p userId => p = ⟨payload, ip, userAgent⟩ ∧ userId = user.id
  | .issuing p userId => p = ⟨payload, ip, userAgent⟩ ∧ userId = user.id
  -- Only the newest session may still be without its list.
  | .added userId ip' userAgent' jti => userId = user.id ∧ ip' = ip ∧ userAgent' = userAgent ∧
      first ≤ jti ∧ jti + 1 = drawn
  -- The newest session is in nobody's list.
  | .sweeping reason owed _ handed => reason = .duplicate ∧ (∀ j ∈ owed, j + 1 < drawn) ∧
      ∃ jti, handed = some jti ∧ first ≤ jti ∧ jti < drawn
  | _ => False

def Succeeding (l : List Stage) : Prop := ∃ y ∈ l, y.succeeding = true

/-- The newest session stands, with its token. -/
structure Newest (C : AuthConfig) (ip userAgent : String) (user : User) (x₀ x : AuthDb)
    (l : List Stage) (jti : Nat) : Prop where
  handing : ∃ y ∈ l, y.handing = some jti
  allowed : x.tokenBlacklist jti = none
  session : ∃ expiresAt, x₀.clock + C.REFRESH_TOKEN_TTL_SECONDS * 1000 ≤ expiresAt ∧
    ⟨jti, user.id, ip, userAgent, expiresAt⟩ ∈ x.session ∧
    ∀ s ∈ x.session, s.jti = jti → s = ⟨jti, user.id, ip, userAgent, expiresAt⟩
  token : ∃ t, x.issued.head? = some t ∧ t.jti = jti ∧ t.sub = user.id ∧
    x₀.clock / 1000 + C.JWT_REFRESH_EXPIRES_IN ≤ t.exp

structure DeviceInv (C : AuthConfig) (ip userAgent : String) (payload : RefreshToken) (user : User)
    (x₀ x : AuthDb) (l : List Stage) : Prop where
  clock : x₀.clock ≤ x.clock
  users : x.users = x₀.users
  drawn : AllDrawn x
  later : x₀.drawn ≤ x.drawn
  issued : payload ∈ x.issued
  once : ∀ t ∈ x.issued, t.jti = payload.jti → t = payload
  bound : ∀ s ∈ x.session, s.jti = payload.jti → s.ip = ip
  stages : ∀ y ∈ l, DeviceStage payload ip userAgent user x₀.drawn x.drawn y
  newest : ∀ jti, x₀.drawn ≤ jti → x.drawn = jti + 1 → Newest C ip userAgent user x₀ x l jti
  /-- A call finds the token on the blacklist only because of one that rotated it. -/
  behind : ∀ y ∈ l, y.behind = true →
    Succeeding l ∨ payload.exp ≤ x.clock / 1000
  revoked : x.isTokenBlacklisted payload.jti = true → Succeeding l

namespace DeviceInv

variable {C : AuthConfig} {H : AuthHost} {ip userAgent : String} {payload : RefreshToken}
  {user : User} {x₀ x : AuthDb} {l : List Stage} {n : Nat} {y v : Stage}

/-- A call goes on, and nothing happens in the store. -/
theorem move (h : DeviceInv C ip userAgent payload user x₀ x l) (hn : l[n]? = some y)
    (hstg : DeviceStage payload ip userAgent user x₀.drawn x.drawn v)
    (hhanding : ∀ jti, y.handing = some jti → v.handing = some jti)
    (hsucc : y.succeeding = true → v.succeeding = true)
    (hbehind : v.behind = true → Succeeding l ∨ payload.exp ≤ x.clock / 1000) :
    DeviceInv C ip userAgent payload user x₀ x (l.set n v) where
  __ := h
  stages z hz := by
    rcases List.mem_or_eq_of_mem_set hz with hz | rfl
    · exact h.stages z hz
    · exact hstg
  newest jti hle hdr := by
    obtain ⟨hhands, halw, hses, htok⟩ := h.newest jti hle hdr
    exact ⟨exists_mem_set hhands hn (hhanding jti), halw, hses, htok⟩
  behind z hz hb := by
    have hkept : Succeeding l ∨ payload.exp ≤ x.clock / 1000 := by
      rcases List.mem_or_eq_of_mem_set hz with hz | rfl
      · exact h.behind z hz hb
      · exact hbehind hb
    exact hkept.imp_left fun hs => exists_mem_set hs hn hsucc
  revoked hrev := exists_mem_set (h.revoked hrev) hn hsucc

/-- A token other than the newest is put on the blacklist. -/
theorem blacklist (h : DeviceInv C ip userAgent payload user x₀ x l) {jti ttlSeconds : Nat}
    {reason : Reason} (hsucc : Succeeding l) (hjti : ∀ j, x₀.drawn ≤ j → x.drawn = j + 1 → jti ≠ j)
    (hdr : jti < x.drawn) :
    DeviceInv C ip userAgent payload user x₀ (x.blacklistToken jti ttlSeconds reason) l where
  __ := h
  drawn := by
    refine ⟨h.drawn.session, h.drawn.issued, fun j hj => ?_⟩
    have hj : x.drawn ≤ j := hj
    rw [AuthDb.blacklistToken]
    show (if j = jti then _ else x.tokenBlacklist j) = none
    rw [if_neg (by omega)]
    exact h.drawn.tokenBlacklist j hj
  newest j hle hj := by
    obtain ⟨hhands, halw, hses, htok⟩ := h.newest j hle hj
    refine ⟨hhands, ?_, hses, htok⟩
    show (if j = jti then _ else x.tokenBlacklist j) = none
    rw [if_neg fun heq => hjti j hle hj heq.symm]
    exact halw
  behind _ _ _ := .inl hsucc
  revoked _ := hsucc

/-- Sessions other than the newest are removed. -/
theorem delete (h : DeviceInv C ip userAgent payload user x₀ x l) {jtis : List Nat}
    (hjtis : ∀ j, x₀.drawn ≤ j → x.drawn = j + 1 → j ∉ jtis) :
    DeviceInv C ip userAgent payload user x₀ (x.deleteSessions jtis) l where
  __ := h
  drawn := ⟨fun s hs => h.drawn.session s (List.mem_filter.mp hs).1, h.drawn.issued,
    h.drawn.tokenBlacklist⟩
  bound s hs := h.bound s (List.mem_filter.mp hs).1
  newest j hle hj := by
    obtain ⟨hhands, halw, ⟨expiresAt, hexp, hmem, honce⟩, htok⟩ := h.newest j hle hj
    refine ⟨hhands, halw, ⟨expiresAt, hexp, ?_, ?_⟩, htok⟩
    · exact List.mem_filter.mpr ⟨hmem, by simpa using hjtis j hle hj⟩
    · exact fun s hs => honce s (List.mem_filter.mp hs).1

/-- A session is added, and no other call is still to list its duplicates. -/
theorem add (h : DeviceInv C ip userAgent payload user x₀ x l)
    (hn : l[n]? = some (.issuing ⟨payload, ip, userAgent⟩ user.id)) {parent : Option Nat}
    (hg : ∀ m, m ≠ n → ∀ z, l[m]? = some z → z.unlisted = false) :
    DeviceInv C ip userAgent payload user x₀ (x.addSession C user.id ip userAgent parent).2
      (l.set n (.added user.id ip userAgent x.drawn)) := by
  have hpay := h.drawn.issued payload h.issued
  have hset : (l.set n (.added user.id ip userAgent x.drawn))[n]? =
      some (.added user.id ip userAgent x.drawn) := by
    rw [List.getElem?_set_self', hn]
    rfl
  have hsucc : Succeeding (l.set n (.added user.id ip userAgent x.drawn)) :=
    ⟨_, List.mem_of_getElem? hset, rfl⟩
  refine ⟨h.clock, h.users, ⟨fun s hs => ?_, fun t ht => ?_, fun j hj => ?_⟩, ?_, ?_, ?_, ?_, ?_,
    ?_, fun _ _ _ => .inl hsucc, fun _ => hsucc⟩
  · show s.jti < x.drawn + 1
    rcases List.mem_snoc.mp hs with hs | rfl
    · exact Nat.lt_succ_of_lt (h.drawn.session s hs)
    · exact Nat.lt_succ_self _
  · show t.jti < x.drawn + 1
    rcases List.mem_cons.mp ht with rfl | ht
    · exact Nat.lt_succ_self _
    · exact Nat.lt_succ_of_lt (h.drawn.issued t ht)
  · have hj : x.drawn + 1 ≤ j := hj
    exact h.drawn.tokenBlacklist j (by omega)
  · exact Nat.le_succ_of_le h.later
  · exact List.mem_cons_of_mem _ h.issued
  · intro t ht hjti
    rcases List.mem_cons.mp ht with rfl | ht
    · exact absurd hjti (Nat.ne_of_gt hpay)
    · exact h.once t ht hjti
  · intro s hs hjti
    rcases List.mem_snoc.mp hs with hs | hs
    · exact h.bound s hs hjti
    · rw [hs]
  · intro z hz
    obtain ⟨m, hm⟩ := List.mem_iff_getElem?.mp hz
    rcases getElem?_set_cases hm with ⟨-, rfl⟩ | ⟨hmn, hm⟩
    · exact ⟨rfl, rfl, rfl, h.later, rfl⟩
    · have hstg := h.stages z (List.mem_of_getElem? hm)
      have hlis := hg m hmn z hm
      show DeviceStage payload ip userAgent user x₀.drawn (x.drawn + 1) z
      cases z with
      | added u a b j => cases hlis
      | sweeping reason owed deleted handed =>
        obtain ⟨hreason, howed, jti, hhanded, hfirst, hlt⟩ := hstg
        exact ⟨hreason, fun j hj => Nat.lt_succ_of_lt (howed j hj), jti, hhanded, hfirst,
          Nat.lt_succ_of_lt hlt⟩
      | _ => exact hstg
  · intro j hle hj
    have hj : x.drawn = j := Nat.succ.inj hj
    subst hj
    refine ⟨⟨_, List.mem_of_getElem? hset, rfl⟩, h.drawn.tokenBlacklist _ (Nat.le_refl _),
      ⟨_, Nat.add_le_add_right h.clock _, List.mem_append_right _ (List.mem_singleton.mpr rfl), ?_⟩,
      ⟨_, rfl, rfl, rfl, Nat.add_le_add_right (Nat.div_le_div_right h.clock) _⟩⟩
    intro s hs hjti
    rcases List.mem_snoc.mp hs with hs | hs
    · exact absurd hjti (Nat.ne_of_lt (h.drawn.session s hs))
    · exact hs

theorem tick (h : DeviceInv C ip userAgent payload user x₀ x l) (elapsed : Nat) :
    DeviceInv C ip userAgent payload user x₀ (AuthDb.outside (.tick elapsed) x) l where
  clock := Nat.le_trans h.clock (Nat.le_add_right _ _)
  __ := h
  drawn := ⟨h.drawn.session, h.drawn.issued, h.drawn.tokenBlacklist⟩
  newest j hle hj := by
    obtain ⟨hhands, halw, hses, htok⟩ := h.newest j hle hj
    exact ⟨hhands, halw, hses, htok⟩
  behind y hy hb := (h.behind y hy hb).imp_right fun hexpired =>
    Nat.le_trans hexpired (Nat.div_le_div_right (Nat.le_add_right _ _))
  revoked hrev := by
    refine h.revoked ?_
    obtain ⟨row, hrow, hlive⟩ := (Option.any_eq_true _ _).mp hrev
    refine (Option.any_eq_true _ _).mpr ⟨row, hrow, ?_⟩
    have hlive : x.clock + elapsed < row.expiresAt := of_decide_eq_true hlive
    exact decide_eq_true (by omega)

theorem call (h : DeviceInv C ip userAgent payload user x₀ x l) :
    DeviceInv C ip userAgent payload user x₀ x (l ++ [.presenting payload.jti ip userAgent]) := by
  have hold : ∀ {P : Stage → Prop}, (∃ y ∈ l, P y) →
      ∃ y ∈ l ++ [.presenting payload.jti ip userAgent], P y :=
    fun ⟨y, hy, hP⟩ => ⟨y, List.mem_append_left _ hy, hP⟩
  refine ⟨h.clock, h.users, h.drawn, h.later, h.issued, h.once, h.bound, ?_, ?_, ?_,
    fun hr => hold (h.revoked hr)⟩
  · intro y hy
    rcases List.mem_snoc.mp hy with hy | rfl
    · exact h.stages y hy
    · exact ⟨rfl, rfl, rfl⟩
  · intro j hle hj
    obtain ⟨hhands, halw, hses, htok⟩ := h.newest j hle hj
    exact ⟨hold hhands, halw, hses, htok⟩
  · intro y hy hb
    rcases List.mem_snoc.mp hy with hy | rfl
    · exact (h.behind y hy hb).imp_left hold
    · cases hb

theorem ask (h : DeviceInv C ip userAgent payload user x₀ x l)
    (hpay : payload.jti < x₀.drawn) (huser : x₀.findById payload.sub = some user)
    (hn : l[n]? = some y) {i : AuthInstr} (halw : (deviceProtocol C).allows y i)
    (hg : AddsAlone x l n i) :
    DeviceInv C ip userAgent payload user x₀ (answer C H i x).2
      (l.set n ((deviceProtocol C).after y i (answer C H i x).1)) := by
  obtain ⟨halw, hoff⟩ := halw
  have hstg := h.stages y (List.mem_of_getElem? hn)
  show DeviceInv C ip userAgent payload user x₀ (answer C H i x).2
    (l.set n (stageAfter y i (answer C H i x).1))
  cases i with
  | verifyRefreshToken token =>
    rcases halw with ⟨a, b, rfl⟩ | rfl
    · obtain ⟨rfl, rfl, rfl⟩ := hstg
      show DeviceInv C _ _ payload user x₀ x _
      cases hver : x.verifyRefreshToken payload.jti with
      | none =>
        have haft : stageAfter (.presenting payload.jti a b) (.verifyRefreshToken payload.jti)
            (answer C H (.verifyRefreshToken payload.jti) x).1 = .quiet := by
          show stageAfter (.presenting payload.jti a b) (.verifyRefreshToken payload.jti)
            (x.verifyRefreshToken payload.jti) = _
          rw [hver]
          rfl
        rw [haft]
        refine h.move hn trivial (fun j hj => by cases hj) (fun hs => by cases hs) fun _ => .inr ?_
        by_contra hlt
        have hnone := List.find?_eq_none.mp hver payload h.issued
        simp [not_le.mp hlt] at hnone
      | some t =>
        have haft : stageAfter (.presenting payload.jti a b) (.verifyRefreshToken payload.jti)
            (answer C H (.verifyRefreshToken payload.jti) x).1 = .checking ⟨t, a, b⟩ := by
          show stageAfter (.presenting payload.jti a b) (.verifyRefreshToken payload.jti)
            (x.verifyRefreshToken payload.jti) = _
          rw [hver]
          rfl
        have hfnd := List.find?_some hver
        have hjti : t.jti = payload.jti := by
          simp only [Bool.and_eq_true, beq_iff_eq] at hfnd
          exact hfnd.1
        have ht := h.once t (List.mem_of_find?_eq_some hver) hjti
        rw [haft, ht]
        exact h.move hn rfl (fun j hj => by cases hj) (fun hs => by cases hs) fun hb => by cases hb
    · cases hstg
  | isTokenBlacklisted jti =>
    obtain ⟨p, rfl, rfl⟩ := halw
    cases hstg
    show DeviceInv C _ _ payload user x₀ x (l.set n (if x.isTokenBlacklisted payload.jti then _ else _))
    by_cases hlis : x.isTokenBlacklisted payload.jti = true
    · rw [if_pos hlis]
      exact h.move hn rfl (fun j hj => by cases hj) (fun hs => by cases hs) fun _ =>
        .inl (h.revoked hlis)
    · rw [if_neg hlis]
      exact h.move hn rfl (fun j hj => by cases hj) (fun hs => by cases hs) fun hb => by cases hb
  | wasBlacklistedRecently jti windowMs =>
    obtain ⟨p, rfl, rfl, rfl⟩ := halw
    cases hstg
    have hbehind := h.behind _ (List.mem_of_getElem? hn) rfl
    show DeviceInv C _ _ payload user x₀ x
      (l.set n (if x.wasBlacklistedRecently payload.jti C.REFRESH_RACE_GRACE_MS then _ else _))
    by_cases hrec : x.wasBlacklistedRecently payload.jti C.REFRESH_RACE_GRACE_MS = true
    · rw [if_pos hrec]
      exact h.move hn rfl (fun j hj => by cases hj) (fun hs => by cases hs) fun hb => by cases hb
    · rw [if_neg hrec]
      exact h.move hn trivial (fun j hj => by cases hj) (fun hs => by cases hs) fun _ => hbehind
  | getSessionMeta jti =>
    obtain ⟨p, rfl, rfl⟩ := halw
    cases hstg
    have hbd : ¬(x.getSessionMeta payload.jti).any (fun s => s.ip != ip) = true := by
      intro hany
      obtain ⟨s, hs, hne⟩ := (Option.any_eq_true _ _).mp hany
      have hfnd := (Option.filter_eq_some_iff.mp hs).1
      have hjti : s.jti = payload.jti := by simpa using List.find?_some hfnd
      have hip := h.bound s (List.mem_of_find?_eq_some hfnd) hjti
      simp [hip] at hne
    show DeviceInv C _ _ payload user x₀ x
      (l.set n (if (x.getSessionMeta payload.jti).any (fun s => s.ip != ip) then _ else _))
    rw [if_neg hbd]
    exact h.move hn rfl (fun j hj => by cases hj) (fun hs => by cases hs) fun hb => by cases hb
  | findById id =>
    by_cases hadm : ∃ p rotates, y = .admitted p rotates
    · obtain ⟨p, rotates, rfl⟩ := hadm
      have hid : id = p.token.sub := halw p rotates rfl
      cases hstg
      subst hid
      have hfind : x.findById payload.sub = some user := by
        rw [AuthDb.findById, h.users]
        exact huser
      show DeviceInv C _ _ payload user x₀ x
        (l.set n (stageAfter (.admitted ⟨payload, ip, userAgent⟩ rotates) (.findById payload.sub)
          (x.findById payload.sub)))
      rw [hfind]
      cases rotates <;>
        exact h.move hn ⟨rfl, rfl⟩ (fun j hj => by cases hj) (fun hs => by cases hs) fun hb => by
          cases hb
    · have hkept := (stageProtocol_findById (C := C) id
        fun p rotates hy => hadm ⟨p, rotates, hy⟩).2 (answer C H (.findById id) x).1
      have hkept : stageAfter y (.findById id) (answer C H (.findById id) x).1 = y := hkept
      obtain ⟨hlt, hget⟩ := List.getElem?_eq_some_iff.mp hn
      rw [hkept, ← hget, List.set_getElem_self]
      exact h
  | blacklistToken jti ttlSeconds reason =>
    obtain ⟨-, ⟨p, userId, rfl, rfl, rfl⟩ | rfl | ⟨owed, handed, rfl⟩⟩ := halw
    · obtain ⟨rfl, rfl⟩ := hstg
      have hmoved := h.move hn (v := .rotated ⟨payload, ip, userAgent⟩ user.id) ⟨rfl, rfl⟩
        (fun j hj => by cases hj) (fun _ => rfl) fun hb => by cases hb
      have hset : (l.set n (.rotated ⟨payload, ip, userAgent⟩ user.id))[n]? =
          some (.rotated ⟨payload, ip, userAgent⟩ user.id) := by
        rw [List.getElem?_set_self', hn]
        rfl
      exact hmoved.blacklist ⟨_, List.mem_of_getElem? hset, rfl⟩
        (fun j hj _ => Nat.ne_of_lt (Nat.lt_of_lt_of_le hpay hj))
        (Nat.lt_of_lt_of_le hpay h.later)
    · cases hstg
    · obtain ⟨hreason, howed, hhanded⟩ := hstg
      have hlt := howed jti List.mem_cons_self
      have hmoved := h.move hn (v := .sweeping reason owed true handed)
        ⟨hreason, fun j hj => howed j (List.mem_cons_of_mem _ hj), hhanded⟩ (fun j hj => hj)
        (fun _ => rfl) fun hb => by cases hb
      have hset : (l.set n (.sweeping reason owed true handed))[n]? =
          some (.sweeping reason owed true handed) := by
        rw [List.getElem?_set_self', hn]
        rfl
      exact hmoved.blacklist ⟨_, List.mem_of_getElem? hset, rfl⟩ (fun j _ hj => by omega)
        (by omega)
  | deleteSessions jtis =>
    rcases halw with ⟨p, userId, rfl, rfl⟩ | ⟨jti, rfl, rfl⟩ | ⟨reason, handed, rfl⟩
    · obtain ⟨rfl, rfl⟩ := hstg
      have hmoved := h.move hn (v := .issuing ⟨payload, ip, userAgent⟩ user.id) ⟨rfl, rfl⟩
        (fun j hj => by cases hj) (fun _ => rfl) fun hb => by cases hb
      refine hmoved.delete fun j hj _ hin => ?_
      have hj' : j = payload.jti := List.mem_singleton.mp hin
      omega
    · cases hstg
    · have hmoved := h.move hn (v := .sweeping reason jtis true handed) hstg (fun j hj => hj)
        (fun _ => rfl) fun hb => by cases hb
      refine hmoved.delete fun j _ hj hin => ?_
      have hlt := hstg.2.1 j hin
      omega
  | addSession userId a b parent =>
    rcases halw with ⟨rfl, -⟩ | ⟨p, rfl, rfl, rfl, -⟩
    · cases hstg
    · obtain ⟨rfl, rfl⟩ := hstg
      exact h.add hn fun m hmn z hm => (hg rfl).at_other hmn hm
  | findDuplicates userId a b jti =>
    have halw : y = .added userId a b jti := halw
    subst halw
    obtain ⟨rfl, rfl, rfl, hfirst, hjti⟩ := hstg
    refine h.move hn ⟨rfl, fun j hj => ?_, jti, rfl, hfirst, by omega⟩ (fun j hj => hj)
      (fun _ => rfl) fun hb => by cases hb
    obtain ⟨s, hs, rfl⟩ := List.mem_map.mp hj
    obtain ⟨hmem, hcond⟩ := List.mem_filter.mp hs
    have hdr := h.drawn.session s hmem
    have hne : s.jti ≠ jti := by
      simp only [Bool.and_eq_true, bne_iff_ne] at hcond
      exact hcond.2
    omega
  | findUserSessions userId exceptJti =>
    have halw : y = .listing userId exceptJti := halw
    subst halw
    cases hstg
  | _ => cases hoff

end DeviceInv

/-! ## The device stays logged in -/

section Device

variable {C : AuthConfig} {H : AuthHost} {ip userAgent : String} {payload : RefreshToken}
  {user : User} {x₀ x : AuthDb} {l : List Stage}

abbrev DeviceRun := Phased AuthDb Stage AuthInstr Answer (Except AuthError AuthResult)

/-- The runs of the device's calls. -/
def deviceStep (C : AuthConfig) (H : AuthHost) (refreshToken : Nat) (ip userAgent : String) :
    DeviceRun → Event Nat Unit → Option DeviceRun :=
  Phased.step (deviceService C H refreshToken ip userAgent) (deviceProtocol C)
    fun _ => .presenting refreshToken ip userAgent

/-- Every call has returned or thrown. -/
def Settled (s : DeviceRun) : Prop := ∀ c ∈ s.calls, c.2.next? = none

/-- The presented token, and what was handed out from the state `x₀` on, has not expired. -/
structure BeforeExpiry (C : AuthConfig) (payload : RefreshToken) (x₀ x : AuthDb) : Prop where
  presented : x.clock / 1000 < payload.exp
  session : x.clock < x₀.clock + C.REFRESH_TOKEN_TTL_SECONDS * 1000
  token : x.clock / 1000 < x₀.clock / 1000 + C.JWT_REFRESH_EXPIRES_IN

theorem deviceInv_init (hvalid : ValidToken x₀ ip payload user) :
    DeviceInv C ip userAgent payload user x₀ x₀ [] where
  clock := Nat.le_refl _
  users := rfl
  __ := hvalid
  later := Nat.le_refl _
  stages y hy := absurd hy (by simp)
  newest j hle hj := absurd hle (by omega)
  behind y hy := absurd hy (by simp)
  revoked hr := absurd hr (by rw [hvalid.valid]; simp)

/-- The newest session keeps its device logged in. -/
theorem Newest.loggedIn {jti : Nat} (h : Newest C ip userAgent user x₀ x l jti)
    (huser : x.findById user.id = some user) (hexpiry : BeforeExpiry C payload x₀ x) :
    LoggedIn C H x jti ip userAgent := by
  obtain ⟨-, hlis, ⟨expiresAt, hexp, hmem, honce⟩, t, hhead, rfl, hsub, htok⟩ := h
  have hvalid : x.isTokenBlacklisted t.jti = false := by
    rw [AuthDb.isTokenBlacklisted, hlis]
    rfl
  have hmeta : x.getSessionMeta t.jti =
      some ⟨t.jti, user.id, ip, userAgent, expiresAt⟩ := by
    have hsome : (x.session.find? fun s => s.jti == t.jti).isSome = true :=
      List.find?_isSome.mpr ⟨_, hmem, by simp⟩
    obtain ⟨s, hs⟩ := Option.isSome_iff_exists.mp hsome
    have hs' := honce s (List.mem_of_find?_eq_some hs) (by simpa using List.find?_some hs)
    have hlive := hexpiry.session
    rw [AuthDb.getSessionMeta, hs, hs', Option.filter_some,
      if_pos (decide_eq_true (by dsimp only; omega))]
  have hver : x.verifyRefreshToken t.jti = some t := by
    obtain ⟨rest, hiss⟩ : ∃ rest, x.issued = t :: rest := by
      cases hiss : x.issued with
      | nil =>
        rw [hiss] at hhead
        cases hhead
      | cons a rest =>
        rw [hiss] at hhead
        cases hhead
        exact ⟨rest, rfl⟩
    have hunexpired := hexpiry.token
    rw [AuthDb.verifyRefreshToken, hiss, List.find?_cons_of_pos]
    simp only [beq_self_eq_true, Bool.true_and, decide_eq_true_eq]
    omega
  refine ⟨hvalid, ⟨_, hmeta, rfl, rfl⟩, refreshable_of hver hvalid ?_ (hsub ▸ huser)⟩
  rw [hmeta]
  simp

theorem succeeding_of_handing {y : Stage} {jti : Nat} (h : y.handing = some jti) :
    y.succeeding = true := by
  cases y <;> first | rfl | cases h

/-- How a call of the device has settled. -/
theorem settled_stage {s : DeviceRun} {y : Stage}
    {p : Prog AuthInstr Answer (Except AuthError AuthResult)} (hc : (y, p) ∈ s.calls)
    (hdone : p.next? = none) (hends : p.Follows (deviceProtocol C) Stage.ends y)
    (hstg : DeviceStage payload ip userAgent user x₀.drawn x.drawn y) :
    y = .quiet ∨ ∃ jti, x₀.drawn ≤ jti ∧ jti < x.drawn ∧ y.handing = some jti ∧
      ∃ c ∈ s.calls, ∃ pair, handedOut c.2 = some pair ∧ pair.jti = jti := by
  cases p with
  | ask i next => cases hdone
  | done r =>
    have hends : y.ends r := hends
    cases r with
    | error e =>
      rcases hends with rfl | ⟨a, b, rfl⟩
      · exact .inl rfl
      · cases hstg
    | ok result =>
      cases result with
      | tokens pair =>
        obtain ⟨deleted, rfl⟩ := hends
        obtain ⟨-, -, jti, hjti, hfirst, hlt⟩ := hstg
        exact .inr ⟨jti, hfirst, hlt, hjti, _, hc, pair, rfl, Option.some.inj hjti⟩
      | loggedIn pair user =>
        obtain ⟨deleted, rfl⟩ := hends
        obtain ⟨-, -, jti, hjti, hfirst, hlt⟩ := hstg
        exact .inr ⟨jti, hfirst, hlt, hjti, _, hc, pair, rfl, Option.some.inj hjti⟩
      | revoked count =>
        obtain ⟨deleted, rfl⟩ := hends
        cases hstg.1
      | done => exact .inl hends
      | totp secret url => exact .inl hends

/-- **Concurrent refreshes leave the device logged in**, when each call lists the duplicates of its
session before another adds one, and the calls settle before the tokens expire. -/
theorem device_stays_logged_in {s : DeviceRun} (hvalid : ValidToken x₀ ip payload user)
    (hs : Reach (deviceStep C H payload.jti ip userAgent) (Phased.Within AddsAlone) ⟨x₀, []⟩ s)
    (hcalls : s.calls ≠ []) (hsettled : Settled s) (hexpiry : BeforeExpiry C payload x₀ s.store) :
    ∃ c ∈ s.calls, ∃ pair, handedOut c.2 = some pair ∧
      LoggedIn C H s.store pair.jti ip userAgent := by
  have hpay : payload.jti < x₀.drawn := hvalid.drawn.issued payload hvalid.issued
  obtain ⟨h, hfol⟩ := Phased.invariant (I := DeviceInv C ip userAgent payload user x₀)
    (fun _ => device_follows) (deviceInv_init hvalid) (fun elapsed x l h => h.tick elapsed)
    (fun _ x l h => h.call)
    (fun x l k y i h hy halw hg => h.ask (H := H) hpay hvalid.user hy halw hg) hs
  -- A call that has settled was refused, or has swept the duplicates of its session.
  have hend : ∀ y ∈ s.phases, y = .quiet ∨ ∃ jti, x₀.drawn ≤ jti ∧ jti < s.store.drawn ∧
      y.handing = some jti ∧ ∃ c ∈ s.calls, ∃ pair, handedOut c.2 = some pair ∧ pair.jti = jti := by
    intro y hy
    obtain ⟨⟨v, p⟩, hc, rfl⟩ := List.mem_map.mp hy
    exact settled_stage hc (hsettled _ hc) (hfol _ hc) (h.stages v hy)
  have hsucceeding : Succeeding s.phases := by
    obtain ⟨c, hc⟩ := List.exists_mem_of_ne_nil s.calls hcalls
    have hy : c.1 ∈ s.phases := List.mem_map_of_mem hc
    rcases hend c.1 hy with hqt | ⟨jti, -, -, hhanding, -⟩
    · rcases h.behind c.1 hy (by rw [hqt]; rfl) with hsucc | hexpired
      · exact hsucc
      · exact absurd hexpiry.presented (not_lt.mpr hexpired)
    · exact ⟨c.1, hy, succeeding_of_handing hhanding⟩
  obtain ⟨y, hy, hsucc⟩ := hsucceeding
  obtain ⟨first, hfirst, hlt, -⟩ : ∃ jti, x₀.drawn ≤ jti ∧ jti < s.store.drawn ∧ True := by
    rcases hend y hy with rfl | ⟨jti, hle, hlt, -⟩
    · cases hsucc
    · exact ⟨jti, hle, hlt, trivial⟩
  have hnew := h.newest (s.store.drawn - 1) (by omega) (by omega)
  obtain ⟨z, hz, hhanding⟩ := hnew.handing
  rcases hend z hz with rfl | ⟨jti, -, -, hjti, c, hc, pair, hpair, rfl⟩
  · cases hhanding
  · rw [hhanding] at hjti
    refine ⟨c, hc, pair, hpair, ?_⟩
    rw [← Option.some.inj hjti]
    refine hnew.loggedIn ?_ hexpiry
    have hid : user.id = payload.sub := by
      have hfnd := List.find?_some hvalid.user
      simp only [Bool.and_eq_true, beq_iff_eq] at hfnd
      exact hfnd.1
    rw [hid, AuthDb.findById, h.users]
    exact hvalid.user

end Device

/-! ## Two refreshes -/

def alice : User := { id := "user-1", username := "alice", passwordHash := "hash" }

/-- What `alice` holds after a login at one second. -/
def aliceToken : RefreshToken := ⟨0, "user-1", 604801⟩

def aliceLoggedIn : AuthDb :=
  { AuthDb.init with
    clock := 1000
    users := [alice]
    session := [⟨0, "user-1", "203.0.113.7", "browser", 604801000⟩]
    issued := [aliceToken]
    drawn := 1 }

theorem alice_valid : ValidToken aliceLoggedIn "203.0.113.7" aliceToken alice where
  drawn := ⟨by decide, by decide, fun _ _ => rfl⟩
  issued := List.mem_singleton.mpr rfl
  unexpired := by decide
  once := fun t ht _ => List.mem_singleton.mp ht
  valid := rfl
  bound := by decide
  user := rfl

/-- The steps of the tabs of `alice`. -/
abbrev aliceStep : DeviceRun → Event Nat Unit → Option DeviceRun :=
  deviceStep AuthConfig.standard ⟨fun _ _ => true, fun _ _ => []⟩ 0 "203.0.113.7" "browser"

/-- The second call presents the token that the first has rotated. -/
def refreshTwice : List (Event Nat Unit) :=
  [Event.call (), .call ()] ++ List.replicate 8 (Event.advance 0) ++
    List.replicate 8 (Event.advance 1)

theorem device_stays_logged_in_two : ∃ s : DeviceRun, s.calls.length = 2 ∧
    ∃ c ∈ s.calls, ∃ pair, handedOut c.2 = some pair ∧
      LoggedIn AuthConfig.standard ⟨fun _ _ => true, fun _ _ => []⟩ s.store pair.jti
        "203.0.113.7" "browser" := by
  have hrun : ∃ s : DeviceRun, Reach aliceStep (Phased.Within AddsAlone) ⟨aliceLoggedIn, []⟩ s ∧
      s.calls.length = 2 ∧ (∀ c ∈ s.calls, c.2.next? = none) ∧ s.store.clock = 1000 :=
    Reach.of_run_any (l := refreshTwice) (by decide)
  obtain ⟨s, hs, htwo, hsettled, hclk⟩ := hrun
  refine ⟨s, htwo, device_stays_logged_in alice_valid hs ?_ hsettled ⟨?_, ?_, ?_⟩⟩
  · rintro hnil
    rw [hnil] at htwo
    cases htwo
  all_goals
    rw [hclk]
    decide

/-- Both calls add their sessions before one of them lists the duplicates. -/
def refreshTogether : List (Event Nat Unit) :=
  [Event.call (), .call ()] ++ List.replicate 7 (Event.advance 0) ++
    List.replicate 5 (Event.advance 1) ++ [Event.advance 0, .advance 1] ++
    List.replicate 2 (Event.advance 0) ++ List.replicate 2 (Event.advance 1)

/-- **Two refreshes log the device out**: every token they hand out is on the blacklist, and no
session is left. -/
theorem device_logged_out : ∃ s : DeviceRun, Reach aliceStep anyStep ⟨aliceLoggedIn, []⟩ s ∧
    s.calls.length = 2 ∧ Settled s ∧ s.store.session = [] ∧
    ∀ c ∈ s.calls, ∃ pair, handedOut c.2 = some pair ∧
      s.store.isTokenBlacklisted pair.jti = true := by
  have hrun : ∃ s : DeviceRun, Reach aliceStep anyStep ⟨aliceLoggedIn, []⟩ s ∧
      s.calls.length = 2 ∧ (∀ c ∈ s.calls, c.2.next? = none) ∧ s.store.session = [] ∧
      ∀ c ∈ s.calls, (handedOut c.2).any (fun pair =>
        s.store.isTokenBlacklisted pair.jti) = true :=
    Reach.of_run_any (l := refreshTogether) (by decide)
  obtain ⟨s, hs, htwo, hsettled, hses, hlis⟩ := hrun
  exact ⟨s, hs, htwo, hsettled, hses, fun c hc => (Option.any_eq_true _ _).mp (hlis c hc)⟩

end Meowbox.Auth
