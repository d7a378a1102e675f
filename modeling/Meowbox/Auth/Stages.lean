import Meowbox.Auth.Service
import Meowbox.Lib.Phases

/-!
# Where a call stands with its token

The stages of the methods that present, open and invalidate refresh tokens, as a protocol: which
statements on tokens and sessions a method performs in which order, and what it has read when it
does. The properties of refresh tokens are about runs of these stages.

* `Stage.owed`: the tokens whose sessions a call removes and which it has not yet put on the
  blacklist.
* `request_stages`: every method keeps to the protocol.
-/

namespace Meowbox.Auth

open Interleaved Fallible

/-- A refresh token behind its signature, and who presents it. -/
structure Presented where
  token : RefreshToken
  ip : String
  userAgent : String
deriving DecidableEq

inductive Stage
  /-- Nothing is left to do with tokens. -/
  | quiet
  /-- A login, which may open a session. -/
  | entering (ip userAgent : String)
  /-- A refresh that has verified nothing yet. -/
  | presenting (refreshToken : Nat) (ip userAgent : String)
  | checking (p : Presented)
  /-- The token is on the blacklist. -/
  | raced (p : Presented)
  /-- The token is not on the blacklist; its address is to be checked. -/
  | unbound (p : Presented)
  | admitted (p : Presented) (rotates : Bool)
  | rotating (p : Presented) (userId : String)
  | rotated (p : Presented) (userId : String)
  | issuing (p : Presented) (userId : String)
  /-- A new session, whose duplicates are to be listed. -/
  | added (userId ip userAgent : String) (jti : Nat)
  /-- A logout that has verified nothing yet. -/
  | leaving (refreshToken : Nat)
  | expelling (jti : Nat) (reason : Reason)
  | removing (jti : Nat)
  | listing (userId : String) (exceptJti : Option Nat)
  /-- Listed sessions are removed, and then their tokens put on the blacklist; a new token may be
  handed out afterwards. -/
  | sweeping (reason : Reason) (owed : List Nat) (deleted : Bool) (handed : Option Nat)
deriving DecidableEq

namespace Stage

/-- The token of a refresh between its check and the new session. -/
def inFlight : Stage → Option Presented
  | unbound p => some p
  | admitted p _ => some p
  | rotating p _ => some p
  | rotated p _ => some p
  | issuing p _ => some p
  | _ => none

/-- The token of a refresh behind its verification. -/
def presented : Stage → Option Presented
  | checking p => some p
  | raced p => some p
  | y => y.inFlight

/-- The tokens that are still to be put on the blacklist. -/
def owed : Stage → List Nat
  | sweeping _ jtis _ _ => jtis
  | _ => []

end Stage

def stageAllows (C : AuthConfig) (y : Stage) : AuthInstr → Prop
  | .verifyRefreshToken token => (∃ ip userAgent, y = .presenting token ip userAgent) ∨
      y = .leaving token
  | .isTokenBlacklisted jti => ∃ p, y = .checking p ∧ jti = p.token.jti
  | .wasBlacklistedRecently jti windowMs => ∃ p, y = .raced p ∧ jti = p.token.jti ∧
      windowMs = C.REFRESH_RACE_GRACE_MS
  | .getSessionMeta jti => ∃ p, y = .unbound p ∧ jti = p.token.jti
  | .findById id => ∀ p rotates, y = .admitted p rotates → id = p.token.sub
  | .blacklistToken jti ttlSeconds reason => ttlSeconds = C.REFRESH_TOKEN_TTL_SECONDS ∧
      ((∃ p userId, y = .rotating p userId ∧ jti = p.token.jti ∧ reason = .rotation) ∨
        y = .expelling jti reason ∨ ∃ owed handed, y = .sweeping reason (jti :: owed) true handed)
  | .deleteSessions jtis => (∃ p userId, y = .rotated p userId ∧ jtis = [p.token.jti]) ∨
      (∃ jti, y = .removing jti ∧ jtis = [jti]) ∨
      ∃ reason handed, y = .sweeping reason jtis false handed
  | .addSession userId ip userAgent parent => (y = .entering ip userAgent ∧ parent = none) ∨
      ∃ p, y = .issuing p userId ∧ ip = p.ip ∧ userAgent = p.userAgent ∧
        parent = some p.token.jti
  | .findDuplicates userId ip userAgent jti => y = .added userId ip userAgent jti
  | .findUserSessions userId exceptJti => y = .listing userId exceptJti
  | _ => True

def stageAfter (y : Stage) : (i : AuthInstr) → Answer i → Stage
  | .verifyRefreshToken _, r =>
    match y, r with
    | .presenting _ ip userAgent, some token => .checking ⟨token, ip, userAgent⟩
    | .leaving _, some token => .expelling token.jti .logout
    | _, _ => .quiet
  | .isTokenBlacklisted _, r =>
    match y with
    | .checking p => if r then .raced p else .unbound p
    | _ => y
  | .wasBlacklistedRecently _ _, r =>
    match y with
    | .raced p => if r then .admitted p false else .quiet
    | _ => y
  | .getSessionMeta _, r =>
    match y with
    | .unbound p =>
      if r.any fun s => s.ip != p.ip then .expelling p.token.jti .ipMismatch else .admitted p true
    | _ => y
  | .findById _, r =>
    match y, r with
    | .admitted p true, some user => .rotating p user.id
    | .admitted p false, some user => .issuing p user.id
    | .admitted _ _, none => .quiet
    | _, _ => y
  | .blacklistToken _ _ _, _ =>
    match y with
    | .rotating p userId => .rotated p userId
    | .expelling jti _ => .removing jti
    | .sweeping reason owed deleted handed => .sweeping reason owed.tail deleted handed
    | _ => y
  | .deleteSessions _, _ =>
    match y with
    | .rotated p userId => .issuing p userId
    | .removing _ => .quiet
    | .sweeping reason owed _ handed => .sweeping reason owed true handed
    | _ => y
  | .addSession userId ip userAgent _, jti => .added userId ip userAgent jti
  | .findDuplicates _ _ _ jti, dupes => .sweeping .duplicate dupes false (some jti)
  | .findUserSessions _ _, revoked => .sweeping .revocation revoked false none
  | _, _ => y

def stageProtocol (C : AuthConfig) : Protocol Stage AuthInstr Answer where
  allows := stageAllows C
  after := stageAfter

/-- No other call is at such a stage. -/
def NoOther (f : Stage → Bool) (l : List Stage) (n : Nat) : Prop :=
  ∀ m ∈ List.range l.length, m ≠ n → l[m]?.any f = false

instance (f : Stage → Bool) (l : List Stage) (n : Nat) : Decidable (NoOther f l n) :=
  inferInstanceAs (Decidable (∀ m ∈ List.range l.length, m ≠ n → l[m]?.any f = false))

theorem NoOther.at_other {f : Stage → Bool} {l : List Stage} {n m : Nat} {z : Stage}
    (h : NoOther f l n) (hmn : m ≠ n) (hm : l[m]? = some z) : f z = false := by
  have hlt : m < l.length := (List.getElem?_eq_some_iff.mp hm).1
  have hz := h m (List.mem_range.mpr hlt) hmn
  rwa [hm] at hz

/-- When the call itself is not at such a stage either, nobody is. -/
theorem NoOther.nobody {f : Stage → Bool} {l : List Stage} {n : Nat} {y z : Stage}
    (h : NoOther f l n) (hn : l[n]? = some y) (hy : f y = false) (hz : z ∈ l) : f z = false := by
  obtain ⟨m, hm⟩ := List.mem_iff_getElem?.mp hz
  by_cases hmn : m = n
  · subst hmn
    rw [hn] at hm
    cases hm
    exact hy
  · exact h.at_other hmn hm

/-- How a method ends. -/
def Stage.ends (y : Stage) : Except AuthError AuthResult → Prop
  | .ok (.tokens pair) => ∃ deleted, y = .sweeping .duplicate [] deleted (some pair.jti)
  | .ok (.loggedIn pair _) => ∃ deleted, y = .sweeping .duplicate [] deleted (some pair.jti)
  | .ok (.revoked _) => ∃ deleted, y = .sweeping .revocation [] deleted none
  | .ok _ => y = .quiet
  | .error _ => y = .quiet ∨ ∃ ip userAgent, y = .entering ip userAgent

/-- The stage a call begins in. -/
def AuthRequest.stage : AuthRequest → Stage
  | .login _ _ ip userAgent _ => .entering ip userAgent
  | .refreshTokens refreshToken ip userAgent => .presenting refreshToken ip userAgent
  | .logout refreshToken => .leaving refreshToken
  | .revokeSession sessionId => .expelling sessionId .revocation
  | .revokeAllSessions userId currentJti => .listing userId currentJti
  | _ => .quiet

/-! ## The methods keep to the protocol -/

section Follows

variable {C : AuthConfig} {y : Stage}

/-- The instructions that leave every stage but that of a refresh as it is. -/
def AuthInstr.offTokens : AuthInstr → Bool
  | .getLoginAttempts _ => true
  | .incrementLoginAttempts _ => true
  | .resetLoginAttempts _ => true
  | .findByUsername _ => true
  | .verifyLogin _ _ _ _ => true
  | .verifyPassword _ _ => true
  | .updateTotpSecret _ _ => true
  | .enableTotp _ => true
  | .disableTotp _ => true
  | .now => true
  | _ => false

theorem stageProtocol_off {i : AuthInstr} (h : i.offTokens = true) :
    (stageProtocol C).allows y i ∧ ∀ r, (stageProtocol C).after y i r = y := by
  cases i <;> first | exact ⟨trivial, fun _ => rfl⟩ | cases h

/-- Nobody is looked up for a refresh. -/
theorem stageProtocol_findById (id : String) (h : ∀ p rotates, y ≠ .admitted p rotates) :
    (stageProtocol C).allows y (.findById id) ∧
      ∀ r, (stageProtocol C).after y (.findById id) r = y := by
  refine ⟨fun p rotates hy => absurd hy (h p rotates), fun r => ?_⟩
  cases y with
  | admitted p rotates => exact absurd rfl (h p rotates)
  | _ => rfl

theorem blacklistAll_follows {reason : Reason} {handed : Option Nat} : ∀ jtis : List Nat,
    Follows (stageProtocol C) (fun z r => r = .ok () ∧ z = .sweeping reason [] true handed)
      (.sweeping reason jtis true handed)
      (blacklistAll C.REFRESH_TOKEN_TTL_SECONDS reason jtis)
  | [] => follows_pure ⟨rfl, rfl⟩
  | _ :: jtis => follows_ask ⟨rfl, .inr (.inr ⟨jtis, handed, rfl⟩)⟩ fun _ => blacklistAll_follows jtis

variable {α : Type}

/-- The end of `dedupeSessions` and of `removeAllUserSessions`, and what follows it. -/
theorem sweep_follows {reason : Reason} {jtis : List Nat} {handed : Option Nat}
    {final : Stage → Except AuthError α → Prop} {c : AuthCall α}
    (hc : ∀ deleted, Follows (stageProtocol C) final (.sweeping reason [] deleted handed) c) :
    Follows (stageProtocol C) final (.sweeping reason jtis false handed) (do
      deleteListed jtis
      blacklistAll C.REFRESH_TOKEN_TTL_SECONDS reason jtis
      c) := by
  cases jtis with
  | nil => exact hc false
  | cons jti jtis =>
    refine follows_ask (.inr (.inr ⟨reason, handed, rfl⟩)) fun _ => ?_
    refine follows_bind (blacklistAll_follows (jti :: jtis)) ?_ ?_
    · rintro z a ⟨-, rfl⟩
      exact hc true
    · rintro z e ⟨h, -⟩
      cases h

variable {userAgent : String}

theorem tokens_follow {user : User} {ip : String} {parent : Option Nat}
    (hadd : stageAllows C y (.addSession user.id ip userAgent parent)) :
    Follows (stageProtocol C)
      (fun z r => ∃ pair deleted, r = .ok pair ∧
        z = .sweeping .duplicate [] deleted (some pair.jti)) y
      (generateTokenPair C user ip userAgent parent) :=
  follows_ask hadd fun jti => follows_ask rfl fun _ => sweep_follows
    fun deleted => follows_pure ⟨⟨user.id, user.username, user.role, jti⟩, deleted, rfl, rfl⟩

/-- `generateTokenPair`, and what follows it. -/
theorem generateTokenPair_follows {user : User} {ip : String} {parent : Option Nat}
    {final : Stage → Except AuthError α → Prop} {f : TokenPair → AuthCall α}
    (hadd : stageAllows C y (.addSession user.id ip userAgent parent))
    (hf : ∀ deleted pair, Follows (stageProtocol C) final (.sweeping .duplicate [] deleted (some pair.jti)) (f pair)) :
    Follows (stageProtocol C) final y (generateTokenPair C user ip userAgent parent >>= f) := by
  refine follows_bind (tokens_follow hadd) ?_ ?_
  · rintro z a ⟨pair, deleted, ha, rfl⟩
    cases ha
    exact hf deleted a
  · rintro z e ⟨pair, deleted, he, -⟩
    cases he

theorem invalidate_follows {jti : Nat} {reason : Reason}
    {final : Stage → Except AuthError α → Prop} {c : AuthCall α}
    (hc : Follows (stageProtocol C) final .quiet c) :
    Follows (stageProtocol C) final (.expelling jti reason) (do invalidate C jti reason; c) :=
  follows_ask ⟨rfl, .inr (.inl rfl)⟩ fun _ => follows_ask (.inr (.inl ⟨jti, rfl, rfl⟩)) fun _ => hc

theorem rotate_follows {p : Presented} :
    Follows (stageProtocol C) Stage.ends (.admitted p true)
      (rotate C p.token p.ip p.userAgent) := by
  refine follows_ask (fun p' rotates hp => by cases hp; rfl) fun found => ?_
  cases found with
  | none => exact follows_throw (.inl rfl)
  | some user =>
    refine follows_ask ⟨rfl, .inl ⟨p, user.id, rfl, rfl, rfl⟩⟩ fun _ => ?_
    refine follows_ask (.inl ⟨p, user.id, rfl, rfl⟩) fun _ => ?_
    exact generateTokenPair_follows (.inr ⟨p, rfl, rfl, rfl, rfl⟩) fun deleted pair =>
      follows_pure ⟨deleted, rfl⟩

theorem resolveRace_follows {p : Presented} :
    Follows (stageProtocol C) Stage.ends (.raced p)
      (resolveRace C p.token p.ip p.userAgent) := by
  refine follows_ask ⟨p, rfl, rfl, rfl⟩ fun raceOk => ?_
  cases raceOk with
  | false => exact follows_throw (.inl rfl)
  | true =>
    refine follows_ask (fun p' rotates hp => by cases hp; rfl) fun found => ?_
    cases found with
    | none => exact follows_throw (.inl rfl)
    | some user =>
      exact generateTokenPair_follows (.inr ⟨p, rfl, rfl, rfl, rfl⟩) fun deleted pair =>
        follows_pure ⟨deleted, rfl⟩

theorem refreshTokens_follows {refreshToken : Nat} {ip : String} :
    Follows (stageProtocol C) Stage.ends (.presenting refreshToken ip userAgent)
      (refreshTokens C refreshToken ip userAgent) := by
  refine follows_ask (.inl ⟨ip, userAgent, rfl⟩) fun verified => ?_
  cases verified with
  | none => exact follows_throw (.inl rfl)
  | some payload =>
    refine follows_ask ⟨_, rfl, rfl⟩ fun blacklisted => ?_
    cases blacklisted with
    | true => exact resolveRace_follows (p := ⟨payload, ip, userAgent⟩)
    | false =>
      refine follows_ask ⟨_, rfl, rfl⟩ fun session => ?_
      by_cases hip : (session.any fun s => s.ip != ip) = true
      · have haft : (stageProtocol C).after (.unbound ⟨payload, ip, userAgent⟩)
            (.getSessionMeta payload.jti) session = .expelling payload.jti .ipMismatch := if_pos hip
        show Follows _ _ ((stageProtocol C).after (.unbound ⟨payload, ip, userAgent⟩)
          (.getSessionMeta payload.jti) session) (if _ then _ else _)
        rw [haft, if_pos hip]
        exact invalidate_follows (follows_throw (.inl rfl))
      · have haft : (stageProtocol C).after (.unbound ⟨payload, ip, userAgent⟩)
            (.getSessionMeta payload.jti) session = .admitted ⟨payload, ip, userAgent⟩ true :=
          if_neg hip
        show Follows _ _ ((stageProtocol C).after (.unbound ⟨payload, ip, userAgent⟩)
          (.getSessionMeta payload.jti) session) (if _ then _ else _)
        rw [haft, if_neg hip]
        exact rotate_follows (p := ⟨payload, ip, userAgent⟩)

/-- Without statements on tokens a method stays in its stage. -/
theorem off_follows {final : Stage → Except AuthError α → Prop} {c : AuthCall α}
    (hfin : ∀ r, final y r) (h : Performs (fun i => i.offTokens = true) c) :
    Follows (stageProtocol C) final y c :=
  Prog.follows_of_issues (fun _ hi => stageProtocol_off hi) hfin h

theorem login_stages {username password ip : String} {schedule : Schedule} :
    Follows (stageProtocol C) Stage.ends (.entering ip userAgent)
      (login C username password ip userAgent schedule) := by
  have href : ∀ e, Follows (stageProtocol C) Stage.ends (.entering ip userAgent)
      (throw e : AuthCall AuthResult) := fun e => follows_throw (.inr ⟨ip, userAgent, rfl⟩)
  -- Before its session is added a login leaves the tokens alone.
  have hoff : ∀ {β : Type} {c : AuthCall β} {f : β → AuthCall AuthResult},
      Performs (fun i => i.offTokens = true) c →
      (∀ b, Follows (stageProtocol C) Stage.ends (.entering ip userAgent) (f b)) →
      Follows (stageProtocol C) Stage.ends (.entering ip userAgent) (c >>= f) := by
    intro β c f hc hf
    have hsty : Follows (stageProtocol C) (fun z _ => z = .entering ip userAgent)
        (.entering ip userAgent) c := off_follows (fun _ => rfl) hc
    refine follows_bind hsty ?_ ?_
    · rintro z b rfl
      exact hf b
    · rintro z e rfl
      exact .inr ⟨ip, userAgent, rfl⟩
  refine hoff (performs_both rfl rfl) fun attempts => ?_
  by_cases hip : C.MAX_LOGIN_ATTEMPTS ≤ attempts.1
  · rw [if_pos hip]
    exact href _
  rw [if_neg hip]
  by_cases huser : C.MAX_USERNAME_ATTEMPTS ≤ attempts.2
  · rw [if_pos huser]
    exact href _
  rw [if_neg huser]
  refine hoff (performs_ask rfl) fun user => hoff (performs_ask rfl) fun valid => ?_
  have hcnt : Follows (stageProtocol C) Stage.ends (.entering ip userAgent) (do
      let _ ← both schedule.increment (.incrementLoginAttempts ip)
        (.incrementLoginAttempts (usernameKey username))
      throw (.unauthorized "Invalid credentials") : AuthCall AuthResult) :=
    hoff (performs_both rfl rfl) fun _ => href _
  cases user with
  | none => exact hcnt
  | some user =>
    cases valid with
    | false => exact hcnt
    | true =>
      refine hoff (performs_both rfl rfl) fun _ => ?_
      exact generateTokenPair_follows (.inl ⟨rfl, rfl⟩) fun deleted pair =>
        follows_pure ⟨deleted, rfl⟩

/-- A statement that has nothing to do with tokens. -/
theorem follows_quiet {final : Stage → Except AuthError α → Prop} {i : AuthInstr}
    {f : Answer i → AuthCall α} (h : i.offTokens = true ∨ ∃ id, i = .findById id)
    (hf : ∀ r, Follows (stageProtocol C) final .quiet (f r)) :
    Follows (stageProtocol C) final .quiet (perform i >>= f) := by
  have hqt : (stageProtocol C).allows .quiet i ∧
      ∀ r, (stageProtocol C).after .quiet i r = .quiet := by
    rcases h with hoff | ⟨id, rfl⟩
    · exact stageProtocol_off hoff
    · exact stageProtocol_findById _ fun p rotates h => by cases h
  refine follows_ask hqt.1 fun r => ?_
  rw [hqt.2 r]
  exact hf r

theorem follows_ite {final : Stage → Except AuthError α → Prop} {condition : Prop}
    [Decidable condition] {c d : AuthCall α} (hc : Follows (stageProtocol C) final y c)
    (hd : Follows (stageProtocol C) final y d) :
    Follows (stageProtocol C) final y (if condition then c else d) := by
  by_cases h : condition
  · rwa [if_pos h]
  · rwa [if_neg h]

theorem enableTotp_stages {userId : String} {randomBytes : List Nat} :
    Follows (stageProtocol C) Stage.ends .quiet (enableTotp userId randomBytes) := by
  refine follows_quiet (.inr ⟨_, rfl⟩) fun found => ?_
  cases found with
  | none => exact follows_throw (.inl rfl)
  | some user =>
    exact follows_ite (follows_throw (.inl rfl)) (follows_quiet (.inl rfl) fun stored =>
      follows_ite (follows_pure rfl) (follows_throw (.inl rfl)))

theorem confirmTotp_stages {H : AuthHost} {userId code : String} :
    Follows (stageProtocol C) Stage.ends .quiet (confirmTotp H userId code) := by
  refine follows_quiet (.inr ⟨_, rfl⟩) fun found => ?_
  generalize Option.bind found User.totpSecret = secret
  cases secret with
  | none => exact follows_throw (.inl rfl)
  | some secret =>
    refine follows_quiet (.inl rfl) fun now => ?_
    generalize verifyTotpCode H secret code now = accepted
    exact follows_ite (follows_quiet (.inl rfl) fun enabled =>
      follows_ite (follows_pure rfl) (follows_throw (.inl rfl))) (follows_throw (.inl rfl))

theorem disableTotp_stages {H : AuthHost} {userId code currentPassword : String} :
    Follows (stageProtocol C) Stage.ends .quiet (disableTotp H userId code currentPassword) := by
  refine follows_quiet (.inr ⟨_, rfl⟩) fun found => ?_
  generalize Option.bind found activeSecret = secret
  cases found with
  | none => exact follows_throw (.inl rfl)
  | some user =>
    cases secret with
    | none => exact follows_throw (.inl rfl)
    | some secret =>
      refine follows_quiet (.inl rfl) fun passwordOk => ?_
      refine follows_ite (follows_quiet (.inl rfl) fun now => ?_) (follows_throw (.inl rfl))
      generalize verifyTotpCode H secret code now = accepted
      exact follows_ite (follows_quiet (.inl rfl) fun disabled =>
        follows_ite (follows_pure rfl) (follows_throw (.inl rfl))) (follows_throw (.inl rfl))

theorem request_stages (H : AuthHost) (request : AuthRequest) :
    ((authService C H).program request).Follows (stageProtocol C) Stage.ends request.stage := by
  cases request with
  | login username password ip userAgent schedule => exact login_stages
  | refreshTokens refreshToken ip userAgent => exact refreshTokens_follows
  | logout refreshToken =>
    refine follows_ask (.inr rfl) fun verified => ?_
    cases verified with
    | none => exact follows_pure rfl
    | some payload => exact invalidate_follows (follows_pure rfl)
  | revokeSession sessionId => exact invalidate_follows (follows_pure rfl)
  | revokeAllSessions userId currentJti =>
    exact follows_ask rfl fun revoked => sweep_follows fun deleted => follows_pure ⟨deleted, rfl⟩
  | enableTotp userId randomBytes => exact enableTotp_stages
  | confirmTotp userId code => exact confirmTotp_stages
  | disableTotp userId code currentPassword => exact disableTotp_stages

end Follows

end Meowbox.Auth
