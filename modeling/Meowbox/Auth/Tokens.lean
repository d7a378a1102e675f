import Meowbox.Auth.Stages

/-!
# What holds of the tokens in every run

Every refresh token and every session was signed once, for one user and one address, and a pair that
was handed out for a refresh token belongs to the user of that token. These facts hold whatever the
interleaving; the properties of revocation and of the second factor build on them.

* `SameTokens`: what every statement but `addSession` does to the tokens.
* `tokens_ok`: the facts, in every state of every run.
* `oneUser`, `userStep`: the system the modules on tokens run their examples in.
-/

namespace Meowbox.Auth

open Interleaved Fallible Stepping

/-- The user a call acts for, behind the look-up. -/
def Stage.acting : Stage → Option (Presented × String)
  | rotating p userId => some (p, userId)
  | rotated p userId => some (p, userId)
  | issuing p userId => some (p, userId)
  | _ => none

/-- A call presents tokens that were issued, and acts for their users. -/
structure StageOk (x : AuthDb) (y : Stage) : Prop where
  presented : ∀ p, y.presented = some p → p.token ∈ x.issued
  acting : ∀ p userId, y.acting = some (p, userId) → userId = p.token.sub

structure TokensOk (C : AuthConfig) (x : AuthDb) (l : List Stage) : Prop where
  drawn : ∀ t ∈ x.issued, t.jti < x.drawn
  once : ∀ t ∈ x.issued, ∀ t' ∈ x.issued, t.jti = t'.jti → t = t'
  exp : ∀ t ∈ x.issued, t.exp * 1000 ≤ x.clock + C.JWT_REFRESH_EXPIRES_IN * 1000
  issued : ∀ t ∈ x.issued, ∃ ip parent on, .signed t.jti t.sub ip parent on ∈ x.history
  signed : ∀ jti userId ip parent on, .signed jti userId ip parent on ∈ x.history →
    jti < x.drawn
  signedOnce : ∀ jti userId ip parent on userId' ip' parent' on',
    .signed jti userId ip parent on ∈ x.history →
    .signed jti userId' ip' parent' on' ∈ x.history → userId = userId' ∧ ip = ip'
  /-- A pair for a refresh token is for its user. -/
  parent : ∀ jti userId ip parent on, .signed jti userId ip (some parent) on ∈ x.history →
    ∃ t ∈ x.issued, t.jti = parent ∧ t.sub = userId ∧ parent < jti
  session : ∀ s ∈ x.session, ∃ parent on, .signed s.jti s.userId s.ip parent on ∈ x.history
  stages : ∀ y ∈ l, StageOk x y

/-! ## What the statements do to the tokens -/

/-- No token is signed, and no session added. -/
structure SameTokens (x x' : AuthDb) : Prop where
  clock : x.clock ≤ x'.clock
  issued : x'.issued = x.issued
  drawn : x'.drawn = x.drawn
  signed : ∀ jti userId ip parent on, .signed jti userId ip parent on ∈ x'.history ↔
    .signed jti userId ip parent on ∈ x.history
  session : ∀ s ∈ x'.session, s ∈ x.session

section Statements

variable {C : AuthConfig} {x x' : AuthDb} {l : List Stage}

theorem SameTokens.of_history {x x' : AuthDb} (hclk : x.clock ≤ x'.clock)
    (hiss : x'.issued = x.issued) (hdr : x'.drawn = x.drawn)
    (hses : ∀ s ∈ x'.session, s ∈ x.session)
    (hhist : x'.history = x.history ∨ ∃ e, x'.history = e :: x.history ∧
      ∀ jti userId ip parent on, e ≠ .signed jti userId ip parent on) : SameTokens x x' := by
  refine ⟨hclk, hiss, hdr, fun jti userId ip parent on => ?_, hses⟩
  rcases hhist with heq | ⟨e, heq, he⟩
  · rw [heq]
  · rw [heq, List.mem_cons, or_iff_right fun h => he _ _ _ _ _ h.symm]

theorem sameTokens_answer (C : AuthConfig) (H : AuthHost) {i : AuthInstr} (hi : ∀ userId ip userAgent
    parent, i ≠ .addSession userId ip userAgent parent) (x : AuthDb) :
    SameTokens x (answer C H i x).2 := by
  cases i with
  | addSession userId ip userAgent parent => exact absurd rfl (hi _ _ _ _)
  | deleteSessions jtis =>
    exact .of_history (Nat.le_refl _) rfl rfl (fun s hs => (List.mem_filter.mp hs).1) (.inl rfl)
  | verifyLogin ip username password user =>
    simp only [answer]
    split
    · exact .of_history (Nat.le_refl _) rfl rfl (fun _ hs => hs) (.inl rfl)
    · exact .of_history (Nat.le_refl _) rfl rfl (fun _ hs => hs)
        (.inr ⟨_, rfl, fun _ _ _ _ _ h => by cases h⟩)
  | incrementLoginAttempts key =>
    simp only [answer, AuthDb.incrementLoginAttempts]
    split
    · exact .of_history (Nat.le_refl _) rfl rfl (fun _ hs => hs) (.inl rfl)
    · exact .of_history (Nat.le_refl _) rfl rfl (fun _ hs => hs)
        (.inr ⟨_, rfl, fun _ _ _ _ _ h => by cases h⟩)
  | blacklistToken jti ttlSeconds reason =>
    exact .of_history (Nat.le_refl _) rfl rfl (fun _ hs => hs)
      (.inr ⟨_, rfl, fun _ _ _ _ _ h => by cases h⟩)
  | findUserSessions userId exceptJti =>
    exact .of_history (Nat.le_refl _) rfl rfl (fun _ hs => hs)
      (.inr ⟨_, rfl, fun _ _ _ _ _ h => by cases h⟩)
  | updateTotpSecret id secret =>
    exact .of_history (Nat.le_refl _) rfl rfl (fun _ hs => hs)
      (.inr ⟨_, rfl, fun _ _ _ _ _ h => by cases h⟩)
  | _ => exact .of_history (Nat.le_refl _) rfl rfl (fun _ hs => hs) (.inl rfl)

theorem sameTokens_outside (change : AuthChange) (x : AuthDb) :
    SameTokens x (AuthDb.outside change x) := by
  cases change with
  | tick elapsed =>
    exact .of_history (Nat.le_add_right _ _) rfl rfl (fun _ hs => hs) (.inl rfl)
  | cleanupExpired =>
    exact .of_history (Nat.le_refl _) rfl rfl (fun s hs => (List.mem_filter.mp hs).1) (.inl rfl)
  | createUser id username passwordHash role =>
    simp only [AuthDb.outside]
    split <;> exact .of_history (Nat.le_refl _) rfl rfl (fun _ hs => hs) (.inl rfl)
  | updateUser id username passwordHash role =>
    simp only [AuthDb.outside]
    split <;> exact .of_history (Nat.le_refl _) rfl rfl (fun _ hs => hs) (.inl rfl)
  | deleteUser id => exact .of_history (Nat.le_refl _) rfl rfl (fun _ hs => hs) (.inl rfl)

namespace TokensOk

/-- Everything but `addSession`. -/
theorem keep (h : TokensOk C x l) (hsame : SameTokens x x') : TokensOk C x' l where
  drawn t ht := by
    rw [hsame.issued] at ht
    rw [hsame.drawn]
    exact h.drawn t ht
  once := by
    rw [hsame.issued]
    exact h.once
  exp t ht := by
    rw [hsame.issued] at ht
    exact Nat.le_trans (h.exp t ht) (Nat.add_le_add_right hsame.clock _)
  issued t ht := by
    rw [hsame.issued] at ht
    obtain ⟨ip, parent, on, he⟩ := h.issued t ht
    exact ⟨ip, parent, on, (hsame.signed _ _ _ _ _).mpr he⟩
  signed jti userId ip parent on he := by
    rw [hsame.drawn]
    exact h.signed jti userId ip parent on ((hsame.signed _ _ _ _ _).mp he)
  signedOnce jti userId ip parent on userId' ip' parent' on' he he' :=
    h.signedOnce jti userId ip parent on userId' ip' parent' on'
      ((hsame.signed _ _ _ _ _).mp he) ((hsame.signed _ _ _ _ _).mp he')
  parent jti userId ip parent on he := by
    rw [hsame.issued]
    exact h.parent jti userId ip parent on ((hsame.signed _ _ _ _ _).mp he)
  session s hs := by
    obtain ⟨parent, on, he⟩ := h.session s (hsame.session s hs)
    exact ⟨parent, on, (hsame.signed _ _ _ _ _).mpr he⟩
  stages y hy := by
    obtain ⟨hpresented, hacting⟩ := h.stages y hy
    refine ⟨fun p hp => ?_, hacting⟩
    rw [hsame.issued]
    exact hpresented p hp

theorem move (h : TokensOk C x l) {n : Nat} {y : Stage} (hy : StageOk x y) :
    TokensOk C x (l.set n y) where
  __ := h
  stages z hz := by
    rcases List.mem_or_eq_of_mem_set hz with hz | rfl
    · exact h.stages z hz
    · exact hy

/-- A session is added, and its refresh token signed. -/
theorem add (h : TokensOk C x l) {userId ip userAgent : String} {parent : Option Nat}
    (hpar : ∀ q, parent = some q → ∃ t ∈ x.issued, t.jti = q ∧ t.sub = userId) :
    TokensOk C (x.addSession C userId ip userAgent parent).2 l where
  drawn t ht := by
    rcases List.mem_cons.mp ht with rfl | ht
    · exact Nat.lt_succ_self _
    · exact Nat.lt_succ_of_lt (h.drawn t ht)
  once t ht t' ht' hjti := by
    rcases List.mem_cons.mp ht with rfl | ht
    · rcases List.mem_cons.mp ht' with rfl | ht'
      · rfl
      · exact absurd hjti.symm (Nat.ne_of_lt (h.drawn t' ht'))
    · rcases List.mem_cons.mp ht' with rfl | ht'
      · exact absurd hjti (Nat.ne_of_lt (h.drawn t ht))
      · exact h.once t ht t' ht' hjti
  exp t ht := by
    rcases List.mem_cons.mp ht with rfl | ht
    · dsimp only [AuthDb.addSession]
      omega
    · exact h.exp t ht
  issued t ht := by
    rcases List.mem_cons.mp ht with rfl | ht
    · exact ⟨ip, parent, _, List.mem_cons_self⟩
    · obtain ⟨ip', parent', on, he⟩ := h.issued t ht
      exact ⟨ip', parent', on, List.mem_cons_of_mem _ he⟩
  signed jti userId' ip' parent' on he := by
    rcases List.mem_cons.mp he with heq | he
    · cases heq
      exact Nat.lt_succ_self _
    · exact Nat.lt_succ_of_lt (h.signed jti userId' ip' parent' on he)
  signedOnce jti u a q on u' a' q' on' he he' := by
    rcases List.mem_cons.mp he with heq | he
    · cases heq
      rcases List.mem_cons.mp he' with heq' | he'
      · cases heq'
        exact ⟨rfl, rfl⟩
      · exact absurd (h.signed _ _ _ _ _ he') (Nat.lt_irrefl _)
    · rcases List.mem_cons.mp he' with heq' | he'
      · cases heq'
        exact absurd (h.signed _ _ _ _ _ he) (Nat.lt_irrefl _)
      · exact h.signedOnce jti u a q on u' a' q' on' he he'
  parent jti u a q on he := by
    rcases List.mem_cons.mp he with heq | he
    · cases heq
      obtain ⟨t, ht, rfl, hsub⟩ := hpar q rfl
      exact ⟨t, List.mem_cons_of_mem _ ht, rfl, hsub, h.drawn t ht⟩
    · obtain ⟨t, ht, hrest⟩ := h.parent jti u a q on he
      exact ⟨t, List.mem_cons_of_mem _ ht, hrest⟩
  session s hs := by
    rcases List.mem_snoc.mp hs with hs | rfl
    · obtain ⟨q, on, he⟩ := h.session s hs
      exact ⟨q, on, List.mem_cons_of_mem _ he⟩
    · exact ⟨parent, _, List.mem_cons_self⟩
  stages y hy := by
    obtain ⟨hpresented, hacting⟩ := h.stages y hy
    exact ⟨fun p hp => List.mem_cons_of_mem _ (hpresented p hp), hacting⟩

end TokensOk

/-! ## Runs -/

variable {H : AuthHost} {y : Stage}

theorem StageOk.of_none (hp : y.presented = none) (ha : y.acting = none) : StageOk x y where
  presented p h := by
    rw [hp] at h
    cases h
  acting p userId h := by
    rw [ha] at h
    cases h

theorem StageOk.of_same {y' : Stage} (h : StageOk x y) (hp : y'.presented = y.presented)
    (ha : y'.acting = none ∨ y'.acting = y.acting) : StageOk x y' := by
  refine ⟨fun p hp' => h.presented p (hp ▸ hp'), fun p userId ha' => ?_⟩
  rcases ha with hnone | hsame
  · rw [hnone] at ha'
    cases ha'
  · exact h.acting p userId (hsame ▸ ha')

/-- Where a call goes on it presents what it presented, or what it has verified. -/
theorem stageOk_after (h : StageOk x y) {i : AuthInstr} (halw : stageAllows C y i) :
    StageOk x (stageAfter y i (answer C H i x).1) := by
  cases i with
  | verifyRefreshToken token =>
    have hnew : ∀ t, x.verifyRefreshToken token = some t → t ∈ x.issued :=
      fun t ht => List.mem_of_find?_eq_some ht
    rcases halw with ⟨ip, userAgent, rfl⟩ | rfl
    · show StageOk x (stageAfter (.presenting token ip userAgent) (.verifyRefreshToken token)
        (x.verifyRefreshToken token))
      cases hver : x.verifyRefreshToken token with
      | none => exact .of_none rfl rfl
      | some t =>
        exact ⟨fun p hp => by cases hp; exact hnew t hver, fun p userId hp => by cases hp⟩
    · show StageOk x (stageAfter (.leaving token) (.verifyRefreshToken token)
        (x.verifyRefreshToken token))
      cases x.verifyRefreshToken token <;> exact .of_none rfl rfl
  | isTokenBlacklisted jti =>
    obtain ⟨p, rfl, rfl⟩ := halw
    show StageOk x (if _ then _ else _)
    split
    · exact h.of_same rfl (.inl rfl)
    · exact h.of_same rfl (.inl rfl)
  | wasBlacklistedRecently jti windowMs =>
    obtain ⟨p, rfl, rfl, rfl⟩ := halw
    show StageOk x (if _ then _ else _)
    split
    · exact h.of_same rfl (.inl rfl)
    · exact .of_none rfl rfl
  | getSessionMeta jti =>
    obtain ⟨p, rfl, rfl⟩ := halw
    show StageOk x (if _ then _ else _)
    split
    · exact .of_none rfl rfl
    · exact h.of_same rfl (.inl rfl)
  | findById id =>
    by_cases hadm : ∃ p rotates, y = .admitted p rotates
    · obtain ⟨p, rotates, rfl⟩ := hadm
      have hid : id = p.token.sub := halw p rotates rfl
      show StageOk x (stageAfter (.admitted p rotates) (.findById id) (x.findById id))
      cases hfnd : x.findById id with
      | none => cases rotates <;> exact .of_none rfl rfl
      | some user =>
        have huser : user.id = p.token.sub := by
          have hsome := List.find?_some hfnd
          simp only [Bool.and_eq_true, beq_iff_eq] at hsome
          rw [hsome.1, hid]
        have hiss := h.presented p rfl
        cases rotates with
        | true =>
          exact ⟨fun q hq => by cases hq; exact hiss, fun q userId hq => by cases hq; exact huser⟩
        | false =>
          exact ⟨fun q hq => by cases hq; exact hiss, fun q userId hq => by cases hq; exact huser⟩
    · have hkept := (stageProtocol_findById (C := C) id
        fun p rotates hy => hadm ⟨p, rotates, hy⟩).2 (answer C H (.findById id) x).1
      have hkept : stageAfter y (.findById id) (answer C H (.findById id) x).1 = y := hkept
      rwa [hkept]
  | blacklistToken jti ttlSeconds reason =>
    obtain ⟨-, ⟨p, userId, rfl, rfl, rfl⟩ | rfl | ⟨owed, handed, rfl⟩⟩ := halw
    · exact h.of_same rfl (.inr rfl)
    · exact .of_none rfl rfl
    · exact .of_none rfl rfl
  | deleteSessions jtis =>
    rcases halw with ⟨p, userId, rfl, rfl⟩ | ⟨jti, rfl, rfl⟩ | ⟨reason, handed, rfl⟩
    · exact h.of_same rfl (.inr rfl)
    · exact .of_none rfl rfl
    · exact .of_none rfl rfl
  | addSession userId ip userAgent parent => exact .of_none rfl rfl
  | findDuplicates userId ip userAgent jti => exact .of_none rfl rfl
  | findUserSessions userId exceptJti => exact .of_none rfl rfl
  | _ => exact h

/-- A call that adds a session for a refresh token acts for the user of the token. -/
theorem parent_of_allowed (h : StageOk x y) {userId ip userAgent : String} {parent : Option Nat}
    (halw : stageAllows C y (.addSession userId ip userAgent parent)) (q : Nat)
    (hq : parent = some q) : ∃ t ∈ x.issued, t.jti = q ∧ t.sub = userId := by
  rcases halw with ⟨-, hnone⟩ | ⟨p, rfl, -, -, hsome⟩
  · rw [hnone] at hq
    cases hq
  · rw [hsome] at hq
    exact ⟨p.token, h.presented p rfl, Option.some.inj hq, (h.acting p userId rfl).symm⟩

namespace TokensOk

theorem ask (h : TokensOk C x l) {n : Nat} (hy : l[n]? = some y) {i : AuthInstr}
    (halw : stageAllows C y i) :
    TokensOk C (answer C H i x).2 (l.set n (stageAfter y i (answer C H i x).1)) := by
  have hstg := h.stages y (List.mem_of_getElem? hy)
  by_cases hadd : ∃ userId ip userAgent parent, i = .addSession userId ip userAgent parent
  · obtain ⟨userId, ip, userAgent, parent, rfl⟩ := hadd
    exact (h.add (parent_of_allowed hstg halw)).move (.of_none rfl rfl)
  · exact (h.move (stageOk_after hstg halw)).keep
      (sameTokens_answer C H (fun u a b q hi => hadd ⟨u, a, b, q, hi⟩) x)

theorem call (h : TokensOk C x l) (request : AuthRequest) :
    TokensOk C x (l ++ [request.stage]) where
  __ := h
  stages y hy := by
    rcases List.mem_snoc.mp hy with hy | rfl
    · exact h.stages y hy
    · cases request <;> exact .of_none rfl rfl

theorem init (C : AuthConfig) : TokensOk C AuthDb.init [] where
  drawn t ht := absurd ht (by simp [AuthDb.init])
  once t ht := absurd ht (by simp [AuthDb.init])
  exp t ht := absurd ht (by simp [AuthDb.init])
  issued t ht := absurd ht (by simp [AuthDb.init])
  signed jti u a q on he := absurd he (by simp [AuthDb.init])
  signedOnce jti u a q on u' a' q' on' he := absurd he (by simp [AuthDb.init])
  parent jti u a q on he := absurd he (by simp [AuthDb.init])
  session s hs := absurd hs (by simp [AuthDb.init])
  stages y hy := absurd hy (by simp)

end TokensOk

/-- Authentication with the stage of each call. -/
abbrev AuthRun := Phased AuthDb Stage AuthInstr Answer (Except AuthError AuthResult)

/-- The steps of authentication. -/
abbrev authStep (C : AuthConfig) (H : AuthHost) :
    AuthRun → Event AuthChange AuthRequest → Option AuthRun :=
  Phased.step (authService C H) (stageProtocol C) AuthRequest.stage

/-- **The tokens of every run.** -/
theorem tokens_ok {G : AuthDb → List Stage → Nat → AuthInstr → Prop} {s : AuthRun}
    (hs : Reach (authStep C H) (Phased.Within G) ⟨AuthDb.init, []⟩ s) :
    TokensOk C s.store s.phases :=
  (Phased.invariant (I := TokensOk C) (request_stages H) (TokensOk.init C)
    (fun change _ _ h => h.keep (sameTokens_outside change _)) (fun request _ _ h => h.call request)
    (fun _ _ _ _ _ h hy halw _ => h.ask hy halw) hs).1

end Statements

/-! ## One user -/

/-- The password of `alice` is `secret`; every code is `000000`. -/
def oneUser : AuthHost where
  argon2Verify hash password := hash == "hash of " ++ password
  hmacSha1 _ _ := List.replicate 20 0

/-- The steps of the methods, over the standard configuration. -/
abbrev userStep : AuthRun → Event AuthChange AuthRequest → Option AuthRun :=
  authStep AuthConfig.standard oneUser

/-- A call that performs so many instructions by itself. -/
def callAlone (k instructions : Nat) (request : AuthRequest) : List (Event AuthChange AuthRequest) :=
  .call request :: List.replicate instructions (.advance k)

def newUser : List (Event AuthChange AuthRequest) :=
  [.outside (.createUser "user-1" "alice" "hash of secret" "ADMIN"), .outside (.tick 1000)]

def loginFrom (ip : String) : AuthRequest :=
  .login "alice" "secret" ip "browser" ⟨.first, .first, .first⟩

end Meowbox.Auth
