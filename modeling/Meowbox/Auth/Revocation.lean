import Meowbox.Auth.Tokens

/-!
# The revocation of refresh tokens

Rotation and every kind of revocation share one blacklist, and a token that was put on it less than
`REFRESH_RACE_GRACE_MS` ago is refreshed without any further check.

`revocation_final`: in runs in which the grace period is granted only to tokens that were rotated,
for their own address and not before a revocation of all sessions, and in which refreshes and
revocations of one token do not overlap, an invalidated token yields no pair, a token yields pairs
for its own address only, and after `revokeAllSessions` no session is left that derives from an
earlier token. Without overlap, the grace period alone breaks all three (`revocation_undone`).
-/

namespace Meowbox.Auth

open Interleaved Fallible Stepping

/-! ## The properties -/

/-- A token that was put on the blacklist for another reason than its rotation yields no pair
afterwards. The newest event comes first. -/
def RevocationFinal : List AuthEvent → Prop
  | [] => True
  | e :: history => RevocationFinal history ∧
      ∀ jti userId ip token on, e = .signed jti userId ip (some token) on →
        ∀ reason, .blacklisted token reason ∈ history → reason = .rotation

/-- A token yields pairs for its own address only. -/
def StaysBound (history : List AuthEvent) : Prop :=
  ∀ jti userId ip token on, .signed jti userId ip (some token) on ∈ history →
    ∀ userId' ip' parent' on', .signed token userId' ip' parent' on' ∈ history → ip' = ip

/-- The token was handed out for another, this one for a further one, and so on, none of them the
exempted one. -/
inductive Derived (history : List AuthEvent) (userId : String) (exceptJti : Option Nat)
    (token : Nat) : Nat → Prop
  | self (h : exceptJti ≠ some token) : Derived history userId exceptJti token token
  | refresh {parent jti : Nat} {ip : String} {on : Bool}
      (hpar : Derived history userId exceptJti token parent)
      (hsig : .signed jti userId ip (some parent) on ∈ history) (h : exceptJti ≠ some jti) :
      Derived history userId exceptJti token jti

/-- No session of the user derives from a token with a number below `drawn`. -/
def NoneDerived (x : AuthDb) (userId : String) (exceptJti : Option Nat) (drawn : Nat) : Prop :=
  ∀ s ∈ x.session, s.userId = userId → ∀ token < drawn,
    ¬Derived x.history userId exceptJti token s.jti

/-! ## The condition -/

def rotatedOnly (jti : Nat) : AuthEvent → Bool
  | .blacklisted jti' reason => jti' != jti || reason == .rotation
  | _ => true

def boundTo (jti : Nat) (ip : String) : AuthEvent → Bool
  | .signed jti' _ ip' _ _ => jti' != jti || ip' == ip
  | _ => true

/-- The sessions of the user were not listed for removal after the token was drawn, or it was
exempt. -/
def sparedBy (token : RefreshToken) : AuthEvent → Bool
  | .listed userId exceptJti drawn =>
    userId != token.sub || decide (drawn ≤ token.jti) || exceptJti == some token.jti
  | _ => true

/-- The grace period is granted to a token that was only rotated, for its own address, and not
before a revocation of all sessions. -/
def graceDue (x : AuthDb) (p : Presented) : Bool :=
  x.history.all fun e => rotatedOnly p.token.jti e && boundTo p.token.jti p.ip e &&
    sparedBy p.token e

/-- What the call presents has not expired. -/
def unexpired (x : AuthDb) (l : List Stage) (n : Nat) : Bool :=
  (l[n]?.bind Stage.presented).all fun p => decide (x.clock / 1000 < p.token.exp)

namespace Stage

/-- A refresh of the token is between its check and the new session. -/
def refreshes (jti : Nat) (y : Stage) : Bool := y.inFlight.any fun p => p.token.jti == jti

/-- A refresh of a token of the user is between its check and the new session. -/
def refreshesFor (userId : String) (y : Stage) : Bool :=
  y.inFlight.any fun p => p.token.sub == userId

/-- A refresh from another address is about to read one of the sessions. -/
def mismatched (x : AuthDb) (jtis : List Nat) : Stage → Bool
  | unbound p => jtis.contains p.token.jti &&
      x.session.any fun s => s.jti == p.token.jti && s.ip != p.ip
  | _ => false

end Stage

/-- Refreshes and revocations do not overlap, and the grace period is granted where it is due. -/
def Undisturbed (x : AuthDb) (l : List Stage) (n : Nat) : AuthInstr → Prop
  | .isTokenBlacklisted jti => unexpired x l n = true ∧
      (x.isTokenBlacklisted jti = false → NoOther (fun y => y.owed.contains jti) l n)
  | .wasBlacklistedRecently jti windowMs => x.wasBlacklistedRecently jti windowMs = true →
      (l[n]?.bind Stage.presented).all (graceDue x) = true
  | .getSessionMeta _ => unexpired x l n = true
  | .blacklistToken jti _ reason => jti < x.drawn ∧
      (reason ≠ .rotation → NoOther (Stage.refreshes jti) l n)
  | .deleteSessions jtis => NoOther (Stage.mismatched x jtis) l n
  | .findUserSessions userId _ => NoOther (Stage.refreshesFor userId) l n
  | _ => True

instance (x : AuthDb) (l : List Stage) (n : Nat) (i : AuthInstr) :
    Decidable (Undisturbed x l n i) := by
  apply AuthInstr.casesOn (motive := fun i => Decidable (Undisturbed x l n i)) i <;> intros <;>
    dsimp only [Undisturbed] <;> infer_instance

/-! ## What a run keeps -/

/-- The token was signed for the address it is presented from. -/
def Bound (x : AuthDb) (p : Presented) : Prop :=
  ∀ userId ip parent on, .signed p.token.jti userId ip parent on ∈ x.history → ip = p.ip

/-- The token a call has put on the blacklist, and whose session it is about to remove. -/
def Stage.unlisting : Stage → Option Nat
  | rotated p _ => some p.token.jti
  | removing jti => some jti
  | _ => none

/-- What has been seen to hold of the token of a refresh. -/
structure StageSafe (x : AuthDb) (y : Stage) : Prop where
  unlisting : ∀ jti, y.unlisting = some jti → ∃ reason, .blacklisted jti reason ∈ x.history
  flight : ∀ p, y.inFlight = some p → ∀ reason, .blacklisted p.token.jti reason ∈ x.history →
    reason = .rotation
  /-- Before the address is checked there is a session to check it against. -/
  unbound : ∀ p, y = .unbound p → p.token.exp * 1000 ≤ x.clock ∨ Bound x p ∨
    ∃ s ∈ x.session, s.jti = p.token.jti
  bound : ∀ p, y.inFlight = some p → y ≠ .unbound p → Bound x p

structure RevocationInv (x : AuthDb) (l : List Stage) : Prop where
  final : RevocationFinal x.history
  bound : StaysBound x.history
  drawn : ∀ jti reason, .blacklisted jti reason ∈ x.history → jti < x.drawn
  /-- A row of the blacklist outlives its token. -/
  listed : ∀ t ∈ x.issued, ∀ reason, .blacklisted t.jti reason ∈ x.history →
    t.exp * 1000 ≤ x.clock ∨
      ∃ row, x.tokenBlacklist t.jti = some row ∧ t.exp * 1000 ≤ row.expiresAt
  /-- A token keeps its session until it is on the blacklist, or about to be. -/
  kept : ∀ t ∈ x.issued, t.exp * 1000 ≤ x.clock ∨
    (∃ reason, .blacklisted t.jti reason ∈ x.history) ∨ (∃ s ∈ x.session, s.jti = t.jti) ∨
      ∃ y ∈ l, t.jti ∈ y.owed
  outlives : ∀ s ∈ x.session, ∀ t ∈ x.issued, t.jti = s.jti → t.exp * 1000 ≤ s.expiresAt
  stages : ∀ y ∈ l, StageSafe x y

section Steps

variable {C : AuthConfig} {H : AuthHost} {x x' : AuthDb} {l : List Stage} {n : Nat} {y y' : Stage}

theorem StageSafe.of_none (hu : y.unlisting = none) (hf : y.inFlight = none) : StageSafe x y where
  unlisting jti h := by
    rw [hu] at h
    cases h
  flight p h := by
    rw [hf] at h
    cases h
  unbound p h := by
    rw [h] at hf
    cases hf
  bound p h := by
    rw [hf] at h
    cases h

/-- A refresh goes on behind the check of the address. -/
theorem StageSafe.on (h : StageSafe x y) {p : Presented} (hp : y.inFlight = some p)
    (hbd : Bound x p) (hp' : y'.inFlight = some p) (hne : ∀ q, y' ≠ .unbound q)
    (hu : ∀ jti, y'.unlisting = some jti → ∃ reason, .blacklisted jti reason ∈ x.history) :
    StageSafe x y' where
  unlisting := hu
  flight q hq := by
    rw [hp'] at hq
    cases hq
    exact h.flight p hp
  unbound q hq := absurd hq (hne q)
  bound q hq _ := by
    rw [hp'] at hq
    cases hq
    exact hbd

theorem inFlight_presented {p : Presented} (h : y.inFlight = some p) : y.presented = some p := by
  cases y <;> first | exact h | cases h

theorem not_expired {exp : Nat} (h : x.clock / 1000 < exp) : ¬exp * 1000 ≤ x.clock := by
  omega

namespace RevocationInv

/-- A call goes on, and nothing happens in the store. -/
theorem move (h : RevocationInv x l) (hn : l[n]? = some y) (hsafe : StageSafe x y')
    (howed : ∀ jti ∈ y.owed, jti ∈ y'.owed ∨ ∃ reason, .blacklisted jti reason ∈ x.history) :
    RevocationInv x (l.set n y') where
  __ := h
  kept t ht := by
    rcases h.kept t ht with hexp | hlis | hses | ⟨z, hz, howes⟩
    · exact .inl hexp
    · exact .inr (.inl hlis)
    · exact .inr (.inr (.inl hses))
    · by_cases hlis : ∃ reason, .blacklisted t.jti reason ∈ x.history
      · exact .inr (.inl hlis)
      · refine .inr (.inr (.inr (exists_mem_set ⟨z, hz, howes⟩ hn fun hy => ?_)))
        exact (howed t.jti hy).resolve_right hlis
  stages z hz := by
    rcases List.mem_or_eq_of_mem_set hz with hz | rfl
    · exact h.stages z hz
    · exact hsafe

theorem begin (h : RevocationInv x l) (hsafe : StageSafe x y) : RevocationInv x (l ++ [y]) where
  __ := h
  kept t ht := by
    rcases h.kept t ht with hexp | hlis | hses | ⟨z, hz, howes⟩
    · exact .inl hexp
    · exact .inr (.inl hlis)
    · exact .inr (.inr (.inl hses))
    · exact .inr (.inr (.inr ⟨z, List.mem_append_left _ hz, howes⟩))
  stages z hz := by
    rcases List.mem_snoc.mp hz with hz | rfl
    · exact h.stages z hz
    · exact hsafe

/-- No token is signed or put on the blacklist; rows go when they have expired. -/
theorem keep (h : RevocationInv x l) (ht : TokensOk C x l) (hsame : SameTokens x x')
    (hhist : x'.history = x.history ∨ ∃ e, x'.history = e :: x.history ∧
      (∀ jti userId ip parent on, e ≠ .signed jti userId ip parent on) ∧
      ∀ jti reason, e ≠ .blacklisted jti reason)
    (hrows : ∀ jti row, x.tokenBlacklist jti = some row →
      x'.tokenBlacklist jti = some row ∨ row.expiresAt ≤ x'.clock)
    (hses : ∀ s ∈ x.session, s ∈ x'.session ∨ s.expiresAt ≤ x'.clock) :
    RevocationInv x' l := by
  have hlis : ∀ jti reason, .blacklisted jti reason ∈ x'.history ↔
      .blacklisted jti reason ∈ x.history := by
    intro jti reason
    rcases hhist with heq | ⟨e, heq, -, he⟩
    · rw [heq]
    · rw [heq, List.mem_cons, or_iff_right fun h => he _ _ h.symm]
  have hbd : ∀ {p : Presented}, Bound x p → Bound x' p :=
    fun hb userId ip parent on he => hb userId ip parent on ((hsame.signed _ _ _ _ _).mp he)
  have hclk := hsame.clock
  refine ⟨?_, ?_, ?_, ?_, ?_, ?_, ?_⟩
  · rcases hhist with heq | ⟨e, heq, he, -⟩
    · rw [heq]
      exact h.final
    · rw [heq]
      exact ⟨h.final, fun jti userId ip token on heq => absurd heq (he _ _ _ _ _)⟩
  · intro jti userId ip token on hsig userId' ip' parent' on' hpar
    exact h.bound jti userId ip token on ((hsame.signed _ _ _ _ _).mp hsig) userId' ip' parent'
      on' ((hsame.signed _ _ _ _ _).mp hpar)
  · intro jti reason he
    rw [hsame.drawn]
    exact h.drawn jti reason ((hlis jti reason).mp he)
  · intro t hiss reason he
    rw [hsame.issued] at hiss
    rcases h.listed t hiss reason ((hlis _ _).mp he) with hexp | ⟨row, hrow, hlong⟩
    · exact .inl (Nat.le_trans hexp hclk)
    · rcases hrows _ row hrow with hkept | hgone
      · exact .inr ⟨row, hkept, hlong⟩
      · exact .inl (Nat.le_trans hlong hgone)
  · intro t hiss
    rw [hsame.issued] at hiss
    rcases h.kept t hiss with hexp | ⟨reason, he⟩ | ⟨s, hs, hjti⟩ | howed
    · exact .inl (Nat.le_trans hexp hclk)
    · exact .inr (.inl ⟨reason, (hlis _ _).mpr he⟩)
    · rcases hses s hs with hkept | hgone
      · exact .inr (.inr (.inl ⟨s, hkept, hjti⟩))
      · exact .inl (Nat.le_trans (h.outlives s hs t hiss hjti.symm) hgone)
    · exact .inr (.inr (.inr howed))
  · intro s hs t hiss hjti
    rw [hsame.issued] at hiss
    exact h.outlives s (hsame.session s hs) t hiss hjti
  · intro y hy
    obtain ⟨hunl, hfl, hunbound, hsettled⟩ := h.stages y hy
    refine ⟨fun jti hj => ?_, fun p hp reason he => hfl p hp reason ((hlis _ _).mp he),
      fun p hp => ?_, fun p hp hne => hbd (hsettled p hp hne)⟩
    · obtain ⟨reason, he⟩ := hunl jti hj
      exact ⟨reason, (hlis _ _).mpr he⟩
    · have hiss := (ht.stages y hy).presented p (inFlight_presented (by rw [hp]; rfl))
      rcases hunbound p hp with hexp | hb | ⟨s, hs, hjti⟩
      · exact .inl (Nat.le_trans hexp hclk)
      · exact .inr (.inl (hbd hb))
      · rcases hses s hs with hkept | hgone
        · exact .inr (.inr ⟨s, hkept, hjti⟩)
        · exact .inl (Nat.le_trans (h.outlives s hs p.token hiss hjti.symm) hgone)

/-- A token is put on the blacklist, for its rotation or while no refresh of it is under way. -/
theorem blacklist (h : RevocationInv x l) (ht : TokensOk C x l)
    (hconfig : C.JWT_REFRESH_EXPIRES_IN ≤ C.REFRESH_TOKEN_TTL_SECONDS) {jti : Nat} {reason : Reason}
    (hdr : jti < x.drawn)
    (hg : ∀ y ∈ l, ∀ p, y.inFlight = some p → p.token.jti = jti → reason = .rotation) :
    RevocationInv (x.blacklistToken jti C.REFRESH_TOKEN_TTL_SECONDS reason) l where
  final := ⟨h.final, fun _ _ _ _ _ heq => by cases heq⟩
  bound a userId ip token on he userId' ip' parent' on' he' := by
    refine h.bound a userId ip token on ?_ userId' ip' parent' on' ?_
    · exact (List.mem_cons.mp he).resolve_left fun heq => by cases heq
    · exact (List.mem_cons.mp he').resolve_left fun heq => by cases heq
  drawn a r he := by
    rcases List.mem_cons.mp he with heq | he
    · cases heq
      exact hdr
    · exact h.drawn a r he
  listed t hiss r he := by
    have hexp := ht.exp t hiss
    by_cases hjti : t.jti = jti
    · have hlong : t.exp * 1000 ≤ x.clock + C.REFRESH_TOKEN_TTL_SECONDS * 1000 :=
        Nat.le_trans hexp (Nat.add_le_add_left (Nat.mul_le_mul_right _ hconfig) _)
      exact .inr ⟨_, if_pos hjti, hlong⟩
    · have he : .blacklisted t.jti r ∈ x.history :=
        (List.mem_cons.mp he).resolve_left fun heq => by cases heq; exact hjti rfl
      rcases h.listed t hiss r he with hexpired | ⟨row, hrow, hlong⟩
      · exact .inl hexpired
      · exact .inr ⟨row, (if_neg hjti).trans hrow, hlong⟩
  kept t hiss := by
    rcases h.kept t hiss with hexp | ⟨r, he⟩ | hses | howed
    · exact .inl hexp
    · exact .inr (.inl ⟨r, List.mem_cons_of_mem _ he⟩)
    · exact .inr (.inr (.inl hses))
    · exact .inr (.inr (.inr howed))
  outlives := h.outlives
  stages y hy := by
    obtain ⟨hunl, hfl, hunbound, hsettled⟩ := h.stages y hy
    have hbd : ∀ {p : Presented}, Bound x p →
        Bound (x.blacklistToken jti C.REFRESH_TOKEN_TTL_SECONDS reason) p :=
      fun hb userId ip parent on he => hb userId ip parent on
        ((List.mem_cons.mp he).resolve_left fun heq => by cases heq)
    refine ⟨fun a ha => ?_, fun p hp r he => ?_, fun p hp => ?_,
      fun p hp hne => hbd (hsettled p hp hne)⟩
    · obtain ⟨r, he⟩ := hunl a ha
      exact ⟨r, List.mem_cons_of_mem _ he⟩
    · rcases List.mem_cons.mp he with heq | he
      · cases heq
        exact hg y hy p hp rfl
      · exact hfl p hp r he
    · rcases hunbound p hp with hexp | hb | hses
      · exact .inl hexp
      · exact .inr (.inl (hbd hb))
      · exact .inr (.inr hses)

/-- Sessions are removed whose tokens are on the blacklist, or about to be, and none that a refresh
from another address is about to read. -/
theorem delete (h : RevocationInv x l) (ht : TokensOk C x l) {jtis : List Nat}
    (hcover : ∀ jti ∈ jtis, (∃ reason, .blacklisted jti reason ∈ x.history) ∨
      ∃ y ∈ l, jti ∈ y.owed)
    (hg : ∀ y ∈ l, y.mismatched x jtis = false) : RevocationInv (x.deleteSessions jtis) l where
  __ := h
  kept t hiss := by
    rcases h.kept t hiss with hexp | he | ⟨s, hs, hjti⟩ | howed
    · exact .inl hexp
    · exact .inr (.inl he)
    · by_cases hin : t.jti ∈ jtis
      · exact .inr ((hcover t.jti hin).imp_right fun howed => .inr howed)
      · refine .inr (.inr (.inl ⟨s, List.mem_filter.mpr ⟨hs, ?_⟩, hjti⟩))
        rw [hjti]
        simpa using hin
    · exact .inr (.inr (.inr howed))
  outlives s hs := h.outlives s (List.mem_filter.mp hs).1
  stages y hy := by
    obtain ⟨hunl, hfl, hunbound, hsettled⟩ := h.stages y hy
    refine ⟨hunl, hfl, fun p hp => ?_, hsettled⟩
    rcases hunbound p hp with hexp | hb | ⟨s, hs, hjti⟩
    · exact .inl hexp
    · exact .inr (.inl hb)
    · by_cases hin : p.token.jti ∈ jtis
      · have hmat := hg y hy
        rw [hp] at hmat
        have hip : s.ip = p.ip := by
          have hall : ∀ s ∈ x.session, s.jti = p.token.jti → s.ip = p.ip := by
            simpa [Stage.mismatched, hin] using hmat
          exact hall s hs hjti
        refine .inr (.inl fun userId ip parent on he => ?_)
        obtain ⟨parent', on', hsig⟩ := ht.session s hs
        rw [hjti] at hsig
        rw [(ht.signedOnce _ _ _ _ _ _ _ _ _ he hsig).2, hip]
      · refine .inr (.inr ⟨s, List.mem_filter.mpr ⟨hs, ?_⟩, hjti⟩)
        rw [hjti]
        simpa using hin

/-- A session is added: for a login, or for a refresh whose token is safe. -/
theorem add (h : RevocationInv x l) (ht : TokensOk C x l)
    (hconfig : C.JWT_REFRESH_EXPIRES_IN ≤ C.REFRESH_TOKEN_TTL_SECONDS)
    {userId ip userAgent : String} {parent : Option Nat}
    (hpar : ∀ q, parent = some q → ∃ p : Presented, p.token ∈ x.issued ∧ p.token.jti = q ∧
      ip = p.ip ∧ Bound x p ∧ ∀ reason, .blacklisted q reason ∈ x.history → reason = .rotation) :
    RevocationInv (x.addSession C userId ip userAgent parent).2 l where
  final := by
    refine ⟨h.final, fun jti u a token on heq reason he => ?_⟩
    cases heq
    obtain ⟨p, -, -, -, -, hrotated⟩ := hpar token rfl
    exact hrotated reason he
  bound jti u a token on he u' a' q' on' he' := by
    rcases List.mem_cons.mp he with heq | he
    · cases heq
      obtain ⟨p, hiss, rfl, rfl, hbd, -⟩ := hpar token rfl
      rcases List.mem_cons.mp he' with heq' | he'
      · obtain ⟨hjti, -⟩ := AuthEvent.signed.inj heq'
        exact absurd hjti (Nat.ne_of_lt (ht.drawn _ hiss))
      · exact hbd u' a' q' on' he'
    · rcases List.mem_cons.mp he' with heq' | he'
      · cases heq'
        obtain ⟨t, hiss, hjti, -, -⟩ := ht.parent _ _ _ _ _ he
        exact absurd hjti (Nat.ne_of_lt (ht.drawn t hiss))
      · exact h.bound jti u a token on he u' a' q' on' he'
  drawn jti reason he := by
    rcases List.mem_cons.mp he with heq | he
    · cases heq
    · exact Nat.lt_succ_of_lt (h.drawn jti reason he)
  listed t hiss reason he := by
    have he : .blacklisted t.jti reason ∈ x.history :=
      (List.mem_cons.mp he).resolve_left fun heq => by cases heq
    rcases List.mem_cons.mp hiss with rfl | hiss
    · exact absurd (h.drawn _ _ he) (Nat.lt_irrefl _)
    · exact h.listed t hiss reason he
  kept t hiss := by
    rcases List.mem_cons.mp hiss with rfl | hiss
    · exact .inr (.inr (.inl ⟨_, List.mem_append_right _ List.mem_cons_self, rfl⟩))
    · rcases h.kept t hiss with hexp | ⟨reason, he⟩ | ⟨s, hs, hjti⟩ | howed
      · exact .inl hexp
      · exact .inr (.inl ⟨reason, List.mem_cons_of_mem _ he⟩)
      · exact .inr (.inr (.inl ⟨s, List.mem_append_left _ hs, hjti⟩))
      · exact .inr (.inr (.inr howed))
  outlives s hs t hiss hjti := by
    have hold : ∀ s ∈ x.session, s.jti < x.drawn := fun s hs => by
      obtain ⟨q, on, he⟩ := ht.session s hs
      exact ht.signed _ _ _ _ _ he
    rcases List.mem_snoc.mp hs with hs | rfl
    · rcases List.mem_cons.mp hiss with rfl | hiss
      · exact absurd hjti.symm (Nat.ne_of_lt (hold s hs))
      · exact h.outlives s hs t hiss hjti
    · rcases List.mem_cons.mp hiss with rfl | hiss
      · dsimp only
        omega
      · exact absurd hjti (Nat.ne_of_lt (ht.drawn t hiss))
  stages y hy := by
    obtain ⟨hunl, hfl, hunbound, hsettled⟩ := h.stages y hy
    have hbd : ∀ {p : Presented}, y.inFlight = some p → Bound x p →
        Bound (x.addSession C userId ip userAgent parent).2 p := by
      intro p hp hb u a q on he
      rcases List.mem_cons.mp he with heq | he
      · have hiss := (ht.stages y hy).presented p (inFlight_presented hp)
        obtain ⟨hjti, -⟩ := AuthEvent.signed.inj heq
        exact absurd hjti (Nat.ne_of_lt (ht.drawn _ hiss))
      · exact hb u a q on he
    refine ⟨fun jti hj => ?_, fun p hp reason he => ?_, fun p hp => ?_,
      fun p hp hne => hbd hp (hsettled p hp hne)⟩
    · obtain ⟨reason, he⟩ := hunl jti hj
      exact ⟨reason, List.mem_cons_of_mem _ he⟩
    · exact hfl p hp reason ((List.mem_cons.mp he).resolve_left fun heq => by cases heq)
    · rcases hunbound p hp with hexp | hb | ⟨s, hs, hjti⟩
      · exact .inl hexp
      · exact .inr (.inl (hbd (by rw [hp]; rfl) hb))
      · exact .inr (.inr ⟨s, List.mem_append_left _ hs, hjti⟩)

theorem outside (h : RevocationInv x l) (ht : TokensOk C x l) (change : AuthChange) :
    RevocationInv (AuthDb.outside change x) l := by
  have hsame := sameTokens_outside change x
  cases change with
  | tick elapsed =>
    exact h.keep ht hsame (.inl rfl) (fun _ _ hrow => .inl hrow) fun _ hs => .inl hs
  | cleanupExpired =>
    refine h.keep ht hsame (.inl rfl) (fun jti row hrow => ?_) fun s hs => ?_
    · by_cases hlive : x.clock < row.expiresAt
      · refine .inl ?_
        show (x.tokenBlacklist jti).filter _ = some row
        rw [hrow, Option.filter_some, if_pos (decide_eq_true hlive)]
      · exact .inr (Nat.le_of_not_lt hlive)
    · by_cases hlive : x.clock < s.expiresAt
      · exact .inl (List.mem_filter.mpr ⟨hs, decide_eq_true hlive⟩)
      · exact .inr (Nat.le_of_not_lt hlive)
  | createUser id username passwordHash role =>
    refine h.keep ht hsame ?_ ?_ ?_ <;> simp only [AuthDb.outside] <;> split
    · exact .inl rfl
    · exact .inl rfl
    · exact fun _ _ hrow => .inl hrow
    · exact fun _ _ hrow => .inl hrow
    · exact fun _ hs => .inl hs
    · exact fun _ hs => .inl hs
  | updateUser id username passwordHash role =>
    refine h.keep ht hsame ?_ ?_ ?_ <;> simp only [AuthDb.outside] <;> split
    · exact .inl rfl
    · exact .inl rfl
    · exact fun _ _ hrow => .inl hrow
    · exact fun _ _ hrow => .inl hrow
    · exact fun _ hs => .inl hs
    · exact fun _ hs => .inl hs
  | deleteUser id =>
    exact h.keep ht hsame (.inl rfl) (fun _ _ hrow => .inl hrow) fun _ hs => .inl hs

/-- A token that may still be refreshed is on the blacklist when it ever was put there. -/
theorem not_listed (h : RevocationInv x l) {t : RefreshToken} (hiss : t ∈ x.issued)
    (hlive : x.clock / 1000 < t.exp) (halw : x.isTokenBlacklisted t.jti = false) (reason : Reason) :
    .blacklisted t.jti reason ∉ x.history := by
  intro he
  rcases h.listed t hiss reason he with hexp | ⟨row, hrow, hlong⟩
  · exact not_expired hlive hexp
  · rw [AuthDb.isTokenBlacklisted, hrow, Option.any_some, decide_eq_false_iff_not] at halw
    omega

/-- The token of a refresh that passes the blacklist. -/
theorem passes (h : RevocationInv x l) {p : Presented} (hiss : p.token ∈ x.issued)
    (hlive : x.clock / 1000 < p.token.exp) (halw : x.isTokenBlacklisted p.token.jti = false)
    (howed : ∀ y ∈ l, p.token.jti ∉ y.owed) : StageSafe x (.unbound p) where
  unlisting jti hj := by cases hj
  flight q hq reason he := by
    cases hq
    exact absurd he (h.not_listed hiss hlive halw reason)
  unbound q hq := by
    cases hq
    rcases h.kept p.token hiss with hexp | ⟨reason, he⟩ | hses | ⟨y, hy, howes⟩
    · exact .inl hexp
    · exact absurd he (h.not_listed hiss hlive halw reason)
    · exact .inr (.inr hses)
    · exact absurd howes (howed y hy)
  bound q hq hne := by
    cases hq
    exact absurd rfl hne

/-- Behind the check of the address, the token is bound to it. -/
theorem checks (h : RevocationInv x l) (ht : TokensOk C x l) {p : Presented}
    (hy : .unbound p ∈ l) (hlive : x.clock / 1000 < p.token.exp)
    (hip : (x.getSessionMeta p.token.jti).any (fun s => s.ip != p.ip) = false) : Bound x p := by
  rcases (h.stages _ hy).unbound p rfl with hexp | hb | ⟨s, hs, hjti⟩
  · exact absurd hexp (not_expired hlive)
  · exact hb
  · have hiss : p.token ∈ x.issued := (ht.stages _ hy).presented p rfl
    have hsome : (x.session.find? fun s => s.jti == p.token.jti).isSome = true :=
      List.find?_isSome.mpr ⟨s, hs, by simp [hjti]⟩
    obtain ⟨s', hs'⟩ := Option.isSome_iff_exists.mp hsome
    have hmem := List.mem_of_find?_eq_some hs'
    have hjti' : s'.jti = p.token.jti := by simpa using List.find?_some hs'
    have hact : x.clock < s'.expiresAt := by
      have hlong := h.outlives s' hmem p.token hiss hjti'.symm
      omega
    have hmeta : x.getSessionMeta p.token.jti = some s' := by
      rw [AuthDb.getSessionMeta, hs', Option.filter_some, if_pos (decide_eq_true hact)]
    intro userId ip parent on he
    rw [hmeta, Option.any_some, bne_eq_false_iff_eq] at hip
    obtain ⟨parent', on', hsig⟩ := ht.session s' hmem
    rw [hjti'] at hsig
    rw [(ht.signedOnce _ _ _ _ _ _ _ _ _ he hsig).2, hip]

end RevocationInv

end Steps

/-! ## A step -/

section Ask

variable {C : AuthConfig} {H : AuthHost} {x : AuthDb} {l : List Stage} {n : Nat} {y : Stage}

theorem presented_unexpired {p : Presented} (hy : l[n]? = some y) (hp : y.presented = some p)
    (h : unexpired x l n = true) : x.clock / 1000 < p.token.exp := by
  simpa [unexpired, hy, hp] using h

theorem graceDue_of {p : Presented} (hy : l[n]? = some y) (hp : y.presented = some p)
    (h : (l[n]?.bind Stage.presented).all (graceDue x) = true) : graceDue x p = true := by
  simpa [hy, hp] using h

/-- What the grace period is granted to was only rotated, and is bound to its address. -/
theorem StageSafe.of_graceDue {p : Presented} (h : graceDue x p = true) :
    StageSafe x (.admitted p false) where
  unlisting jti hj := by cases hj
  flight q hq reason he := by
    cases hq
    have hdue := List.all_eq_true.mp h _ he
    simpa [rotatedOnly, boundTo, sparedBy] using hdue
  unbound q hq := by cases hq
  bound q hq _ userId ip parent on he := by
    cases hq
    have hdue := List.all_eq_true.mp h _ he
    simpa [rotatedOnly, boundTo, sparedBy] using hdue

namespace RevocationInv

/-- A statement that has nothing to do with tokens. -/
theorem off (h : RevocationInv x l) (ht : TokensOk C x l) {i : AuthInstr}
    (hoff : i.offTokens = true) : RevocationInv (answer C H i x).2 l := by
  have hsame : SameTokens x (answer C H i x).2 :=
    sameTokens_answer C H (fun _ _ _ _ hi => by rw [hi] at hoff; cases hoff) x
  cases i with
  | verifyLogin ip username password user =>
    refine h.keep ht hsame ?_ ?_ ?_ <;> simp only [answer] <;> split
    · exact .inl rfl
    · exact .inr ⟨_, rfl, by simp, by simp⟩
    · exact fun _ _ hrow => .inl hrow
    · exact fun _ _ hrow => .inl hrow
    · exact fun _ hs => .inl hs
    · exact fun _ hs => .inl hs
  | incrementLoginAttempts key =>
    refine h.keep ht hsame ?_ ?_ ?_ <;> simp only [answer, AuthDb.incrementLoginAttempts] <;> split
    · exact .inl rfl
    · exact .inr ⟨_, rfl, by simp, by simp⟩
    · exact fun _ _ hrow => .inl hrow
    · exact fun _ _ hrow => .inl hrow
    · exact fun _ hs => .inl hs
    · exact fun _ hs => .inl hs
  | updateTotpSecret id secret =>
    exact h.keep ht hsame
      (.inr ⟨_, rfl, by simp, by simp⟩)
      (fun _ _ hrow => .inl hrow) fun _ hs => .inl hs
  | _ =>
    first
    | exact h.keep ht hsame (.inl rfl) (fun _ _ hrow => .inl hrow) fun _ hs => .inl hs
    | cases hoff

/-- **A call performs its next instruction.** -/
theorem ask (h : RevocationInv x l) (ht : TokensOk C x l)
    (hconfig : C.JWT_REFRESH_EXPIRES_IN ≤ C.REFRESH_TOKEN_TTL_SECONDS) (hn : l[n]? = some y)
    {i : AuthInstr} (halw : stageAllows C y i) (hg : Undisturbed x l n i) :
    RevocationInv (answer C H i x).2 (l.set n (stageAfter y i (answer C H i x).1)) := by
  have hy : y ∈ l := List.mem_of_getElem? hn
  have hsafe := h.stages y hy
  cases i with
  | verifyRefreshToken token =>
    have hnone : ∀ r : Option RefreshToken, StageSafe x (stageAfter y (.verifyRefreshToken token) r) ∧
        y.owed = [] := by
      intro r
      rcases halw with ⟨ip, userAgent, rfl⟩ | rfl
      · cases r <;> exact ⟨.of_none rfl rfl, rfl⟩
      · cases r <;> exact ⟨.of_none rfl rfl, rfl⟩
    refine h.move hn (hnone _).1 fun jti hj => ?_
    rw [(hnone none).2] at hj
    cases hj
  | isTokenBlacklisted jti =>
    obtain ⟨p, rfl, rfl⟩ := halw
    have hlive := presented_unexpired hn rfl hg.1
    refine h.move hn ?_ fun jti hj => by cases hj
    show StageSafe x (if x.isTokenBlacklisted p.token.jti = true then _ else _)
    by_cases hlis : x.isTokenBlacklisted p.token.jti = true
    · rw [if_pos hlis]
      exact .of_none rfl rfl
    · rw [if_neg hlis]
      have halw := Bool.eq_false_iff.mpr hlis
      refine h.passes ((ht.stages _ hy).presented p rfl) hlive halw fun z hz hin => ?_
      have hno : z.owed.contains p.token.jti = false := (hg.2 halw).nobody hn rfl hz
      rw [List.contains_iff_mem.mpr hin] at hno
      cases hno
  | wasBlacklistedRecently jti windowMs =>
    obtain ⟨p, rfl, rfl, rfl⟩ := halw
    refine h.move hn ?_ fun jti hj => by cases hj
    show StageSafe x (if x.wasBlacklistedRecently p.token.jti C.REFRESH_RACE_GRACE_MS = true
      then _ else _)
    by_cases hrec : x.wasBlacklistedRecently p.token.jti C.REFRESH_RACE_GRACE_MS = true
    · rw [if_pos hrec]
      exact .of_graceDue (graceDue_of hn rfl (hg hrec))
    · rw [if_neg hrec]
      exact .of_none rfl rfl
  | getSessionMeta jti =>
    obtain ⟨p, rfl, rfl⟩ := halw
    refine h.move hn ?_ fun jti hj => by cases hj
    show StageSafe x (if (x.getSessionMeta p.token.jti).any (fun s => s.ip != p.ip) = true
      then _ else _)
    by_cases hip : (x.getSessionMeta p.token.jti).any (fun s => s.ip != p.ip) = true
    · rw [if_pos hip]
      exact .of_none rfl rfl
    · rw [if_neg hip]
      have hbd := h.checks ht hy (presented_unexpired hn rfl hg) (Bool.eq_false_iff.mpr hip)
      exact hsafe.on rfl hbd rfl (fun q hq => by cases hq) fun jti hj => by cases hj
  | findById id =>
    by_cases hadm : ∃ p rotates, y = .admitted p rotates
    · obtain ⟨p, rotates, rfl⟩ := hadm
      refine h.move hn ?_ fun jti hj => by cases hj
      have hbd := hsafe.bound p rfl fun hq => by cases hq
      show StageSafe x (stageAfter (.admitted p rotates) (.findById id) (x.findById id))
      cases x.findById id with
      | none => cases rotates <;> exact .of_none rfl rfl
      | some user =>
        cases rotates <;>
          exact hsafe.on rfl hbd rfl (fun q hq => by cases hq) fun jti hj => by cases hj
    · have hkept := (stageProtocol_findById (C := C) id
        fun p rotates hy => hadm ⟨p, rotates, hy⟩).2 (answer C H (.findById id) x).1
      have hkept : stageAfter y (.findById id) (answer C H (.findById id) x).1 = y := hkept
      rw [hkept]
      exact h.move hn hsafe fun jti hj => .inl hj
  | blacklistToken jti ttlSeconds reason =>
    obtain ⟨rfl, hstg⟩ := halw
    have hfl : ∀ z ∈ l, ∀ p, z.inFlight = some p → p.token.jti = jti → reason = .rotation := by
      intro z hz p hp hjti
      by_contra hreason
      have hown : y.refreshes jti = false := by
        rcases hstg with ⟨p', userId, -, -, hrotation⟩ | rfl | ⟨owed, handed, rfl⟩
        · exact absurd hrotation hreason
        · rfl
        · rfl
      have hno := (hg.2 hreason).nobody hn hown hz
      rw [Stage.refreshes, hp, Option.any_some, hjti, beq_self_eq_true] at hno
      cases hno
    have hlis := h.blacklist ht hconfig hg.1 hfl
    have hnew : .blacklisted jti reason ∈
        (x.blacklistToken jti C.REFRESH_TOKEN_TTL_SECONDS reason).history := List.mem_cons_self
    rcases hstg with ⟨p, userId, rfl, rfl, rfl⟩ | rfl | ⟨owed, handed, rfl⟩
    · refine hlis.move hn ?_ fun jti hj => by cases hj
      have hsafe' := hlis.stages _ hy
      exact hsafe'.on rfl (hsafe'.bound p rfl fun hq => by cases hq) rfl (fun q hq => by cases hq)
        fun jti hj => by cases hj; exact ⟨_, hnew⟩
    · refine hlis.move hn ⟨fun j hj => ?_, ?_, ?_, ?_⟩ fun j hj => by cases hj
      · cases hj
        exact ⟨reason, hnew⟩
      all_goals
        intro p hp
        cases hp
    · refine hlis.move hn (.of_none rfl rfl) fun j hj => ?_
      rcases List.mem_cons.mp hj with rfl | hj
      · exact .inr ⟨reason, hnew⟩
      · exact .inl hj
  | deleteSessions jtis =>
    have hown : y.mismatched x jtis = false := by
      rcases halw with ⟨p, userId, rfl, -⟩ | ⟨jti, rfl, -⟩ | ⟨reason, handed, rfl⟩ <;> rfl
    have hcover : ∀ jti ∈ jtis, (∃ reason, .blacklisted jti reason ∈ x.history) ∨
        ∃ y ∈ l, jti ∈ y.owed := by
      intro jti hj
      rcases halw with ⟨p, userId, rfl, rfl⟩ | ⟨jti', rfl, rfl⟩ | ⟨reason, handed, rfl⟩
      · rw [List.mem_singleton.mp hj]
        exact .inl (hsafe.unlisting _ rfl)
      · rw [List.mem_singleton.mp hj]
        exact .inl (hsafe.unlisting _ rfl)
      · exact .inr ⟨_, hy, hj⟩
    have hdel := h.delete ht hcover fun z hz => NoOther.nobody hg hn hown hz
    rcases halw with ⟨p, userId, rfl, rfl⟩ | ⟨jti, rfl, rfl⟩ | ⟨reason, handed, rfl⟩
    · refine hdel.move hn ?_ fun jti hj => by cases hj
      have hsafe' := hdel.stages _ hy
      exact hsafe'.on rfl (hsafe'.bound p rfl fun hq => by cases hq) rfl (fun q hq => by cases hq)
        fun jti hj => by cases hj
    · exact hdel.move hn (.of_none rfl rfl) fun jti hj => by cases hj
    · exact hdel.move hn (.of_none rfl rfl) fun jti hj => .inl hj
  | addSession userId ip userAgent parent =>
    have howed : y.owed = [] := by
      rcases halw with ⟨rfl, -⟩ | ⟨p, rfl, -⟩ <;> rfl
    refine (h.add ht hconfig fun q hq => ?_).move hn (.of_none rfl rfl) fun jti hj => ?_
    · rcases halw with ⟨-, hnone⟩ | ⟨p, rfl, hip, -, hsome⟩
      · rw [hnone] at hq
        cases hq
      · rw [hsome] at hq
        cases hq
        have hbd : Bound x p := hsafe.bound p rfl fun heq => by cases heq
        exact ⟨p, (ht.stages _ hy).presented p rfl, rfl, hip, hbd, hsafe.flight p rfl⟩
    · rw [howed] at hj
      cases hj
  | findDuplicates userId ip userAgent jti =>
    have halw : y = .added userId ip userAgent jti := halw
    subst halw
    exact h.move hn (.of_none rfl rfl) fun jti hj => by cases hj
  | findUserSessions userId exceptJti =>
    have halw : y = .listing userId exceptJti := halw
    subst halw
    have hkept : RevocationInv (answer C H (.findUserSessions userId exceptJti) x).2 l :=
      h.keep ht (sameTokens_answer C H (fun _ _ _ _ hi => by cases hi) x)
        (.inr ⟨_, rfl, by simp, by simp⟩)
        (fun _ _ hrow => .inl hrow) fun _ hs => .inl hs
    exact hkept.move hn (.of_none rfl rfl) fun jti hj => by cases hj
  | _ => exact (h.off ht rfl).move hn ((h.off ht rfl).stages y hy) fun jti hj => .inl hj

end RevocationInv

end Ask

/-! ## The revocation of all sessions -/

/-- The sessions of the user were listed when `m` numbers were drawn; `left` are those that are
still to be removed. -/
structure Swept (x : AuthDb) (l : List Stage) (userId : String) (exceptJti : Option Nat) (m : Nat)
    (left : List Nat) : Prop where
  drawn : m ≤ x.drawn
  listed : .listed userId exceptJti m ∈ x.history
  parents : ∀ jti ip parent on, .signed jti userId ip (some parent) on ∈ x.history → m ≤ jti →
    parent < m → exceptJti = some parent
  session : ∀ s ∈ x.session, s.userId = userId → s.jti < m → exceptJti ≠ some s.jti → s.jti ∈ left
  flight : ∀ y ∈ l, ∀ p, y.inFlight = some p → p.token.sub = userId → p.token.jti < m →
    exceptJti = some p.token.jti

section Sweep

variable {C : AuthConfig} {H : AuthHost} {x x' : AuthDb} {l : List Stage} {n m : Nat} {y : Stage}
  {userId : String} {exceptJti : Option Nat} {left : List Nat}

theorem mem_history_answer {e : AuthEvent} (i : AuthInstr) (h : e ∈ x.history) :
    e ∈ (answer C H i x).2.history := by
  cases i with
  | incrementLoginAttempts key =>
    simp only [answer, AuthDb.incrementLoginAttempts]
    split
    · exact h
    · exact List.mem_cons_of_mem _ h
  | verifyLogin ip username password user =>
    simp only [answer]
    split
    · exact h
    · exact List.mem_cons_of_mem _ h
  | blacklistToken jti ttlSeconds reason => exact List.mem_cons_of_mem _ h
  | findUserSessions userId exceptJti => exact List.mem_cons_of_mem _ h
  | addSession userId ip userAgent parent => exact List.mem_cons_of_mem _ h
  | updateTotpSecret id secret => exact List.mem_cons_of_mem _ h
  | _ => exact h

theorem history_outside (change : AuthChange) : (AuthDb.outside change x).history = x.history := by
  cases change <;> simp only [AuthDb.outside] <;> first | rfl | (split <;> rfl)

/-- How a token gets into flight. -/
theorem inFlight_after {p : Presented} {i : AuthInstr} (halw : stageAllows C y i)
    (h : (stageAfter y i (answer C H i x).1).inFlight = some p) :
    y.inFlight = some p ∨
      (y = .checking p ∧ i = .isTokenBlacklisted p.token.jti ∧
        x.isTokenBlacklisted p.token.jti = false) ∨
      (y = .raced p ∧ i = .wasBlacklistedRecently p.token.jti C.REFRESH_RACE_GRACE_MS ∧
        x.wasBlacklistedRecently p.token.jti C.REFRESH_RACE_GRACE_MS = true) := by
  cases i with
  | verifyRefreshToken token =>
    have hnone : ∀ r : Option RefreshToken,
        (stageAfter y (.verifyRefreshToken token) r).inFlight = none := by
      intro r
      rcases halw with ⟨ip, userAgent, rfl⟩ | rfl <;> cases r <;> rfl
    rw [hnone] at h
    cases h
  | isTokenBlacklisted jti =>
    obtain ⟨q, rfl, rfl⟩ := halw
    have h : (if x.isTokenBlacklisted q.token.jti = true then Stage.raced q else .unbound q).inFlight =
        some p := h
    by_cases hlis : x.isTokenBlacklisted q.token.jti = true
    · rw [if_pos hlis] at h
      cases h
    · rw [if_neg hlis] at h
      cases h
      exact .inr (.inl ⟨rfl, rfl, Bool.eq_false_iff.mpr hlis⟩)
  | wasBlacklistedRecently jti windowMs =>
    obtain ⟨q, rfl, rfl, rfl⟩ := halw
    have h : (if x.wasBlacklistedRecently q.token.jti C.REFRESH_RACE_GRACE_MS = true then
        Stage.admitted q false else .quiet).inFlight = some p := h
    by_cases hrec : x.wasBlacklistedRecently q.token.jti C.REFRESH_RACE_GRACE_MS = true
    · rw [if_pos hrec] at h
      cases h
      exact .inr (.inr ⟨rfl, rfl, hrec⟩)
    · rw [if_neg hrec] at h
      cases h
  | getSessionMeta jti =>
    obtain ⟨q, rfl, rfl⟩ := halw
    have h : (if (x.getSessionMeta q.token.jti).any (fun s => s.ip != q.ip) = true then
        Stage.expelling q.token.jti .ipMismatch else .admitted q true).inFlight = some p := h
    split at h
    · cases h
    · exact .inl h
  | findById id =>
    by_cases hadm : ∃ q rotates, y = .admitted q rotates
    · obtain ⟨q, rotates, rfl⟩ := hadm
      have h : (stageAfter (.admitted q rotates) (.findById id) (x.findById id)).inFlight =
          some p := h
      cases hfnd : x.findById id with
      | none =>
        rw [hfnd] at h
        cases rotates <;> cases h
      | some user =>
        rw [hfnd] at h
        cases rotates <;> exact .inl h
    · have hkept := (stageProtocol_findById (C := C) id
        fun p rotates hy => hadm ⟨p, rotates, hy⟩).2 (answer C H (.findById id) x).1
      have hkept : stageAfter y (.findById id) (answer C H (.findById id) x).1 = y := hkept
      rw [hkept] at h
      exact .inl h
  | blacklistToken jti ttlSeconds reason =>
    obtain ⟨-, ⟨q, u, rfl, -⟩ | rfl | ⟨owed, handed, rfl⟩⟩ := halw
    · exact .inl h
    · cases h
    · cases h
  | deleteSessions jtis =>
    obtain ⟨q, u, rfl, -⟩ | ⟨jti, rfl, -⟩ | ⟨reason, handed, rfl⟩ := halw
    · exact .inl h
    · cases h
    · cases h
  | addSession u ip userAgent parent => cases h
  | findDuplicates u ip userAgent jti => cases h
  | findUserSessions u except => cases h
  | _ => exact .inl h

/-- What a call that lists the sessions of a user may do. -/
theorem after_listing {i : AuthInstr} (halw : stageAllows C (.listing userId exceptJti) i) :
    i = .findUserSessions userId exceptJti ∨
      ∀ r, stageAfter (.listing userId exceptJti) i r = .listing userId exceptJti := by
  cases i with
  | verifyRefreshToken token => rcases halw with ⟨_, _, h⟩ | h <;> cases h
  | isTokenBlacklisted jti =>
    obtain ⟨_, h, -⟩ := halw
    cases h
  | wasBlacklistedRecently jti windowMs =>
    obtain ⟨_, h, -⟩ := halw
    cases h
  | getSessionMeta jti =>
    obtain ⟨_, h, -⟩ := halw
    cases h
  | blacklistToken jti ttlSeconds reason =>
    rcases halw with ⟨-, ⟨_, _, h, -⟩ | h | ⟨_, _, h⟩⟩ <;> cases h
  | deleteSessions jtis =>
    rcases halw with ⟨_, _, h, -⟩ | ⟨_, h, -⟩ | ⟨_, _, h⟩ <;> cases h
  | addSession u ip userAgent parent => rcases halw with ⟨h, -⟩ | ⟨_, h, -⟩ <;> cases h
  | findDuplicates u ip userAgent jti => cases halw
  | findUserSessions u except =>
    cases halw
    exact .inl rfl
  | _ => exact .inr fun _ => rfl

/-- What a call that removes listed sessions may do. -/
theorem after_sweeping {i : AuthInstr} {reason : Reason} {owed : List Nat} {deleted : Bool}
    {handed : Option Nat} (halw : stageAllows C (.sweeping reason owed deleted handed) i) :
    (deleted = true ∧ ∃ jti ttlSeconds, i = .blacklistToken jti ttlSeconds reason) ∨
      (deleted = false ∧ i = .deleteSessions owed) ∨
      ∀ r, stageAfter (.sweeping reason owed deleted handed) i r =
        .sweeping reason owed deleted handed := by
  cases i with
  | verifyRefreshToken token => rcases halw with ⟨_, _, h⟩ | h <;> cases h
  | isTokenBlacklisted jti =>
    obtain ⟨_, h, -⟩ := halw
    cases h
  | wasBlacklistedRecently jti windowMs =>
    obtain ⟨_, h, -⟩ := halw
    cases h
  | getSessionMeta jti =>
    obtain ⟨_, h, -⟩ := halw
    cases h
  | blacklistToken jti ttlSeconds reason =>
    obtain ⟨-, ⟨_, _, h, -⟩ | h | ⟨_, _, h⟩⟩ := halw
    · cases h
    · cases h
    · cases h
      exact .inl ⟨rfl, _, _, rfl⟩
  | deleteSessions jtis =>
    obtain ⟨_, _, h, -⟩ | ⟨_, h, -⟩ | ⟨_, _, h⟩ := halw
    · cases h
    · cases h
    · cases h
      exact .inr (.inl ⟨rfl, rfl⟩)
  | addSession u ip userAgent parent => rcases halw with ⟨h, -⟩ | ⟨_, h, -⟩ <;> cases h
  | findDuplicates u ip userAgent jti => cases halw
  | findUserSessions u except => cases halw
  | _ => exact .inr (.inr fun _ => rfl)

namespace Swept

theorem keep (h : Swept x l userId exceptJti m left) (hsame : SameTokens x x')
    (hhist : ∀ e ∈ x.history, e ∈ x'.history) : Swept x' l userId exceptJti m left where
  drawn := by
    rw [hsame.drawn]
    exact h.drawn
  listed := hhist _ h.listed
  parents jti ip parent on he := h.parents jti ip parent on ((hsame.signed _ _ _ _ _).mp he)
  session s hs := h.session s (hsame.session s hs)
  flight := h.flight

/-- The token of a refresh that gets into flight was not listed, or is exempt. -/
theorem spared (h : Swept x l userId exceptJti m left) (ht : TokensOk C x l)
    (hr : RevocationInv x l) (hleft : ∀ jti ∈ left, ∃ y ∈ l, jti ∈ y.owed) (hn : l[n]? = some y)
    {p : Presented} {i : AuthInstr} (hg : Undisturbed x l n i)
    (hfl : (y = .checking p ∧ i = .isTokenBlacklisted p.token.jti ∧
        x.isTokenBlacklisted p.token.jti = false) ∨
      (y = .raced p ∧ i = .wasBlacklistedRecently p.token.jti C.REFRESH_RACE_GRACE_MS ∧
        x.wasBlacklistedRecently p.token.jti C.REFRESH_RACE_GRACE_MS = true))
    (huser : p.token.sub = userId) (hlt : p.token.jti < m) : exceptJti = some p.token.jti := by
  rcases hfl with ⟨rfl, rfl, halw⟩ | ⟨rfl, rfl, hrec⟩
  · by_contra hexc
    have hiss : p.token ∈ x.issued := (ht.stages _ (List.mem_of_getElem? hn)).presented p rfl
    have hlive := presented_unexpired hn rfl hg.1
    have hnobody : ∀ z ∈ l, p.token.jti ∉ z.owed := by
      intro z hz hin
      have hno : z.owed.contains p.token.jti = false := (hg.2 halw).nobody hn rfl hz
      rw [List.contains_iff_mem.mpr hin] at hno
      cases hno
    rcases hr.kept p.token hiss with hexp | ⟨reason, he⟩ | ⟨s, hs, hjti⟩ | ⟨z, hz, hin⟩
    · exact not_expired hlive hexp
    · exact hr.not_listed hiss hlive halw reason he
    · obtain ⟨ip, parent, on, hsig⟩ := ht.issued p.token hiss
      obtain ⟨parent', on', hsig'⟩ := ht.session s hs
      rw [hjti] at hsig'
      have hsame := (ht.signedOnce _ _ _ _ _ _ _ _ _ hsig' hsig).1
      rw [← hjti] at hlt hexc
      obtain ⟨z, hz, hin⟩ := hleft _ (h.session s hs (hsame.trans huser) hlt hexc)
      rw [hjti] at hin
      exact hnobody z hz hin
    · exact hnobody z hz hin
  · have hdue := List.all_eq_true.mp (graceDue_of hn rfl (hg hrec)) _ h.listed
    have hspared : (userId = p.token.sub → m ≤ p.token.jti) ∨ exceptJti = some p.token.jti := by
      simpa [rotatedOnly, boundTo, sparedBy, imp_iff_not_or] using hdue
    rcases hspared with hold | hexc
    · exact absurd (hold huser.symm) (Nat.not_le.mpr hlt)
    · exact hexc

/-- A call performs its next instruction. -/
theorem ask (h : Swept x l userId exceptJti m left) (ht : TokensOk C x l) (hr : RevocationInv x l)
    (hleft : ∀ jti ∈ left, ∃ y ∈ l, jti ∈ y.owed) (hn : l[n]? = some y) {i : AuthInstr}
    (halw : stageAllows C y i) (hg : Undisturbed x l n i) :
    Swept (answer C H i x).2 (l.set n (stageAfter y i (answer C H i x).1)) userId exceptJti m
      left := by
  have hy : y ∈ l := List.mem_of_getElem? hn
  have hfl : ∀ z ∈ l.set n (stageAfter y i (answer C H i x).1), ∀ p, z.inFlight = some p →
      p.token.sub = userId → p.token.jti < m → exceptJti = some p.token.jti := by
    intro z hz p hp huser hlt
    rcases List.mem_or_eq_of_mem_set hz with hz | rfl
    · exact h.flight z hz p hp huser hlt
    · rcases inFlight_after halw hp with hp | hnew
      · exact h.flight y hy p hp huser hlt
      · exact h.spared ht hr hleft hn hg hnew huser hlt
  by_cases hadd : ∃ u ip userAgent parent, i = .addSession u ip userAgent parent
  · obtain ⟨u, ip, userAgent, parent, rfl⟩ := hadd
    refine ⟨Nat.le_succ_of_le h.drawn, List.mem_cons_of_mem _ h.listed, ?_, ?_, hfl⟩
    · intro jti ip' q on he hle hlt
      rcases List.mem_cons.mp he with heq | he
      · cases heq
        rcases halw with ⟨-, hnone⟩ | ⟨p, rfl, -, -, hsome⟩
        · cases hnone
        · cases hsome
          exact h.flight _ hy p rfl ((ht.stages _ hy).acting p _ rfl).symm hlt
      · exact h.parents jti ip' q on he hle hlt
    · intro s hs huser hlt hexc
      rcases List.mem_snoc.mp hs with hs | rfl
      · exact h.session s hs huser hlt hexc
      · exact absurd h.drawn (Nat.not_le.mpr hlt)
  · have hkept := h.keep (sameTokens_answer C H (fun u a b q hi => hadd ⟨u, a, b, q, hi⟩) x)
      fun e he => mem_history_answer i he
    exact ⟨hkept.drawn, hkept.listed, hkept.parents, hkept.session, hfl⟩

/-- No listed session is left. -/
theorem removed (h : Swept x l userId exceptJti m left) (hgone : ∀ s ∈ x.session, s.jti ∉ left) :
    Swept x l userId exceptJti m [] :=
  ⟨h.drawn, h.listed, h.parents, fun s hs huser hlt hexc =>
    absurd (h.session s hs huser hlt hexc) (hgone s hs), h.flight⟩

end Swept

/-- The call with the number `k` revokes the sessions of a user, since `drawn` numbers were
drawn. -/
def RevokesAll (drawn k : Nat) (userId : String) (exceptJti : Option Nat) (x : AuthDb)
    (l : List Stage) : Prop :=
  drawn ≤ x.drawn ∧ (l[k]? = some (.listing userId exceptJti) ∨
    ∃ owed deleted m, l[k]? = some (.sweeping .revocation owed deleted none) ∧ drawn ≤ m ∧
      Swept x l userId exceptJti m (if deleted then [] else owed))

theorem drawn_answer (i : AuthInstr) : x.drawn ≤ (answer C H i x).2.drawn := by
  by_cases hadd : ∃ u ip userAgent parent, i = .addSession u ip userAgent parent
  · obtain ⟨u, ip, userAgent, parent, rfl⟩ := hadd
    exact Nat.le_succ _
  · rw [(sameTokens_answer C H (fun u a b q hi => hadd ⟨u, a, b, q, hi⟩) x).drawn]

namespace RevokesAll

variable {drawn k : Nat}

/-- The sessions of the user are listed. -/
theorem lists (ht : TokensOk C x l) (hn : l[n]? = some (.listing userId exceptJti))
    (hg : Undisturbed x l n (.findUserSessions userId exceptJti)) :
    Swept (answer C H (.findUserSessions userId exceptJti) x).2
      (l.set n (.sweeping .revocation (x.findUserSessions userId exceptJti) false none)) userId
      exceptJti x.drawn (x.findUserSessions userId exceptJti) where
  drawn := Nat.le_refl _
  listed := List.mem_cons_self
  parents jti ip parent on he hle _ := by
    have he := (List.mem_cons.mp he).resolve_left fun heq => by cases heq
    exact absurd (ht.signed _ _ _ _ _ he) (Nat.not_lt.mpr hle)
  session s hs huser _ hexc := by
    refine List.mem_map.mpr ⟨s, List.mem_filter.mpr ⟨hs, ?_⟩, rfl⟩
    simp only [huser, beq_self_eq_true, Bool.true_and, bne_iff_ne]
    exact hexc.symm
  flight z hz p hp huser _ := by
    rcases List.mem_or_eq_of_mem_set hz with hz | rfl
    · have hno := NoOther.nobody hg hn rfl hz
      rw [Stage.refreshesFor, hp, Option.any_some, huser, beq_self_eq_true] at hno
      cases hno
    · cases hp

theorem ask (h : RevokesAll drawn k userId exceptJti x l) (ht : TokensOk C x l)
    (hr : RevocationInv x l) (hn : l[n]? = some y) {i : AuthInstr} (halw : stageAllows C y i)
    (hg : Undisturbed x l n i) :
    RevokesAll drawn k userId exceptJti (answer C H i x).2
      (l.set n (stageAfter y i (answer C H i x).1)) := by
  obtain ⟨hdr, hcall⟩ := h
  refine ⟨Nat.le_trans hdr (drawn_answer i), ?_⟩
  have hset : ∀ z, (l.set n z)[n]? = some z := fun z =>
    List.getElem?_set_self (List.getElem?_eq_some_iff.mp hn).1
  by_cases hnk : n = k
  · subst hnk
    rcases hcall with hlst | ⟨owed, deleted, m, hsweeping, hm, hswp⟩
    · rw [hn] at hlst
      cases hlst
      rcases after_listing halw with rfl | hsame
      · exact .inr ⟨_, false, x.drawn, hset _, hdr, lists ht hn hg⟩
      · rw [hsame]
        exact .inl (hset _)
    · rw [hn] at hsweeping
      cases hsweeping
      have hleft : ∀ jti ∈ (if deleted then [] else owed), ∃ z ∈ l, jti ∈ z.owed := by
        intro jti hj
        refine ⟨_, List.mem_of_getElem? hn, ?_⟩
        cases deleted with
        | false => exact hj
        | true => cases hj
      have hasked := hswp.ask (H := H) ht hr hleft hn halw hg
      rcases after_sweeping halw with ⟨rfl, jti, ttlSeconds, rfl⟩ | ⟨rfl, rfl⟩ | hsame
      · exact .inr ⟨_, true, m, hset _, hm, hasked⟩
      · refine .inr ⟨_, true, m, hset _, hm, hasked.removed fun s hs hin => ?_⟩
        have hkept := (List.mem_filter.mp hs).2
        have hin : s.jti ∈ owed := hin
        rw [List.contains_iff_mem.mpr hin] at hkept
        cases hkept
      · rw [hsame] at hasked ⊢
        exact .inr ⟨owed, deleted, m, hset _, hm, hasked⟩
  · rw [List.getElem?_set_ne hnk]
    rcases hcall with hlst | ⟨owed, deleted, m, hsweeping, hm, hswp⟩
    · exact .inl hlst
    · refine .inr ⟨owed, deleted, m, hsweeping, hm, hswp.ask ht hr ?_ hn halw hg⟩
      intro jti hj
      refine ⟨_, List.mem_of_getElem? hsweeping, ?_⟩
      cases deleted with
      | false => exact hj
      | true => cases hj

theorem outside (h : RevokesAll drawn k userId exceptJti x l) (change : AuthChange) :
    RevokesAll drawn k userId exceptJti (AuthDb.outside change x) l := by
  obtain ⟨hdr, hcall⟩ := h
  have hsame := sameTokens_outside change x
  refine ⟨by rw [hsame.drawn]; exact hdr, ?_⟩
  rcases hcall with hlst | ⟨owed, deleted, m, hsweeping, hm, hswp⟩
  · exact .inl hlst
  · refine .inr ⟨owed, deleted, m, hsweeping, hm, hswp.keep hsame fun e he => ?_⟩
    rwa [history_outside]

theorem call (h : RevokesAll drawn k userId exceptJti x l) (request : AuthRequest) :
    RevokesAll drawn k userId exceptJti x (l ++ [request.stage]) := by
  obtain ⟨hdr, hcall⟩ := h
  have hkept : ∀ {z : Stage}, l[k]? = some z → (l ++ [request.stage])[k]? = some z := by
    intro z hz
    rwa [List.getElem?_append_left (List.getElem?_eq_some_iff.mp hz).1]
  refine ⟨hdr, ?_⟩
  rcases hcall with hlst | ⟨owed, deleted, m, hsweeping, hm, hswp⟩
  · exact .inl (hkept hlst)
  · refine .inr ⟨owed, deleted, m, hkept hsweeping, hm, hswp.drawn, hswp.listed, hswp.parents,
      hswp.session, fun z hz p hp => ?_⟩
    rcases List.mem_snoc.mp hz with hz | rfl
    · exact hswp.flight z hz p hp
    · cases request <;> cases hp

/-- Once nothing is left to remove, no session derives from an earlier token. -/
theorem none_derived {deleted : Bool} (h : RevokesAll drawn k userId exceptJti x l)
    (hk : l[k]? = some (.sweeping .revocation [] deleted none)) :
    NoneDerived x userId exceptJti drawn := by
  obtain ⟨-, hlst | ⟨owed, deleted', m, hsweeping, hm, hswp⟩⟩ := h
  · rw [hk] at hlst
    cases hlst
  · rw [hk] at hsweeping
    cases hsweeping
    have hearly : ∀ token < drawn, ∀ jti, Derived x.history userId exceptJti token jti →
        jti < m ∧ exceptJti ≠ some jti := by
      intro token htok jti hderived
      induction hderived with
      | self hexc => exact ⟨Nat.lt_of_lt_of_le htok hm, hexc⟩
      | refresh _ hsig hexc ih =>
        refine ⟨Nat.lt_of_not_le fun hle => ih.2 ?_, hexc⟩
        exact hswp.parents _ _ _ _ hsig hle ih.1
    intro s hs huser token htok hderived
    obtain ⟨hlt, hexc⟩ := hearly token htok s.jti hderived
    have hleft := hswp.session s hs huser hlt hexc
    cases deleted <;> cases hleft

end RevokesAll

end Sweep

/-! ## Revocation is final -/

section Final

variable {C : AuthConfig} {H : AuthHost} {s s₁ s' : AuthRun}

/-- The call with the number `k` has returned from `revokeAllSessions`. -/
def HasRevoked (s : AuthRun) (k : Nat) : Prop :=
  ∃ c, s.calls[k]? = some c ∧ ∃ count, c.2.result? = some (.ok (.revoked count))

theorem revocationInv_init : RevocationInv AuthDb.init [] where
  final := trivial
  bound jti userId ip token on he := absurd he (by simp [AuthDb.init])
  drawn jti reason he := absurd he (by simp [AuthDb.init])
  listed t ht := absurd ht (by simp [AuthDb.init])
  kept t ht := absurd ht (by simp [AuthDb.init])
  outlives s hs := absurd hs (by simp [AuthDb.init])
  stages y hy := absurd hy (by simp)

theorem stageSafe_start (x : AuthDb) (request : AuthRequest) : StageSafe x request.stage := by
  cases request <;> exact .of_none rfl rfl

/-- What every run under the condition keeps. -/
theorem revocation_inv (hconfig : C.JWT_REFRESH_EXPIRES_IN ≤ C.REFRESH_TOKEN_TTL_SECONDS)
    (hs : Reach (authStep C H) (Phased.Within Undisturbed) ⟨AuthDb.init, []⟩ s) :
    (TokensOk C s.store s.phases ∧ RevocationInv s.store s.phases) ∧
      ∀ c ∈ s.calls, c.2.Follows (stageProtocol C) Stage.ends c.1 := by
  refine Phased.invariant (I := fun x l => TokensOk C x l ∧ RevocationInv x l) (request_stages H)
    ⟨TokensOk.init C, revocationInv_init⟩ ?_ ?_ ?_ hs
  · exact fun change x l ⟨ht, hr⟩ => ⟨ht.keep (sameTokens_outside change x), hr.outside ht change⟩
  · exact fun request x l ⟨ht, hr⟩ => ⟨ht.call request, hr.begin (stageSafe_start x request)⟩
  · exact fun x l n y i ⟨ht, hr⟩ hn halw hg =>
      ⟨ht.ask hn halw, hr.ask ht hconfig hn halw hg⟩

/-- After a call of `revokeAllSessions` has returned, no session derives from an earlier token. -/
theorem revoked_all (hconfig : C.JWT_REFRESH_EXPIRES_IN ≤ C.REFRESH_TOKEN_TTL_SECONDS)
    (hs : Reach (authStep C H) (Phased.Within Undisturbed) ⟨AuthDb.init, []⟩ s) {userId : String}
    {currentJti : Option Nat} (hcall : authStep C H s (.call (.revokeAllSessions userId currentJti)) =
      some s₁)
    (hs' : Reach (authStep C H) (Phased.Within Undisturbed) s₁ s')
    (hdone : HasRevoked s' s.calls.length) :
    NoneDerived s'.store userId currentJti s.store.drawn := by
  obtain ⟨⟨ht, hr⟩, hfol⟩ := revocation_inv hconfig hs
  obtain ⟨⟨y, p⟩, hcall', count, hres⟩ := hdone
  cases hcall
  have hbeg : RevokesAll s.store.drawn s.calls.length userId currentJti s.store
      (s.phases ++ [.listing userId currentJti]) := by
    refine ⟨Nat.le_refl _, .inl ?_⟩
    have hlen : s.phases.length = s.calls.length := List.length_map _
    rw [List.getElem?_append_right (Nat.le_of_eq hlen), hlen, Nat.sub_self]
    rfl
  have hphases : Phased.phases ⟨s.store, s.calls ++
      [((AuthRequest.revokeAllSessions userId currentJti).stage,
        (authService C H).program (.revokeAllSessions userId currentJti))]⟩ =
      s.phases ++ [.listing userId currentJti] := List.map_append
  have hkept := Phased.invariant_from (T := stageProtocol C) (G := Undisturbed)
    (I := fun x l => (TokensOk C x l ∧ RevocationInv x l) ∧
      RevokesAll s.store.drawn s.calls.length userId currentJti x l)
    (request_stages H) ?_ ?_ ?_ ?_ ?_ hs'
  · obtain ⟨⟨-, hrevokes⟩, hfol'⟩ := hkept
    have hends := hfol' _ (List.mem_of_getElem? hcall')
    cases p with
    | ask i next => cases hres
    | done r =>
      cases hres
      obtain ⟨deleted, hy⟩ := hends
      have hph : s'.phases[s.calls.length]? =
          some (.sweeping .revocation [] deleted none) := by
        simpa [Phased.phases, hcall'] using hy
      exact hrevokes.none_derived hph
  · rw [hphases]
    exact ⟨⟨ht.call (.revokeAllSessions userId currentJti),
      hr.begin (stageSafe_start _ (.revokeAllSessions userId currentJti))⟩, hbeg⟩
  · intro c hc
    rcases List.mem_snoc.mp hc with hc | rfl
    · exact hfol c hc
    · exact request_stages H (.revokeAllSessions userId currentJti)
  · rintro change x l ⟨⟨ht, hr⟩, hall⟩
    exact ⟨⟨ht.keep (sameTokens_outside change x), hr.outside ht change⟩, hall.outside change⟩
  · rintro request x l ⟨⟨ht, hr⟩, hall⟩
    exact ⟨⟨ht.call request, hr.begin (stageSafe_start x request)⟩, hall.call request⟩
  · rintro x l n y i ⟨⟨ht, hr⟩, hall⟩ hn halw hg
    exact ⟨⟨ht.ask hn halw, hr.ask ht hconfig hn halw hg⟩,
      hall.ask ht hr hn halw hg⟩

end Final

/-! ## One user -/

/-- How many sessions a call has revoked. -/
def revokedBy : Prog AuthInstr Answer (Except AuthError AuthResult) → Option Nat
  | .done (.ok (.revoked count)) => some count
  | _ => none

theorem hasRevoked_of {s : AuthRun} {k count : Nat}
    (h : (s.calls[k]?.bind fun c => revokedBy c.2) = some count) : HasRevoked s k := by
  obtain ⟨c, hc, hcnt⟩ := Option.bind_eq_some_iff.mp h
  refine ⟨c, hc, count, ?_⟩
  obtain ⟨y, p⟩ := c
  cases p with
  | ask i next => cases hcnt
  | done r =>
    cases r with
    | error e => cases hcnt
    | ok result =>
      cases result with
      | revoked n =>
        cases hcnt
        rfl
      | _ => cases hcnt

/-- The sessions are revoked, and the rest of the run follows. -/
theorem revokes_of_run {ok : AuthRun → Event AuthChange AuthRequest → Prop}
    [∀ s a, Decidable (ok s a)] {s : AuthRun} {userId : String} {currentJti : Option Nat}
    {l : List (Event AuthChange AuthRequest)} {Q : AuthRun → Prop} [DecidablePred Q]
    (h : ((userStep s (.call (.revokeAllSessions userId currentJti))).any fun s₁ =>
      (run userStep ok s₁ l).any fun s' => decide (Q s')) = true) :
    ∃ s₁ s', userStep s (.call (.revokeAllSessions userId currentJti)) = some s₁ ∧
      Reach userStep ok s₁ s' ∧ Q s' := by
  obtain ⟨s₁, hs₁, hrun⟩ := (Option.any_eq_true _ _).mp h
  obtain ⟨s', hs', hq⟩ := Reach.of_run_any hrun
  exact ⟨s₁, s', hs₁, hs', hq⟩

/-- Two logins and a refresh. -/
def openSessions : List (Event AuthChange AuthRequest) :=
  newUser ++ callAlone 0 8 (loginFrom "203.0.113.7") ++
    callAlone 1 8 (.refreshTokens 0 "203.0.113.7" "browser") ++
    callAlone 2 8 (loginFrom "198.51.100.2")

/-- The end of the revocation, and a refused refresh after the grace period. -/
def revokeAndRefresh : List (Event AuthChange AuthRequest) :=
  List.replicate 4 (Event.advance 3) ++ [Event.outside (.tick 20000)] ++
    callAlone 4 3 (.refreshTokens 1 "203.0.113.7" "browser")

/-- A login, a logout, and a refresh of the token within the grace period. -/
def refreshAfterLogout : List (Event AuthChange AuthRequest) :=
  newUser ++ callAlone 0 8 (loginFrom "203.0.113.7") ++ callAlone 1 3 (.logout 0) ++
    callAlone 2 6 (.refreshTokens 0 "203.0.113.7" "browser")

/-- A login and a refresh, and another refresh of the token from elsewhere. -/
def refreshElsewhere : List (Event AuthChange AuthRequest) :=
  newUser ++ callAlone 0 8 (loginFrom "203.0.113.7") ++
    callAlone 1 8 (.refreshTokens 0 "203.0.113.7" "browser") ++
    callAlone 2 6 (.refreshTokens 0 "198.51.100.2" "browser")

end Meowbox.Auth
