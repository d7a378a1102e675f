import Meowbox.Auth.Service
import Meowbox.Lib.Phases

/-!
# The brute-force limits of `login`

A login reads the counters of its address and of its user name, verifies the password, and counts
the attempt when the password was wrong. A key is held by a login from the read of its counter to
the statement that counts or resets it.

`logins_bounded`: in a run in which no login reads a counter while another login holds its key, at
most `MAX_LOGIN_ATTEMPTS` failed verifications for an address and `MAX_USERNAME_ATTEMPTS` for a user
name fall into one lock window. Logins that overlap escape the limits (`logins_unbounded`): each of
them reads the counter before any of them has counted its attempt.

The window of a key begins with the failed attempt whose count opened its row and lasts while the
row does: until it expires, or a successful login resets it.
-/

namespace Meowbox.Auth

open Interleaved Fallible Stepping

/-! ## The bound -/

/-- A failed attempt from the address. -/
def failedFrom (ip : String) : AuthEvent → Bool
  | .failed ip' _ => ip' == ip
  | _ => false

/-- A failed attempt that counts for a key of user names. -/
def failedFor (key : String) : AuthEvent → Bool
  | .failed _ username => usernameKey username == key
  | _ => false

/-- The events since the window of the key was opened. -/
def sinceOpened (key : String) (history : List AuthEvent) : List AuthEvent :=
  history.takeWhile fun e => decide (e ≠ .opened key)

/-- The failed attempts in the window of a key: the one that opened it, and those since. -/
def windowFailures (p : AuthEvent → Bool) (key : String) (history : List AuthEvent) : Nat :=
  1 + (sinceOpened key history).countP p

/-- No lock window has more failed attempts than its limit allows. -/
structure LoginsBounded (C : AuthConfig) (x : AuthDb) : Prop where
  ip : ∀ ip, (x.liveAttempt ip).isSome = true →
    windowFailures (failedFrom ip) ip x.history ≤ C.MAX_LOGIN_ATTEMPTS
  username : ∀ username, (x.liveAttempt (usernameKey username)).isSome = true →
    windowFailures (failedFor (usernameKey username)) (usernameKey username) x.history ≤
      C.MAX_USERNAME_ATTEMPTS

/-! ## Where a login is -/

inductive LoginStage
  /-- The counters read so far. -/
  | reading (answers : List Nat)
  | admitted (ipAttempts userAttempts : Nat)
  /-- The password was wrong; the keys are still to be counted. -/
  | failed (owed : List String)
  /-- The password was right; the keys are still to be reset. -/
  | passed (owed : List String)
  | refused
deriving DecidableEq

structure LoginCall where
  ip : String
  username : String
  order : Order
  stage : LoginStage
deriving DecidableEq

/-- `none` for the other methods. -/
abbrev LoginPhase := Option LoginCall

namespace LoginCall

/-- The keys in the order of their reads. -/
def keys (c : LoginCall) : List String :=
  match c.order with
  | .first => [c.ip, usernameKey c.username]
  | .second => [usernameKey c.username, c.ip]

/-- The keys the login holds. -/
def held (c : LoginCall) : List String :=
  match c.stage with
  | .reading answers => c.keys.take answers.length
  | .admitted _ _ => c.keys
  | .failed owed => owed
  | .passed owed => owed
  | .refused => []

/-- The keys a failed attempt is still to be counted for. -/
def owed (c : LoginCall) : List String :=
  match c.stage with
  | .failed owed => owed
  | _ => []

/-- What a login that has read both counters does next. -/
def afterReads (C : AuthConfig) (c : LoginCall) (first second : Nat) : LoginStage :=
  let attempts := match c.order with
    | .first => (first, second)
    | .second => (second, first)
  if C.MAX_LOGIN_ATTEMPTS ≤ attempts.1 ∨ C.MAX_USERNAME_ATTEMPTS ≤ attempts.2 then .refused
  else .admitted attempts.1 attempts.2

end LoginCall

/-- The instructions that have to do with attempts. -/
def AuthInstr.attempts : AuthInstr → Bool
  | .getLoginAttempts _ => true
  | .incrementLoginAttempts _ => true
  | .resetLoginAttempts _ => true
  | .verifyLogin _ _ _ _ => true
  | _ => false

def loginAllows (c : LoginCall) : AuthInstr → Prop
  | .getLoginAttempts key => ∃ answers, c.stage = .reading answers ∧
      c.keys[answers.length]? = some key
  | .verifyLogin ip username _ _ => (∃ a u, c.stage = .admitted a u) ∧ ip = c.ip ∧
      username = c.username
  | .incrementLoginAttempts key => key ∈ c.owed
  | .resetLoginAttempts key => ∃ owed, c.stage = .passed owed ∧ key ∈ owed
  | _ => True

def loginAfter (C : AuthConfig) (c : LoginCall) : (i : AuthInstr) → Answer i → LoginStage
  | .getLoginAttempts _, r =>
    match c.stage with
    | .reading [] => .reading [r]
    | .reading (first :: _) => c.afterReads C first r
    | stage => stage
  | .verifyLogin _ _ _ user, r =>
    if user.isSome && r then .passed c.keys else .failed c.keys
  | .incrementLoginAttempts key, _ => .failed (c.owed.erase key)
  | .resetLoginAttempts key, _ => .passed (c.held.erase key)
  | _, _ => c.stage

def loginProtocol (C : AuthConfig) : Protocol LoginPhase AuthInstr Answer where
  allows y i :=
    match y with
    | none => i.attempts = false
    | some c => loginAllows c i
  after y i r := y.map fun c => { c with stage := loginAfter C c i r }

/-- The phase a call begins in. -/
def AuthRequest.loginPhase : AuthRequest → LoginPhase
  | .login username _ ip _ schedule => some ⟨ip, username, schedule.read, .reading []⟩
  | _ => none

/-- The key of a read. -/
def AuthInstr.readKey : AuthInstr → Option String
  | .getLoginAttempts key => some key
  | _ => none

/-- A counter is read only where no other login holds its key. -/
def ReadsAlone (_ : AuthDb) (phases : List LoginPhase) (n : Nat) (i : AuthInstr) : Prop :=
  ∀ key ∈ i.readKey, ∀ m ∈ List.range phases.length, m ≠ n → ∀ c ∈ (phases[m]?).join,
    key ∉ c.held

instance (x : AuthDb) (phases : List LoginPhase) (n : Nat) (i : AuthInstr) :
    Decidable (ReadsAlone x phases n i) :=
  inferInstanceAs (Decidable (∀ key ∈ i.readKey, ∀ m ∈ List.range phases.length, m ≠ n →
    ∀ c ∈ (phases[m]?).join, key ∉ c.held))

/-! ## The methods keep to the protocol -/

section Follows

variable {C : AuthConfig} {H : AuthHost} {c : LoginCall} {y : LoginPhase}

/-- Nothing is said of how a method ends. -/
abbrev anyEnd {φ α : Type} : φ → α → Prop := fun _ _ => True

theorem loginProtocol_quiet {i : AuthInstr} (h : i.attempts = false) :
    (loginProtocol C).allows y i ∧ ∀ r, (loginProtocol C).after y i r = y := by
  cases y with
  | none => exact ⟨h, fun _ => rfl⟩
  | some c =>
    constructor
    · show loginAllows c i
      cases i <;> trivial
    · intro r
      show some { c with stage := loginAfter C c i r } = some c
      cases i <;> first | rfl | cases h

/-- Without instructions on attempts a method stays in its phase. -/
theorem quiet_follows {α : Type} {p : AuthCall α} (h : Performs (fun i => i.attempts = false) p) :
    Follows (loginProtocol C) anyEnd y p :=
  Prog.follows_of_issues (fun _ hi => loginProtocol_quiet hi) (fun _ => trivial) h

theorem mem_keys_erase (c : LoginCall) :
    c.ip ∈ c.keys ∧ usernameKey c.username ∈ c.keys ∧
      usernameKey c.username ∈ c.keys.erase c.ip ∧ c.ip ∈ c.keys.erase (usernameKey c.username) := by
  unfold LoginCall.keys
  by_cases h : c.ip = usernameKey c.username
  · cases c.order <;> simp [← h]
  · have h' : usernameKey c.username ≠ c.ip := fun heq => h heq.symm
    cases c.order <;> simp [h, h']

/-- The two statements of a `Promise.all`, in either order. -/
theorem both_follows {α : Type} {order : Order} {i j : AuthInstr}
    {f : Answer i × Answer j → AuthCall α} (hi : (loginProtocol C).allows y i)
    (hj : (loginProtocol C).allows y j)
    (hij : ∀ r, (loginProtocol C).allows ((loginProtocol C).after y i r) j)
    (hji : ∀ s, (loginProtocol C).allows ((loginProtocol C).after y j s) i)
    (hf : ∀ r s z, Follows (loginProtocol C) anyEnd z (f (r, s))) :
    Follows (loginProtocol C) anyEnd y (both order i j >>= f) := by
  cases order with
  | first => exact follows_ask hi fun r => follows_ask (hij r) fun s => hf r s _
  | second => exact follows_ask hj fun s => follows_ask (hji s) fun r => hf r s _

theorem count_follows {order : Order} (hc : c.stage = .failed c.keys) :
    Follows (loginProtocol C) anyEnd (some c) (do
      let _ ← both order (.incrementLoginAttempts c.ip)
        (.incrementLoginAttempts (usernameKey c.username))
      throw (.unauthorized "Invalid credentials") : AuthCall AuthResult) := by
  obtain ⟨hip, huser, hipFirst, huserFirst⟩ := mem_keys_erase c
  have howed : c.owed = c.keys := by rw [LoginCall.owed, hc]
  refine both_follows ?_ ?_ (fun _ => ?_) (fun _ => ?_) fun _ _ _ => follows_throw trivial
  · show c.ip ∈ c.owed
    rwa [howed]
  · show usernameKey c.username ∈ c.owed
    rwa [howed]
  · show usernameKey c.username ∈ c.owed.erase c.ip
    rwa [howed]
  · show c.ip ∈ c.owed.erase (usernameKey c.username)
    rwa [howed]

variable {userAgent : String}

theorem generateTokenPair_quiet {user : User} {ip : String} {parent : Option Nat} :
    Performs (fun i => i.attempts = false) (generateTokenPair C user ip userAgent parent) :=
  performs_generateTokenPair rfl (fun _ => rfl) (fun _ => rfl) fun _ => rfl

theorem reset_follows {order : Order} {user : User} (hc : c.stage = .passed c.keys) :
    Follows (loginProtocol C) anyEnd (some c) (do
      let _ ← both order (.resetLoginAttempts c.ip)
        (.resetLoginAttempts (usernameKey c.username))
      let tokens ← generateTokenPair C user c.ip userAgent none
      return .loggedIn tokens user : AuthCall AuthResult) := by
  obtain ⟨hip, huser, hipFirst, huserFirst⟩ := mem_keys_erase c
  have hheld : c.held = c.keys := by rw [LoginCall.held, hc]
  refine both_follows ⟨_, hc, hip⟩ ⟨_, hc, huser⟩ (fun _ => ⟨_, rfl, ?_⟩) (fun _ => ⟨_, rfl, ?_⟩)
    fun _ _ _ => quiet_follows (performs_bind generateTokenPair_quiet fun _ => performs_pure _)
  · rwa [hheld]
  · rwa [hheld]

theorem authenticate_follows {a u : Nat} {password : String} {schedule : Schedule}
    (hc : c.stage = .admitted a u) :
    Follows (loginProtocol C) anyEnd (some c)
      (authenticate C c.username password c.ip userAgent schedule) := by
  refine follows_ask (loginProtocol_quiet rfl).1 fun user => ?_
  rw [(loginProtocol_quiet rfl).2]
  refine follows_ask ⟨⟨a, u, hc⟩, rfl, rfl⟩ fun r => ?_
  cases user with
  | none => exact count_follows rfl
  | some user =>
    cases r with
    | false => exact count_follows rfl
    | true => exact reset_follows rfl

/-- What a login does with the counters it has read. -/
theorem decided_follows {first second : Nat} {password : String} {schedule : Schedule}
    {attempts : Nat × Nat}
    (horder : attempts = match c.order with | .first => (first, second) | .second => (second, first)) :
    Follows (loginProtocol C) anyEnd (some { c with stage := c.afterReads C first second })
      (if C.MAX_LOGIN_ATTEMPTS ≤ attempts.1 then
          throw (.forbidden "Too many login attempts from this IP. Try again in 15 minutes.")
        else if C.MAX_USERNAME_ATTEMPTS ≤ attempts.2 then
          throw (.forbidden
            "Too many failed login attempts for this username. Try again in 15 minutes.")
        else authenticate C c.username password c.ip userAgent schedule : AuthCall AuthResult) := by
  by_cases hip : C.MAX_LOGIN_ATTEMPTS ≤ attempts.1
  · rw [if_pos hip]
    exact follows_throw trivial
  rw [if_neg hip]
  by_cases huser : C.MAX_USERNAME_ATTEMPTS ≤ attempts.2
  · rw [if_pos huser]
    exact follows_throw trivial
  rw [if_neg huser]
  have hstg : c.afterReads C first second = .admitted attempts.1 attempts.2 := by
    unfold LoginCall.afterReads
    rw [← horder, if_neg (not_or.mpr ⟨hip, huser⟩)]
  exact authenticate_follows (c := { c with stage := c.afterReads C first second }) hstg

theorem login_follows {username password ip : String} {schedule : Schedule} :
    Follows (loginProtocol C) anyEnd (some ⟨ip, username, schedule.read, .reading []⟩)
      (login C username password ip userAgent schedule) := by
  obtain ⟨order, increment, reset⟩ := schedule
  cases order with
  | first =>
    refine follows_ask ⟨[], rfl, rfl⟩ fun r => follows_ask ⟨[r], rfl, rfl⟩ fun s => ?_
    exact decided_follows (c := ⟨ip, username, .first, .reading [r]⟩) rfl
  | second =>
    refine follows_ask ⟨[], rfl, rfl⟩ fun s => follows_ask ⟨[s], rfl, rfl⟩ fun r => ?_
    exact decided_follows (c := ⟨ip, username, .second, .reading [s]⟩) rfl

theorem request_follows (H : AuthHost) (request : AuthRequest) :
    ((authService C H).program request).Follows (loginProtocol C) anyEnd request.loginPhase := by
  cases request with
  | login username password ip userAgent schedule => exact login_follows
  | refreshTokens refreshToken ip userAgent =>
    exact quiet_follows (performs_refreshTokens rfl (fun _ => rfl) (fun _ => rfl) (fun _ => rfl)
      (fun _ => rfl) (fun _ _ => rfl) (fun _ => rfl) (fun _ _ => rfl) fun _ _ => rfl)
  | logout refreshToken =>
    exact quiet_follows (performs_logout rfl (fun _ => rfl) fun _ => rfl)
  | revokeSession sessionId =>
    exact quiet_follows (performs_bind (performs_invalidate rfl rfl) fun _ => performs_pure _)
  | revokeAllSessions userId currentJti =>
    exact quiet_follows (performs_revokeAllSessions rfl (fun _ => rfl) fun _ => rfl)
  | enableTotp userId randomBytes => exact quiet_follows (performs_enableTotp rfl fun _ => rfl)
  | confirmTotp userId code => exact quiet_follows (performs_confirmTotp rfl rfl rfl)
  | disableTotp userId code currentPassword =>
    exact quiet_follows (performs_disableTotp rfl (fun _ _ => rfl) rfl rfl)

end Follows

/-! ## What a run keeps -/

/-- The failed attempts that are counted for a key. -/
def countsFor (key : String) (e : AuthEvent) : Bool := failedFrom key e || failedFor key e

/-- The events that the windows are made of. -/
def AuthEvent.ofWindow : AuthEvent → Bool
  | .failed _ _ => true
  | .opened _ => true
  | _ => false

/-- The counters a login has read and not yet used. -/
def LoginCall.seen (c : LoginCall) : List (String × Nat) :=
  match c.stage with
  | .reading answers => c.keys.zip answers
  | .admitted ipAttempts userAttempts =>
    [(c.ip, ipAttempts), (usernameKey c.username, userAttempts)]
  | _ => []

structure LoginInv (C : AuthConfig) (x : AuthDb) (l : List LoginPhase) : Prop where
  bounded : LoginsBounded C x
  /-- No two logins hold one key. -/
  alone : ∀ (m n : Nat) (c d : LoginCall), l[m]? = some (some c) → l[n]? = some (some d) → ∀ key ∈ c.held,
    key ∈ d.held → m = n
  counted : ∀ key row, x.liveAttempt key = some row →
    (sinceOpened key x.history).countP (countsFor key) ≤ row.count
  /-- Where no login is still to count the key, the row counts the attempt that opened it too. -/
  settled : ∀ key row, x.liveAttempt key = some row →
    (∀ (n : Nat) (c : LoginCall), l[n]? = some (some c) → key ∉ c.owed) →
    (sinceOpened key x.history).countP (countsFor key) + 1 ≤ row.count
  /-- A counter does not pass the value that was read of it. -/
  seen : ∀ (n : Nat) (c : LoginCall), l[n]? = some (some c) → ∀ s ∈ c.seen, x.getLoginAttempts s.1 ≤ s.2
  admitted : ∀ (n : Nat) (c : LoginCall) (a u : Nat), l[n]? = some (some c) → c.stage = .admitted a u →
    a < C.MAX_LOGIN_ATTEMPTS ∧ u < C.MAX_USERNAME_ATTEMPTS

section Windows

variable {x x' : AuthDb} {key : String} {e : AuthEvent} {p : AuthEvent → Bool}
  {history : List AuthEvent}

theorem failedFrom_failed {ip : String} (h : failedFrom ip e = true) :
    ∃ ip username, e = .failed ip username := by
  cases e <;> first | exact ⟨_, _, rfl⟩ | exact absurd h (by simp [failedFrom])

theorem failedFor_failed (h : failedFor key e = true) : ∃ ip username, e = .failed ip username := by
  cases e <;> first | exact ⟨_, _, rfl⟩ | exact absurd h (by simp [failedFor])

theorem countsFor_failed (h : countsFor key e = true) :
    ∃ ip username, e = .failed ip username := by
  rcases Bool.or_eq_true_iff.mp h with hip | hname
  · exact failedFrom_failed hip
  · exact failedFor_failed hname

theorem countP_failedFrom_le (key : String) (l : List AuthEvent) :
    l.countP (failedFrom key) ≤ l.countP (countsFor key) :=
  List.countP_mono_left fun e _ h => by rw [countsFor, h, Bool.true_or]

theorem countP_failedFor_le (key : String) (l : List AuthEvent) :
    l.countP (failedFor key) ≤ l.countP (countsFor key) :=
  List.countP_mono_left fun e _ h => by rw [countsFor, h, Bool.or_true]

theorem sinceOpened_cons_self : sinceOpened key (.opened key :: history) = [] := by
  simp [sinceOpened]

theorem sinceOpened_cons (h : e ≠ .opened key) :
    sinceOpened key (e :: history) = e :: sinceOpened key history := by
  simp [sinceOpened, h]

theorem countP_sinceOpened_failed {ip username : String} :
    (sinceOpened key (.failed ip username :: history)).countP p =
      (sinceOpened key history).countP p + if p (.failed ip username) then 1 else 0 := by
  rw [sinceOpened_cons (by simp), List.countP_cons]

/-- An event that does not count for a key, and does not open its window. -/
theorem countP_sinceOpened_other (hp : p e = false) (hopd : e ≠ .opened key) :
    (sinceOpened key (e :: history)).countP p = (sinceOpened key history).countP p := by
  rw [sinceOpened_cons hopd, List.countP_cons, hp]
  rfl

/-- The windows have seen nothing. -/
def SameWindows (x x' : AuthDb) : Prop :=
  x'.history = x.history ∨ ∃ e, x'.history = e :: x.history ∧ e.ofWindow = false

theorem SameWindows.countP (h : SameWindows x x')
    (hp : ∀ e, p e = true → ∃ ip username, e = .failed ip username) :
    (sinceOpened key x'.history).countP p = (sinceOpened key x.history).countP p := by
  rcases h with heq | ⟨e, heq, he⟩
  · rw [heq]
  · rw [heq]
    refine countP_sinceOpened_other ?_ fun hopd => ?_
    · by_contra hpe
      obtain ⟨ip, username, rfl⟩ := hp e (by simpa using hpe)
      cases he
    · rw [hopd] at he
      cases he

theorem getLoginAttempts_of_live {row : LoginAttempt} (h : x.liveAttempt key = some row) :
    x.getLoginAttempts key = row.count := by
  rw [AuthDb.getLoginAttempts, h]
  rfl

theorem getLoginAttempts_mono
    (hlive : ∀ row, x'.liveAttempt key = some row → x.liveAttempt key = some row) :
    x'.getLoginAttempts key ≤ x.getLoginAttempts key := by
  cases h : x'.liveAttempt key with
  | none => simp [AuthDb.getLoginAttempts, h]
  | some row => rw [getLoginAttempts_of_live h, getLoginAttempts_of_live (hlive row h)]

end Windows

namespace LoginCall

variable {c : LoginCall} {key : String}

theorem keys_pair (c : LoginCall) : ∃ k₀ k₁, c.keys = [k₀, k₁] := by
  unfold keys
  cases c.order <;> exact ⟨_, _, rfl⟩

/-- A login that has read both its counters is refused, or admitted below its limits. -/
theorem afterReads_cases (C : AuthConfig) (c : LoginCall) (first second : Nat) :
    c.afterReads C first second = .refused ∨
      ∃ a u, c.afterReads C first second = .admitted a u ∧
        (a < C.MAX_LOGIN_ATTEMPTS ∧ u < C.MAX_USERNAME_ATTEMPTS) ∧
        ∀ s, s ∈ [(c.ip, a), (usernameKey c.username, u)] ↔ s ∈ c.keys.zip [first, second] := by
  unfold afterReads keys
  cases c.order with
  | first =>
    by_cases h : C.MAX_LOGIN_ATTEMPTS ≤ first ∨ C.MAX_USERNAME_ATTEMPTS ≤ second
    · exact .inl (if_pos h)
    · refine .inr ⟨first, second, if_neg h, by simpa [not_or] using h, fun s => ?_⟩
      simp
  | second =>
    by_cases h : C.MAX_LOGIN_ATTEMPTS ≤ second ∨ C.MAX_USERNAME_ATTEMPTS ≤ first
    · exact .inl (if_pos h)
    · refine .inr ⟨second, first, if_neg h, by simpa [not_or] using h, fun s => ?_⟩
      simp [or_comm]

theorem owed_held (h : key ∈ c.owed) : key ∈ c.held := by
  obtain ⟨ip, username, order, stage⟩ := c
  cases stage <;> first | exact h | exact absurd h (by simp [owed])

theorem seen_held {s : String × Nat} (h : s ∈ c.seen) : s.1 ∈ c.held := by
  obtain ⟨ip, username, order, stage⟩ := c
  cases stage with
  | reading answers =>
    obtain _ | ⟨first, _ | ⟨second, rest⟩⟩ := answers <;> cases order <;>
      simp only [seen, keys, held, List.zip_nil_right, List.zip_cons_cons, List.zip_nil_left,
        List.mem_cons, List.not_mem_nil, or_false] at h ⊢
    all_goals first | (rw [h]; simp) | (rcases h with rfl | rfl <;> simp)
  | admitted a u =>
    simp only [seen, List.mem_cons, List.not_mem_nil, or_false] at h
    rcases h with rfl | rfl <;> cases order <;> simp [held, keys]
  | failed owed => exact absurd h (by simp [seen])
  | passed owed => exact absurd h (by simp [seen])
  | refused => exact absurd h (by simp [seen])

end LoginCall

section Increment

variable {x : AuthDb} {key k : String} {p : AuthEvent → Bool}

theorem liveAttempt_setLoginAttempt (row : Option LoginAttempt) :
    (x.setLoginAttempt key row).liveAttempt k =
      if k = key then row.filter fun r => decide (x.clock < r.expiresAt) else x.liveAttempt k := by
  simp only [AuthDb.liveAttempt, AuthDb.setLoginAttempt]
  split <;> rfl

theorem liveAttempt_increment_ne (h : k ≠ key) :
    (x.incrementLoginAttempts key).2.liveAttempt k = x.liveAttempt k := by
  unfold AuthDb.incrementLoginAttempts
  split
  · rw [liveAttempt_setLoginAttempt, if_neg h]
  · exact (liveAttempt_setLoginAttempt (some ⟨1, x.clock + AuthDb.LOGIN_WINDOW⟩)).trans
      (if_neg h)

/-- The row counts one attempt more than was read of it. -/
theorem count_increment {row : LoginAttempt}
    (h : (x.incrementLoginAttempts key).2.liveAttempt key = some row) :
    row.count = x.getLoginAttempts key + 1 := by
  unfold AuthDb.incrementLoginAttempts at h
  cases hlive : x.liveAttempt key with
  | some old =>
    simp only [hlive, liveAttempt_setLoginAttempt] at h
    rw [if_pos trivial, Option.filter_eq_some_iff] at h
    cases h.1
    rw [getLoginAttempts_of_live hlive]
  | none =>
    simp only [hlive] at h
    have h : ((x.setLoginAttempt key (some ⟨1, x.clock + AuthDb.LOGIN_WINDOW⟩)).liveAttempt key) =
        some row := h
    rw [liveAttempt_setLoginAttempt, if_pos rfl, Option.filter_eq_some_iff] at h
    cases h.1
    simp [AuthDb.getLoginAttempts, hlive]

/-- A count opens the window of its key, or leaves every window as it is. -/
theorem window_increment (key : String)
    (hp : ∀ e, p e = true → ∃ ip username, e = .failed ip username) (k : String) :
    (k = key ∧ sinceOpened k (x.incrementLoginAttempts key).2.history = []) ∨
      ((sinceOpened k (x.incrementLoginAttempts key).2.history).countP p =
          (sinceOpened k x.history).countP p ∧
        (k = key → (x.liveAttempt key).isSome = true)) := by
  unfold AuthDb.incrementLoginAttempts
  cases hlive : x.liveAttempt key with
  | some row => exact .inr ⟨rfl, fun _ => rfl⟩
  | none =>
    by_cases hk : k = key
    · subst hk
      exact .inl ⟨rfl, sinceOpened_cons_self⟩
    · refine .inr ⟨countP_sinceOpened_other ?_ fun heq => hk ?_, fun heq => absurd heq hk⟩
      · by_contra hopd
        obtain ⟨ip, username, heq⟩ := hp _ (by simpa using hopd)
        cases heq
      · cases heq
        rfl

end Increment

/-! ### What one step keeps -/

namespace LoginInv

variable {C : AuthConfig} {x x' : AuthDb} {l : List LoginPhase} {n : Nat} {c w : LoginCall}

/-- The windows have seen nothing, and no row was opened or counted. -/
theorem keep (h : LoginInv C x l)
    (hlive : ∀ key row, x'.liveAttempt key = some row → x.liveAttempt key = some row)
    (hwin : SameWindows x x') : LoginInv C x' l where
  bounded := by
    constructor
    · intro ip hip
      obtain ⟨row, hrow⟩ := Option.isSome_iff_exists.mp hip
      rw [windowFailures, hwin.countP fun _ => failedFrom_failed]
      exact h.bounded.ip ip (by rw [hlive ip row hrow]; rfl)
    · intro username hun
      obtain ⟨row, hrow⟩ := Option.isSome_iff_exists.mp hun
      rw [windowFailures, hwin.countP fun _ => failedFor_failed]
      exact h.bounded.username username (by rw [hlive _ row hrow]; rfl)
  __ := h
  counted key row hrow := by
    rw [hwin.countP fun _ => countsFor_failed]
    exact h.counted key row (hlive key row hrow)
  settled key row hrow howed := by
    rw [hwin.countP fun _ => countsFor_failed]
    exact h.settled key row (hlive key row hrow) howed
  seen n c hc s hs := (getLoginAttempts_mono (hlive s.1)).trans (h.seen n c hc s hs)

/-- A call is begun. -/
theorem begin (h : LoginInv C x l) {y : LoginPhase}
    (hy : ∀ c, y = some c → c.stage = .reading []) : LoginInv C x (l ++ [y]) := by
  -- What the new call holds, owes and has seen is nothing.
  have hnew : ∀ c, y = some c → c.held = [] ∧ c.seen = [] := by
    intro c hc
    constructor
    · rw [LoginCall.held, hy c hc]
      simp
    · rw [LoginCall.seen, hy c hc]
      simp
  have hcase : ∀ (m : Nat) (d : LoginCall), (l ++ [y])[m]? = some (some d) →
      y = some d ∨ l[m]? = some (some d) := by
    intro m d hm
    rcases getElem?_append_cases hm with ⟨-, heq⟩ | ⟨-, hold⟩
    · exact .inl heq.symm
    · exact .inr hold
  refine ⟨h.bounded, ?_, h.counted, ?_, ?_, ?_⟩
  · intro m n c d hc hd key hkc hkd
    rcases hcase m c hc with hyc | hc
    · rw [(hnew c hyc).1] at hkc
      cases hkc
    · rcases hcase n d hd with hyd | hd
      · rw [(hnew d hyd).1] at hkd
        cases hkd
      · exact h.alone m n c d hc hd key hkc hkd
  · intro key row hrow howed
    refine h.settled key row hrow fun m d hd => howed m d ?_
    have hlt : m < l.length := by
      by_contra hge
      rw [List.getElem?_eq_none (not_lt.mp hge)] at hd
      cases hd
    rwa [List.getElem?_append_left hlt]
  · intro m d hd s hs
    rcases hcase m d hd with hyd | hd
    · rw [(hnew d hyd).2] at hs
      cases hs
    · exact h.seen m d hd s hs
  · intro m d a u hd hstg
    rcases hcase m d hd with hyd | hd
    · rw [hy d hyd] at hstg
      cases hstg
    · exact h.admitted m d a u hd hstg

/-- Two calls hold no key in common when one of them goes on with keys that were its own or free. -/
theorem alone_set (h : LoginInv C x l) (hc : l[n]? = some (some c))
    (hheld : ∀ key ∈ w.held, key ∈ c.held ∨
      ∀ (m : Nat) (d : LoginCall), m ≠ n → l[m]? = some (some d) → key ∉ d.held) :
    ∀ (m m' : Nat) (d d' : LoginCall), (l.set n (some w))[m]? = some (some d) →
      (l.set n (some w))[m']? = some (some d') → ∀ key ∈ d.held, key ∈ d'.held → m = m' := by
  have hother : ∀ (m : Nat) (d : LoginCall), m ≠ n → l[m]? = some (some d) →
      ∀ key ∈ w.held, key ∉ d.held := by
    intro m d hmn hd key hkey hkd
    rcases hheld key hkey with hown | hfree
    · exact hmn (h.alone m n d c hd hc key hkd hown)
    · exact hfree m d hmn hd hkd
  intro m m' d d' hd hd' key hkd hkd'
  rcases getElem?_set_cases hd with ⟨hm, heq⟩ | ⟨hmn, hold⟩
  · cases heq
    rcases getElem?_set_cases hd' with ⟨hm', -⟩ | ⟨hmn', hold'⟩
    · rw [hm, hm']
    · exact absurd hkd' (hother m' d' hmn' hold' key hkd)
  · rcases getElem?_set_cases hd' with ⟨-, heq⟩ | ⟨-, hold'⟩
    · cases heq
      exact absurd hkd (hother m d hmn hold key hkd')
    · exact h.alone m m' d d' hold hold' key hkd hkd'

variable {key : String}

/-- Nobody owes a key that the call that went on does not owe and nobody else holds. -/
theorem owed_set (hc : l[n]? = some (some c)) (hcc : key ∈ c.owed → key ∈ w.owed)
    (howed : ∀ (m : Nat) (d : LoginCall), (l.set n (some w))[m]? = some (some d) → key ∉ d.owed) :
    ∀ (m : Nat) (d : LoginCall), l[m]? = some (some d) → key ∉ d.owed := by
  have hn : (l.set n (some w))[n]? = some (some w) := by
    rw [List.getElem?_set_self', hc]
    rfl
  intro m d hd
  by_cases hmn : m = n
  · subst hmn
    rw [hc] at hd
    cases hd
    exact fun hkey => howed m w hn (hcc hkey)
  · exact howed m d (by rwa [List.getElem?_set_ne (Ne.symm hmn)])

/-- A call goes on, and nothing happens in the store. -/
theorem move (h : LoginInv C x l) (hc : l[n]? = some (some c))
    (hheld : ∀ key ∈ w.held, key ∈ c.held ∨
      ∀ (m : Nat) (d : LoginCall), m ≠ n → l[m]? = some (some d) → key ∉ d.held)
    (howed : ∀ key ∈ c.owed, key ∈ w.owed)
    (hseen : ∀ s ∈ w.seen, x.getLoginAttempts s.1 ≤ s.2)
    (hadmitted : ∀ a u, w.stage = .admitted a u →
      a < C.MAX_LOGIN_ATTEMPTS ∧ u < C.MAX_USERNAME_ATTEMPTS) :
    LoginInv C x (l.set n (some w)) where
  __ := h
  alone := h.alone_set hc hheld
  settled key row hrow hfree := h.settled key row hrow (owed_set hc (howed key) hfree)
  seen m d hd s hs := by
    rcases getElem?_set_cases hd with ⟨rfl, heq⟩ | ⟨-, hd⟩
    · cases heq
      exact hseen s hs
    · exact h.seen m d hd s hs
  admitted m d a u hd hstg := by
    rcases getElem?_set_cases hd with ⟨rfl, heq⟩ | ⟨-, hd⟩
    · cases heq
      exact hadmitted a u hstg
    · exact h.admitted m d a u hd hstg

/-- An admitted login finds both its keys below their limits. -/
theorem below (h : LoginInv C x l) (hc : l[n]? = some (some c)) {a u : Nat}
    (hstg : c.stage = .admitted a u) :
    x.getLoginAttempts c.ip < C.MAX_LOGIN_ATTEMPTS ∧
      x.getLoginAttempts (usernameKey c.username) < C.MAX_USERNAME_ATTEMPTS := by
  obtain ⟨ha, hu⟩ := h.admitted n c a u hc hstg
  have hseen : c.seen = [(c.ip, a), (usernameKey c.username, u)] := by rw [LoginCall.seen, hstg]
  have hip := h.seen n c hc (c.ip, a) (by rw [hseen]; simp)
  have huser := h.seen n c hc (usernameKey c.username, u) (by rw [hseen]; simp)
  exact ⟨Nat.lt_of_le_of_lt hip ha, Nat.lt_of_le_of_lt huser hu⟩

/-- A key that an admitted login holds is owed by nobody. -/
theorem free (h : LoginInv C x l) (hc : l[n]? = some (some c)) {a u : Nat}
    (hstg : c.stage = .admitted a u) (hkey : key ∈ c.keys) (m : Nat) (d : LoginCall)
    (hd : l[m]? = some (some d)) : key ∉ d.owed := by
  have hheld : key ∈ c.held := by rwa [LoginCall.held, hstg]
  intro howed
  have hmn := h.alone m n d c hd hc key (LoginCall.owed_held howed) hheld
  subst hmn
  rw [hc] at hd
  cases hd
  rw [LoginCall.owed, hstg] at howed
  cases howed

/-- A wrong password. -/
theorem fail (h : LoginInv C x l) (hc : l[n]? = some (some c)) {a u : Nat}
    (hstg : c.stage = .admitted a u) :
    LoginInv C { x with history := .failed c.ip c.username :: x.history }
      (l.set n (some { c with stage := .failed c.keys })) := by
  obtain ⟨hip, huser, -, -⟩ := mem_keys_erase c
  obtain ⟨hbelowIp, hbelowUser⟩ := h.below hc hstg
  have hheld : c.held = c.keys := by rw [LoginCall.held, hstg]
  have howed : c.owed = [] := by rw [LoginCall.owed, hstg]
  -- Before the attempt, the row of a key of the login counts every attempt of its window.
  have hset : ∀ key ∈ c.keys, ∀ row, x.liveAttempt key = some row →
      (sinceOpened key x.history).countP (countsFor key) + 1 ≤ row.count :=
    fun key hkey row hrow => h.settled key row hrow (h.free hc hstg hkey)
  have hlive : ∀ key, ({ x with history := .failed c.ip c.username :: x.history } :
      AuthDb).liveAttempt key = x.liveAttempt key := fun _ => rfl
  have hcts : ∀ key ∉ c.keys, countsFor key (.failed c.ip c.username) = false := by
    intro key hkey
    have hneIp : c.ip ≠ key := fun heq => hkey (heq ▸ hip)
    have hneUser : usernameKey c.username ≠ key := fun heq => hkey (heq ▸ huser)
    simp [countsFor, failedFrom, failedFor, hneIp, hneUser]
  refine ⟨⟨?_, ?_⟩, h.alone_set hc fun key hkey => .inl (hheld ▸ hkey), ?_, ?_, ?_, ?_⟩
  · intro ip hsome
    rw [hlive] at hsome
    obtain ⟨row, hrow⟩ := Option.isSome_iff_exists.mp hsome
    have hbd := h.bounded.ip ip hsome
    rw [windowFailures] at hbd ⊢
    rw [countP_sinceOpened_failed]
    by_cases heq : c.ip = ip
    · subst heq
      have hcnt := getLoginAttempts_of_live hrow
      have hle := countP_failedFrom_le c.ip (sinceOpened c.ip x.history)
      have hrowCount := hset c.ip hip row hrow
      split <;> omega
    · rw [if_neg (by simp [failedFrom, heq])]
      exact hbd
  · intro username hsome
    rw [hlive] at hsome
    obtain ⟨row, hrow⟩ := Option.isSome_iff_exists.mp hsome
    have hbd := h.bounded.username username hsome
    rw [windowFailures] at hbd ⊢
    rw [countP_sinceOpened_failed]
    by_cases heq : usernameKey c.username = usernameKey username
    · rw [← heq] at hrow ⊢
      have hcnt := getLoginAttempts_of_live hrow
      have hle := countP_failedFor_le (usernameKey c.username)
        (sinceOpened (usernameKey c.username) x.history)
      have hrowCount := hset _ huser row hrow
      split <;> omega
    · rw [if_neg (by simp [failedFor, heq])]
      exact hbd
  · intro key row hrow
    rw [hlive] at hrow
    rw [countP_sinceOpened_failed]
    by_cases hkey : key ∈ c.keys
    · have hrowCount := hset key hkey row hrow
      split <;> omega
    · rw [if_neg (by rw [hcts key hkey]; simp)]
      exact h.counted key row hrow
  · intro key row hrow hfree
    rw [hlive] at hrow
    have hkey : key ∉ c.keys :=
      hfree n { c with stage := .failed c.keys } (by rw [List.getElem?_set_self', hc]; rfl)
    rw [countP_sinceOpened_other (hcts key hkey) (by simp)]
    exact h.settled key row hrow (owed_set hc (fun hin => by rw [howed] at hin; cases hin) hfree)
  · intro m d hd s hs
    rcases getElem?_set_cases hd with ⟨rfl, heq⟩ | ⟨-, hd⟩
    · cases heq
      cases hs
    · exact h.seen m d hd s hs
  · intro m d a u hd hstg'
    rcases getElem?_set_cases hd with ⟨rfl, heq⟩ | ⟨-, hd⟩
    · cases heq
      cases hstg'
    · exact h.admitted m d a u hd hstg'

/-- A row of one key is written; it counts one attempt more, or opens the window. -/
theorem count (h : LoginInv C x l) (hc : l[n]? = some (some c)) (hkey : key ∈ c.owed) :
    LoginInv C (x.incrementLoginAttempts key).2
      (l.set n (some { c with stage := .failed (c.owed.erase key) })) := by
  obtain ⟨owed, hstg⟩ : ∃ owed, c.stage = .failed owed := by
    obtain ⟨ip, username, order, stage⟩ := c
    cases stage <;> first | exact ⟨_, rfl⟩ | cases hkey
  have hheld : c.held = c.owed := by rw [LoginCall.held, LoginCall.owed, hstg]
  have halone := h.alone_set (w := { c with stage := .failed (c.owed.erase key) }) hc
    fun k hk => .inl (hheld ▸ List.mem_of_mem_erase hk)
  have hadmitted : ∀ (m : Nat) (d : LoginCall) (a u : Nat),
      (l.set n (some { c with stage := .failed (c.owed.erase key) }))[m]? = some (some d) →
      d.stage = .admitted a u → a < C.MAX_LOGIN_ATTEMPTS ∧ u < C.MAX_USERNAME_ATTEMPTS := by
    intro m d a u hd hd'
    rcases getElem?_set_cases hd with ⟨-, heq⟩ | ⟨-, hd⟩
    · cases heq
      cases hd'
    · exact h.admitted m d a u hd hd'
  -- Nobody else has seen the key that is counted.
  have hseen : ∀ (m : Nat) (d : LoginCall),
      (l.set n (some { c with stage := .failed (c.owed.erase key) }))[m]? = some (some d) →
      ∀ s ∈ d.seen, s.1 ≠ key ∧ x.getLoginAttempts s.1 ≤ s.2 := by
    intro m d hd s hs
    rcases getElem?_set_cases hd with ⟨-, heq⟩ | ⟨hmn, hd⟩
    · cases heq
      cases hs
    · refine ⟨fun heq => hmn ?_, h.seen m d hd s hs⟩
      exact h.alone m n d c hd hc key (heq ▸ LoginCall.seen_held hs) (hheld ▸ hkey)
  have hfree : ∀ k ≠ key, (∀ (m : Nat) (d : LoginCall),
      (l.set n (some { c with stage := .failed (c.owed.erase key) }))[m]? = some (some d) →
      k ∉ d.owed) → ∀ (m : Nat) (d : LoginCall), l[m]? = some (some d) → k ∉ d.owed :=
    fun k hk => owed_set hc fun hin => (List.mem_erase_of_ne hk).mpr hin
  have hrows : ∀ k row, (x.incrementLoginAttempts key).2.liveAttempt k = some row →
      (sinceOpened k (x.incrementLoginAttempts key).2.history).countP (countsFor k) ≤ row.count ∧
        (k = key → (sinceOpened k (x.incrementLoginAttempts key).2.history).countP
          (countsFor k) + 1 ≤ row.count) ∧
        (k ≠ key → x.liveAttempt k = some row) := by
    intro k row hrow
    by_cases hk : k = key
    · subst hk
      have hcnt := count_increment hrow
      rcases window_increment (p := countsFor k) (x := x) k (fun _ => countsFor_failed) k with
        ⟨-, hnil⟩ | ⟨hsame, hlive⟩
      · rw [hnil, List.countP_nil]
        exact ⟨by omega, fun _ => by omega, fun hne => absurd rfl hne⟩
      · obtain ⟨old, hold⟩ := Option.isSome_iff_exists.mp (hlive rfl)
        have hcounted := h.counted k old hold
        rw [getLoginAttempts_of_live hold] at hcnt
        rw [hsame]
        exact ⟨by omega, fun _ => by omega, fun hne => absurd rfl hne⟩
    · rw [liveAttempt_increment_ne hk] at hrow
      rcases window_increment (x := x) key (fun _ => countsFor_failed) k with
        ⟨heq, -⟩ | ⟨hsame, -⟩
      · exact absurd heq hk
      · rw [hsame]
        exact ⟨h.counted k row hrow, fun heq => absurd heq hk, fun _ => hrow⟩
  have hbd : ∀ p k limit, (∀ e, p e = true → ∃ ip username, e = .failed ip username) →
      0 < limit → ((x.liveAttempt k).isSome = true → windowFailures p k x.history ≤ limit) →
      ((x.incrementLoginAttempts key).2.liveAttempt k).isSome = true →
      windowFailures p k (x.incrementLoginAttempts key).2.history ≤ limit := by
    intro p k limit hp hpos hold hsome
    rw [windowFailures] at hold ⊢
    rcases window_increment (x := x) key hp k with ⟨-, hnil⟩ | ⟨hsame, hlive⟩
    · rw [hnil, List.countP_nil]
      exact hpos
    · rw [hsame]
      refine hold ?_
      by_cases hk : k = key
      · rw [hk]
        exact hlive hk
      · rwa [liveAttempt_increment_ne hk] at hsome
  refine ⟨⟨fun ip => ?_, fun username => ?_⟩, halone, fun k row hrow => (hrows k row hrow).1,
    fun k row hrow howed => ?_, fun m d hd s hs => ?_, hadmitted⟩
  · exact hbd _ _ _ (fun _ => failedFrom_failed) C.login_pos (h.bounded.ip ip)
  · exact hbd _ _ _ (fun _ => failedFor_failed) C.username_pos (h.bounded.username username)
  · by_cases hk : k = key
    · exact (hrows k row hrow).2.1 hk
    · have hold := (hrows k row hrow).2.2 hk
      rcases window_increment (x := x) key (fun _ => countsFor_failed) k with
        ⟨heq, -⟩ | ⟨hsame, -⟩
      · exact absurd heq hk
      · rw [hsame]
        exact h.settled k row hold (hfree k hk howed)
  · obtain ⟨hne, hle⟩ := hseen m d hd s hs
    rwa [AuthDb.getLoginAttempts, liveAttempt_increment_ne hne]

theorem read_free (hg : ReadsAlone x l n (.getLoginAttempts key)) (m : Nat) (d : LoginCall)
    (hmn : m ≠ n) (hd : l[m]? = some (some d)) : key ∉ d.held := by
  have hlt : m < l.length := by
    by_contra hge
    rw [List.getElem?_eq_none (not_lt.mp hge)] at hd
    cases hd
  exact hg key rfl m (List.mem_range.mpr hlt) hmn d (by rw [hd]; rfl)

/-- The first counter is read. -/
theorem read_first (h : LoginInv C x l) (hc : l[n]? = some (some c))
    (hstg : c.stage = .reading []) (hkey : c.keys[0]? = some key)
    (hg : ReadsAlone x l n (.getLoginAttempts key)) :
    LoginInv C x (l.set n (some { c with stage := .reading [x.getLoginAttempts key] })) := by
  have hkeys : c.keys.take 1 = [key] := by
    rw [List.take_one, List.head?_eq_getElem?, hkey]
    rfl
  refine h.move hc (fun k hk => .inr ?_) (fun k hk => ?_) (fun s hs => ?_) fun a u hadm => ?_
  · have hk : k ∈ c.keys.take 1 := hk
    rw [hkeys, List.mem_singleton] at hk
    rw [hk]
    exact read_free hg
  · rw [LoginCall.owed, hstg] at hk
    cases hk
  · have hheld : s.1 ∈ c.keys.take 1 := LoginCall.seen_held hs
    have hs : s ∈ c.keys.zip [x.getLoginAttempts key] := hs
    rw [hkeys, List.mem_singleton] at hheld
    have hval := (List.of_mem_zip (a := s.1) (b := s.2) hs).2
    rw [hheld, List.mem_singleton.mp hval]
  · cases hadm

/-- The second counter is read, and the login is refused or admitted. -/
theorem read_second (h : LoginInv C x l) (hc : l[n]? = some (some c)) {first : Nat}
    (hstg : c.stage = .reading [first]) (hkey : c.keys[1]? = some key)
    (hg : ReadsAlone x l n (.getLoginAttempts key)) :
    LoginInv C x (l.set n (some
      { c with stage := c.afterReads C first (x.getLoginAttempts key) })) := by
  obtain ⟨k₀, k₁, hkeys⟩ := c.keys_pair
  have hk₁ : k₁ = key := by simpa [hkeys] using hkey
  subst hk₁
  have howed : c.owed = [] := by rw [LoginCall.owed, hstg]
  have hheld : k₀ ∈ c.held := by simp [LoginCall.held, hstg, hkeys]
  have hfirst : x.getLoginAttempts k₀ ≤ first :=
    h.seen n c hc (k₀, first) (by simp [LoginCall.seen, hstg, hkeys])
  rcases LoginCall.afterReads_cases C c first (x.getLoginAttempts k₁) with
    href | ⟨a, u, hadmitted, hbel, hvalues⟩
  · rw [href]
    refine h.move hc (fun k hk => ?_) (fun k hk => ?_) (fun s hs => ?_) fun a u hadm => ?_
    · cases hk
    · rw [howed] at hk
      cases hk
    · cases hs
    · cases hadm
  · rw [hadmitted]
    refine h.move hc (fun k hk => ?_) (fun k hk => ?_) (fun s hs => ?_) fun a u hadm => ?_
    · have hk : k ∈ c.keys := hk
      rw [hkeys, List.mem_cons, List.mem_singleton] at hk
      rcases hk with rfl | rfl
      · exact .inl hheld
      · exact .inr (read_free hg)
    · rw [howed] at hk
      cases hk
    · have hs := (hvalues s).mp hs
      simp only [hkeys, List.zip_cons_cons, List.zip_nil_right, List.mem_cons,
        List.not_mem_nil, or_false] at hs
      rcases hs with rfl | rfl
      · exact hfirst
      · exact le_rfl
    · cases hadm
      exact hbel

/-- The password was right, or a key is reset. -/
theorem release (h : LoginInv C x l) (hc : l[n]? = some (some c)) (howed : c.owed = [])
    (keys : List String) (hheld : ∀ key ∈ keys, key ∈ c.held) :
    LoginInv C x (l.set n (some { c with stage := .passed keys })) := by
  refine h.move hc (fun k hk => .inl (hheld k hk)) (fun k hk => ?_) (fun s hs => ?_)
    fun a u hadm => ?_
  · rw [howed] at hk
    cases hk
  · cases hs
  · cases hadm

end LoginInv

/-- The instructions that have nothing to do with attempts leave the rows and the windows. -/
theorem quiet_store {C : AuthConfig} (H : AuthHost) {i : AuthInstr} (hi : i.attempts = false)
    (x : AuthDb) : (∀ key, (answer C H i x).2.liveAttempt key = x.liveAttempt key) ∧
      SameWindows x (answer C H i x).2 := by
  cases i with
  | getLoginAttempts key => cases hi
  | incrementLoginAttempts key => cases hi
  | resetLoginAttempts key => cases hi
  | verifyLogin ip username password user => cases hi
  | blacklistToken jti ttlSeconds reason => exact ⟨fun _ => rfl, .inr ⟨_, rfl, rfl⟩⟩
  | addSession userId ip userAgent parent => exact ⟨fun _ => rfl, .inr ⟨_, rfl, rfl⟩⟩
  | findUserSessions userId exceptJti => exact ⟨fun _ => rfl, .inr ⟨_, rfl, rfl⟩⟩
  | updateTotpSecret id secret => exact ⟨fun _ => rfl, .inr ⟨_, rfl, rfl⟩⟩
  | _ => exact ⟨fun _ => rfl, .inl rfl⟩

/-- What happens outside the calls lets rows expire and opens no window. -/
theorem outside_store (change : AuthChange) (x : AuthDb) :
    (∀ key row, (AuthDb.outside change x).liveAttempt key = some row →
      x.liveAttempt key = some row) ∧ SameWindows x (AuthDb.outside change x) := by
  cases change with
  | tick elapsed =>
    refine ⟨fun key row hrow => ?_, .inl rfl⟩
    obtain ⟨hsto, hbef⟩ := Option.filter_eq_some_iff.mp hrow
    refine Option.filter_eq_some_iff.mpr ⟨hsto, ?_⟩
    have hbef : x.clock + elapsed < row.expiresAt := of_decide_eq_true hbef
    exact decide_eq_true (by omega)
  | cleanupExpired =>
    exact ⟨fun key row hrow => (Option.filter_eq_some_iff.mp hrow).1, .inl rfl⟩
  | createUser id username passwordHash role =>
    by_cases htk : (x.users.any fun u => u.id == id || u.username == username) = true
    · rw [AuthDb.outside, if_pos htk]
      exact ⟨fun _ _ hrow => hrow, .inl rfl⟩
    · rw [AuthDb.outside, if_neg htk]
      exact ⟨fun _ _ hrow => hrow, .inl rfl⟩
  | updateUser id username passwordHash role =>
    by_cases htk : (x.users.any fun u => u.id != id && u.username == username) = true
    · rw [AuthDb.outside, if_pos htk]
      exact ⟨fun _ _ hrow => hrow, .inl rfl⟩
    · rw [AuthDb.outside, if_neg htk]
      exact ⟨fun _ _ hrow => hrow, .inl rfl⟩
  | deleteUser id => exact ⟨fun _ _ hrow => hrow, .inl rfl⟩

theorem LoginInv.ask {C : AuthConfig} {x : AuthDb} {l : List LoginPhase} {n : Nat}
    {y : LoginPhase} {i : AuthInstr} (H : AuthHost) (h : LoginInv C x l) (hy : l[n]? = some y)
    (halw : (loginProtocol C).allows y i) (hg : ReadsAlone x l n i) :
    LoginInv C (answer C H i x).2
      (l.set n ((loginProtocol C).after y i (answer C H i x).1)) := by
  by_cases hqt : i.attempts = false
  · obtain ⟨hlive, hwin⟩ := quiet_store (C := C) H hqt x
    obtain ⟨hlt, hget⟩ := List.getElem?_eq_some_iff.mp hy
    rw [(loginProtocol_quiet hqt).2, ← hget, List.set_getElem_self]
    exact h.keep (fun key row hrow => (hlive key).symm.trans hrow) hwin
  cases y with
  | none => exact absurd halw hqt
  | some c =>
    have halw : loginAllows c i := halw
    show LoginInv C _ (l.set n (some { c with stage := loginAfter C c i _ }))
    cases i with
    | getLoginAttempts key =>
      obtain ⟨answers, hstg, hkey⟩ := halw
      obtain ⟨k₀, k₁, hkeys⟩ := c.keys_pair
      simp only [loginAfter, hstg]
      obtain _ | ⟨first, _ | ⟨second, rest⟩⟩ := answers
      · exact h.read_first hy hstg hkey hg
      · exact h.read_second hy hstg hkey hg
      · simp [hkeys] at hkey
    | verifyLogin ip username password user =>
      obtain ⟨⟨a, u, hstg⟩, rfl, rfl⟩ := halw
      have howed : c.owed = [] := by rw [LoginCall.owed, hstg]
      have hheld : c.held = c.keys := by rw [LoginCall.held, hstg]
      by_cases hver : (user.any fun u => H.argon2Verify u.passwordHash password) = true
      · have hans : answer C H (.verifyLogin c.ip c.username password user) x = (true, x) :=
          if_pos hver
        have hsome : user.isSome = true := by
          cases user with
          | none => cases hver
          | some user => rfl
        have haft : loginAfter C c (.verifyLogin c.ip c.username password user) true =
            .passed c.keys := if_pos (by rw [hsome]; rfl)
        rw [hans, haft]
        exact h.release hy howed _ fun key hkey => hheld ▸ hkey
      · have hans : answer C H (.verifyLogin c.ip c.username password user) x =
            (false, { x with history := .failed c.ip c.username :: x.history }) :=
          if_neg hver
        have haft : loginAfter C c (.verifyLogin c.ip c.username password user) false =
            .failed c.keys := if_neg (by simp)
        rw [hans, haft]
        exact h.fail hy hstg
    | incrementLoginAttempts key => exact h.count hy halw
    | resetLoginAttempts key =>
      obtain ⟨owed, hstg, -⟩ := halw
      have hkept := h.release hy (by rw [LoginCall.owed, hstg]) (c.held.erase key)
        fun k hk => List.mem_of_mem_erase hk
      refine hkept.keep (fun k row hrow => ?_) (.inl rfl)
      have hrow : (x.setLoginAttempt key none).liveAttempt k = some row := hrow
      rw [liveAttempt_setLoginAttempt] at hrow
      split at hrow
      · cases hrow
      · exact hrow
    | _ => exact absurd rfl hqt

theorem loginInv_init (C : AuthConfig) : LoginInv C AuthDb.init [] where
  bounded := ⟨fun _ h => absurd h (by simp [AuthDb.liveAttempt, AuthDb.init]),
    fun _ h => absurd h (by simp [AuthDb.liveAttempt, AuthDb.init])⟩
  alone := fun _ _ _ _ hc => absurd hc (by simp)
  counted := fun _ _ h => absurd h (by simp [AuthDb.liveAttempt, AuthDb.init])
  settled := fun _ _ h => absurd h (by simp [AuthDb.liveAttempt, AuthDb.init])
  seen := fun _ _ hc => absurd hc (by simp)
  admitted := fun _ _ _ _ hc => absurd hc (by simp)

/-! ## The limits -/

/-- Authentication with the place of each login. -/
abbrev LoginRun := Phased AuthDb LoginPhase AuthInstr Answer (Except AuthError AuthResult)

/-- **The limits of failed logins**, where no login reads a counter that another one holds: no lock
window has more failed verifications than its limit, and a password is verified only where both its
keys are below their limits. -/
theorem logins_bounded {C : AuthConfig} {H : AuthHost} {s : LoginRun}
    (hs : Reach (Phased.step (authService C H) (loginProtocol C) AuthRequest.loginPhase)
      (Phased.Within ReadsAlone) ⟨AuthDb.init, []⟩ s) :
    LoginsBounded C s.store ∧
      ∀ c ∈ s.calls, ∀ ip username password user,
        c.2.next? = some (.verifyLogin ip username password user) →
        s.store.getLoginAttempts ip < C.MAX_LOGIN_ATTEMPTS ∧
          s.store.getLoginAttempts (usernameKey username) < C.MAX_USERNAME_ATTEMPTS := by
  obtain ⟨h, hcalls⟩ := Phased.invariant (I := LoginInv C) (request_follows H)
    (loginInv_init C)
    (fun change x l h => h.keep (outside_store change x).1 (outside_store change x).2)
    (fun request x l h => h.begin fun c hc => by
      cases request <;> first | (cases hc; rfl) | cases hc)
    (fun x l k y i h hy halw hg => h.ask H hy halw hg) hs
  refine ⟨h.bounded, fun c hc ip username password user hnext => ?_⟩
  obtain ⟨k, hk⟩ := List.mem_iff_getElem?.mp hc
  have hph : s.phases[k]? = some c.1 := by simp [Phased.phases, hk]
  obtain ⟨y, p⟩ := c
  have halw := (hcalls _ hc).allows_next hnext
  cases y with
  | none => cases halw
  | some c =>
    obtain ⟨⟨a, u, hstg⟩, rfl, rfl⟩ := halw
    exact h.below hph hstg

/-- Nobody's password verifies. -/
def strangers : AuthHost where
  argon2Verify := fun _ _ => false
  hmacSha1 := fun _ _ => []

def inOrder : Schedule := ⟨.first, .first, .first⟩

/-- A login from one address. -/
def attemptOf (username : String) : Event AuthChange AuthRequest :=
  .call (.login username "secret" "203.0.113.7" "browser" inOrder)

/-- Two failed logins, one after the other. -/
def twoLogins : List (Event AuthChange AuthRequest) :=
  attemptOf "alice" :: List.replicate 6 (.advance 0) ++
    attemptOf "alice" :: List.replicate 6 (.advance 1)

theorem logins_bounded_two : ∃ s : LoginRun,
    s.store.getLoginAttempts "203.0.113.7" = 2 ∧
      windowFailures (failedFrom "203.0.113.7") "203.0.113.7" s.store.history = 2 ∧
      LoginsBounded AuthConfig.standard s.store := by
  have hrun : ∃ s : LoginRun, Reach (Phased.step (authService AuthConfig.standard strangers)
      (loginProtocol AuthConfig.standard) AuthRequest.loginPhase) (Phased.Within ReadsAlone)
      ⟨AuthDb.init, []⟩ s ∧ s.store.getLoginAttempts "203.0.113.7" = 2 ∧
        windowFailures (failedFrom "203.0.113.7") "203.0.113.7" s.store.history = 2 :=
    Reach.of_run_any (l := twoLogins) (by decide)
  obtain ⟨s, hs, hcnt, hwindow⟩ := hrun
  exact ⟨s, hcnt, hwindow, (logins_bounded hs).1⟩

/-- Eleven logins that have read the counters before one of them is counted. -/
def overlappingLogins : List (Event AuthChange AuthRequest) :=
  (List.range 11).map (fun k => attemptOf (toString k)) ++
    (List.range 11).flatMap (fun k => List.replicate 3 (Event.advance k)) ++
    List.replicate 3 (Event.advance 0) ++ (List.range 10).map fun k => .advance (k + 1)

/-- **Logins that overlap escape the limit** of ten failed attempts for an address. -/
theorem logins_unbounded : ¬∀ s : Pool AuthDb AuthInstr Answer (Except AuthError AuthResult),
    Reach (Pool.step (authService AuthConfig.standard strangers)) anyStep ⟨AuthDb.init, []⟩ s →
      LoginsBounded AuthConfig.standard s.store := by
  intro hall
  have hrun : ∃ s : Pool AuthDb AuthInstr Answer (Except AuthError AuthResult),
      Reach (Pool.step (authService AuthConfig.standard strangers)) anyStep ⟨AuthDb.init, []⟩ s ∧
        (s.store.liveAttempt "203.0.113.7").isSome = true ∧
        windowFailures (failedFrom "203.0.113.7") "203.0.113.7" s.store.history = 11 :=
    Reach.of_run_any (l := overlappingLogins) (by decide)
  obtain ⟨s, hs, hlive, hwindow⟩ := hrun
  have hbound := (hall s hs).ip "203.0.113.7" hlive
  rw [hwindow] at hbound
  exact absurd hbound (by decide)

end Meowbox.Auth
