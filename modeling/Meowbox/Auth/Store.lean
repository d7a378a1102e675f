import Meowbox.Lib.Fallible

/-!
# What authentication keeps in the database

Model of `api/src/auth/session.service.ts` and of the statements of `users.service.ts` that
`AuthService` uses: users, login attempts, sessions and the blacklist of refresh tokens. Each
statement is one instruction, performed with the `Date.now()` that stands next to it. Times are
milliseconds.

* A `jti` is the number of its draw: `crypto.randomUUID()` returns no value twice. `addSession`
  draws it and signs the refresh token, which the source does in the same synchronous step.
* `issued` are the signed refresh tokens, what `jwtService.verify` accepts until they expire: nobody
  else can sign one. The access token repeats the payload with the `jti` as `sid`.
* `history` records what happened, newest first, and steers nothing.
* Only `outside` lets time pass; it also removes expired rows (`cleanupExpired`), and creates,
  changes and deletes users.

User names are those `LoginDto` admits, whose letters are ASCII.
-/

namespace Meowbox.Auth

open Interleaved

/-- The limits and times of `auth.service.ts`; `|| default` replaces a limit of zero. -/
structure AuthConfig where
  MAX_LOGIN_ATTEMPTS : Nat
  MAX_USERNAME_ATTEMPTS : Nat
  REFRESH_TOKEN_TTL_SECONDS : Nat
  REFRESH_RACE_GRACE_MS : Nat
  JWT_REFRESH_EXPIRES_IN : Nat
  login_pos : 0 < MAX_LOGIN_ATTEMPTS
  username_pos : 0 < MAX_USERNAME_ATTEMPTS

/-- What the environment configures when nothing is set. -/
def AuthConfig.standard : AuthConfig where
  MAX_LOGIN_ATTEMPTS := 10
  MAX_USERNAME_ATTEMPTS := 20
  REFRESH_TOKEN_TTL_SECONDS := 7 * 24 * 60 * 60
  REFRESH_RACE_GRACE_MS := 15000
  JWT_REFRESH_EXPIRES_IN := 7 * 24 * 60 * 60
  login_pos := by decide
  username_pos := by decide

/-- Code outside the repository: Argon2 and HMAC-SHA-1, over bytes. -/
structure AuthHost where
  argon2Verify : (hash password : String) → Bool
  hmacSha1 : (key message : List Nat) → List Nat

/-! ## Rows -/

structure User where
  id : String
  username : String
  passwordHash : String
  identityKind : String := "LOCAL"
  role : String := "ADMIN"
  totpEnabled : Bool := false
  totpSecret : Option String := none
deriving DecidableEq

structure Session where
  jti : Nat
  userId : String
  ip : String
  userAgent : String
  expiresAt : Nat
deriving DecidableEq

/-- A row of `TokenBlacklist`. -/
structure Blacklisting where
  expiresAt : Nat
  createdAt : Nat
deriving DecidableEq

structure LoginAttempt where
  count : Nat
  expiresAt : Nat
deriving DecidableEq

/-- The payload of a signed refresh token; `exp` in seconds. -/
structure RefreshToken where
  jti : Nat
  sub : String
  exp : Nat
deriving DecidableEq

/-- Why a token is put on the blacklist. -/
inductive Reason
  | rotation
  | ipMismatch
  | logout
  | revocation
  | duplicate
deriving DecidableEq

inductive AuthEvent
  /-- A password was verified and was wrong, or nobody has the name. -/
  | failed (ip username : String)
  /-- The first failed attempt of a lock window was counted. -/
  | opened (key : String)
  /-- A token pair was signed: for whom, for which address, from which refresh token, and whether
  the user's second factor was on. -/
  | signed (jti : Nat) (userId ip : String) (parent : Option Nat) (totpEnabled : Bool)
  | blacklisted (jti : Nat) (reason : Reason)
  /-- The sessions of a user were listed for their removal, when so many numbers were drawn. -/
  | listed (userId : String) (exceptJti : Option Nat) (drawn : Nat)
  | generated (secret : String)
deriving DecidableEq

structure AuthDb where
  clock : Nat
  users : List User
  session : List Session
  tokenBlacklist : Nat → Option Blacklisting
  loginAttempt : String → Option LoginAttempt
  issued : List RefreshToken
  drawn : Nat
  history : List AuthEvent

/-- A fresh installation. -/
def AuthDb.init : AuthDb where
  clock := 0
  users := []
  session := []
  tokenBlacklist := fun _ => none
  loginAttempt := fun _ => none
  issued := []
  drawn := 0
  history := []

namespace AuthDb

/-- `findByUsername`. -/
def findByUsername (x : AuthDb) (username : String) : Option User :=
  x.users.find? fun u => u.username == username && u.identityKind == "LOCAL"

/-- `findById`. -/
def findById (x : AuthDb) (id : String) : Option User :=
  x.users.find? fun u => u.id == id && u.identityKind == "LOCAL"

/-- `updateMany` on one user: whether a row matched. -/
def updateUser (x : AuthDb) (id : String) (f : User → User) : Bool × AuthDb :=
  ((x.findById id).isSome, { x with users := x.users.map fun u =>
    if u.id == id && u.identityKind == "LOCAL" then f u else u })

/-! ### Login attempts -/

/-- `LOGIN_WINDOW_SECONDS`, in milliseconds. -/
def LOGIN_WINDOW : Nat := 15 * 60 * 1000

/-- The row of a key, while its window lasts. -/
def liveAttempt (x : AuthDb) (key : String) : Option LoginAttempt :=
  (x.loginAttempt key).filter fun row => decide (x.clock < row.expiresAt)

/-- `getLoginAttempts`. -/
def getLoginAttempts (x : AuthDb) (key : String) : Nat :=
  ((x.liveAttempt key).map LoginAttempt.count).getD 0

def setLoginAttempt (x : AuthDb) (key : String) (row : Option LoginAttempt) : AuthDb :=
  { x with loginAttempt := fun k => if k = key then row else x.loginAttempt k }

/-- `incrementLoginAttempts`: one transaction. -/
def incrementLoginAttempts (x : AuthDb) (key : String) : Nat × AuthDb :=
  match x.liveAttempt key with
  | some row =>
    (row.count + 1, x.setLoginAttempt key (some { row with count := row.count + 1 }))
  | none =>
    (1, { x.setLoginAttempt key (some ⟨1, x.clock + LOGIN_WINDOW⟩) with
      history := .opened key :: x.history })

/-! ### Refresh tokens -/

/-- `jwtService.verify`. -/
def verifyRefreshToken (x : AuthDb) (token : Nat) : Option RefreshToken :=
  x.issued.find? fun t => t.jti == token && decide (x.clock / 1000 < t.exp)

/-- `isTokenBlacklisted`. -/
def isTokenBlacklisted (x : AuthDb) (jti : Nat) : Bool :=
  (x.tokenBlacklist jti).any fun row => decide (x.clock < row.expiresAt)

/-- `wasBlacklistedRecently`. -/
def wasBlacklistedRecently (x : AuthDb) (jti windowMs : Nat) : Bool :=
  (x.tokenBlacklist jti).any fun row => decide (x.clock < row.createdAt + windowMs)

/-- `blacklistToken`: an `upsert`, which leaves `createdAt` of a row that exists. -/
def blacklistToken (x : AuthDb) (jti ttlSeconds : Nat) (reason : Reason) : AuthDb :=
  { x with
    tokenBlacklist := fun j =>
      if j = jti then
        some ⟨x.clock + ttlSeconds * 1000,
          ((x.tokenBlacklist jti).map Blacklisting.createdAt).getD x.clock⟩
      else x.tokenBlacklist j
    history := .blacklisted jti reason :: x.history }

/-! ### Sessions -/

/-- `getSessionMeta`. -/
def getSessionMeta (x : AuthDb) (jti : Nat) : Option Session :=
  (x.session.find? fun s => s.jti == jti).filter fun s => decide (x.clock < s.expiresAt)

/-- `deleteMany` on the sessions with the given `jti`s. -/
def deleteSessions (x : AuthDb) (jtis : List Nat) : AuthDb :=
  { x with session := x.session.filter fun s => !jtis.contains s.jti }

/-- The `findMany` of `dedupeSessions`. -/
def findDuplicates (x : AuthDb) (userId ip userAgent : String) (exceptJti : Nat) : List Nat :=
  (x.session.filter fun s => s.userId == userId && s.ip == ip && s.userAgent == userAgent &&
    s.jti != exceptJti).map Session.jti

/-- The `findMany` of `removeAllUserSessions`. -/
def findUserSessions (x : AuthDb) (userId : String) (exceptJti : Option Nat) : List Nat :=
  (x.session.filter fun s => s.userId == userId && some s.jti != exceptJti).map Session.jti

/-- The refresh token of `generateTokenPair` and `addSession`. -/
def addSession (C : AuthConfig) (x : AuthDb) (userId ip userAgent : String) (parent : Option Nat) :
    Nat × AuthDb :=
  (x.drawn, { x with
    session := x.session ++
      [⟨x.drawn, userId, ip, userAgent, x.clock + C.REFRESH_TOKEN_TTL_SECONDS * 1000⟩]
    issued := ⟨x.drawn, userId, x.clock / 1000 + C.JWT_REFRESH_EXPIRES_IN⟩ :: x.issued
    drawn := x.drawn + 1
    history := .signed x.drawn userId ip parent
      ((x.findById userId).any User.totpEnabled) :: x.history })

end AuthDb

/-! ## Instructions -/

inductive AuthInstr
  | getLoginAttempts (key : String)
  | incrementLoginAttempts (key : String)
  | resetLoginAttempts (key : String)
  | findByUsername (username : String)
  | findById (id : String)
  /-- The verification of a login's password; of `hashPassword` when nobody has the name. -/
  | verifyLogin (ip username password : String) (user : Option User)
  | verifyPassword (hash password : String)
  | verifyRefreshToken (token : Nat)
  | isTokenBlacklisted (jti : Nat)
  | wasBlacklistedRecently (jti windowMs : Nat)
  | blacklistToken (jti ttlSeconds : Nat) (reason : Reason)
  | getSessionMeta (jti : Nat)
  | deleteSessions (jtis : List Nat)
  | findDuplicates (userId ip userAgent : String) (exceptJti : Nat)
  | findUserSessions (userId : String) (exceptJti : Option Nat)
  | addSession (userId ip userAgent : String) (parent : Option Nat)
  | updateTotpSecret (id secret : String)
  | enableTotp (id : String)
  | disableTotp (id : String)
  | now

/-- The answers. -/
abbrev Answer : AuthInstr → Type
  | .getLoginAttempts _ => Nat
  | .incrementLoginAttempts _ => Nat
  | .resetLoginAttempts _ => Unit
  | .findByUsername _ => Option User
  | .findById _ => Option User
  | .verifyLogin _ _ _ _ => Bool
  | .verifyPassword _ _ => Bool
  | .verifyRefreshToken _ => Option RefreshToken
  | .isTokenBlacklisted _ => Bool
  | .wasBlacklistedRecently _ _ => Bool
  | .blacklistToken _ _ _ => Unit
  | .getSessionMeta _ => Option Session
  | .deleteSessions _ => Unit
  | .findDuplicates _ _ _ _ => List Nat
  | .findUserSessions _ _ => List Nat
  | .addSession _ _ _ _ => Nat
  | .updateTotpSecret _ _ => Bool
  | .enableTotp _ => Bool
  | .disableTotp _ => Bool
  | .now => Nat

open AuthDb in
/-- The answer to an instruction, and the database after it. -/
def answer (C : AuthConfig) (H : AuthHost) : (i : AuthInstr) → AuthDb → Answer i × AuthDb
  | .getLoginAttempts key, x => (x.getLoginAttempts key, x)
  | .incrementLoginAttempts key, x => x.incrementLoginAttempts key
  | .resetLoginAttempts key, x => ((), x.setLoginAttempt key none)
  | .findByUsername username, x => (x.findByUsername username, x)
  | .findById id, x => (x.findById id, x)
  | .verifyLogin ip username password user, x =>
    if user.any fun u => H.argon2Verify u.passwordHash password then (true, x)
    else (false, { x with history := .failed ip username :: x.history })
  | .verifyPassword hash password, x => (H.argon2Verify hash password, x)
  | .verifyRefreshToken token, x => (x.verifyRefreshToken token, x)
  | .isTokenBlacklisted jti, x => (x.isTokenBlacklisted jti, x)
  | .wasBlacklistedRecently jti windowMs, x => (x.wasBlacklistedRecently jti windowMs, x)
  | .blacklistToken jti ttlSeconds reason, x => ((), x.blacklistToken jti ttlSeconds reason)
  | .getSessionMeta jti, x => (x.getSessionMeta jti, x)
  | .deleteSessions jtis, x => ((), x.deleteSessions jtis)
  | .findDuplicates userId ip userAgent exceptJti, x =>
    (x.findDuplicates userId ip userAgent exceptJti, x)
  | .findUserSessions userId exceptJti, x =>
    (x.findUserSessions userId exceptJti,
      { x with history := .listed userId exceptJti x.drawn :: x.history })
  | .addSession userId ip userAgent parent, x => x.addSession C userId ip userAgent parent
  | .updateTotpSecret id secret, x =>
    ((x.updateUser id fun u => { u with totpSecret := some secret }).1,
      { (x.updateUser id fun u => { u with totpSecret := some secret }).2 with
        history := .generated secret :: x.history })
  | .enableTotp id, x => x.updateUser id fun u => { u with totpEnabled := true }
  | .disableTotp id, x =>
    x.updateUser id fun u => { u with totpEnabled := false, totpSecret := none }
  | .now, x => (x.clock, x)

/-- What happens besides the calls of `AuthService`. -/
inductive AuthChange
  | tick (elapsed : Nat)
  | cleanupExpired
  /-- A user is created, with the second factor off, unless the name or id is taken. -/
  | createUser (id username passwordHash role : String)
  | updateUser (id username passwordHash role : String)
  | deleteUser (id : String)

/-- The database after a change from outside. -/
def AuthDb.outside : AuthChange → AuthDb → AuthDb
  | .tick elapsed, x => { x with clock := x.clock + elapsed }
  | .cleanupExpired, x => { x with
      session := x.session.filter fun s => decide (x.clock < s.expiresAt)
      tokenBlacklist := fun j => (x.tokenBlacklist j).filter fun row =>
        decide (x.clock < row.expiresAt)
      loginAttempt := x.liveAttempt }
  | .createUser id username passwordHash role, x =>
    if x.users.any fun u => u.id == id || u.username == username then x
    else { x with users := x.users ++ [{
      id := id, username := username, passwordHash := passwordHash, role := role }] }
  | .updateUser id username passwordHash role, x =>
    if x.users.any fun u => u.id != id && u.username == username then x
    else (x.updateUser id fun u =>
      { u with username := username, passwordHash := passwordHash, role := role }).2
  | .deleteUser id, x => { x with users := x.users.filter fun u => u.id != id }

end Meowbox.Auth
