import Meowbox.Auth.Store

/-!
# `AuthService`

The methods of `api/src/auth/auth.service.ts` as programs over the statements of `Store.lean`; what
they call of `SessionService` beyond one statement (`dedupeSessions`, `removeAllUserSessions`) is
written out here.

* A `Promise.all` of two statements performs them in either order. `Order` says which comes first;
  it is an argument of `login`, one for each of its three `Promise.all`s.
* The random bytes of `enableTotp` are an argument.
* A statement that fails ends its method, which is the same as a call that is never advanced again.
* Log lines and the notification of `checkLoginAlertThreshold` are left out.

`verifyTotpCode` and the codes are in the section on TOTP: bytes are numbers below 256.
-/

namespace Meowbox.Auth

open Interleaved Fallible

inductive AuthError
  | unauthorized (message : String)
  | forbidden (message : String)
  | notFound (message : String)
deriving DecidableEq

/-- The payload of the access token and of the refresh token of a pair. -/
structure TokenPair where
  sub : String
  username : String
  role : String
  jti : Nat
deriving DecidableEq

/-- What a method returns. -/
inductive AuthResult
  | tokens (pair : TokenPair)
  | loggedIn (pair : TokenPair) (user : User)
  | done
  | revoked (count : Nat)
  | totp (secret otpauthUrl : String)
deriving DecidableEq

abbrev AuthCall := Fallible AuthInstr Answer AuthError

abbrev perform (i : AuthInstr) : AuthCall (Answer i) := Fallible.ask i

/-- Which of two statements is performed first. -/
inductive Order
  | first
  | second
deriving DecidableEq

/-- `Promise.all([a, b])`. -/
def both (order : Order) (a b : AuthInstr) : AuthCall (Answer a × Answer b) :=
  match order with
  | .first => do
    let r ← perform a
    let s ← perform b
    return (r, s)
  | .second => do
    let s ← perform b
    let r ← perform a
    return (r, s)

/-- `for (const jti of jtis) await blacklistToken(jti)`. -/
def blacklistAll (ttlSeconds : Nat) (reason : Reason) : List Nat → AuthCall Unit
  | [] => pure ()
  | jti :: jtis => do
    perform (.blacklistToken jti ttlSeconds reason)
    blacklistAll ttlSeconds reason jtis

/-- The end of `dedupeSessions` and of `removeAllUserSessions`. -/
def deleteListed (jtis : List Nat) : AuthCall Unit :=
  if jtis.isEmpty then pure () else perform (.deleteSessions jtis)

variable (C : AuthConfig) (H : AuthHost)

/-! ## Tokens -/

/-- `generateTokenPair`; `parent` is the refresh token that was presented. -/
def generateTokenPair (user : User) (ip userAgent : String) (parent : Option Nat) :
    AuthCall TokenPair := do
  let jti ← perform (.addSession user.id ip userAgent parent)
  let dupes ← perform (.findDuplicates user.id ip userAgent jti)
  deleteListed dupes
  blacklistAll C.REFRESH_TOKEN_TTL_SECONDS .duplicate dupes
  return ⟨user.id, user.username, user.role, jti⟩

/-- `usernameKey`. -/
def usernameKey (username : String) : String :=
  "u:" ++ String.ofList ((username.toList.map Char.toLower).take 64)

/-! ## `login` -/

/-- The orders of the statements in the three `Promise.all`s of `login`. -/
structure Schedule where
  read : Order := .first
  increment : Order := .first
  reset : Order := .first

/-- `login` behind the check of the counters. -/
def authenticate (username password ip userAgent : String) (schedule : Schedule) :
    AuthCall AuthResult := do
  let user ← perform (.findByUsername username)
  let isPasswordValid ← perform (.verifyLogin ip username password user)
  match user, isPasswordValid with
  | some user, true => do
    let _ ← both schedule.reset (.resetLoginAttempts ip)
      (.resetLoginAttempts (usernameKey username))
    let tokens ← generateTokenPair C user ip userAgent none
    return .loggedIn tokens user
  | _, _ => do
    let _ ← both schedule.increment (.incrementLoginAttempts ip)
      (.incrementLoginAttempts (usernameKey username))
    throw (.unauthorized "Invalid credentials")

def login (username password ip userAgent : String) (schedule : Schedule) :
    AuthCall AuthResult := do
  let attempts ← both schedule.read (.getLoginAttempts ip)
    (.getLoginAttempts (usernameKey username))
  if C.MAX_LOGIN_ATTEMPTS ≤ attempts.1 then
    throw (.forbidden "Too many login attempts from this IP. Try again in 15 minutes.")
  else if C.MAX_USERNAME_ATTEMPTS ≤ attempts.2 then
    throw (.forbidden
      "Too many failed login attempts for this username. Try again in 15 minutes.")
  else authenticate C username password ip userAgent schedule

/-! ## `refreshTokens` -/

/-- `blacklistToken` and `removeSession`. -/
def invalidate (jti : Nat) (reason : Reason) : AuthCall Unit := do
  perform (.blacklistToken jti C.REFRESH_TOKEN_TTL_SECONDS reason)
  perform (.deleteSessions [jti])

/-- A token that was blacklisted a moment ago: other calls may have presented it too. -/
def resolveRace (payload : RefreshToken) (ip userAgent : String) : AuthCall AuthResult := do
  let raceOk ← perform (.wasBlacklistedRecently payload.jti C.REFRESH_RACE_GRACE_MS)
  if raceOk then do
    let found ← perform (.findById payload.sub)
    match found with
    | some user => do
      let tokens ← generateTokenPair C user ip userAgent (some payload.jti)
      return .tokens tokens
    | none => throw (.forbidden "User not found")
  else throw (.forbidden "Token has been revoked")

/-- A token that is not on the blacklist, behind the check of its address. -/
def rotate (payload : RefreshToken) (ip userAgent : String) : AuthCall AuthResult := do
  let found ← perform (.findById payload.sub)
  match found with
  | some user => do
    invalidate C payload.jti .rotation
    let tokens ← generateTokenPair C user ip userAgent (some payload.jti)
    return .tokens tokens
  | none => throw (.forbidden "User not found")

def refreshTokens (refreshToken : Nat) (ip userAgent : String) : AuthCall AuthResult := do
  let verified ← perform (.verifyRefreshToken refreshToken)
  match verified with
  | none => throw (.forbidden "Invalid or expired refresh token")
  | some payload => do
    let blacklisted ← perform (.isTokenBlacklisted payload.jti)
    if blacklisted then resolveRace C payload ip userAgent
    else do
      let session ← perform (.getSessionMeta payload.jti)
      if session.any fun s => s.ip != ip then do
        invalidate C payload.jti .ipMismatch
        throw (.forbidden "Session invalidated due to IP change. Please log in again.")
      else rotate C payload ip userAgent

/-! ## `logout` and the revocations -/

def logout (refreshToken : Nat) : AuthCall AuthResult := do
  let verified ← perform (.verifyRefreshToken refreshToken)
  match verified with
  | none => return .done
  | some payload => do
    invalidate C payload.jti .logout
    return .done

def revokeSession (sessionId : Nat) : AuthCall AuthResult := do
  invalidate C sessionId .revocation
  return .done

def revokeAllSessions (userId : String) (currentJti : Option Nat) : AuthCall AuthResult := do
  let revoked ← perform (.findUserSessions userId currentJti)
  deleteListed revoked
  blacklistAll C.REFRESH_TOKEN_TTL_SECONDS .revocation revoked
  return .revoked revoked.length

/-! ## TOTP -/

def hexDigits : List Char :=
  ['0', '1', '2', '3', '4', '5', '6', '7', '8', '9', 'a', 'b', 'c', 'd', 'e', 'f']

/-- `buffer.toString('hex')`. -/
def toHex (bytes : List Nat) : List Char :=
  bytes.flatMap fun b => [hexDigits.getD (b / 16) '0', hexDigits.getD (b % 16) '0']

/-- `Buffer.from(text, 'hex')`: up to the first pair that is not two hexadecimal digits. -/
def fromHex : List Char → List Nat
  | a :: b :: rest =>
    match hexDigits.idxOf? a.toLower, hexDigits.idxOf? b.toLower with
    | some high, some low => (16 * high + low) :: fromHex rest
    | _, _ => []
  | _ => []

/-- `buf.writeBigUInt64BE(BigInt(timeStep))`. -/
def counterBytes (timeStep : Nat) : List Nat :=
  (List.range 8).map fun i => timeStep >>> (8 * (7 - i)) % 256

/-- The truncation of `generateTotpCode`. -/
def truncateHash (hash : List Nat) : Nat :=
  let offset := hash.getD (hash.length - 1) 0 % 16
  ((hash.getD offset 0 % 128) <<< 24 + hash.getD (offset + 1) 0 <<< 16 +
    hash.getD (offset + 2) 0 <<< 8 + hash.getD (offset + 3) 0) % 1000000

/-- `otp.toString().padStart(6, '0')`. -/
def sixDigits (n : Nat) : String :=
  String.ofList (List.replicate (6 - (Nat.repr n).length) '0' ++ (Nat.repr n).toList)

/-- The code of RFC 6238 under a key. -/
def totpOfKey (key : List Nat) (timeStep : Nat) : String :=
  sixDigits (truncateHash (H.hmacSha1 key (counterBytes timeStep)))

def generateTotpCode (secret : String) (timeStep : Nat) : String :=
  totpOfKey H (fromHex secret.toList) timeStep

/-- `verifyTotpCode` at a time in milliseconds; a time step is 30 seconds. -/
def verifyTotpCode (secret code : String) (now : Nat) : Bool :=
  let seconds := now / 1000
  [generateTotpCode H secret ((seconds - 30) / 30), generateTotpCode H secret (seconds / 30),
    generateTotpCode H secret ((seconds + 30) / 30)].any fun expected => expected == code

/-- The URL of `enableTotp`. -/
def otpauthUrl (username secret : String) : String :=
  "otpauth://totp/Meowbox:" ++ username ++ "?secret=" ++ secret ++
    "&issuer=Meowbox&digits=6&period=30"

def enableTotp (userId : String) (randomBytes : List Nat) : AuthCall AuthResult := do
  let found ← perform (.findById userId)
  match found with
  | none => throw (.unauthorized "User not found")
  | some user =>
    if user.totpEnabled then throw (.forbidden "2FA is already enabled")
    else do
      let secret := String.ofList (toHex randomBytes)
      let stored ← perform (.updateTotpSecret userId secret)
      if stored then return .totp secret (otpauthUrl user.username secret)
      else throw (.notFound "User not found")

def confirmTotp (userId code : String) : AuthCall AuthResult := do
  let found ← perform (.findById userId)
  match found.bind User.totpSecret with
  | none => throw (.forbidden "TOTP not initialized")
  | some secret => do
    let now ← perform .now
    if verifyTotpCode H secret code now then do
      let enabled ← perform (.enableTotp userId)
      if enabled then return .done else throw (.notFound "User not found")
    else throw (.forbidden "Invalid TOTP code")

/-- The second factor of a user that has it on. -/
def activeSecret (user : User) : Option String := if user.totpEnabled then user.totpSecret else none

def disableTotp (userId code currentPassword : String) : AuthCall AuthResult := do
  let found ← perform (.findById userId)
  match found, found.bind activeSecret with
  | some user, some secret => do
    let passwordOk ← perform (.verifyPassword user.passwordHash currentPassword)
    if passwordOk then do
      let now ← perform .now
      if verifyTotpCode H secret code now then do
        let disabled ← perform (.disableTotp userId)
        if disabled then return .done else throw (.notFound "User not found")
      else throw (.forbidden "Invalid TOTP code")
    else throw (.forbidden "Invalid password")
  | _, _ => throw (.forbidden "2FA is not enabled")

/-! ## Calls -/

/-- A call of a method. -/
inductive AuthRequest
  | login (username password ip userAgent : String) (schedule : Schedule)
  | refreshTokens (refreshToken : Nat) (ip userAgent : String)
  | logout (refreshToken : Nat)
  | revokeSession (sessionId : Nat)
  | revokeAllSessions (userId : String) (currentJti : Option Nat)
  | enableTotp (userId : String) (randomBytes : List Nat)
  | confirmTotp (userId code : String)
  | disableTotp (userId code currentPassword : String)

def AuthRequest.call : AuthRequest → AuthCall AuthResult
  | login username password ip userAgent schedule =>
    Auth.login C username password ip userAgent schedule
  | refreshTokens refreshToken ip userAgent => Auth.refreshTokens C refreshToken ip userAgent
  | logout refreshToken => Auth.logout C refreshToken
  | revokeSession sessionId => Auth.revokeSession C sessionId
  | revokeAllSessions userId currentJti => Auth.revokeAllSessions C userId currentJti
  | enableTotp userId randomBytes => Auth.enableTotp userId randomBytes
  | confirmTotp userId code => Auth.confirmTotp H userId code
  | disableTotp userId code currentPassword => Auth.disableTotp H userId code currentPassword

/-! ## What the methods perform -/

section Performs

variable {C} {H} {P : AuthInstr → Prop}

theorem performs_both {order : Order} {i j : AuthInstr} (hi : P i) (hj : P j) :
    Performs P (both order i j) := by
  cases order with
  | first =>
    exact performs_bind (performs_ask hi) fun _ =>
      performs_bind (performs_ask hj) fun _ => performs_pure _
  | second =>
    exact performs_bind (performs_ask hj) fun _ =>
      performs_bind (performs_ask hi) fun _ => performs_pure _

theorem performs_blacklistAll {ttlSeconds : Nat} {reason : Reason}
    (h : ∀ jti, P (.blacklistToken jti ttlSeconds reason)) :
    ∀ jtis, Performs P (blacklistAll ttlSeconds reason jtis)
  | [] => performs_pure ()
  | jti :: jtis => performs_bind (performs_ask (h jti)) fun _ => performs_blacklistAll h jtis

theorem performs_deleteListed (h : ∀ jtis, P (.deleteSessions jtis)) (jtis : List Nat) :
    Performs P (deleteListed jtis) := by
  unfold deleteListed
  split
  · exact performs_pure ()
  · exact performs_ask (h jtis)

theorem performs_generateTokenPair {user : User} {ip userAgent : String} {parent : Option Nat}
    (hadd : P (.addSession user.id ip userAgent parent))
    (hfind : ∀ jti, P (.findDuplicates user.id ip userAgent jti))
    (hdel : ∀ jtis, P (.deleteSessions jtis))
    (hbl : ∀ jti, P (.blacklistToken jti C.REFRESH_TOKEN_TTL_SECONDS .duplicate)) :
    Performs P (generateTokenPair C user ip userAgent parent) :=
  performs_bind (performs_ask hadd) fun jti => performs_bind (performs_ask (hfind jti)) fun dupes =>
    performs_bind (performs_deleteListed hdel dupes) fun _ =>
      performs_bind (performs_blacklistAll hbl dupes) fun _ => performs_pure _

theorem performs_invalidate {jti : Nat} {reason : Reason}
    (hbl : P (.blacklistToken jti C.REFRESH_TOKEN_TTL_SECONDS reason))
    (hdel : P (.deleteSessions [jti])) : Performs P (invalidate C jti reason) :=
  performs_bind (performs_ask hbl) fun _ => performs_ask hdel

theorem performs_refreshTokens {refreshToken : Nat} {ip userAgent : String}
    (hver : P (.verifyRefreshToken refreshToken)) (hlis : ∀ jti, P (.isTokenBlacklisted jti))
    (hrec : ∀ jti, P (.wasBlacklistedRecently jti C.REFRESH_RACE_GRACE_MS))
    (hmeta : ∀ jti, P (.getSessionMeta jti)) (hfind : ∀ id, P (.findById id))
    (hbl : ∀ jti reason, P (.blacklistToken jti C.REFRESH_TOKEN_TTL_SECONDS reason))
    (hdel : ∀ jtis, P (.deleteSessions jtis))
    (hadd : ∀ id jti, P (.addSession id ip userAgent (some jti)))
    (hduplicates : ∀ id jti, P (.findDuplicates id ip userAgent jti)) :
    Performs P (refreshTokens C refreshToken ip userAgent) := by
  refine performs_bind (performs_ask hver) fun verified => ?_
  cases verified with
  | none => exact performs_throw _
  | some payload =>
    refine performs_bind (performs_ask (hlis _)) fun blacklisted => ?_
    split
    · refine performs_bind (performs_ask (hrec _)) fun raceOk => ?_
      split
      · refine performs_bind (performs_ask (hfind _)) fun found => ?_
        cases found with
        | none => exact performs_throw _
        | some user =>
          exact performs_bind (performs_generateTokenPair (hadd _ _) (hduplicates _) hdel
            fun jti => hbl jti _) fun _ => performs_pure _
      · exact performs_throw _
    · refine performs_bind (performs_ask (hmeta _)) fun session => ?_
      split
      · exact performs_bind (performs_invalidate (hbl _ _) (hdel _)) fun _ =>
          performs_throw _
      · refine performs_bind (performs_ask (hfind _)) fun found => ?_
        cases found with
        | none => exact performs_throw _
        | some user =>
          exact performs_bind (performs_invalidate (hbl _ _) (hdel _)) fun _ =>
            performs_bind (performs_generateTokenPair (hadd _ _) (hduplicates _) hdel
              fun jti => hbl jti _) fun _ => performs_pure _

theorem performs_logout {refreshToken : Nat} (hver : P (.verifyRefreshToken refreshToken))
    (hbl : ∀ jti, P (.blacklistToken jti C.REFRESH_TOKEN_TTL_SECONDS .logout))
    (hdel : ∀ jtis, P (.deleteSessions jtis)) : Performs P (logout C refreshToken) := by
  refine performs_bind (performs_ask hver) fun verified => ?_
  cases verified with
  | none => exact performs_pure _
  | some payload =>
    exact performs_bind (performs_invalidate (hbl _) (hdel _)) fun _ => performs_pure _

variable {userId : String}

theorem performs_revokeAllSessions {currentJti : Option Nat}
    (hfind : P (.findUserSessions userId currentJti))
    (hbl : ∀ jti, P (.blacklistToken jti C.REFRESH_TOKEN_TTL_SECONDS .revocation))
    (hdel : ∀ jtis, P (.deleteSessions jtis)) :
    Performs P (revokeAllSessions C userId currentJti) :=
  performs_bind (performs_ask hfind) fun revoked =>
    performs_bind (performs_deleteListed hdel revoked) fun _ =>
      performs_bind (performs_blacklistAll hbl revoked) fun _ => performs_pure _

/-- A condition that is only looked at. -/
theorem performs_ite {α : Type} {condition : Prop} [Decidable condition] {c d : AuthCall α}
    (hc : Performs P c) (hd : Performs P d) : Performs P (if condition then c else d) := by
  by_cases h : condition
  · rwa [if_pos h]
  · rwa [if_neg h]

theorem performs_enableTotp {randomBytes : List Nat} (hfind : P (.findById userId))
    (hsto : ∀ secret, P (.updateTotpSecret userId secret)) :
    Performs P (enableTotp userId randomBytes) := by
  refine performs_bind (performs_ask hfind) fun found => ?_
  cases found with
  | none => exact performs_throw _
  | some user =>
    exact performs_ite (performs_throw _) (performs_bind (performs_ask (hsto _)) fun stored =>
      performs_ite (performs_pure _) (performs_throw _))

theorem performs_confirmTotp {code : String} (hfind : P (.findById userId)) (hnow : P .now)
    (henable : P (.enableTotp userId)) :
    Performs P (confirmTotp H userId code) := by
  refine performs_bind (performs_ask hfind) fun found => ?_
  generalize Option.bind found User.totpSecret = secret
  cases secret with
  | none => exact performs_throw _
  | some secret =>
    refine performs_bind (performs_ask hnow) fun now => ?_
    -- The unifier would compute the codes.
    generalize verifyTotpCode H secret code now = accepted
    exact performs_ite (performs_bind (performs_ask henable) fun enabled =>
      performs_ite (performs_pure _) (performs_throw _)) (performs_throw _)

theorem performs_disableTotp {code currentPassword : String} (hfind : P (.findById userId))
    (hver : ∀ hash password, P (.verifyPassword hash password)) (hnow : P .now)
    (hdisable : P (.disableTotp userId)) :
    Performs P (disableTotp H userId code currentPassword) := by
  refine performs_bind (performs_ask hfind) fun found => ?_
  generalize Option.bind found activeSecret = secret
  cases found with
  | none => exact performs_throw _
  | some user =>
    cases secret with
    | none => exact performs_throw _
    | some secret =>
      refine performs_bind (performs_ask (hver _ _)) fun passwordOk => ?_
      refine performs_ite (performs_bind (performs_ask hnow) fun now => ?_) (performs_throw _)
      generalize verifyTotpCode H secret code now = accepted
      exact performs_ite (performs_bind (performs_ask hdisable) fun disabled =>
        performs_ite (performs_pure _) (performs_throw _)) (performs_throw _)

end Performs

/-- Authentication over its database. -/
def authService :
    Service AuthDb AuthChange AuthRequest AuthInstr Answer (Except AuthError AuthResult) where
  program request := (request.call C H).run
  answer := answer C H
  outside := AuthDb.outside

end Meowbox.Auth
