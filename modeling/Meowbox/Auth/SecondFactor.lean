import Meowbox.Auth.Tokens
import Meowbox.Lib.Base32

/-!
# The second factor

`enableTotp` generates a secret and a URL for an authenticator, `confirmTotp` turns the second
factor on, and `login` takes no code.

`second_factor`:

* In runs in which nobody logs in while the second factor is on, every pair that is signed while it
  is on descends from a session that was opened while it was off. A login with a password alone
  opens a session just as well (`second_factor_bypassed`).
* The secret is the text of its bytes in hexadecimal, which an authenticator reads as Base32. It
  cannot when there is one of the digits `0`, `1`, `8` and `9`; otherwise its key is never that of
  `verifyTotpCode` (`base32_key_ne`), and its code is accepted where the codes of both keys coincide.
-/

namespace Meowbox.Auth

open Interleaved Fallible Stepping

/-! ## Where a session comes from -/

/-- A session was opened by the other one, or by refreshes from it. -/
inductive Descends (history : List AuthEvent) (root : Nat) : Nat → Prop
  | self : Descends history root root
  | refresh {parent jti : Nat} {userId ip : String} {on : Bool}
      (hpar : Descends history root parent)
      (hsig : .signed jti userId ip (some parent) on ∈ history) : Descends history root jti

/-- A pair that was signed while the second factor of its user was on descends from a login of this
user while it was off. A login with a code there is none. -/
def SecondFactor (history : List AuthEvent) : Prop :=
  ∀ jti userId ip parent, .signed jti userId ip parent true ∈ history →
    ∃ root ip', Descends history root jti ∧ .signed root userId ip' none false ∈ history

/-- Nobody logs in while the second factor is on. -/
def LoginsWithoutFactor (x : AuthDb) (_ : List Stage) (_ : Nat) : AuthInstr → Prop
  | .addSession userId _ _ none => (x.findById userId).any User.totpEnabled = false
  | _ => True

instance (x : AuthDb) (l : List Stage) (n : Nat) (i : AuthInstr) :
    Decidable (LoginsWithoutFactor x l n i) := by
  apply AuthInstr.casesOn (motive := fun i => Decidable (LoginsWithoutFactor x l n i)) i
  case addSession =>
    intro userId ip userAgent parent
    cases parent <;> dsimp only [LoginsWithoutFactor] <;> infer_instance
  all_goals
    intros
    dsimp only [LoginsWithoutFactor]
    infer_instance

section Runs

variable {C : AuthConfig} {H : AuthHost} {x : AuthDb} {l : List Stage}

/-- Every login opened its session while the second factor was off. -/
def OpenedWithoutFactor (history : List AuthEvent) : Prop :=
  ∀ jti userId ip on, .signed jti userId ip none on ∈ history → on = false

theorem opened_ask {n : Nat} {i : AuthInstr} (h : OpenedWithoutFactor x.history)
    (hg : LoginsWithoutFactor x l n i) : OpenedWithoutFactor (answer C H i x).2.history := by
  by_cases hadd : ∃ userId ip userAgent parent, i = .addSession userId ip userAgent parent
  · obtain ⟨userId, ip, userAgent, parent, rfl⟩ := hadd
    intro jti u a on he
    rcases List.mem_cons.mp he with heq | he
    · cases heq
      exact hg
    · exact h jti u a on he
  · have hsame := sameTokens_answer C H (fun u a b q hi => hadd ⟨u, a, b, q, hi⟩) x
    exact fun jti u a on he => h jti u a on ((hsame.signed _ _ _ _ _).mp he)

/-- Every pair descends from a login of its user. -/
theorem descends_login (ht : TokensOk C x l) : ∀ jti userId ip parent on,
    .signed jti userId ip parent on ∈ x.history →
      ∃ root ip' on', Descends x.history root jti ∧ .signed root userId ip' none on' ∈ x.history := by
  intro jti
  induction jti using Nat.strong_induction_on with
  | _ jti ih =>
    intro userId ip parent on he
    cases parent with
    | none => exact ⟨jti, ip, on, .self, he⟩
    | some parent =>
      obtain ⟨t, hiss, rfl, rfl, hlt⟩ := ht.parent jti userId ip parent on he
      obtain ⟨a, q, on', hsig⟩ := ht.issued t hiss
      obtain ⟨root, ip', on'', hdescends, hroot⟩ := ih t.jti hlt t.sub a q on' hsig
      exact ⟨root, ip', on'', .refresh hdescends he, hroot⟩

theorem secondFactor_of_opened (ht : TokensOk C x l) (h : OpenedWithoutFactor x.history) :
    SecondFactor x.history := by
  intro jti userId ip parent he
  obtain ⟨root, ip', on, hdescends, hroot⟩ := descends_login ht jti userId ip parent true he
  cases h _ _ _ _ hroot
  exact ⟨root, ip', hdescends, hroot⟩

theorem opened_run {s : AuthRun}
    (hs : Reach (authStep C H) (Phased.Within LoginsWithoutFactor) ⟨AuthDb.init, []⟩ s) :
    OpenedWithoutFactor s.store.history := by
  refine (Phased.invariant (I := fun x _ => OpenedWithoutFactor x.history) (request_stages H)
    ?_ ?_ ?_ ?_ hs).1
  · exact fun jti u a on he => absurd he (by simp [AuthDb.init])
  · intro change x _ h jti u a on he
    exact h jti u a on (((sameTokens_outside change x).signed _ _ _ _ _).mp he)
  · exact fun _ _ _ h => h
  · exact fun _ _ _ _ _ h _ _ hg => opened_ask h hg

end Runs

/-! ## The authenticator -/

section Authenticator

/-- The items of the query of a URL. -/
def queryItems (url : List Char) : List (List Char) :=
  ((url.dropWhile (· != '?')).drop 1).splitOn '&'

/-- The value of a parameter of the query of a URL. -/
def queryParameter (name url : List Char) : Option (List Char) :=
  (queryItems url).findSome? fun item =>
    if item.takeWhile (· != '=') = name then some ((item.dropWhile (· != '=')).drop 1) else none

variable (H : AuthHost)

/-- The key an authenticator takes from a URL. -/
def authenticatorKey (url : String) : Option (List Nat) :=
  (queryParameter "secret".toList url.toList).bind Base32.decode

/-- The code an authenticator shows at a time in milliseconds. -/
def authenticatorCode (url : String) (now : Nat) : Option String :=
  (authenticatorKey url).map fun key => totpOfKey H key (now / 1000 / 30)

/-- The secret of `enableTotp`. -/
def totpSecretOf (randomBytes : List Nat) : String := String.ofList (toHex randomBytes)

/-- The code of the authenticator is accepted in the time step it is shown in. -/
def CodesAgree (username : String) (randomBytes : List Nat) (now : Nat) : Prop :=
  ∃ code, authenticatorCode H (otpauthUrl username (totpSecretOf randomBytes)) now = some code ∧
    verifyTotpCode H (totpSecretOf randomBytes) code now = true

/-- The secret is a text in Base32, of another key, and the code of this key coincides with one that
is accepted. -/
def CodesCoincide (randomBytes : List Nat) (now : Nat) : Prop :=
  (∀ c ∈ toHex randomBytes, c ∉ ['0', '1', '8', '9']) ∧
    ∃ key, Base32.decode (toHex randomBytes) = some key ∧ key ≠ randomBytes ∧
      ∃ step ∈ [(now / 1000 - 30) / 30, now / 1000 / 30, (now / 1000 + 30) / 30],
        totpOfKey H randomBytes step = totpOfKey H key (now / 1000 / 30)

variable {randomBytes : List Nat}

theorem mem_toHex {c : Char} (h : c ∈ toHex randomBytes) : c ∈ hexDigits := by
  obtain ⟨b, -, hc⟩ := List.mem_flatMap.mp h
  have hdig : ∀ n, hexDigits.getD n '0' ∈ hexDigits := by
    intro n
    rw [List.getD_eq_getElem?_getD]
    cases hn : hexDigits[n]? with
    | none => exact List.mem_cons_self
    | some d => exact List.mem_of_getElem? hn
  rcases List.mem_cons.mp hc with rfl | hc
  · exact hdig _
  · rw [List.mem_singleton.mp hc]
    exact hdig _

/-- What `Buffer.from(secret, 'hex')` reads is what was written. -/
theorem fromHex_toHex : ∀ {randomBytes : List Nat}, (∀ b ∈ randomBytes, b < 256) →
    fromHex (toHex randomBytes) = randomBytes
  | [], _ => rfl
  | b :: bs, h => by
    have hdig : ∀ d < 16, hexDigits.idxOf? (hexDigits.getD d '0').toLower = some d := by decide
    have hb : b < 256 := h b List.mem_cons_self
    have hrest := fromHex_toHex fun b hb => h b (List.mem_cons_of_mem _ hb)
    have hcons : toHex (b :: bs) =
        hexDigits.getD (b / 16) '0' :: hexDigits.getD (b % 16) '0' :: toHex bs := rfl
    rw [hcons, fromHex, hdig (b / 16) (by omega), hdig (b % 16) (by omega)]
    simp only [hrest, List.cons.injEq, and_true]
    omega

/-- The digits that Base32 has, too. -/
theorem base32_digit (c : Char) (hc : c ∈ hexDigits) : (Base32.value c).isSome = true ↔
    c ∉ ['0', '1', '8', '9'] := by
  have hall : hexDigits.all (fun c =>
      decide ((Base32.value c).isSome = true ↔ c ∉ ['0', '1', '8', '9'])) = true := by
    decide
  exact of_decide_eq_true (List.all_eq_true.mp hall c hc)

/-- **The authenticator has another key**: the first bytes differ. -/
theorem base32_key_ne {key : List Nat} (hbs : randomBytes ≠ []) (h : ∀ b ∈ randomBytes, b < 256)
    (hkey : Base32.decode (toHex randomBytes) = some key) :
    key ≠ randomBytes := by
  cases randomBytes with
  | nil => exact absurd rfl hbs
  | cons b bs =>
    have hdig : ∀ d < 16, ∀ v, Base32.value (hexDigits.getD d '0') = some v →
        (2 ≤ d ∧ d ≤ 7 ∧ v = d + 24) ∨ (10 ≤ d ∧ v + 10 = d) := by
      have hall : ∀ d < 16, (Base32.value (hexDigits.getD d '0')).all
          (fun v => decide ((2 ≤ d ∧ d ≤ 7 ∧ v = d + 24) ∨ (10 ≤ d ∧ v + 10 = d))) = true := by
        decide
      intro d hd v hv
      have hd' := hall d hd
      rw [hv] at hd'
      exact of_decide_eq_true hd'
    have hb : b < 256 := h b List.mem_cons_self
    obtain ⟨u, v, hu, hv, hhead⟩ := Base32.decode_head hkey
    intro heq
    rw [heq, List.head?_cons, Option.some.injEq] at hhead
    have hhigh := hdig (b / 16) (by omega) u hu
    have hlow := Base32.value_lt hv
    omega

theorem toList_joined (a b c d e : String) : (a ++ b ++ c ++ d ++ e).toList =
    a.toList ++ b.toList ++ c.toList ++ d.toList ++ e.toList := by
  rw [String.toList_append, String.toList_append, String.toList_append, String.toList_append]

/-- The URL carries the secret. -/
theorem secret_parameter {username secret : String} (hun : '?' ∉ username.toList)
    (hsecret : '&' ∉ secret.toList) :
    queryParameter "secret".toList (otpauthUrl username secret).toList = some secret.toList := by
  have hits : queryItems (otpauthUrl username secret).toList =
      ("secret=".toList ++ secret.toList) ::
        "issuer=Meowbox&digits=6&period=30".toList.splitOn '&' := by
    have hquery : "?secret=".toList = '?' :: "secret=".toList := by decide
    have his : "&issuer=Meowbox&digits=6&period=30".toList =
        '&' :: "issuer=Meowbox&digits=6&period=30".toList := by decide
    have hurl : (otpauthUrl username secret).toList =
        ("otpauth://totp/Meowbox:".toList ++ username.toList) ++
          '?' :: (("secret=".toList ++ secret.toList) ++
            '&' :: "issuer=Meowbox&digits=6&period=30".toList) := by
      have hjoined : (otpauthUrl username secret).toList = "otpauth://totp/Meowbox:".toList ++
          username.toList ++ "?secret=".toList ++ secret.toList ++
            "&issuer=Meowbox&digits=6&period=30".toList := toList_joined _ _ _ _ _
      rw [hjoined, hquery, his]
      simp only [List.append_assoc, List.cons_append]
    have hpath : "otpauth://totp/Meowbox:".toList.all (· != '?') = true := by decide
    have hname : "secret=".toList.all (· != '&') = true := by decide
    have hbef : ∀ c ∈ "otpauth://totp/Meowbox:".toList ++ username.toList, (c != '?') = true := by
      intro c hc
      rcases List.mem_append.mp hc with hc | hc
      · exact List.all_eq_true.mp hpath c hc
      · exact bne_iff_ne.mpr fun heq => hun (heq ▸ hc)
    have hval : ∀ c ∈ "secret=".toList ++ secret.toList, (c == '&') = false := by
      intro c hc
      rcases List.mem_append.mp hc with hc | hc
      · have hne := bne_iff_ne.mp (List.all_eq_true.mp hname c hc)
        exact beq_eq_false_iff_ne.mpr hne
      · exact beq_eq_false_iff_ne.mpr fun heq => hsecret (heq ▸ hc)
    rw [queryItems, hurl, List.dropWhile_append_of_pos hbef,
      List.dropWhile_cons_of_neg (by decide), List.drop_one, List.tail_cons,
      List.splitOn_eq_splitOnP,
      List.splitOnP_append_cons_of_forall_mem hval _ (beq_self_eq_true '&')]
    rfl
  rw [queryParameter, hits, List.findSome?_cons]
  simp

theorem authenticatorKey_eq {username : String} (hun : '?' ∉ username.toList) :
    authenticatorKey (otpauthUrl username (totpSecretOf randomBytes)) =
      Base32.decode (toHex randomBytes) := by
  have hsecret : '&' ∉ (totpSecretOf randomBytes).toList := by
    intro hmem
    rw [totpSecretOf, String.toList_ofList] at hmem
    exact absurd (mem_toHex hmem) (by decide)
  rw [authenticatorKey, secret_parameter hun hsecret, Option.bind_some, totpSecretOf,
    String.toList_ofList]

/-- **When the code of the authenticator is accepted.** -/
theorem codesAgree_iff {username : String} {now : Nat} (hun : '?' ∉ username.toList)
    (hlen : randomBytes.length = 32) (hbs : ∀ b ∈ randomBytes, b < 256) :
    CodesAgree H username randomBytes now ↔ CodesCoincide H randomBytes now := by
  have hne : randomBytes ≠ [] := by
    intro hnil
    rw [hnil] at hlen
    cases hlen
  have hver : ∀ code, verifyTotpCode H (totpSecretOf randomBytes) code now = true ↔
      ∃ step ∈ [(now / 1000 - 30) / 30, now / 1000 / 30, (now / 1000 + 30) / 30],
        totpOfKey H randomBytes step = code := by
    intro code
    simp only [verifyTotpCode, generateTotpCode, totpSecretOf, String.toList_ofList,
      fromHex_toHex hbs]
    simp
  constructor
  · rintro ⟨code, hcode, hacc⟩
    rw [authenticatorCode, authenticatorKey_eq hun] at hcode
    obtain ⟨key, hkey, rfl⟩ := Option.map_eq_some_iff.mp hcode
    refine ⟨fun c hc => (base32_digit c (mem_toHex hc)).mp ?_, key, hkey,
      base32_key_ne hne hbs hkey, (hver _).mp hacc⟩
    exact Base32.decode_isSome.mp (by rw [hkey]; rfl) c hc
  · rintro ⟨-, key, hkey, -, hstep⟩
    refine ⟨totpOfKey H key (now / 1000 / 30), ?_, (hver _).mpr hstep⟩
    rw [authenticatorCode, authenticatorKey_eq hun, hkey, Option.map_some]

end Authenticator

/-! ## The second factor in a run -/

/-- **The second factor**, where nobody logs in while it is on: every pair that is signed while it is
on descends from a session opened while it was off. The code of an authenticator is accepted exactly
when its key, another one, happens to give an accepted code. -/
theorem second_factor {C : AuthConfig} {H : AuthHost} {s : AuthRun}
    (hs : Reach (authStep C H) (Phased.Within LoginsWithoutFactor) ⟨AuthDb.init, []⟩ s) :
    SecondFactor s.store.history ∧
      ∀ username randomBytes now, '?' ∉ username.toList → randomBytes.length = 32 →
        (∀ b ∈ randomBytes, b < 256) →
        (CodesAgree H username randomBytes now ↔ CodesCoincide H randomBytes now) :=
  ⟨secondFactor_of_opened (tokens_ok hs) (opened_run hs),
    fun _ _ _ hun hlen hbs => codesAgree_iff H hun hlen hbs⟩

/-- **Every session descends from a login of its user**, whatever calls overlap. -/
theorem sessions_descend {C : AuthConfig} {H : AuthHost} {s : AuthRun}
    {G : AuthDb → List Stage → Nat → AuthInstr → Prop}
    (hs : Reach (authStep C H) (Phased.Within G) ⟨AuthDb.init, []⟩ s) :
    ∀ r ∈ s.store.session, ∃ root ip on, Descends s.store.history root r.jti ∧
      .signed root r.userId ip none on ∈ s.store.history := by
  intro r hr
  obtain ⟨parent, on, hsig⟩ := (tokens_ok hs).session r hr
  exact descends_login (tokens_ok hs) _ _ _ _ _ hsig

/-- A login without the second factor, which is then turned on, and a refresh. -/
def factorThenRefresh : List (Event AuthChange AuthRequest) :=
  newUser ++ callAlone 0 8 (loginFrom "203.0.113.7") ++
    callAlone 1 2 (.enableTotp "user-1" (List.replicate 32 170)) ++
    callAlone 2 3 (.confirmTotp "user-1" "000000") ++
    callAlone 3 8 (.refreshTokens 0 "203.0.113.7" "browser")

theorem second_factor_refresh : ∃ s : AuthRun,
    .signed 1 "user-1" "203.0.113.7" (some 0) true ∈ s.store.history ∧
      SecondFactor s.store.history ∧
      (CodesAgree oneUser "alice" (List.replicate 32 170) 1000 ↔
        CodesCoincide oneUser (List.replicate 32 170) 1000) := by
  have hrun : ∃ s : AuthRun, Reach userStep (Phased.Within LoginsWithoutFactor)
      ⟨AuthDb.init, []⟩ s ∧ .signed 1 "user-1" "203.0.113.7" (some 0) true ∈ s.store.history :=
    Reach.of_run_any (l := factorThenRefresh) (by decide)
  obtain ⟨s, hs, hsig⟩ := hrun
  obtain ⟨hfactor, hcodes⟩ := second_factor hs
  exact ⟨s, hsig, hfactor, hcodes "alice" _ 1000 (by decide) (by decide) (by decide)⟩

theorem sessions_descend_refresh : ∃ s : AuthRun, s.store.session ≠ [] ∧
    ∀ r ∈ s.store.session, ∃ root ip on, Descends s.store.history root r.jti ∧
      .signed root r.userId ip none on ∈ s.store.history := by
  have hrun : ∃ s : AuthRun, Reach userStep (Phased.Within LoginsWithoutFactor)
      ⟨AuthDb.init, []⟩ s ∧ s.store.session ≠ [] :=
    Reach.of_run_any (l := factorThenRefresh) (by decide)
  obtain ⟨s, hs, hne⟩ := hrun
  exact ⟨s, hne, sessions_descend hs⟩

/-- The second factor is turned on, and then a password is enough. -/
def factorThenLogin : List (Event AuthChange AuthRequest) :=
  newUser ++ callAlone 0 2 (.enableTotp "user-1" (List.replicate 32 170)) ++
    callAlone 1 3 (.confirmTotp "user-1" "000000") ++ callAlone 2 8 (loginFrom "198.51.100.2")

/-- A session was opened by a login while the second factor was off. -/
def openedWithout : AuthEvent → Bool
  | .signed _ _ _ none false => true
  | _ => false

/-- **A password is enough**, and there are secrets no authenticator can read. -/
theorem second_factor_bypassed :
    (∃ s, Reach userStep anyStep ⟨AuthDb.init, []⟩ s ∧ ¬SecondFactor s.store.history) ∧
      ∃ randomBytes : List Nat, randomBytes.length = 32 ∧ (∀ b ∈ randomBytes, b < 256) ∧
        ∀ H now, ¬CodesAgree H "alice" randomBytes now := by
  constructor
  · have hrun : ∃ s : AuthRun, Reach userStep anyStep ⟨AuthDb.init, []⟩ s ∧
        .signed 0 "user-1" "198.51.100.2" none true ∈ s.store.history ∧
        ∀ e ∈ s.store.history, openedWithout e = false :=
      Reach.of_run_any (l := factorThenLogin) (by decide)
    obtain ⟨s, hs, hsig, hnone⟩ := hrun
    refine ⟨s, hs, fun hfactor => ?_⟩
    obtain ⟨root, ip', -, hroot⟩ := hfactor _ _ _ _ hsig
    cases hnone _ hroot
  · refine ⟨List.replicate 32 0, by decide, by decide, fun H now hagree => ?_⟩
    have halice : '?' ∉ "alice".toList := by decide
    have hcoincide := (codesAgree_iff H halice (by decide) (by decide)).mp hagree
    exact hcoincide.1 '0' (by decide) (by decide)

end Meowbox.Auth
