import Meowbox.Federation.Replay
import Meowbox.Lib.Except
import Meowbox.Lib.Phases

/-!
# An assertion is accepted once

`verify` accepts an assertion when `consume` has written its tombstone, and refuses it where there
is one. An assertion that expires in the second `e` is within its window before `(e + 31) * 1000`
(`Assertion.windowEnd`), by whole seconds; its tombstone is written to last until `(e + 30) * 1000`
or for two minutes, whichever is later. `issuedAt` may lie 30 s ahead and the lifetime be 60 s, so
`e` may be 90 s ahead of the second in which it is verified, and then the tombstone ends up to a
second before the window.

* `ReplayGuard`: the window of what is consumed ends before its tombstone does and has not ended
  yet, although `now` was read earlier; and no prune has found a tombstone of the same name expired
  and is yet to delete it.
* `accepted_once`: in runs of which every consumption is so, no assertion is accepted twice, and its
  tombstone stays as long as its window.
-/

namespace Meowbox.Federation

open Interleaved Fallible Stepping

/-! ## Stages -/

/-- What the acceptance of an assertion depends on. -/
structure Assertion where
  kid : String
  requestId : String
  actionId : String
  nonce : String
  expiresAt : Int
deriving DecidableEq

namespace Assertion

/-- The first millisecond behind the window, by the clock of the target. -/
def windowEnd (a : Assertion) : Int := (a.expiresAt + ASSERTION_CLOCK_SKEW_SECONDS + 1) * 1000

def hash (a : Assertion) (issuerId : String) : ReplayHash :=
  ⟨issuerId, a.kid, a.requestId, a.actionId, a.nonce⟩

end Assertion

/-- The assertion that a request presents, if it is well formed. -/
def FederationRequest.assertion? (H : VerifierHost) : FederationRequest → Option Assertion
  | .http input => (decodeDelegationClaims H input.encoded.assertion).toOption.map fun c =>
      ⟨c.keyId, c.requestId, c.actionId, c.nonce, c.expiresAt⟩
  | .channel assertion =>
    (decodeFederationWsChannelClaims H assertion.assertion).toOption.map fun c =>
      ⟨c.keyId, c.channelId, "federation.ws-channel", c.nonce, c.expiresAt⟩
  | .pruneExpired _ => none

inductive ReplayStage
  | begun
  | timed (now : Nat)
  | keyed (now : Nat) (issuerId : String)
  | consumed (hash : ReplayHash)
  | pruning (hashes : List ReplayHash)
  | ended
deriving DecidableEq

/-- The tombstones that a prune has found expired and is yet to delete. -/
def ReplayStage.pruned : ReplayStage → List ReplayHash
  | pruning hashes => hashes
  | _ => []

structure ReplayPhase where
  request : FederationRequest
  stage : ReplayStage
deriving DecidableEq

def replayAllows (H : VerifierHost) (y : ReplayPhase) : FederationInstr → Prop
  | .findKey kid => ∃ a, y.request.assertion? H = some a ∧ kid = a.kid
  | .consume input => ∃ now issuerId a, y.stage = .keyed now issuerId ∧
      y.request.assertion? H = some a ∧
      input = ⟨a.hash issuerId, replayExpiresAt a.expiresAt now, now⟩
  | .findExpired now _ => y.stage = .timed now
  | .deleteReplays hashes => y.stage = .pruning hashes
  | _ => True

def replayStageAfter (stage : ReplayStage) : (i : FederationInstr) → Answer i → ReplayStage
  | .now, now => .timed now
  | .findKey _, key =>
    match stage, key with
    | .timed now, some key => .keyed now key.issuer.id
    | _, _ => .ended
  | .consume _, r =>
    match r with
    | .ok hash => .consumed hash
    | .error _ => .ended
  | .findExpired _ _, hashes => .pruning hashes
  | .deleteReplays _, _ => .ended
  | _, _ => stage

def replayProtocol (H : VerifierHost) : Protocol ReplayPhase FederationInstr Answer where
  allows := replayAllows H
  after y i r := { y with stage := replayStageAfter y.stage i r }

/-- A verified context is returned only behind the tombstone. -/
def replayFinal (y : ReplayPhase) (r : Except FederationError FederationResult) : Prop :=
  ∀ requestId issuerId keyId principalId permissions hash,
    r = .ok (.verified requestId issuerId keyId principalId permissions hash) →
      y.stage = .consumed hash

/-! ### The programs -/

section Programs

variable {H : VerifierHost} {y : ReplayPhase}

theorem replayFinal_error (e : FederationError) : replayFinal y (.error e) :=
  fun _ _ _ _ _ _ h => absurd h (by simp)

theorem replayFinal_pruned (n : Nat) : replayFinal y (.ok (.pruned n)) :=
  fun _ _ _ _ _ _ h => absurd h (by simp)

/-- What both verifiers check of the claims leaves them what they were when decoded. -/
theorem decode_of_verifyDelegation {encoded : EncodedDelegationAssertion}
    {binding : DelegationRequestBinding} {key : FederationKey} {target : String}
    {nowSeconds : Nat} {claims : DelegationClaims}
    (h : verifyDelegationAssertion H encoded binding key target nowSeconds = .ok claims) :
    decodeDelegationClaims H encoded.assertion = .ok claims ∧ claims.keyId = key.kid := by
  simp only [verifyDelegationAssertion] at h
  cases hdecode : decodeDelegationClaims H encoded.assertion with
  | error e =>
    rw [hdecode] at h
    exact absurd h (by simp [bind, Except.bind])
  | ok c =>
    simp only [hdecode, bind, Except.bind, fail] at h
    obtain ⟨hbd, h⟩ := Failing.unless_ok h
    obtain ⟨-, h⟩ := Failing.unless_ok h
    cases hsig : H.delegationSigned c binding encoded.signature key.publicKeySpki with
    | error e =>
      rw [hsig] at h
      exact absurd h (by simp)
    | ok signed =>
      rw [hsig] at h
      cases signed with
      | false => exact absurd h (by simp)
      | true =>
        cases h
        refine ⟨rfl, ?_⟩
        by_contra hkey
        exact hbd (.inr (.inr hkey))

theorem decode_of_verifyChannel {envelope : FederatedWsChannelAssertion} {key : FederationKey}
    {target : String} {nowSeconds : Nat} {claims : FederationWsChannelClaims}
    (h : verifyFederationWsChannelAssertion H envelope key target nowSeconds = .ok claims) :
    decodeFederationWsChannelClaims H envelope.assertion = .ok claims ∧
      claims.keyId = key.kid := by
  simp only [verifyFederationWsChannelAssertion] at h
  cases hdecode : decodeFederationWsChannelClaims H envelope.assertion with
  | error e =>
    rw [hdecode] at h
    exact absurd h (by simp [bind, Except.bind])
  | ok c =>
    simp only [hdecode, bind, Except.bind, fail] at h
    obtain ⟨hbd, h⟩ := Failing.unless_ok h
    obtain ⟨-, h⟩ := Failing.unless_ok h
    split at h
    · cases h
      refine ⟨rfl, ?_⟩
      by_contra hkey
      exact hbd (.inl hkey)
    · exact absurd h (by simp)

/-- Behind the tombstone nothing changes the stage. -/
theorem verified_follows {i : FederationInstr} {outcome : Answer i → Except FederationError α}
    {f : α → FederationCall FederationResult}
    (hallows : replayAllows H y i) (haft : ∀ r, replayStageAfter y.stage i r = y.stage)
    (hf : ∀ a, Follows (replayProtocol H) replayFinal y (f a)) :
    Follows (replayProtocol H) replayFinal y (ask? i outcome >>= f) := by
  have hsame : ∀ r, (replayProtocol H).after y i r = y := by
    intro r
    show { y with stage := replayStageAfter y.stage i r } = y
    rw [haft r]
  refine follows_ask? hallows (fun r a _ => ?_) fun r e _ => ?_
  · rw [hsame r]
    exact hf a
  · rw [hsame r]
    exact replayFinal_error e

theorem timed_follows (request : FederationRequest) {f : Nat → FederationCall FederationResult}
    (hf : ∀ now, Follows (replayProtocol H) replayFinal ⟨request, .timed now⟩ (f now)) :
    Follows (replayProtocol H) replayFinal ⟨request, .begun⟩ (perform .now >>= f) :=
  follows_ask trivial hf

/-- Before the key is looked up, and while it is checked, an error ends the call. -/
theorem refused_follows (e : FederationError) :
    Follows (replayProtocol H) replayFinal y (throw e : FederationCall FederationResult) :=
  follows_throw (replayFinal_error e)

/-- **A consumption**: what follows it stands behind the tombstone. -/
theorem consume_follows {request : FederationRequest} {now : Nat} {issuerId : String}
    {a : Assertion} {f : ReplayHash → FederationCall FederationResult}
    (ha : request.assertion? H = some a)
    (hf : ∀ hash, Follows (replayProtocol H) replayFinal ⟨request, .consumed hash⟩ (f hash)) :
    Follows (replayProtocol H) replayFinal ⟨request, .keyed now issuerId⟩
      (ask? (.consume ⟨a.hash issuerId, replayExpiresAt a.expiresAt now, now⟩) id >>= f) := by
  refine follows_ask? ⟨now, issuerId, a, rfl, ha, rfl⟩ (fun r hash hr => ?_)
    fun r e _ => replayFinal_error e
  cases hr
  exact hf hash

/-- Behind the tombstone the idempotency key is claimed. -/
theorem claimed_follows (input : VerifyFederationDelegationInput) (claims : DelegationClaims)
    (key : FederationKey) (hash : ReplayHash) (principal : String × List String) :
    Follows (replayProtocol H) replayFinal ⟨.http input, .consumed hash⟩ (do
      match input.idempotencyKey with
      | none => pure ()
      | some idempotencyKey =>
        ask? (.claimIdempotency claims idempotencyKey) fun r => r.map fun _ => ()
      return FederationResult.verified claims.requestId key.issuer.id key.kid principal.1
        principal.2 hash) := by
  have hver : replayFinal ⟨.http input, .consumed hash⟩
      (.ok (.verified claims.requestId key.issuer.id key.kid principal.1 principal.2 hash)) := by
    rintro _ _ _ _ _ _ ⟨⟩
    rfl
  cases input.idempotencyKey with
  | none => exact hver
  | some idempotencyKey => exact verified_follows trivial (fun _ => rfl) fun _ => hver

theorem verifyDelegation_follows (input : VerifyFederationDelegationInput) :
    Follows (replayProtocol H) replayFinal ⟨.http input, .begun⟩ (verifyDelegation H input) := by
  refine timed_follows _ fun now => follows_ofExcept_bind (fun c hc => ?_)
    fun e _ => replayFinal_error e
  refine follows_ask trivial fun identity => ?_
  have ha : ∀ claims, decodeDelegationClaims H input.encoded.assertion = .ok claims →
      FederationRequest.assertion? H (.http input) = some
        ⟨claims.keyId, claims.requestId, claims.actionId, claims.nonce, claims.expiresAt⟩ := by
    intro claims hcls
    simp only [FederationRequest.assertion?, hcls, Except.toOption, Option.map_some]
  split
  · exact refused_follows _
  · refine follows_ask ⟨_, ha c hc, rfl⟩ fun found => ?_
    cases found with
    | none => exact refused_follows _
    | some key =>
      dsimp only
      split
      · exact refused_follows _
      split
      · exact refused_follows _
      split
      · exact refused_follows _
      refine follows_ofExcept_bind (fun claims hcls => ?_) fun e _ => replayFinal_error e
      obtain ⟨hdecode, hkey⟩ := decode_of_verifyDelegation hcls
      refine follows_ofExcept_bind (fun policy _ => ?_) fun e _ => replayFinal_error e
      obtain ⟨required, permitted⟩ := policy
      have hass := ha claims hdecode
      rw [hkey] at hass
      refine consume_follows hass fun hash => ?_
      have hend := claimed_follows (H := H) input claims key hash
      dsimp only
      split
      · exact verified_follows trivial (fun _ => rfl) hend
      · exact verified_follows trivial (fun _ => rfl) hend

theorem verifyChannel_follows (assertion : FederatedWsChannelAssertion) :
    Follows (replayProtocol H) replayFinal ⟨.channel assertion, .begun⟩
      (verifyChannel H assertion) := by
  refine timed_follows _ fun now => follows_ofExcept_bind (fun c hc => ?_)
    fun e _ => replayFinal_error e
  refine follows_ask trivial fun identity => ?_
  have ha : ∀ claims, decodeFederationWsChannelClaims H assertion.assertion = .ok claims →
      FederationRequest.assertion? H (.channel assertion) = some
        ⟨claims.keyId, claims.channelId, "federation.ws-channel", claims.nonce,
          claims.expiresAt⟩ := by
    intro claims hcls
    simp only [FederationRequest.assertion?, hcls, Except.toOption, Option.map_some]
  split
  · exact refused_follows _
  · refine follows_ask ⟨_, ha c hc, rfl⟩ fun found => ?_
    cases found with
    | none => exact refused_follows _
    | some key =>
      dsimp only
      split
      · exact refused_follows _
      split
      · exact refused_follows _
      split
      · exact refused_follows _
      refine follows_ofExcept_bind (fun claims hcls => ?_) fun e _ => replayFinal_error e
      obtain ⟨hdecode, hkey⟩ := decode_of_verifyChannel hcls
      refine follows_ask? trivial (fun r manifest _ => ?_) fun r e _ => replayFinal_error e
      refine follows_ofExcept_bind (fun permissions _ => ?_) fun e _ => replayFinal_error e
      have hass := ha claims hdecode
      rw [hkey] at hass
      refine consume_follows hass fun hash => ?_
      refine verified_follows trivial (fun _ => rfl) fun principalId => ?_
      rintro _ _ _ _ _ _ ⟨⟩
      rfl

theorem pruneExpired_follows (batchSize : Int) :
    Follows (replayProtocol H) replayFinal ⟨.pruneExpired batchSize, .begun⟩
      (pruneExpired batchSize) := by
  refine timed_follows _ fun now => ?_
  refine follows_ask rfl fun expired => ?_
  split
  · exact replayFinal_pruned 0
  · exact follows_ask rfl fun count => replayFinal_pruned count

theorem program_follows (request : FederationRequest) :
    ((federation H).program request).Follows (replayProtocol H) replayFinal ⟨request, .begun⟩ := by
  cases request with
  | http input => exact verifyDelegation_follows input
  | channel assertion => exact verifyChannel_follows assertion
  | pruneExpired batchSize => exact pruneExpired_follows batchSize

end Programs

/-! ## The invariant -/

namespace FederationDb

/-- The issuer a key belongs to. -/
def issuerOf (x : FederationDb) (kid : String) : Option String :=
  (x.findKey kid).map fun key => key.issuer.id

/-- While the window of the assertion lasts, its tombstone is there and outlives it. -/
def Entombed (x : FederationDb) (hash : ReplayHash) (a : Assertion) : Prop :=
  ((∃ row ∈ x.federationReplay, row.replayHash = hash) ∧
      ∀ row ∈ x.federationReplay, row.replayHash = hash → a.windowEnd ≤ row.expiresAt) ∨
    a.windowEnd ≤ x.clock

theorem findKey_map {x : FederationDb} {f : FederationKey → FederationKey} (kid : String)
    (hf : ∀ key, (f key).kid = key.kid) :
    ((x.federationKey.map f).find? fun key => key.kid == kid) = (x.findKey kid).map f := by
  unfold findKey
  rw [List.find?_map]
  congr 2
  funext key
  simp only [Function.comp, hf key]

/-- A key stays with its issuer. -/
theorem issuerOf_outside {x : FederationDb} {kid issuerId : String} (change : FederationChange)
    (h : x.issuerOf kid = some issuerId) : (x.outside change).issuerOf kid = some issuerId := by
  unfold issuerOf at h ⊢
  cases change with
  | tick elapsed => exact h
  | setPanel panel => exact h
  | createKey key =>
    simp only [outside]
    split
    · exact h
    · unfold findKey at h ⊢
      simp only [List.find?_append]
      cases hfnd : x.federationKey.find? (fun key => key.kid == kid) with
      | none =>
        rw [hfnd] at h
        exact absurd h (by simp)
      | some other =>
        rw [hfnd] at h
        exact h
  | updateKey name state expiresAt revokedAt =>
    simp only [outside]
    unfold findKey
    rw [findKey_map kid (fun key => by split <;> rfl), Option.map_map]
    rw [← h]
    congr 1
    funext key
    simp only [Function.comp]
    split <;> rfl
  | updateIssuer id state maxRole permissionPolicyJson revokedAt =>
    simp only [outside]
    unfold findKey
    rw [findKey_map kid (fun key => by split <;> rfl), Option.map_map]
    rw [← h]
    congr 1
    funext key
    simp only [Function.comp]
    split <;> rfl

theorem clock_outside (x : FederationDb) (change : FederationChange) :
    x.clock ≤ (x.outside change).clock ∧
      (x.outside change).federationReplay = x.federationReplay := by
  cases change with
  | tick elapsed => exact ⟨Nat.le_add_right _ _, rfl⟩
  | createKey key =>
    simp only [outside]
    split
    · exact ⟨Nat.le_refl _, rfl⟩
    · exact ⟨Nat.le_refl _, rfl⟩
  | updateKey _ _ _ _ => exact ⟨Nat.le_refl _, rfl⟩
  | updateIssuer _ _ _ _ _ => exact ⟨Nat.le_refl _, rfl⟩
  | setPanel _ => exact ⟨Nat.le_refl _, rfl⟩

variable {x : FederationDb} {hash : ReplayHash} {a : Assertion}

theorem Entombed.clock {x' : FederationDb} (h : x.Entombed hash a)
    (hclk : x.clock ≤ x'.clock) (hrows : x'.federationReplay = x.federationReplay) :
    x'.Entombed hash a := by
  rcases h with ⟨hrow, hall⟩ | hover
  · refine .inl ⟨?_, ?_⟩
    · rwa [hrows]
    · rwa [hrows]
  · exact .inr (hover.trans (by exact_mod_cast hclk))

/-! ### The statements on tombstones -/

/-- **A tombstone is written only where none is.** -/
theorem consume_ok {input : ConsumeFederationReplayInput}
    (h : (x.consume input).1 = .ok hash) :
    hash = input.hash ∧ x.conflicts input.hash = false ∧ (x.consume input).2 =
      { x with federationReplay := x.federationReplay ++ [⟨input.hash, input.expiresAt⟩] } := by
  unfold consume at h ⊢
  split at h
  · exact absurd h (by simp [fail])
  · rename_i hexp
    split at h
    · exact absurd h (by simp [fail])
    · rename_i hcapacity
      split at h
      · exact absurd h (by simp [fail])
      · rename_i hfree
        cases h
        rw [if_neg hexp, if_neg hcapacity, if_neg hfree]
        exact ⟨rfl, by simpa using hfree, rfl⟩

/-- A consumption that fails writes nothing. -/
theorem consume_error {input : ConsumeFederationReplayInput} {e : FederationError}
    (h : (x.consume input).1 = .error e) : (x.consume input).2 = x := by
  unfold consume at h ⊢
  split
  · rfl
  · rename_i hexp
    rw [if_neg hexp] at h
    split
    · rfl
    · rename_i hcapacity
      rw [if_neg hcapacity] at h
      split
      · rfl
      · rename_i hfree
        rw [if_neg hfree] at h
        exact absurd h (by simp)

theorem not_conflicts (h : x.conflicts hash = false) :
    ∀ row ∈ x.federationReplay, row.replayHash ≠ hash := by
  intro row hrow heq
  have hnone := List.any_eq_false.mp h row hrow
  rw [heq] at hnone
  exact hnone (by simp)

/-- What a prune finds has expired. -/
theorem findExpired_expired {now limit : Nat} (h : hash ∈ x.findExpired now limit) :
    ∃ row ∈ x.federationReplay, row.replayHash = hash ∧ row.expiresAt ≤ now := by
  obtain ⟨row, hrow, rfl⟩ := List.mem_map.mp h
  have hsor := List.mem_mergeSort.mp (List.mem_of_mem_take hrow)
  obtain ⟨hmem, hexpired⟩ := List.mem_filter.mp hsor
  exact ⟨row, hmem, rfl, of_decide_eq_true hexpired⟩

theorem mem_deleteReplays {hashes : List ReplayHash} {row : FederationReplay} :
    row ∈ (x.deleteReplays hashes).2.federationReplay ↔
      row ∈ x.federationReplay ∧ row.replayHash ∉ hashes := by
  simp [deleteReplays]

end FederationDb

/-- What a call knows of the store. -/
def ReplayPhase.Own (H : VerifierHost) (x : FederationDb) (y : ReplayPhase) : Prop :=
  match y.stage with
  | .timed now => now ≤ x.clock
  | .keyed now issuerId => now ≤ x.clock ∧
      ∃ a, y.request.assertion? H = some a ∧ x.issuerOf a.kid = some issuerId
  | .consumed hash => ∃ a issuerId, y.request.assertion? H = some a ∧
      x.issuerOf a.kid = some issuerId ∧ hash = a.hash issuerId ∧ x.Entombed hash a
  | _ => True

/-- What two calls have to do with each other: they have not consumed one assertion, and what the
second is about to delete is over for the first. -/
def ReplayPhase.Apart (H : VerifierHost) (x : FederationDb) (y z : ReplayPhase) : Prop :=
  ∀ hash, y.stage = .consumed hash →
    (∀ hash', z.stage = .consumed hash' → y.request.assertion? H ≠ z.request.assertion? H) ∧
      (hash ∈ z.stage.pruned → ∀ a, y.request.assertion? H = some a → a.windowEnd ≤ x.clock)

structure ReplaySafe (H : VerifierHost) (x : FederationDb) (l : List ReplayPhase) : Prop where
  own : ∀ y ∈ l, y.Own H x
  apart : ∀ (k m : Nat) (y z : ReplayPhase), k ≠ m → l[k]? = some y → l[m]? = some z →
    y.Apart H x z

/-- The window of what is consumed ends before its tombstone does, it has not ended, and no prune is
about to delete a tombstone of the name. -/
def ReplayGuard (H : VerifierHost) (x : FederationDb) (l : List ReplayPhase) (k : Nat) :
    FederationInstr → Prop
  | .consume input => ∀ y ∈ l[k]?, ∀ a ∈ y.request.assertion? H,
      (x.clock : Int) < a.windowEnd ∧ a.windowEnd ≤ input.now + MINIMUM_REPLAY_RETENTION_MS ∧
        ∀ z ∈ l, input.hash ∉ z.stage.pruned
  | _ => True

section Kept

variable {H : VerifierHost} {x x' : FederationDb} {l : List ReplayPhase} {k : Nat}
  {y y' z : ReplayPhase}

theorem ReplayPhase.Apart.clock (h : y.Apart H x z) (hclk : x.clock ≤ x'.clock) :
    y.Apart H x' z := by
  intro hash hy
  obtain ⟨hone, hpru⟩ := h hash hy
  exact ⟨hone, fun hmem a ha => (hpru hmem a ha).trans (by exact_mod_cast hclk)⟩

/-- A call goes on, and the others keep what they know. -/
theorem ReplaySafe.set (h : ReplaySafe H x l) (hclk : x.clock ≤ x'.clock)
    (hown : y'.Own H x') (hothers : ∀ z ∈ l, z.Own H x → z.Own H x')
    (hapart : ∀ m z, m ≠ k → l[m]? = some z → y'.Apart H x' z ∧ z.Apart H x' y') :
    ReplaySafe H x' (l.set k y') := by
  constructor
  · intro z hz
    rcases List.mem_or_eq_of_mem_set hz with hold | rfl
    · exact hothers z hold (h.own z hold)
    · exact hown
  · intro m n z w hmn hm hn
    rcases getElem?_set_cases hm with ⟨rfl, rfl⟩ | ⟨hmk, hz⟩
    · rcases getElem?_set_cases hn with ⟨rfl, -⟩ | ⟨hnk, hw⟩
      · exact absurd rfl hmn
      · exact (hapart n w hnk hw).1
    · rcases getElem?_set_cases hn with ⟨rfl, rfl⟩ | ⟨hnk, hw⟩
      · exact (hapart m z hmk hz).2
      · exact (h.apart m n z w hmn hz hw).clock hclk

/-- Neither consumed nor pruning. -/
theorem ReplayPhase.Apart.of_idle (hy : ∀ hash, y.stage ≠ .consumed hash)
    (hpru : y.stage.pruned = []) (z : ReplayPhase) : y.Apart H x z ∧ z.Apart H x y := by
  refine ⟨fun hash h => absurd h (hy hash), fun hash _ => ⟨fun hash' h => absurd h (hy hash'), ?_⟩⟩
  rw [hpru]
  exact fun hmem => absurd hmem (by simp)

/-- A call goes on to a stage that is neither, and changes nothing. -/
theorem ReplaySafe.idle (h : ReplaySafe H x l) (hown : y'.Own H x)
    (hy : ∀ hash, y'.stage ≠ .consumed hash) (hpru : y'.stage.pruned = []) :
    ReplaySafe H x (l.set k y') :=
  h.set (Nat.le_refl _) hown (fun _ _ hz => hz) fun _ z _ _ =>
    ReplayPhase.Apart.of_idle hy hpru z

/-- An instruction that changes neither the store nor the stage. -/
theorem ReplaySafe.same (h : ReplaySafe H x l) (hk : l[k]? = some y) :
    ReplaySafe H x (l.set k y) := by
  obtain ⟨hlt, hget⟩ := List.getElem?_eq_some_iff.mp hk
  rwa [← hget, List.set_getElem_self]

theorem ReplaySafe.outside (change : FederationChange) (h : ReplaySafe H x l) :
    ReplaySafe H (x.outside change) l := by
  obtain ⟨hclk, hrows⟩ := x.clock_outside change
  constructor
  · intro y hy
    have hown := h.own y hy
    unfold ReplayPhase.Own at hown ⊢
    split
    · rename_i now hstg
      rw [hstg] at hown
      exact Nat.le_trans hown hclk
    · rename_i now issuerId hstg
      rw [hstg] at hown
      obtain ⟨hnow, a, ha, his⟩ := hown
      exact ⟨Nat.le_trans hnow hclk, a, ha, FederationDb.issuerOf_outside change his⟩
    · rename_i hash hstg
      rw [hstg] at hown
      obtain ⟨a, issuerId, ha, his, hhash, htomb⟩ := hown
      exact ⟨a, issuerId, ha, FederationDb.issuerOf_outside change his, hhash,
        htomb.clock hclk hrows⟩
    · trivial
  · intro k m y z hkm hk hm
    exact (h.apart k m y z hkm hk hm).clock hclk

theorem ReplaySafe.call (request : FederationRequest) (h : ReplaySafe H x l) :
    ReplaySafe H x (l ++ [⟨request, .begun⟩]) := by
  have hidle : ∀ z, ReplayPhase.Apart H x ⟨request, .begun⟩ z ∧
      z.Apart H x ⟨request, .begun⟩ :=
    ReplayPhase.Apart.of_idle (by simp) rfl
  constructor
  · intro y hy
    rcases List.mem_snoc.mp hy with hold | rfl
    · exact h.own y hold
    · trivial
  · intro k m y z hkm hk hm
    rcases getElem?_append_cases hk with ⟨-, rfl⟩ | ⟨-, hk⟩
    · exact (hidle z).1
    · rcases getElem?_append_cases hm with ⟨-, rfl⟩ | ⟨-, hm⟩
      · exact (hidle y).2
      · exact h.apart k m y z hkm hk hm

/-- The tombstones after a deletion of expired ones. -/
theorem ReplaySafe.deleted (h : ReplaySafe H x l) (hk : l[k]? = some y) {hashes : List ReplayHash}
    (hstg : y.stage = .pruning hashes) :
    ReplaySafe H (x.deleteReplays hashes).2 (l.set k { y with stage := .ended }) := by
  constructor
  · intro z hz
    rcases List.mem_or_eq_of_mem_set hz with hz | rfl
    · have hown := h.own z hz
      unfold ReplayPhase.Own at hown ⊢
      split
      · rename_i now hread
        rw [hread] at hown
        exact hown
      · rename_i now issuerId hkeyed
        rw [hkeyed] at hown
        exact hown
      · rename_i hash hcon
        rw [hcon] at hown
        obtain ⟨a, issuerId, ha, his, hhash, htomb⟩ := hown
        refine ⟨a, issuerId, ha, his, hhash, ?_⟩
        rcases htomb with ⟨⟨row, hrow, hname⟩, hall⟩ | hover
        · by_cases hmem : hash ∈ hashes
          · -- The prune has found the tombstone expired, so the window is over.
            obtain ⟨m, hm⟩ := List.mem_iff_getElem?.mp hz
            have hmk : m ≠ k := by
              rintro rfl
              rw [hk] at hm
              cases hm
              rw [hstg] at hcon
              cases hcon
            refine .inr ((h.apart m k z y hmk hm hk hash hcon).2 ?_ a ha)
            rw [hstg]
            exact hmem
          · refine .inl ⟨⟨row, ?_, hname⟩, fun other hother => ?_⟩
            · exact FederationDb.mem_deleteReplays.mpr ⟨hrow, hname ▸ hmem⟩
            · exact hall other (FederationDb.mem_deleteReplays.mp hother).1
        · exact .inr hover
      · trivial
    · trivial
  · intro m n z w hmn hm hn
    have hidle : ∀ v : ReplayPhase, ReplayPhase.Apart H x { y with stage := .ended } v ∧
        v.Apart H x { y with stage := .ended } := ReplayPhase.Apart.of_idle (by simp) rfl
    rcases getElem?_set_cases hm with ⟨-, rfl⟩ | ⟨-, hm⟩
    · exact (hidle w).1
    · rcases getElem?_set_cases hn with ⟨-, rfl⟩ | ⟨-, hn⟩
      · exact (hidle z).2
      · exact h.apart m n z w hmn hm hn

/-- **A prune looks for expired tombstones**: it finds none of a window that lasts. -/
theorem ReplaySafe.found (h : ReplaySafe H x l) (hk : l[k]? = some y) {now limit : Nat}
    (hstg : y.stage = .timed now) :
    ReplaySafe H x (l.set k { y with stage := .pruning (x.findExpired now limit) }) := by
  have hnow : now ≤ x.clock := by
    have hown := h.own y (List.mem_of_getElem? hk)
    unfold ReplayPhase.Own at hown
    rwa [hstg] at hown
  refine h.set (Nat.le_refl _) trivial (fun _ _ hz => hz) fun m z hmk hm => ⟨?_, ?_⟩
  · exact fun hash hcon => absurd hcon (by simp)
  · intro hash hcon
    refine ⟨fun hash' hother => absurd hother (by simp), fun hmem a ha => ?_⟩
    obtain ⟨row, hrow, hname, hexpired⟩ := FederationDb.findExpired_expired hmem
    have hown := h.own z (List.mem_of_getElem? hm)
    unfold ReplayPhase.Own at hown
    rw [hcon] at hown
    obtain ⟨b, issuerId, hb, -, -, htomb⟩ := hown
    rw [ha] at hb
    cases hb
    rcases htomb with ⟨-, hall⟩ | hover
    · have hlasts := hall row hrow hname
      have hclk : (now : Int) ≤ x.clock := by exact_mod_cast hnow
      omega
    · exact hover

/-- **A consumption.** -/
theorem ReplaySafe.consumed (h : ReplaySafe H x l) (hk : l[k]? = some y)
    {input : ConsumeFederationReplayInput} {hash : ReplayHash}
    (halw : replayAllows H y (.consume input)) (hg : ReplayGuard H x l k (.consume input))
    (hok : (x.consume input).1 = .ok hash) :
    ReplaySafe H (x.consume input).2 (l.set k { y with stage := .consumed hash }) := by
  obtain ⟨now, issuerId, a, hstg, ha, rfl⟩ := halw
  obtain ⟨rfl, hfree, hsto⟩ := FederationDb.consume_ok hok
  obtain ⟨hopen, hlasts, hunpruned⟩ := hg y hk a ha
  have hnone := FederationDb.not_conflicts hfree
  have hmine : x.issuerOf a.kid = some issuerId := by
    have hown := h.own y (List.mem_of_getElem? hk)
    unfold ReplayPhase.Own at hown
    rw [hstg] at hown
    obtain ⟨-, b, hb, his⟩ := hown
    rw [ha] at hb
    cases hb
    exact his
  have hexp : a.windowEnd ≤ replayExpiresAt a.expiresAt now :=
    hlasts.trans (le_max_right _ _)
  rw [hsto]
  -- A tombstone that is there stays, and none of another name is written.
  have hkept : ∀ {name : ReplayHash} {b : Assertion}, x.Entombed name b →
      FederationDb.Entombed { x with federationReplay := x.federationReplay ++
        [⟨a.hash issuerId, replayExpiresAt a.expiresAt now⟩] } name b := by
    intro name b htomb
    rcases htomb with ⟨⟨row, hrow, hname⟩, hall⟩ | hover
    · refine .inl ⟨⟨row, List.mem_append_left _ hrow, hname⟩, fun other hother heq => ?_⟩
      rcases List.mem_snoc.mp hother with hold | rfl
      · exact hall other hold heq
      · exact absurd (hname.trans heq.symm) (hnone row hrow)
    · exact .inr hover
  refine h.set (Nat.le_refl _) ⟨a, issuerId, ha, hmine, rfl, .inl ⟨?_, ?_⟩⟩ ?_ ?_
  · exact ⟨_, List.mem_append_right _ (List.mem_singleton.mpr rfl), rfl⟩
  · intro row hrow hname
    rcases List.mem_snoc.mp hrow with hold | rfl
    · exact absurd hname (hnone row hold)
    · exact hexp
  · intro z _ hown
    unfold ReplayPhase.Own at hown ⊢
    split
    · rename_i time hread
      rw [hread] at hown
      exact hown
    · rename_i time issuer hkeyed
      rw [hkeyed] at hown
      exact hown
    · rename_i name hcon
      rw [hcon] at hown
      obtain ⟨b, issuer, hb, his, hname, htomb⟩ := hown
      exact ⟨b, issuer, hb, his, hname, hkept htomb⟩
    · trivial
  · -- Another call that had consumed the assertion would still have its tombstone.
    have hfirst : ∀ z ∈ l, ∀ name, z.stage = .consumed name →
        z.request.assertion? H ≠ y.request.assertion? H := by
      intro z hz name hcon hsame
      have hown := h.own z hz
      unfold ReplayPhase.Own at hown
      rw [hcon] at hown
      obtain ⟨b, issuer, hb, his, hname, htomb⟩ := hown
      rw [hsame, ha] at hb
      cases hb
      rw [hmine] at his
      cases his
      subst hname
      rcases htomb with ⟨⟨row, hrow, hname⟩, -⟩ | hover
      · exact hnone row hrow hname
      · omega
    intro m z hmk hm
    have hz := List.mem_of_getElem? hm
    refine ⟨fun name hname => ?_, fun name hname => ?_⟩
    · cases hname
      exact ⟨fun name' hname' hsame => hfirst z hz name' hname' hsame.symm,
        fun hmem => absurd hmem (hunpruned z hz)⟩
    · exact ⟨fun name' _ hsame => hfirst z hz name hname hsame,
        fun hmem => absurd hmem (by simp [ReplayStage.pruned])⟩

/-- **One instruction.** -/
theorem ReplaySafe.ask (h : ReplaySafe H x l) (hk : l[k]? = some y) {i : FederationInstr}
    (halw : replayAllows H y i) (hg : ReplayGuard H x l k i) :
    ReplaySafe H (answer i x).2 (l.set k ((replayProtocol H).after y i (answer i x).1)) := by
  have hown := h.own y (List.mem_of_getElem? hk)
  cases i with
  | now => exact h.idle (Nat.le_refl _) (fun _ => by simp [replayProtocol, replayStageAfter]) rfl
  | getLocalIdentity => exact h.same hk
  | findKey kid =>
    obtain ⟨a, ha, rfl⟩ := halw
    unfold ReplayPhase.Own at hown
    cases hstg : y.stage with
    | timed now =>
      rw [hstg] at hown
      cases hfnd : x.findKey a.kid with
      | none =>
        simp only [replayProtocol, answer, replayStageAfter, hfnd, hstg]
        exact h.idle trivial (by simp) rfl
      | some key =>
        simp only [replayProtocol, answer, replayStageAfter, hfnd, hstg]
        refine h.idle ⟨hown, a, ha, ?_⟩ (by simp) rfl
        simp only [FederationDb.issuerOf, hfnd, Option.map_some]
    | begun | keyed _ _ | consumed _ | pruning _ | ended =>
      simp only [replayProtocol, answer, replayStageAfter, hstg]
      exact h.idle trivial (by simp) rfl
  | manifest => exact h.same hk
  | consume input =>
    simp only [replayProtocol, answer, replayStageAfter]
    cases hr : (x.consume input).1 with
    | error e =>
      simp only
      rw [FederationDb.consume_error hr]
      exact h.idle trivial (by simp) rfl
    | ok hash => exact h.consumed hk halw hg hr
  | resolveVerifiedOperator issuer target subject principalVersion => exact h.same hk
  | resolveVerifiedService claims => exact h.same hk
  | claimIdempotency claims idempotencyKey => exact h.same hk
  | findExpired now limit => exact h.found hk halw
  | deleteReplays hashes => exact h.deleted hk halw

end Kept

/-! ## Runs -/

instance (H : VerifierHost) (x : FederationDb) (l : List ReplayPhase) (k : Nat)
    (i : FederationInstr) : Decidable (ReplayGuard H x l k i) := by
  apply FederationInstr.casesOn (motive := fun i => Decidable (ReplayGuard H x l k i)) i <;>
    intros <;> dsimp only [ReplayGuard] <;> infer_instance

abbrev FederationCallState : Type :=
  ReplayPhase × Prog FederationInstr Answer (Except FederationError FederationResult)

abbrev FederationRun : Type := Phased FederationDb ReplayPhase FederationInstr Answer
  (Except FederationError FederationResult)

def federationStep (H : VerifierHost) :
    FederationRun → Event FederationChange FederationRequest → Option FederationRun :=
  Phased.step (federation H) (replayProtocol H) fun request => ⟨request, .begun⟩

/-- The call has ended with the context of a verified assertion. -/
def accepted (c : FederationCallState) : Bool :=
  match c.2 with
  | .done (.ok (.verified _ _ _ _ _ _)) => true
  | _ => false

/-- There is a tombstone of the assertion, and a prune does not find it. -/
def FederationDb.HasTombstone (x : FederationDb) (a : Assertion) : Prop :=
  ∃ row ∈ x.federationReplay, (∃ issuerId, row.replayHash = a.hash issuerId) ∧
    (x.clock : Int) < row.expiresAt

variable {H : VerifierHost} {x₀ : FederationDb} {s : FederationRun}

theorem replaySafe_run
    (hs : Reach (federationStep H) (Phased.Within (ReplayGuard H)) ⟨x₀, []⟩ s) :
    ReplaySafe H s.store s.phases ∧ ∀ c ∈ s.calls, c.2.Follows (replayProtocol H) replayFinal c.1 :=
  Phased.invariant program_follows
    ⟨fun y hy => absurd hy (by simp), fun k m y z _ hk => absurd hk (by simp)⟩
    (fun change _ _ h => h.outside change) (fun request _ _ h => h.call request)
    (fun _ _ _ _ _ h hk halw hg => h.ask hk halw hg) hs

/-- A call that has accepted an assertion has consumed it. -/
theorem consumed_of_accepted {c : FederationCallState}
    (hfol : c.2.Follows (replayProtocol H) replayFinal c.1) (h : accepted c = true) :
    ∃ hash, c.1.stage = .consumed hash := by
  obtain ⟨y, p⟩ := c
  unfold accepted at h
  split at h
  · rename_i requestId issuerId keyId principalId permissions hash hp
    dsimp only at hp
    rw [hp] at hfol
    exact ⟨hash, hfol _ _ _ _ _ _ rfl⟩
  · exact absurd h (by simp)

theorem phase_of_call {k : Nat} {c : FederationCallState} (hk : s.calls[k]? = some c) :
    s.phases[k]? = some c.1 := by
  simp [Phased.phases, hk]

/-- The verifier takes the window for open before its end only. -/
theorem before_windowEnd {issuedAt : Int} {a : Assertion} {now : Nat}
    (h : inWindow issuedAt a.expiresAt (now / 1000) = true) : (now : Int) < a.windowEnd := by
  unfold inWindow at h
  obtain ⟨-, hupper⟩ := (Bool.and_eq_true _ _).mp h
  have hlasts := of_decide_eq_true hupper
  unfold Assertion.windowEnd
  unfold ASSERTION_CLOCK_SKEW_SECONDS at hlasts ⊢
  omega

/-- **Every assertion is accepted at most once, and its tombstone stays while the verifier would
accept its time window.** -/
theorem accepted_once
    (hs : Reach (federationStep H) (Phased.Within (ReplayGuard H)) ⟨x₀, []⟩ s) :
    (∀ (k m : Nat) (c c' : FederationCallState), k ≠ m → s.calls[k]? = some c →
      s.calls[m]? = some c' → accepted c = true → accepted c' = true →
        c.1.request.assertion? H ≠ c'.1.request.assertion? H) ∧
      ∀ c ∈ s.calls, accepted c = true → ∃ a, c.1.request.assertion? H = some a ∧
        ∀ issuedAt, inWindow issuedAt a.expiresAt (s.store.clock / 1000) = true →
          s.store.HasTombstone a := by
  obtain ⟨hsafe, hfol⟩ := replaySafe_run hs
  constructor
  · intro k m c c' hkm hk hm hc hc'
    obtain ⟨hash, hcon⟩ :=
      consumed_of_accepted (hfol c (List.mem_of_getElem? hk)) hc
    obtain ⟨hash', hcon'⟩ :=
      consumed_of_accepted (hfol c' (List.mem_of_getElem? hm)) hc'
    exact (hsafe.apart k m c.1 c'.1 hkm (phase_of_call hk) (phase_of_call hm) hash hcon).1
      hash' hcon'
  · intro c hc hacc
    obtain ⟨hash, hcon⟩ := consumed_of_accepted (hfol c hc) hacc
    have hown := hsafe.own c.1 (List.mem_map_of_mem hc)
    unfold ReplayPhase.Own at hown
    rw [hcon] at hown
    obtain ⟨a, issuerId, ha, -, rfl, htomb⟩ := hown
    refine ⟨a, ha, fun issuedAt hopen => ?_⟩
    have hbef := before_windowEnd hopen
    rcases htomb with ⟨⟨row, hrow, hname⟩, hall⟩ | hover
    · have hlasts := hall row hrow hname
      exact ⟨row, hrow, ⟨issuerId, hname⟩, by omega⟩
    · omega

/-! ### A target with one key -/

namespace Sample

/-- The claims of an assertion for the seconds given. -/
def claims (issuedAt expiresAt : Int) : DelegationClaims where
  keyId := "ed25519-AAAAAAAAAAAAAAAAAAAAAA"
  issuedAt := issuedAt
  expiresAt := expiresAt
  nonce := "BBBBBBBBBBBBBBBBBBBBBBBBBBBBBBBB"
  requestId := "00000000-0000-4000-8000-000000000001"
  targetInstallationId := "00000000-0000-4000-8000-000000000002"
  actionId := "sites.list"
  actorKind := "OPERATOR"
  issuerInstallationId := "00000000-0000-4000-8000-000000000003"
  subject := "operator-1"
  browserIp := "203.0.113.7"
  role := "ADMIN"
  permissions := ["sites.read"]
  principalVersion := 1
  operationId := none
  idempotencyId := none

/-- One assertion is signed, and the policy admits it. -/
def host (issuedAt expiresAt : Int) : VerifierHost where
  isIP _ := true
  parseDelegationClaims assertion :=
    if assertion = "e30" then some (claims issuedAt expiresAt) else none
  delegationBytes _ := "e30"
  delegationSigned _ _ _ _ := .ok true
  parseChannelClaims _ := none
  channelBytes _ := ""
  channelSigned _ _ _ := false
  actionPolicy _ _ _ := .ok ([], ["sites.read"])
  channelPolicy _ _ _ := .error ⟨.refused, ""⟩

def key : FederationKey where
  kid := "ed25519-AAAAAAAAAAAAAAAAAAAAAA"
  issuer := {
    id := "issuer-1"
    issuerInstallationId := "00000000-0000-4000-8000-000000000003"
    targetInstallationId := "00000000-0000-4000-8000-000000000002"
    state := "ACTIVE", maxRole := "ADMIN", permissionPolicyJson := "[]", revokedAt := none }
  publicKeySpki := ""
  encryptedPrivateKey := false
  state := "ACTIVE"
  validFrom := 0
  expiresAt := none
  revokedAt := none

/-- A thousand seconds after the epoch. -/
def target : FederationDb where
  clock := 1000000
  panel := {
    identity := ⟨"00000000-0000-4000-8000-000000000002", "TARGET"⟩
    manifest := .error ⟨.refused, ""⟩
    resolveVerifiedOperator := fun _ _ _ _ => .ok "principal-1"
    resolveVerifiedService := fun _ => .error ⟨.refused, ""⟩
    claimIdempotency := fun _ _ => .error ⟨.refused, ""⟩ }
  federationKey := [key]
  federationReplay := []
  maxActivePerIssuer := 10000

def request : FederationRequest :=
  .http ⟨⟨"e30", ""⟩, ⟨"GET", "/api/sites", [], ""⟩, "/api/sites", none⟩

end Sample

/-- The assertion is presented twice, with a prune between; so many statements does the prune
perform, and so many the second presentation. -/
def presentTwice (elapsed prune second : Nat) : List (Event FederationChange FederationRequest) :=
  [Event.call Sample.request] ++ List.replicate 5 (Event.advance 0) ++
    [Event.outside (FederationChange.tick elapsed), .call (.pruneExpired 1000)] ++
    List.replicate prune (Event.advance 1) ++ [Event.call Sample.request] ++
    List.replicate second (Event.advance 2)

theorem accepted_once_sample : ∃ s : FederationRun, s.calls.map accepted = [true, false, false] ∧
    ∃ c ∈ s.calls, accepted c = true ∧
      ∃ a, c.1.request.assertion? (Sample.host 1000 1060) = some a ∧
        ∀ issuedAt, inWindow issuedAt a.expiresAt (s.store.clock / 1000) = true →
          s.store.HasTombstone a := by
  have hrun : ∃ s : FederationRun, Reach (federationStep (Sample.host 1000 1060))
      (Phased.Within (ReplayGuard (Sample.host 1000 1060))) ⟨Sample.target, []⟩ s ∧
      s.calls.map accepted = [true, false, false] :=
    Reach.of_run_any (l := presentTwice 90500 2 4) (by decide +kernel)
  obtain ⟨s, hs, hacc⟩ := hrun
  have hsome : ∃ c ∈ s.calls, accepted c = true := by
    have hmem : true ∈ s.calls.map accepted := by
      rw [hacc]
      exact List.mem_cons_self
    obtain ⟨c, hc, htrue⟩ := List.mem_map.mp hmem
    exact ⟨c, hc, htrue⟩
  obtain ⟨c, hc, htrue⟩ := hsome
  exact ⟨s, hacc, c, hc, htrue, (accepted_once hs).2 c hc htrue⟩

/-- **An assertion is accepted twice**: issued 30 s ahead for 60 s, its tombstone is pruned after
two minutes and half a second, when the verifier still takes its window for open. -/
theorem accepted_twice : ∃ s : FederationRun,
    Reach (federationStep (Sample.host 1030 1090)) anyStep ⟨Sample.target, []⟩ s ∧
      s.calls.map accepted = [true, false, true] ∧
      s.calls.map (fun c => c.1.request) =
        [Sample.request, .pruneExpired 1000, Sample.request] :=
  Reach.of_run_any (l := presentTwice 120500 3 5) (by decide +kernel)

end Meowbox.Federation
