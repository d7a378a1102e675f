import Meowbox.Gateway.Acknowledged

/-!
# What a failed command leaves of the subscriptions

`handleBrowserCommand` changes the desired subscriptions before it knows whether the command goes
through; two of its exits behind that answer the browser with an error. Below `checked` stand the
checks in front of the change.

* `dispatch_dropped`, `dispatch_sent`: what the two exits leave.
* **`failed_command`**: a command that is answered with an error leaves the desired set as it was,
  except exactly when it `Breaks` it.
* `SampleBridge.full_queue_unsubscribes`: a queue that is full answers an unsubscription with an error, and
  forgets the subscription.
-/

namespace Meowbox.Gateway

open JsData AgentJobs

/-! ## The desired set -/

/-- **The desired subscriptions are the same**; a key is an event and a payload. -/
def SameDesired (s s' : BridgeSession) : Prop :=
  ∀ key, (s'.subscriptions.get key).isSome = (s.subscriptions.get key).isSome

/-- The browser has been told an error for the callback. -/
def AnsweredError (s s' : BridgeSession) (c : Nat) : Prop :=
  ∃ out error code, s'.toBrowser = s.toBrowser ++ out ∧
    BrowserOutput.answer c (refusal error code) ∈ out

namespace BridgeSession

/-- The checks of `handleBrowserCommand` in front of the subscriptions: the size of the payload and
the rates behind it, or nothing when one of them refuses. -/
def checked (H : BridgeHost) (s : BridgeSession) (action : FederatedSocketPolicyAction)
    (payload : JsValue) : Option (Nat × JsMap String Rate) := do
  let bytes ← jsonBytes payload
  if !s.closing && H.validatePayload action payload && decide (bytes ≤ MAX_PRE_READY_BYTES) then
    let rates ← takeRate s.rateByAction action.actionId s.clock
    if s.allowedActionIds.isEmpty || s.allowedActionIds.contains action.actionId then
      some (bytes, rates)
    else none
  else none

/-- `sendCommand` refuses: there is no connected channel, or too much is pending. -/
def sendRefused (s : BridgeSession) (bytes : Nat) : Bool :=
  match s.upstream with
  | none => true
  | some upstream =>
    !upstream.connected || decide (MAX_PENDING_MESSAGES ≤ s.pending.entries.length) ||
      decide (MAX_PENDING_BYTES < s.pendingBytes + bytes)

/-- The queue in front of `READY` is full with one more command. -/
def queueFull (s : BridgeSession) (bytes : Nat) : Bool :=
  decide (MAX_PRE_READY_EVENTS < s.preReadyCount + 1) ||
    decide (MAX_PRE_READY_BYTES < s.preReadyBytes + bytes)

end BridgeSession

/-- **A command that changes the desired set and is answered with an error**: before `READY`, one
about a subscription that is desired, when the queue is full; in `READY`, a subscription that is new
or an unsubscription of one that is desired, when it is not sent. -/
def Breaks (H : BridgeHost) (s : BridgeSession) (action : FederatedSocketPolicyAction)
    (payload : JsValue) : Prop :=
  ∃ bytes rates, s.checked H action payload = some (bytes, rates) ∧
    action.readiness = some .queueSubscription ∧
    let desired := (s.subscriptions.get (subscriptionKey action payload)).isSome
    if s.state = .ready then
      isUnsubscribe action = desired ∧ s.sendRefused bytes = true ∧
        (desired = false → s.subscriptions.entries.length < MAX_SUBSCRIPTIONS)
    else desired = true ∧ s.queueFull bytes = true

/-! ## The exits -/

section Exits

variable {H : BridgeHost} {s t : BridgeSession} {action : FederatedSocketPolicyAction}
  {payload : JsValue} {bytes c : Nat}

theorem answeredError_reply (error code : String) :
    AnsweredError s (s.reply (some c) (refusal error code)) c :=
  ⟨_, error, code, rfl, List.mem_singleton_self _⟩

/-- What is said behind an error does not take it back. -/
theorem AnsweredError.emitState (h : AnsweredError s t c) (state : FederatedWsState)
    (reasonCode : String) (retryAfterMs : Option Int) :
    AnsweredError s (t.emitState state reasonCode retryAfterMs) c := by
  obtain ⟨out, error, code, htold, hmem⟩ := h
  obtain ⟨said, hsaid⟩ : ∃ said,
      (t.emitState state reasonCode retryAfterMs).toBrowser = t.toBrowser ++ said := ⟨_, rfl⟩
  refine ⟨out ++ said, error, code, ?_, List.mem_append_left _ hmem⟩
  rw [hsaid, htold, List.append_assoc]

variable (callback : Option Nat)

theorem subscriptions_reply (value : JsValue) :
    (s.reply callback value).subscriptions = s.subscriptions := by
  unfold BridgeSession.reply
  cases callback with
  | some c => rfl
  | none => rfl

/-- Nothing that is said is an error. -/
theorem not_answeredError {out : List BrowserOutput} (htold : t.toBrowser = s.toBrowser ++ out)
    (hnone : ∀ error code, BrowserOutput.answer c (refusal error code) ∉ out) :
    ¬ AnsweredError s t c := by
  rintro ⟨out', error, code, htold', hmem⟩
  have hsame : out = out' := List.append_cancel_left (htold.symm.trans htold')
  exact hnone error code (hsame ▸ hmem)

theorem not_answeredError_self (htold : t.toBrowser = s.toBrowser) : ¬ AnsweredError s t c :=
  not_answeredError (htold.trans (List.append_nil _).symm) fun _ _ => List.not_mem_nil

theorem queued_ne_refusal (error code : String) :
    JsValue.object [("accepted", .boolean true), ("queued", .boolean true)] ≠
      refusal error code := by
  intro h
  injection h with hfields
  injection hfields with hfirst
  injection hfirst with hname
  exact absurd hname (by decide)

/-- `sendCommand` says an error exactly when it refuses. -/
theorem sendCommand_answered (hrdy : s.state = .ready) (hbs : jsonBytes payload = some bytes) :
    AnsweredError s (s.sendCommand H action payload (some c)).1 c ↔ s.sendRefused bytes = true := by
  unfold BridgeSession.sendCommand BridgeSession.sendRefused
  cases hupstream : s.upstream with
  | none => exact iff_of_true (answeredError_reply _ _) rfl
  | some upstream =>
    dsimp only
    have hst : (s.state != .ready) = false := by rw [hrdy]; rfl
    rw [hbs, hst, Bool.or_false]
    by_cases hconn : upstream.connected = true
    · rw [hconn, if_neg (by simp)]
      dsimp only
      by_cases hfull : MAX_PENDING_MESSAGES ≤ s.pending.entries.length ∨
          MAX_PENDING_BYTES < s.pendingBytes + bytes
      · rw [if_pos hfull]
        exact iff_of_true ((answeredError_reply _ _).emitState _ _ _) (by simpa using hfull)
      · rw [if_neg hfull]
        split
        · exact iff_of_false (not_answeredError_self rfl) (by simpa using hfull)
        · exact iff_of_false (not_answeredError_self rfl) (by simpa using hfull)
    · rw [Bool.not_eq_true] at hconn
      rw [hconn, if_pos (by simp)]
      exact iff_of_true (answeredError_reply _ _) rfl

theorem sendCommand_subscriptions :
    (s.sendCommand H action payload callback).1.subscriptions = s.subscriptions := by
  unfold BridgeSession.sendCommand
  split
  · exact subscriptions_reply _ _
  · split
    · exact subscriptions_reply _ _
    · split
      · rfl
      · split
        · exact subscriptions_reply _ _
        · dsimp only
          split
          · rfl
          · rfl

/-- The desired set with the subscription of a command taken in, or taken out. -/
theorem sameDesired_change {desired : JsMap String DesiredSubscription}
    (hs : t.subscriptions = desired) (hdes : desired =
      if isUnsubscribe action then s.subscriptions.delete (subscriptionKey action payload)
      else s.subscriptions.set (subscriptionKey action payload) ⟨action, payload, bytes⟩) :
    SameDesired s t ↔ ¬ isUnsubscribe action =
      (s.subscriptions.get (subscriptionKey action payload)).isSome := by
  unfold SameDesired
  rw [hs, hdes]
  by_cases huns : isUnsubscribe action = true
  · rw [huns, if_pos rfl]
    constructor
    · intro hsame hkey
      have hgone := hsame (subscriptionKey action payload)
      rw [JsMap.get_delete, if_pos rfl, ← hkey] at hgone
      exact absurd hgone (by decide)
    · intro hkey key
      rw [JsMap.get_delete]
      split
      · rename_i hsame
        rw [hsame]
        exact (Bool.eq_false_iff.mpr fun h => hkey h.symm).symm
      · rfl
  · rw [if_neg huns, Bool.eq_false_iff.mpr huns]
    constructor
    · intro hsame hkey
      have hthere := hsame (subscriptionKey action payload)
      rw [JsMap.get_set, if_pos rfl, ← hkey] at hthere
      exact absurd hthere Bool.noConfusion
    · intro hkey key
      rw [JsMap.get_set]
      split
      · rename_i hsame
        rw [hsame]
        exact (Bool.eq_true_of_not_eq_false fun h => hkey h.symm).symm
      · rfl

/-- A subscription that is dropped was not desired. -/
theorem sameDesired_delete (dropped : String) (hs : ∀ key, t.subscriptions.get key =
      if key = dropped then none else s.subscriptions.get key) :
    SameDesired s t ↔ ¬ (s.subscriptions.get dropped).isSome = true := by
  unfold SameDesired
  constructor
  · intro hsame hkey
    have hgone := hsame dropped
    rw [hs, if_pos rfl, hkey] at hgone
    exact absurd hgone (by decide)
  · intro hkey key
    rw [hs]
    split
    · rename_i hsame
      rw [hsame, Bool.eq_false_iff.mpr hkey]
      rfl
    · rfl

/-- The queue in front of `READY`: what an error leaves there. -/
theorem dispatch_dropped (hrdy : s.state ≠ .ready)
    (hsubscription : action.readiness = some .queueSubscription) :
    (AnsweredError s (s.dispatchCommand H action payload bytes (some c)) c →
        SameDesired s (s.dispatchCommand H action payload bytes (some c))) ↔
      ¬ ((s.subscriptions.get (subscriptionKey action payload)).isSome = true ∧
        s.queueFull bytes = true) := by
  have hst : (s.state != .ready) = true := by simpa using hrdy
  unfold BridgeSession.dispatchCommand
  rw [if_pos hsubscription, hst]
  dsimp only
  split
  · -- too many subscriptions: nothing has been touched
    rename_i hmany
    simp only [Bool.and_eq_true, Bool.not_eq_true', Option.isNone_iff_eq_none] at hmany
    rw [hmany.1.2]
    exact iff_of_true (fun _ key => rfl) (by simp)
  · rw [if_pos rfl]
    by_cases hfull : MAX_PRE_READY_EVENTS < s.preReadyCount + 1 ∨
        MAX_PRE_READY_BYTES < s.preReadyBytes + bytes
    · rw [if_pos hfull]
      have hqueue : s.queueFull bytes = true := by
        unfold BridgeSession.queueFull
        simpa using hfull
      rw [hqueue, forall_prop_of_true ⟨_, _, _, rfl, List.mem_singleton_self _⟩,
        sameDesired_delete (subscriptionKey action payload)]
      · simp
      · intro key
        rw [subscriptions_reply]
        dsimp only
        split
        · exact JsMap.get_delete
        · rw [JsMap.get_delete, JsMap.get_set]
          split
          · rfl
          · rfl
    · rw [if_neg hfull]
      have hqueue : s.queueFull bytes = false := by
        unfold BridgeSession.queueFull
        simpa using hfull
      refine iff_of_true (fun herr => absurd herr ?_) (by rw [hqueue]; simp)
      refine not_answeredError rfl fun error code hmem => ?_
      have hsaid := List.mem_singleton.mp hmem
      injection hsaid with _ hpay
      exact queued_ne_refusal error code hpay.symm

/-- A command that is sent at once: what an error leaves there. -/
theorem dispatch_sent (hrdy : s.state = .ready) (hbs : jsonBytes payload = some bytes)
    (hsubscription : action.readiness = some .queueSubscription) :
    (AnsweredError s (s.dispatchCommand H action payload bytes (some c)) c →
        SameDesired s (s.dispatchCommand H action payload bytes (some c))) ↔
      ¬ (isUnsubscribe action =
          (s.subscriptions.get (subscriptionKey action payload)).isSome ∧
        s.sendRefused bytes = true ∧
        ((s.subscriptions.get (subscriptionKey action payload)).isSome = false →
          s.subscriptions.entries.length < MAX_SUBSCRIPTIONS)) := by
  have hst : (s.state != .ready) = false := by simpa using hrdy
  unfold BridgeSession.dispatchCommand
  rw [if_pos hsubscription, hst]
  dsimp only
  split
  · rename_i hmany
    simp only [Bool.and_eq_true, Bool.not_eq_true', Option.isNone_iff_eq_none,
      decide_eq_true_eq] at hmany
    rw [hmany.1.2]
    exact iff_of_true (fun _ key => rfl) fun h => absurd (h.2.2 rfl) (Nat.not_lt.mpr hmany.2)
  · rename_i hroom
    rw [if_neg Bool.false_ne_true]
    have hlimit : isUnsubscribe action =
        (s.subscriptions.get (subscriptionKey action payload)).isSome →
        (s.subscriptions.get (subscriptionKey action payload)).isSome = false →
        s.subscriptions.entries.length < MAX_SUBSCRIPTIONS := by
      intro hsame hnew
      rw [hnew] at hsame
      by_contra hmany
      exact hroom (by simp_all)
    rw [sameDesired_change (sendCommand_subscriptions _) rfl]
    generalize (if isUnsubscribe action = true then
      s.subscriptions.delete (subscriptionKey action payload)
      else s.subscriptions.set (subscriptionKey action payload) _) = desired
    have hans : AnsweredError s ({ s with subscriptions := desired }.sendCommand H action payload
        (some c)).1 c ↔ s.sendRefused bytes = true := sendCommand_answered hrdy hbs
    rw [hans]
    constructor
    · rintro himp ⟨hkey, href, -⟩
      exact himp href hkey
    · rintro hnot href hkey
      exact hnot ⟨hkey, href, hlimit hkey⟩

/-- A command that is no subscription has no part in the desired set. -/
theorem dispatch_other (hsubscription : action.readiness ≠ some .queueSubscription) :
    (s.dispatchCommand H action payload bytes (some c)).subscriptions = s.subscriptions := by
  unfold BridgeSession.dispatchCommand
  rw [if_neg hsubscription]
  split
  · exact subscriptions_reply _ _
  · exact sendCommand_subscriptions _

/-- A command that does not get through the checks leaves the subscriptions alone. -/
theorem handle_unchecked (hchk : s.checked H action payload = none) :
    (s.handleBrowserCommand H action payload callback).subscriptions = s.subscriptions := by
  unfold BridgeSession.handleBrowserCommand
  unfold BridgeSession.checked at hchk
  split
  · rfl
  · rename_i hopen
    rw [Bool.not_eq_true] at hopen
    split
    · exact subscriptions_reply _ _
    · rename_i bytes hbs
      split
      · exact subscriptions_reply _ _
      · rename_i hval
        simp only [Bool.not_eq_true', Bool.not_eq_false] at hval
        split
        · exact subscriptions_reply _ _
        · rename_i hsmall
          split
          · exact subscriptions_reply _ _
          · rename_i rates hrates
            dsimp only
            split
            · exact subscriptions_reply _ _
            · rename_i halw
              -- the command gets through
              rw [hbs, Option.bind_eq_bind, Option.bind_some, hopen, hval,
                decide_eq_true (Nat.not_lt.mp hsmall)] at hchk
              simp_all

/-- A command that gets through is dispatched. -/
theorem handle_checked {rates : JsMap String Rate}
    (hchk : s.checked H action payload = some (bytes, rates)) :
    jsonBytes payload = some bytes ∧ s.handleBrowserCommand H action payload callback =
      { s with rateByAction := rates }.dispatchCommand H action payload bytes callback := by
  unfold BridgeSession.checked at hchk
  rw [Option.bind_eq_bind, Option.bind_eq_some_iff] at hchk
  obtain ⟨size, hbs, hchk⟩ := hchk
  obtain ⟨hpas, hchk⟩ := Failing.when_some hchk
  simp only [Bool.and_eq_true, Bool.not_eq_true', decide_eq_true_eq] at hpas
  rw [Option.bind_eq_bind, Option.bind_eq_some_iff] at hchk
  obtain ⟨taken, hrates, hchk⟩ := hchk
  obtain ⟨halw, hchk⟩ := Failing.when_some hchk
  injection hchk with hpair
  injection hpair with hsize htk
  subst hsize htk
  refine ⟨hbs, ?_⟩
  unfold BridgeSession.handleBrowserCommand
  rw [hpas.1.1, if_neg Bool.false_ne_true, hbs]
  dsimp only
  rw [hpas.1.2, if_neg (by simp), if_neg (Nat.not_lt.mpr hpas.2), hrates]
  dsimp only
  rw [if_neg]
  simp only [Bool.or_eq_true] at halw
  rcases halw with hnil | hcontains
  · rw [hnil]
    simp
  · rw [hcontains]
    simp

end Exits

/-- **A command that fails leaves the desired subscriptions as they were**, in every state of a
session and for every command, except exactly when it `Breaks` them. -/
theorem failed_command (H : BridgeHost) (s : BridgeSession) (action : FederatedSocketPolicyAction)
    (payload : JsValue) (c : Nat) :
    (AnsweredError s (s.handleBrowserCommand H action payload (some c)) c →
        SameDesired s (s.handleBrowserCommand H action payload (some c))) ↔
      ¬ Breaks H s action payload := by
  unfold Breaks
  cases hchk : s.checked H action payload with
  | none =>
    refine iff_of_true (fun _ key => ?_) (by simp)
    rw [handle_unchecked _ hchk]
  | some passed =>
    obtain ⟨bytes, rates⟩ := passed
    obtain ⟨hbs, hhandled⟩ := handle_checked (some c) hchk
    rw [hhandled]
    by_cases hsubscription : action.readiness = some .queueSubscription
    · by_cases hrdy : s.state = .ready
      · refine (dispatch_sent (s := { s with rateByAction := rates }) hrdy hbs
          hsubscription).trans (not_congr ?_)
        simp only [hrdy, hsubscription, true_and, if_true, Option.some.injEq, Prod.mk.injEq]
        constructor
        · exact fun h => ⟨bytes, rates, ⟨rfl, rfl⟩, h⟩
        · rintro ⟨_, _, ⟨rfl, rfl⟩, h⟩
          exact h
      · refine (dispatch_dropped (s := { s with rateByAction := rates }) hrdy
          hsubscription).trans (not_congr ?_)
        simp only [hrdy, hsubscription, true_and, if_false, Option.some.injEq, Prod.mk.injEq]
        constructor
        · exact fun h => ⟨bytes, rates, ⟨rfl, rfl⟩, h⟩
        · rintro ⟨_, _, ⟨rfl, rfl⟩, h⟩
          exact h
    · refine iff_of_true (fun _ key => ?_) ?_
      · rw [dispatch_other (s := { s with rateByAction := rates }) hsubscription]
      · rintro ⟨_, _, _, hsub, -⟩
        exact hsubscription hsub

namespace SampleBridge

def subscribe : FederatedSocketPolicyAction :=
  ⟨"php:install:subscribe", "ws.browser-command.php-install-subscribe", [.admin], .browserToApi,
    some .queueSubscription⟩

def unsubscribe : FederatedSocketPolicyAction :=
  ⟨"php:install:unsubscribe", "ws.browser-command.php-install-unsubscribe", [.admin], .browserToApi,
    some .queueSubscription⟩

def version : JsValue := .object [("version", .string "8.3")]

/-- **A full queue unsubscribes**: behind 32 commands that have been queued before `READY`, an
unsubscription is answered with an error, and the subscription is gone. -/
theorem full_queue_unsubscribes :
    ∃ s, Stepping.Reach (bridgeStep host) (fun _ _ => True) (attach .admin 0) s ∧
      AnsweredError s (s.handleBrowserCommand host unsubscribe version (some 32)) 32 ∧
      ¬ SameDesired s (s.handleBrowserCommand host unsubscribe version (some 32)) := by
  obtain ⟨s, hrc, hrdy, hfull, hdes⟩ : ∃ s,
      Stepping.Reach (bridgeStep host) (fun _ _ => True) (attach .admin 0) s ∧
        s.state ≠ .ready ∧
        (s.checked host unsubscribe version).any (fun passed => s.queueFull passed.1) = true ∧
        (s.subscriptions.get (subscriptionKey unsubscribe version)).isSome = true :=
    Stepping.Reach.of_run_any
      (l := (List.range 32).map fun c => .command subscribe version (some c)) (by decide +kernel)
  obtain ⟨⟨bytes, rates⟩, hchk, hqueue⟩ := Option.any_eq_true _ _ |>.mp hfull
  have hleft := (dispatch_dropped (H := host) (s := { s with rateByAction := rates }) (c := 32)
    hrdy (rfl : unsubscribe.readiness = _)).not.mpr (not_not_intro ⟨hdes, hqueue⟩)
  rw [← (handle_checked (some 32) hchk).2] at hleft
  exact ⟨s, hrc, Classical.not_imp.mp hleft⟩

end SampleBridge

end Meowbox.Gateway
