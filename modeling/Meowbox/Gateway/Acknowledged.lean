import Meowbox.Gateway.Acks
import Meowbox.Gateway.Bridge

/-!
# An acknowledgement in time is no protocol failure

A request stays in the bridge's table until it is acknowledged, until its timer runs, or until the
channel is lost; a new channel leaves the requests of the old one in the table. An acknowledgement
for which the table has no request tears the session down.

* `Tracked`: every request of the channel in use that has been neither acknowledged nor timed out
  is in the table, under the number it was sent with.
* `Inv.message`: so an acknowledgement that answers one of them is accepted.
* **`acks_accepted`**: as long as no acknowledgement arrives after its request has timed out, none
  tears the session down; as long as no handler answers with an empty error, every acknowledgement
  of the gateway is admitted.
* `SampleBridge.late_ack_fails`: one that arrives after ten seconds closes the session.
-/

namespace Meowbox.Gateway

open JsData

/-! ## A peer that conforms -/

/-- A frame is the one acknowledgement of a request that has been sent over the socket. -/
structure Answers (u : UpstreamSocket) (e request : FederatedWsEnvelope) : Prop where
  sent : request ∈ u.sent
  first : request.correlationId ∉ u.answered
  correlationId : e.correlationId = request.correlationId
  channelId : e.channelId = request.channelId
  epoch : e.epoch = request.epoch
  sequence : e.sequence = u.received + 1
  actionId : e.actionId = request.actionId
  event : e.event = request.event
  payload : ∃ ack, validateFederatedWsAck e.payload = .ok ack ∧
    ack.acceptedSequence = request.sequence

/-- **The target conforms**: an acknowledgement that arrives is the one, well-formed answer to a
request of the channel, and the next frame of the channel. -/
def Conforming (s : BridgeSession) : BridgeEvent → Prop
  | .message value => ∀ e, validateFederatedWsEnvelope value = .ok e → IsAck e →
      ∃ u request, s.upstream = some u ∧ Answers u e request
  | _ => True

/-- An acknowledgement that arrives is **in time**: the timer of its request has not run. -/
def InTime (s : BridgeSession) : BridgeEvent → Prop
  | .message value => ∀ e, validateFederatedWsEnvelope value = .ok e → IsAck e →
      e.correlationId ∉ s.timedOut
  | _ => True

/-! ## The table of requests -/

/-- **What the session knows of the channel in use.** -/
structure Tracked (H : BridgeHost) (s : BridgeSession) (u : UpstreamSocket) : Prop where
  incoming : s.incomingSequence = u.received
  actions : s.allowedActionIds ≠ []
  sent : ∀ r ∈ u.sent, r.channelId = u.channelId ∧ r.epoch = s.epoch ∧
    r.actionId ∈ s.allowedActionIds ∧
    ∃ action, actionById r.actionId = some action ∧ action.event = r.event
  pending : ∀ r ∈ u.sent, r.correlationId ∉ u.answered → r.correlationId ∉ s.timedOut →
    ∃ p, s.pending.get r.correlationId = some p ∧ p.sequence = r.sequence
  drawn : ∀ r ∈ u.sent, ∃ k < s.drawn, r.correlationId = H.randomUUID k

/-- **What holds of a session.** -/
structure Inv (H : BridgeHost) (s : BridgeSession) : Prop where
  tracked : ∀ u, s.upstream = some u → Tracked H s u
  closed : s.closing = true → s.upstream = none
  notTorn : s.tornDownBy ≠ some .ack ∧ s.tornDownBy ≠ some .nack
  subscribed : ∀ entry ∈ s.subscriptions.entries, entry.2.action ∈ commands ++ notifications
  fresh : s.connecting = true → s.upstream = none ∧ s.incomingSequence = 0

/-- Two sessions agree on what `Inv` looks at. -/
structure SameTable (s s' : BridgeSession) : Prop where
  upstream : s'.upstream = s.upstream
  pending : s'.pending = s.pending
  epoch : s'.epoch = s.epoch
  incoming : s'.incomingSequence = s.incomingSequence
  allowed : s'.allowedActionIds = s.allowedActionIds
  closing : s'.closing = s.closing
  timedOut : s'.timedOut = s.timedOut
  tornDownBy : s'.tornDownBy = s.tornDownBy
  drawn : s'.drawn = s.drawn
  subscriptions : s'.subscriptions = s.subscriptions
  connecting : s'.connecting = s.connecting

section Table

variable {H : BridgeHost} {s s' : BridgeSession} {u : UpstreamSocket}

theorem SameTable.tracked (hsame : SameTable s s') (h : Tracked H s u) : Tracked H s' u where
  incoming := by rw [hsame.incoming]; exact h.incoming
  actions := by rw [hsame.allowed]; exact h.actions
  sent := by rw [hsame.epoch, hsame.allowed]; exact h.sent
  pending := by rw [hsame.pending, hsame.timedOut]; exact h.pending
  drawn := by rw [hsame.drawn]; exact h.drawn

theorem SameTable.inv (hsame : SameTable s s') (h : Inv H s) : Inv H s' where
  tracked u hu := hsame.tracked (h.tracked u (hsame.upstream ▸ hu))
  closed hclo := by rw [hsame.upstream]; exact h.closed (hsame.closing ▸ hclo)
  notTorn := by rw [hsame.tornDownBy]; exact h.notTorn
  subscribed := by rw [hsame.subscriptions]; exact h.subscribed
  fresh hcg := by
    rw [hsame.upstream, hsame.incoming]
    exact h.fresh (hsame.connecting ▸ hcg)

theorem sameTable_reply (s : BridgeSession) (callback : Option Nat) (payload : JsValue) :
    SameTable s (s.reply callback payload) := by
  unfold BridgeSession.reply
  split
  · exact ⟨rfl, rfl, rfl, rfl, rfl, rfl, rfl, rfl, rfl, rfl, rfl⟩
  · exact ⟨rfl, rfl, rfl, rfl, rfl, rfl, rfl, rfl, rfl, rfl, rfl⟩

theorem sameTable_emitState (s : BridgeSession) (state : FederatedWsState) (reasonCode : String)
    (retryAfterMs : Option Int) : SameTable s (s.emitState state reasonCode retryAfterMs) :=
  ⟨rfl, rfl, rfl, rfl, rfl, rfl, rfl, rfl, rfl, rfl, rfl⟩

theorem sameTable_scheduleReconnect (s : BridgeSession) (delay : Nat) :
    SameTable s (s.scheduleReconnect delay) := by
  unfold BridgeSession.scheduleReconnect
  split
  · exact ⟨rfl, rfl, rfl, rfl, rfl, rfl, rfl, rfl, rfl, rfl, rfl⟩
  · exact ⟨rfl, rfl, rfl, rfl, rfl, rfl, rfl, rfl, rfl, rfl, rfl⟩

theorem SameTable.trans {t : BridgeSession} (h : SameTable s s') (h' : SameTable s' t) :
    SameTable s t where
  upstream := h'.upstream.trans h.upstream
  pending := h'.pending.trans h.pending
  epoch := h'.epoch.trans h.epoch
  incoming := h'.incoming.trans h.incoming
  allowed := h'.allowed.trans h.allowed
  closing := h'.closing.trans h.closing
  timedOut := h'.timedOut.trans h.timedOut
  tornDownBy := h'.tornDownBy.trans h.tornDownBy
  drawn := h'.drawn.trans h.drawn
  subscriptions := h'.subscriptions.trans h.subscriptions
  connecting := h'.connecting.trans h.connecting

/-- A session without a channel. -/
theorem inv_of_none (hnone : s.upstream = none)
    (htorn : s.tornDownBy ≠ some .ack ∧ s.tornDownBy ≠ some .nack)
    (hsub : ∀ entry ∈ s.subscriptions.entries, entry.2.action ∈ commands ++ notifications)
    (hfr : s.connecting = true → s.incomingSequence = 0) : Inv H s where
  tracked u hu := absurd (hnone.symm.trans hu) (by simp)
  closed _ := hnone
  notTorn := htorn
  subscribed := hsub
  fresh hcg := ⟨hnone, hfr hcg⟩

/-! ## What the functions keep -/

theorem Inv.detach (h : Inv H s) : Inv H s.detach := by
  unfold BridgeSession.detach
  split
  · exact h
  · exact inv_of_none rfl h.notTorn h.subscribed fun hcg => (h.fresh hcg).2

/-- **A protocol failure about a frame that is no acknowledgement.** -/
theorem inv_fail {kind : Option FederatedWsMessageKind} (reasonCode : String)
    (hclosed : s.closing = true → s.upstream = none)
    (hsub : ∀ entry ∈ s.subscriptions.entries, entry.2.action ∈ commands ++ notifications)
    (hfr : s.connecting = true → s.incomingSequence = 0)
    (hkind : kind ≠ some .ack ∧ kind ≠ some .nack) : Inv H (s.failProtocol kind reasonCode) := by
  unfold BridgeSession.failProtocol BridgeSession.detach
  dsimp only
  split
  · rename_i hclo
    exact inv_of_none (hclosed hclo) hkind hsub hfr
  · exact inv_of_none rfl hkind hsub hfr

theorem Inv.connect (h : Inv H s) : Inv H s.connect := by
  unfold BridgeSession.connect
  split
  · exact h
  · exact (sameTable_emitState _ _ _ _).inv
      (inv_of_none rfl h.notTorn h.subscribed fun _ => rfl)

/-- The issuer has answered. -/
theorem Inv.answered (h : Inv H s) : Inv H { s with connecting := false } where
  tracked u hu :=
    have htr := h.tracked u hu
    ⟨htr.incoming, htr.actions, htr.sent, htr.pending, htr.drawn⟩
  __ := h
  fresh hcg := absurd hcg (by simp)

theorem Inv.issueFailed (h : Inv H s) (code : String) (random : Nat) :
    Inv H (s.issueFailed code random) := by
  unfold BridgeSession.issueFailed
  dsimp only
  split
  · refine SameTable.inv ?_ h.answered
    refine SameTable.trans ?_ (sameTable_scheduleReconnect _ _)
    exact ⟨rfl, rfl, rfl, rfl, rfl, rfl, rfl, rfl, rfl, rfl, rfl⟩
  · refine SameTable.inv ?_ h.answered
    exact ⟨rfl, rfl, rfl, rfl, rfl, rfl, rfl, rfl, rfl, rfl, rfl⟩

/-- A channel is opened: nothing has been sent over it. -/
theorem Inv.issued (h : Inv H s) (hcg : s.connecting = true)
    (channel : IssuedFederationWsChannel) : Inv H (s.issued channel) := by
  unfold BridgeSession.issued
  dsimp only
  split
  · exact h.answered
  · rename_i hopen
    refine ⟨fun u hu => ?_, fun hclo => absurd hclo hopen, h.notTorn, h.subscribed,
      fun hc => absurd hc (by simp)⟩
    obtain rfl := Option.some.inj hu
    exact ⟨(h.fresh hcg).2, channel.actionIds_ne, fun r hr => absurd hr List.not_mem_nil,
      fun r hr => absurd hr List.not_mem_nil, fun r hr => absurd hr List.not_mem_nil⟩

theorem Inv.lost (h : Inv H s) (reasonCode : String) (random : Nat) :
    Inv H (s.handleUpstreamLoss reasonCode random) := by
  unfold BridgeSession.handleUpstreamLoss
  split
  · exact h
  · have hnone : Inv H (s.closeUpstream.rejectPending "REMOTE_DISCONNECTED"
        "Remote WebSocket disconnected") :=
      inv_of_none rfl h.notTorn h.subscribed fun hcg => (h.fresh hcg).2
    refine SameTable.inv ?_ hnone
    refine SameTable.trans ?_ (sameTable_scheduleReconnect _ _)
    exact ⟨rfl, rfl, rfl, rfl, rfl, rfl, rfl, rfl, rfl, rfl, rfl⟩

/-- The timer of a request runs. -/
theorem Inv.ackTimedOut (h : Inv H s) (correlationId : String) (pending : PendingMessage) :
    Inv H (s.ackTimedOut correlationId pending) := by
  unfold BridgeSession.ackTimedOut
  refine (sameTable_reply _ _ _).inv
    ⟨fun u hu => ?_, h.closed, h.notTorn, h.subscribed, h.fresh⟩
  have htr := h.tracked u hu
  refine ⟨htr.incoming, htr.actions, htr.sent, ?_, htr.drawn⟩
  intro r hr hanswered htimed
  have hne : r.correlationId ≠ correlationId := fun heq => htimed (heq ▸ List.mem_cons_self)
  obtain ⟨p, hp, hseq⟩ :=
    htr.pending r hr hanswered fun hmem => htimed (List.mem_cons_of_mem _ hmem)
  refine ⟨p, ?_, hseq⟩
  rw [JsMap.get_delete, if_neg hne]
  exact hp

end Table

/-! ## Commands -/

section Commands

variable {H : BridgeHost} {s : BridgeSession} {action : FederatedSocketPolicyAction}

/-- **A command that is sent is in the table.** -/
theorem Inv.send (h : Inv H s) (payload : JsValue) (callback : Option Nat)
    (hact : action ∈ commands ++ notifications)
    (halw : s.upstream.isSome = true → action.actionId ∈ s.allowedActionIds) :
    Inv H (s.sendCommand H action payload callback).1 ∧
      (s.sendCommand H action payload callback).1.subscriptions = s.subscriptions := by
  unfold BridgeSession.sendCommand
  split
  · exact ⟨(sameTable_reply _ _ _).inv h, (sameTable_reply _ _ _).subscriptions⟩
  · rename_i u hu
    split
    · exact ⟨(sameTable_reply _ _ _).inv h, (sameTable_reply _ _ _).subscriptions⟩
    · split
      · exact ⟨h, rfl⟩
      · rename_i bytes _
        split
        · have hsame := (sameTable_reply s callback (refusal
            "Remote WebSocket backpressure limit reached" "REMOTE_BACKPRESSURE")).trans
              (sameTable_emitState _ .degraded "REMOTE_BACKPRESSURE" (some 1000))
          exact ⟨hsame.inv h, hsame.subscriptions⟩
        · have htr := h.tracked u hu
          dsimp only
          split
          · rename_i request hval
            obtain ⟨-, rfl⟩ := validateFederatedWsEnvelope_iff.mp hval
            refine ⟨⟨fun v hv => ?_, fun hclo => ?_, h.notTorn, h.subscribed,
              fun hcg => ?_⟩, rfl⟩
            · obtain rfl := Option.some.inj hv
              refine ⟨htr.incoming, htr.actions, ?_, ?_, ?_⟩
              · intro r hr
                rcases List.mem_snoc.mp hr with hr | rfl
                · exact htr.sent r hr
                · exact ⟨rfl, rfl, halw (by rw [hu]; rfl), action, actionById_of_mem hact,
                    rfl⟩
              · intro r hr hanswered htimed
                change ∃ p,
                  (s.pending.set (H.randomUUID s.drawn) _).get r.correlationId = some p ∧ _
                rw [JsMap.get_set]
                rcases List.mem_snoc.mp hr with hr | rfl
                · obtain ⟨k, hk, hid⟩ := htr.drawn r hr
                  have hne : r.correlationId ≠ H.randomUUID s.drawn := fun heq =>
                    absurd (H.randomUUID_injective (hid.symm.trans heq)) (Nat.ne_of_lt hk)
                  rw [if_neg hne]
                  exact htr.pending r hr hanswered htimed
                · exact ⟨_, if_pos rfl, rfl⟩
              · intro r hr
                rcases List.mem_snoc.mp hr with hr | rfl
                · obtain ⟨k, hk, hid⟩ := htr.drawn r hr
                  exact ⟨k, Nat.lt_succ_of_lt hk, hid⟩
                · exact ⟨s.drawn, Nat.lt_succ_self _, rfl⟩
            · have hnone := h.closed hclo
              rw [hu] at hnone
              exact absurd hnone (by simp)
            · have hnone := (h.fresh hcg).1
              rw [hu] at hnone
              exact absurd hnone (by simp)
          · refine ⟨⟨fun v hv => ?_, h.closed, h.notTorn, h.subscribed, h.fresh⟩, rfl⟩
            have htr := h.tracked v hv
            refine ⟨htr.incoming, htr.actions, htr.sent, htr.pending, ?_⟩
            intro r hr
            obtain ⟨k, hk, hid⟩ := htr.drawn r hr
            exact ⟨k, Nat.lt_succ_of_lt hk, hid⟩

theorem Inv.replay (subscriptions : List (String × DesiredSubscription)) : ∀ {s : BridgeSession},
    Inv H s → (∀ entry ∈ subscriptions, entry.2.action ∈ commands ++ notifications) →
    Inv H (BridgeSession.replaySubscriptions H subscriptions s).1 := by
  induction subscriptions with
  | nil =>
    intro s h _
    exact h
  | cons entry rest ih =>
    intro s h hsub
    obtain ⟨key, subscription⟩ := entry
    have hrest := fun e he => hsub e (List.mem_cons_of_mem _ he)
    unfold BridgeSession.replaySubscriptions
    split
    · rename_i halw
      have hsent := (h.send subscription.payload none
        (hsub _ List.mem_cons_self) fun _ => List.contains_iff_mem.mp halw).1
      split
      · rename_i s' _ heq
        rw [heq] at hsent
        exact ih hsent hrest
      · rename_i s' _ heq
        rw [heq] at hsent
        exact hsent
    · exact ih h hrest

/-- Subscriptions come and go. -/
theorem Inv.subscriptions (h : Inv H s) {subscriptions : JsMap String DesiredSubscription}
    (hsub : ∀ entry ∈ subscriptions.entries, entry.2.action ∈ commands ++ notifications)
    (count bytes : Nat) : Inv H { s with
      subscriptions := subscriptions, preReadyCount := count, preReadyBytes := bytes } where
  tracked u hu :=
    have htr := h.tracked u hu
    ⟨htr.incoming, htr.actions, htr.sent, htr.pending, htr.drawn⟩
  __ := h
  subscribed := hsub

theorem subscribed_set {subscriptions : JsMap String DesiredSubscription} {key : String}
    {subscription : DesiredSubscription}
    (h : ∀ entry ∈ subscriptions.entries, entry.2.action ∈ commands ++ notifications)
    (hact : subscription.action ∈ commands ++ notifications) :
    ∀ entry ∈ (subscriptions.set key subscription).entries,
      entry.2.action ∈ commands ++ notifications := by
  rintro ⟨k, v⟩ hmem
  rw [JsMap.mem_entries, JsMap.get_set] at hmem
  split at hmem
  · rw [← Option.some.inj hmem]
    exact hact
  · exact h (k, v) (JsMap.mem_entries.mpr hmem)

theorem subscribed_delete {subscriptions : JsMap String DesiredSubscription} {key : String}
    (h : ∀ entry ∈ subscriptions.entries, entry.2.action ∈ commands ++ notifications) :
    ∀ entry ∈ (subscriptions.delete key).entries,
      entry.2.action ∈ commands ++ notifications := by
  rintro ⟨k, v⟩ hmem
  rw [JsMap.mem_entries, JsMap.get_delete] at hmem
  obtain ⟨-, hmem⟩ := Failing.unless_some hmem
  exact h (k, v) (JsMap.mem_entries.mpr hmem)

/-- **A command of the browser**, of those the channel in use allows. -/
theorem Inv.dispatch (h : Inv H s) (payload : JsValue) (bytes : Nat) (callback : Option Nat)
    (hact : action ∈ commands ++ notifications)
    (halw : s.upstream.isSome = true → action.actionId ∈ s.allowedActionIds) :
    Inv H (s.dispatchCommand H action payload bytes callback) := by
  unfold BridgeSession.dispatchCommand
  dsimp only
  split
  · split
    · exact (sameTable_reply _ _ _).inv h
    · have hdes : ∀ entry ∈ (if isUnsubscribe action
            then s.subscriptions.delete (subscriptionKey action payload)
            else s.subscriptions.set (subscriptionKey action payload)
              ⟨action, payload, bytes⟩).entries, entry.2.action ∈ commands ++ notifications := by
        split
        · exact subscribed_delete h.subscribed
        · exact subscribed_set h.subscribed hact
      split
      · split
        · refine (sameTable_reply _ _ _).inv (h.subscriptions ?_ _ _)
          by_cases huns : isUnsubscribe action
          · rw [if_pos huns]
            exact hdes
          · rw [if_neg huns]
            exact subscribed_delete hdes
        · exact (sameTable_reply _ _ _).inv (h.subscriptions hdes _ _)
      · exact ((h.subscriptions hdes s.preReadyCount s.preReadyBytes).send payload callback
          hact halw).1
  · split
    · exact (sameTable_reply _ _ _).inv h
    · exact (h.send payload callback hact halw).1

theorem Inv.command (h : Inv H s) (payload : JsValue) (callback : Option Nat)
    (hact : action ∈ commands ++ notifications) :
    Inv H (s.handleBrowserCommand H action payload callback) := by
  unfold BridgeSession.handleBrowserCommand
  split
  · exact h
  · split
    · exact (sameTable_reply _ _ _).inv h
    · split
      · exact (sameTable_reply _ _ _).inv h
      · split
        · exact (sameTable_reply _ _ _).inv h
        · split
          · exact (sameTable_reply _ _ _).inv h
          · rename_i rates _
            have hrates : Inv H { s with rateByAction := rates } :=
              SameTable.inv (s := s) ⟨rfl, rfl, rfl, rfl, rfl, rfl, rfl, rfl, rfl, rfl, rfl⟩ h
            dsimp only
            split
            · exact (sameTable_reply _ _ _).inv hrates
            · rename_i halw
              refine hrates.dispatch payload _ callback hact fun hupstream => ?_
              obtain ⟨u, hu⟩ := Option.isSome_iff_exists.mp hupstream
              have hne := (h.tracked u hu).actions
              simp only [Bool.and_eq_true, Bool.not_eq_true', not_and, Bool.not_eq_false] at halw
              exact List.contains_iff_mem.mp (halw (by simpa using hne))

end Commands

/-! ## Messages -/

section Messages

variable {H : BridgeHost} {s : BridgeSession} {u : UpstreamSocket} {value : JsValue}
  {e : FederatedWsEnvelope}

/-- A state of the target. -/
theorem Inv.state (h : Inv H s) (hkind : e.kind = .state) : Inv H (s.handleState H e) := by
  have hfail : ∀ reasonCode, Inv H (s.failProtocol (some e.kind) reasonCode) := fun reasonCode =>
    inv_fail reasonCode h.closed h.subscribed (fun hc => (h.fresh hc).2) (by rw [hkind]; decide)
  unfold BridgeSession.handleState
  split
  · exact hfail _
  · split
    · exact hfail _
    · split
      · exact hfail _
      · dsimp only
        split
        · refine Inv.replay _ ?_ h.subscribed
          exact SameTable.inv (s := s) ⟨rfl, rfl, rfl, rfl, rfl, rfl, rfl, rfl, rfl, rfl, rfl⟩ h
        · exact (sameTable_emitState _ _ _ _).inv h

/-- **The acknowledgement of a request that is in the table.** -/
theorem Inv.onAck (h : Inv H s) {p : PendingMessage} {ack : FederatedWsAckPayload}
    (hp : s.pending.get e.correlationId = some p)
    (hack : validateFederatedWsAck e.payload = .ok ack) (hseq : ack.acceptedSequence = p.sequence)
    (hanswered : ∀ u, s.upstream = some u → e.correlationId ∈ u.answered) : Inv H (s.onAck e) := by
  unfold BridgeSession.onAck
  rw [hack]
  dsimp only
  rw [hp]
  dsimp only
  rw [if_neg (not_not.mpr hseq)]
  refine (sameTable_reply _ _ _).inv ⟨fun u hu => ?_, h.closed, h.notTorn, h.subscribed, h.fresh⟩
  have htr := h.tracked u hu
  refine ⟨htr.incoming, htr.actions, htr.sent, ?_, htr.drawn⟩
  intro r hr hopen htimed
  have hne : r.correlationId ≠ e.correlationId := fun heq => hopen (heq ▸ hanswered u hu)
  change ∃ q, (s.pending.delete e.correlationId).get r.correlationId = some q ∧ _
  rw [JsMap.get_delete, if_neg hne]
  exact htr.pending r hr hopen htimed

/-- A frame that is no acknowledgement. -/
theorem Inv.frame (h : Inv H s) (hkind : ¬ IsAck e) : Inv H (s.handleFrame H e) := by
  have hnot : some e.kind ≠ some .ack ∧ some e.kind ≠ some .nack :=
    ⟨fun heq => hkind (.inl (Option.some.inj heq)), fun heq => hkind (.inr (Option.some.inj heq))⟩
  have hfail : ∀ reasonCode, Inv H (s.failProtocol (some e.kind) reasonCode) := fun reasonCode =>
    inv_fail reasonCode h.closed h.subscribed (fun hc => (h.fresh hc).2) hnot
  unfold BridgeSession.handleFrame
  split
  · rename_i hst
    exact h.state hst
  · split
    · exact hfail _
    · split
      · exact hfail _
      · split
        · exact hfail _
        · split
          · rename_i hack
            exact absurd hack hkind
          · split
            · exact hfail _
            · split
              · exact SameTable.inv (s := s)
                  ⟨rfl, rfl, rfl, rfl, rfl, rfl, rfl, rfl, rfl, rfl, rfl⟩ h
              · exact hfail _

theorem deliver_upstream (s : BridgeSession) {e : FederatedWsEnvelope}
    (hval : validateFederatedWsEnvelope value = .ok e) :
    (s.deliver u value).upstream = some { u with
      received := u.received + 1
      answered := if e.kind = .ack ∨ e.kind = .nack then e.correlationId :: u.answered
        else u.answered } := by
  unfold BridgeSession.deliver
  rw [hval]

/-- **What arrives**: an acknowledgement that answers a request, in time, never fails. -/
theorem Inv.message (h : Inv H s) (hu : s.upstream = some u)
    (hconforming : Conforming s (.message value)) (htime : InTime s (.message value)) :
    Inv H ((s.deliver u value).handleUpstreamMessage H u value) := by
  have htr := h.tracked u hu
  have hclo : s.closing ≠ true := fun hc => by
    have hnone := h.closed hc
    rw [hu] at hnone
    exact absurd hnone (by simp)
  have hcg : s.connecting ≠ true := fun hc => by
    have hnone := (h.fresh hc).1
    rw [hu] at hnone
    exact absurd hnone (by simp)
  have hfail : ∀ (kind : Option FederatedWsMessageKind) reasonCode,
      (kind ≠ some .ack ∧ kind ≠ some .nack) →
      Inv H ((s.deliver u value).failProtocol kind reasonCode) := fun kind reasonCode hkind =>
    inv_fail reasonCode (fun hc => absurd hc hclo) h.subscribed
      (fun hc => absurd hc hcg) hkind
  unfold BridgeSession.handleUpstreamMessage
  split
  · exact hfail none _ (by decide)
  · rename_i e hval
    split
    · rename_i hhdr
      refine hfail (some e.kind) _ ⟨fun heq => ?_, fun heq => ?_⟩
      all_goals
        -- an acknowledgement that answers a request has the header of its channel
        have hack : IsAck e := by
          first
          | exact .inl (Option.some.inj heq)
          | exact .inr (Option.some.inj heq)
        obtain ⟨v, request, hv, hans⟩ := hconforming e hval hack
        rw [hu] at hv
        obtain rfl := Option.some.inj hv
        obtain ⟨hchan, hep, -, -⟩ := htr.sent request hans.sent
        rcases hhdr with hne | hne | hne
        · exact absurd (hans.channelId.trans hchan) hne
        · exact absurd (hans.epoch.trans hep) hne
        · refine absurd ?_ hne
          change e.sequence = s.incomingSequence + 1
          rw [hans.sequence, htr.incoming]
    · rename_i hhdr
      have hseq : e.sequence = u.received + 1 := by
        by_contra hne
        refine hhdr (.inr (.inr ?_))
        change e.sequence ≠ s.incomingSequence + 1
        rw [htr.incoming]
        exact hne
      have hnext : Inv H { s.deliver u value with incomingSequence := e.sequence } := by
        refine ⟨fun v hv => ?_, fun hc => absurd hc hclo, h.notTorn, h.subscribed,
          fun hc => absurd hc hcg⟩
        obtain rfl := Option.some.inj ((deliver_upstream s hval).symm.trans hv)
        refine ⟨hseq, htr.actions, htr.sent, ?_, htr.drawn⟩
        intro r hr hanswered htimed
        refine htr.pending r hr (fun hmem => hanswered ?_) htimed
        dsimp only
        split
        · exact List.mem_cons_of_mem _ hmem
        · exact hmem
      by_cases hack : IsAck e
      · obtain ⟨v, request, hv, hans⟩ := hconforming e hval hack
        rw [hu] at hv
        obtain rfl := Option.some.inj hv
        obtain ⟨-, -, halw, action, hact, hev⟩ := htr.sent request hans.sent
        obtain ⟨p, hp, hpsequence⟩ := htr.pending request hans.sent hans.first
          (hans.correlationId ▸ htime e hval hack)
        obtain ⟨ack, hvalid, hacc⟩ := hans.payload
        have hkinds : e.kind = .ack ∨ e.kind = .nack := hack
        have hst : e.kind ≠ .state := by
          rcases hack with hk | hk <;> rw [hk] <;> decide
        unfold BridgeSession.handleFrame
        rw [if_neg hst, hans.actionId]
        have hcontains : ({ s.deliver u value with
            incomingSequence := e.sequence }.allowedActionIds.contains request.actionId) = true :=
          List.contains_iff_mem.mpr halw
        rw [hcontains, Bool.not_true, if_neg Bool.false_ne_true, hact]
        dsimp only
        rw [if_neg (not_not.mpr (hev.trans hans.event.symm)), if_pos hkinds]
        refine hnext.onAck (p := p) ?_ hvalid (hacc.trans hpsequence.symm) ?_
        · rw [hans.correlationId]
          exact hp
        · intro v hv
          obtain rfl := Option.some.inj ((deliver_upstream s hval).symm.trans hv)
          dsimp only
          rw [if_pos hkinds]
          exact List.mem_cons_self
      · exact hnext.frame hack

end Messages

/-! ## The bridge's runs -/

section Run

variable {H : BridgeHost} {s s' : BridgeSession}

theorem inv_step (h : Inv H s) {a : BridgeEvent} (hconforming : Conforming s a) (htime : InTime s a)
    (hstep : bridgeStep H s a = some s') : Inv H s' := by
  cases a with
  | command action payload callback =>
    simp only [bridgeStep] at hstep
    obtain ⟨hrole, hstep⟩ := Failing.when_some hstep
    obtain rfl := Option.some.inj hstep
    have hmem := (Bool.and_eq_true_iff.mp hrole).1
    exact h.command payload callback (mem_of_actionsForRole (List.contains_iff_mem.mp hmem))
  | issued channel =>
    simp only [bridgeStep] at hstep
    obtain ⟨hcg, hstep⟩ := Failing.when_some hstep
    obtain rfl := Option.some.inj hstep
    exact h.issued hcg channel
  | issueFailed code random =>
    simp only [bridgeStep] at hstep
    obtain ⟨-, hstep⟩ := Failing.when_some hstep
    obtain rfl := Option.some.inj hstep
    exact h.issueFailed code random
  | connected =>
    obtain ⟨u, hu, rfl⟩ := Option.map_eq_some_iff.mp hstep
    have htr := h.tracked u hu
    refine ⟨fun v hv => ?_, fun hclo => ?_, h.notTorn, h.subscribed, fun hcg => ?_⟩
    · obtain rfl := Option.some.inj hv
      exact ⟨htr.incoming, htr.actions, htr.sent, htr.pending, htr.drawn⟩
    · exact absurd (hu.symm.trans (h.closed hclo)) (by simp)
    · exact absurd (hu.symm.trans (h.fresh hcg).1) (by simp)
  | message value =>
    obtain ⟨u, hu, rfl⟩ := Option.map_eq_some_iff.mp hstep
    exact h.message hu hconforming htime
  | lost reasonCode random =>
    obtain ⟨u, hu, rfl⟩ := Option.map_eq_some_iff.mp hstep
    exact h.lost reasonCode random
  | ackTimeout correlationId =>
    simp only [bridgeStep] at hstep
    split at hstep
    · split at hstep
      · obtain rfl := Option.some.inj hstep
        exact h.ackTimedOut correlationId _
      · exact absurd hstep (by simp)
    · exact absurd hstep (by simp)
  | reconnect =>
    simp only [bridgeStep] at hstep
    obtain ⟨-, hstep⟩ := Failing.when_some hstep
    obtain rfl := Option.some.inj hstep
    exact Inv.connect (SameTable.inv (s := s)
      ⟨rfl, rfl, rfl, rfl, rfl, rfl, rfl, rfl, rfl, rfl, rfl⟩ h)
  | refresh =>
    simp only [bridgeStep] at hstep
    obtain ⟨-, hstep⟩ := Failing.when_some hstep
    obtain rfl := Option.some.inj hstep
    exact Inv.connect (SameTable.inv (s := s)
      ⟨rfl, rfl, rfl, rfl, rfl, rfl, rfl, rfl, rfl, rfl, rfl⟩ h)
  | detach =>
    obtain rfl := Option.some.inj hstep
    exact h.detach
  | advance ms =>
    obtain rfl := Option.some.inj hstep
    exact SameTable.inv (s := s) ⟨rfl, rfl, rfl, rfl, rfl, rfl, rfl, rfl, rfl, rfl, rfl⟩ h

theorem inv_attach (role : FederatedSocketRole) (clock : Nat) : Inv H (attach role clock) := by
  refine Inv.connect (inv_of_none rfl ⟨?_, ?_⟩ (fun entry hentry => ?_) fun _ => rfl)
  · exact (Option.some_ne_none FederatedWsMessageKind.ack).symm
  · exact (Option.some_ne_none FederatedWsMessageKind.nack).symm
  · exact absurd hentry List.not_mem_nil

/-- **As long as no acknowledgement arrives after the timer of its request has run**, no session of
a target that conforms is torn down by one; **as long as no handler answers with an error that has no
text**, every acknowledgement of the gateway is admitted. -/
theorem acks_accepted (H : BridgeHost) (G : GatewayHost) :
    (∀ role clock s,
      Stepping.Reach (bridgeStep H) (fun s a => Conforming s a ∧ InTime s a) (attach role clock) s →
        s.tornDownBy ≠ some .ack ∧ s.tornDownBy ≠ some .nack) ∧
    ∀ x, Stepping.Reach (gatewayStep G) Telling [] x → ∀ s ∈ x, ∀ e ∈ s.emitted, IsAck e →
      ∃ ack, validateFederatedWsAck (overWire e.payload) = .ok ack := by
  constructor
  · intro role clock s hs
    have hinv : Inv H s := by
      refine hs.invariant (I := Inv H) (inv_attach role clock) ?_
      intro s a s' h hok hstep
      exact inv_step h hok.1 hok.2 hstep
    exact hinv.notTorn
  · intro x hx s hs e he hack
    exact acks_formed hx hs he hack

end Run

/-! ## An acknowledgement that is late -/

namespace SampleBridge

def uuids (k : Nat) : String :=
  String.ofList ("d3b07384-d9a1-4f5c-8e2b-7a6c5d4e3f21".toList ++ List.replicate k '0')

theorem padded_injective (base : List Char) :
    Function.Injective fun k => String.ofList (base ++ List.replicate k '0') := by
  intro i j h
  have hchs := congrArg String.toList h
  simp only [String.toList_ofList] at hchs
  have hlen := congrArg List.length (List.append_cancel_left hchs)
  rw [List.length_replicate, List.length_replicate] at hlen
  exact hlen

def host : BridgeHost where
  randomUUID := uuids
  randomUUID_injective := padded_injective _
  validatePayload _ _ := true

def channel : IssuedFederationWsChannel where
  channelId := "0b9e7c66-1d2f-4a3b-9c4d-5e6f70819203"
  actionIds := ["ws.browser-command.ai-stop"]
  expiresAt := 300000
  actionIds_ne := by decide

/-- `ai:stop`. -/
def stop : FederatedSocketPolicyAction :=
  ⟨"ai:stop", "ws.browser-command.ai-stop", [.admin, .manager], .browserToApi, some .requireReady⟩

/-- The target is ready. -/
def ready : JsValue :=
  .object (FederatedWsEnvelope.fields ⟨channel.channelId, 1, 1, "federation.ws-state", uuids 0,
    "federation:state", .state,
    .object (FederatedWsStatePayload.fields ⟨.ready, "READY", some 0, none⟩)⟩)

/-- The target acknowledges the request. -/
def acknowledged : JsValue :=
  .object (FederatedWsEnvelope.fields ⟨channel.channelId, 1, 2, stop.actionId, uuids 0, stop.event,
    .ack, .object (acknowledgement 1 .null).fields⟩)

/-- A channel is opened, and a command is sent over it. -/
def asked : List BridgeEvent :=
  [.issued channel, .connected, .message ready, .command stop (.object []) (some 0)]

instance (u : UpstreamSocket) (e : FederatedWsEnvelope) :
    Decidable (∃ request, Answers u e request) := by
  refine decidable_of_iff (∃ request ∈ u.sent, request.correlationId ∉ u.answered ∧
    e.correlationId = request.correlationId ∧ e.channelId = request.channelId ∧
    e.epoch = request.epoch ∧ e.sequence = u.received + 1 ∧ e.actionId = request.actionId ∧
    e.event = request.event ∧ (validateFederatedWsAck e.payload).toOption.any (fun ack =>
      decide (ack.acceptedSequence = request.sequence)) = true) ?_
  constructor
  · rintro ⟨request, hsent, hfirst, hcorr, hchan, hep, hseq, hact, hev,
      hpay⟩
    refine ⟨request, hsent, hfirst, hcorr, hchan, hep, hseq, hact, hev, ?_⟩
    cases hack : validateFederatedWsAck e.payload with
    | error message =>
      rw [hack] at hpay
      exact absurd hpay (by simp [Except.toOption])
    | ok ack =>
      rw [hack] at hpay
      exact ⟨ack, rfl, of_decide_eq_true hpay⟩
  · rintro ⟨request, h⟩
    obtain ⟨ack, hack, hseq⟩ := h.payload
    refine ⟨request, h.sent, h.first, h.correlationId, h.channelId, h.epoch, h.sequence, h.actionId,
      h.event, ?_⟩
    rw [hack]
    exact decide_eq_true hseq

instance (e : FederatedWsEnvelope) : Decidable (IsAck e) := inferInstanceAs (Decidable (_ ∨ _))

/-- A property of the acknowledgement a message is, if it is one. -/
theorem ack_all (value : JsValue) {P : FederatedWsEnvelope → Prop} [DecidablePred P] :
    ((validateFederatedWsEnvelope value).toOption.all fun e =>
      decide (¬ IsAck e) || decide (P e)) = true ↔
    ∀ e, validateFederatedWsEnvelope value = .ok e → IsAck e → P e := by
  cases validateFederatedWsEnvelope value with
  | error message => simp [Except.toOption]
  | ok e =>
    simp only [Except.toOption, Option.all_some, Bool.or_eq_true, decide_eq_true_eq,
      Except.ok.injEq, forall_eq']
    exact imp_iff_not_or.symm

instance (s : BridgeSession) (a : BridgeEvent) : Decidable (Conforming s a) := by
  apply a.casesOn (motive := fun a => Decidable (Conforming s a))
  case message =>
    intro value
    have hiff : (∀ e, validateFederatedWsEnvelope value = .ok e → IsAck e →
          s.upstream.any (fun u => decide (∃ request, Answers u e request)) = true) ↔
        Conforming s (.message value) := by
      simp only [Conforming, Option.any_eq_true, decide_eq_true_eq]
      refine forall_congr' fun e => imp_congr_right fun _ => imp_congr_right fun _ => ?_
      constructor
      · rintro ⟨u, hu, request, h⟩
        exact ⟨u, request, hu, h⟩
      · rintro ⟨u, request, hu, h⟩
        exact ⟨u, hu, request, h⟩
    exact decidable_of_iff _ ((ack_all value).trans hiff)
  all_goals
    intros
    exact isTrue trivial

instance (s : BridgeSession) (a : BridgeEvent) : Decidable (InTime s a) := by
  apply a.casesOn (motive := fun a => Decidable (InTime s a))
  case message =>
    intro value
    exact decidable_of_iff _ (ack_all value (P := fun e => e.correlationId ∉ s.timedOut))
  all_goals
    intros
    exact isTrue trivial

instance (result : JsValue) : Decidable (Tells result) :=
  inferInstanceAs (Decidable (∀ error ∈ errorOf result, toText error ≠ ""))

instance (x : GatewayState) (a : GatewayEvent) : Decidable (Telling x a) := by
  apply a.casesOn (motive := fun a => Decidable (Telling x a))
  case acknowledge =>
    intro _ _ result
    exact inferInstanceAs (Decidable (Tells result))
  all_goals
    intros
    exact isTrue trivial

/-- **An acknowledgement after ten seconds** closes the session of a target that conforms. -/
theorem late_ack_fails : ∃ s, Stepping.Reach (bridgeStep host) Conforming (attach .admin 0) s ∧
    s.tornDownBy = some .ack :=
  Stepping.Reach.of_run_any
    (l := asked ++ [.advance 10000, .ackTimeout (uuids 0), .message acknowledged])
    (by decide +kernel)

/-- In time, the acknowledgement is passed on; and the gateway's own is admitted. -/
theorem acks_accepted_stop :
    (∃ s : BridgeSession, s.pending.entries.isEmpty = true ∧ s.outgoingSequence = 1 ∧
      s.tornDownBy ≠ some .ack ∧ s.tornDownBy ≠ some .nack) ∧
    ∃ x : GatewayState, x.map (fun s => s.emitted.map (·.kind)) = [[.state, .ack]] ∧
      ∀ s ∈ x, ∀ e ∈ s.emitted, IsAck e →
        ∃ ack, validateFederatedWsAck (overWire e.payload) = .ok ack := by
  have hbridge : ∃ s, Stepping.Reach (bridgeStep host) (fun s a => Conforming s a ∧ InTime s a)
      (attach .admin 0) s ∧ (s.pending.entries.isEmpty = true ∧ s.outgoingSequence = 1) :=
    Stepping.Reach.of_run_any (l := asked ++ [.advance 9999, .message acknowledged])
      (by decide +kernel)
  have hgateway : ∃ x : GatewayState, Stepping.Reach (gatewayStep SampleGateway.host) Telling [] x ∧
      x.map (fun s => s.emitted.map (·.kind)) = [[.state, .ack]] :=
    Stepping.Reach.of_run_any (l := [.connect "c" SampleGateway.verified 0,
      .receive "c" SampleGateway.stop 0, .acknowledge "c" 1 .null]) (by decide +kernel)
  obtain ⟨s, hs, hnil, hseq⟩ := hbridge
  obtain ⟨x, hx, hframes⟩ := hgateway
  obtain ⟨hfails, hadm⟩ := acks_accepted host SampleGateway.host
  exact ⟨⟨s, hnil, hseq, hfails .admin 0 s hs⟩, x, hframes, hadm x hx⟩

end SampleBridge

end Meowbox.Gateway
