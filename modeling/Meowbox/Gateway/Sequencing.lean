import Meowbox.Gateway.Target
import Meowbox.Lib.Except

/-!
# Every frame in its place, every request answered once

`emitFederatedEnvelope` advances the counter of a channel before it validates the frame, and throws
when the frame is refused: the number is lost, the answer it would have been is never given, and a
loop over the sessions is left. All that can make it refuse is the payload's size (`emit_eq`).

* `Sound`: what holds of a session, with the request that has just been accepted, if any.
* **`channels_sequenced`**: as long as whatever is handed to a channel fits a frame, the frames of
  every channel are numbered from 1 on, every request is answered exactly once, and what is
  addressed to several sessions is sent on each of them.
* `SampleGateway.sequence_skipped`: after the input of a tool, of 256 KiB and more, a number is
  missing.
-/

namespace Meowbox.Gateway

open JsData JsonText AgentJobs

/-! ## Numbers and answers -/

/-- The frames are numbered from 1 on. -/
def Consecutive (frames : List FederatedWsEnvelope) : Prop :=
  ∀ (i : Nat) (e : FederatedWsEnvelope), frames[i]? = some e → e.sequence = (i : Int) + 1

/-- The request an acknowledgement names. -/
def acceptedSequence? : JsValue → Option Int
  | .object fields =>
    match property fields "acceptedSequence" with
    | .number n => integer? n
    | _ => none
  | _ => none

/-- A frame answers the request of the number. -/
def answersTo (n : Int) (e : FederatedWsEnvelope) : Bool :=
  (e.kind == .ack || e.kind == .nack) && acceptedSequence? e.payload == some n

namespace FederatedTargetSession

/-- How often the request of the number has been answered. -/
def answers (s : FederatedTargetSession) (n : Int) : Nat := s.emitted.countP (answersTo n)

/-- The request of the number has no handler, or no handler any more. -/
def Settled (s : FederatedTargetSession) (n : Int) : Prop :=
  ∀ r ∈ s.running, r.request.sequence ≠ n

end FederatedTargetSession

theorem consecutive_nil : Consecutive [] := by
  intro i e h
  exact absurd h (by simp)

theorem Consecutive.concat {frames : List FederatedWsEnvelope} {e : FederatedWsEnvelope}
    (h : Consecutive frames) (he : e.sequence = (frames.length : Int) + 1) :
    Consecutive (frames ++ [e]) := by
  intro i f hf
  by_cases hi : i < frames.length
  · rw [List.getElem?_append_left hi] at hf
    exact h i f hf
  · obtain ⟨hlt, -⟩ := List.getElem?_eq_some_iff.mp hf
    rw [List.length_append, List.length_singleton] at hlt
    have hlast : i = frames.length := by omega
    subst hlast
    rw [List.getElem?_concat_length] at hf
    rw [← Option.some.inj hf]
    exact he

theorem acceptedSequence?_fields (a : FederatedWsAckPayload) :
    acceptedSequence? (.object a.fields) = some a.acceptedSequence := by
  have hproperty : property a.fields "acceptedSequence" =
      .number (JsonNumber.ofInt a.acceptedSequence) := rfl
  rw [acceptedSequence?, hproperty]
  exact integer?_ofInt a.acceptedSequence

/-! ## What holds of a session -/

/-- **What holds of a session**, while the request numbered `waiting` has been accepted and is
neither answered nor handed to a handler. -/
structure Sound (waiting : Option Int) (s : FederatedTargetSession) : Prop where
  channelId : isUuid s.channelId = true
  epoch : Numbered 1 s.epoch
  outgoing : 0 ≤ s.outgoingSequence
  counted : s.connected = true → s.outgoingSequence = s.emitted.length
  consecutive : Consecutive s.emitted
  incoming : 0 ≤ s.incomingSequence
  requests : ∀ r ∈ s.running,
    r.request.Valid ∧ 1 ≤ r.request.sequence ∧ r.request.sequence ≤ s.incomingSequence
  nodup : (s.running.map fun r => r.request.sequence).Nodup
  once : ∀ n, s.answers n ≤ 1
  known : ∀ n, s.answers n ≠ 0 → 1 ≤ n ∧ n ≤ s.incomingSequence
  unanswered : ∀ r ∈ s.running, r.responded = false → s.answers r.request.sequence = 0
  waits : ∀ n, waiting = some n → s.answers n = 0 ∧ 1 ≤ n ∧ n ≤ s.incomingSequence ∧
    ∀ r ∈ s.running, r.request.sequence = n → r.responded = true
  answered : s.connected = true → ∀ n, 1 ≤ n → n ≤ s.incomingSequence →
    waiting = some n ∨ (∃ r ∈ s.running, r.request.sequence = n ∧ r.responded = false) ∨
      s.answers n = 1

section Emit

variable {waiting : Option Int} {s : FederatedTargetSession} {m : FederatedMessage}
  {e : FederatedWsEnvelope} {n : Int}

open FederatedTargetSession

/-- **The only frames that are refused are those whose payload does not fit**, short of 2⁵³
frames. -/
theorem emit_eq (hval : (s.advance.envelope m).Valid) :
    s.emitFederatedEnvelope m = (s.advance.socketEmit (s.advance.envelope m), .ok ()) := by
  unfold emitFederatedEnvelope
  rw [validateFederatedWsEnvelope_iff.mpr ⟨hval, rfl⟩]

theorem emitted_socketEmit : (s.advance.socketEmit e).emitted =
    if s.connected then s.emitted ++ [e] else s.emitted := by
  have hsame : s.advance.connected = s.connected := rfl
  unfold socketEmit
  rw [hsame]
  by_cases hconn : s.connected = true
  · rw [if_pos hconn, if_pos hconn]
    rfl
  · rw [if_neg hconn, if_neg hconn]
    rfl

theorem answers_socketEmit : (s.advance.socketEmit e).answers n =
    s.answers n + if s.connected && answersTo n e then 1 else 0 := by
  unfold answers
  rw [emitted_socketEmit]
  by_cases hconn : s.connected = true
  · rw [if_pos hconn, List.countP_append, List.countP_singleton]
    simp [hconn]
  · simp [hconn]

/-- An emission changes the counter and the frames. -/
theorem socketEmit_rest : (s.advance.socketEmit e).channelId = s.channelId ∧
    (s.advance.socketEmit e).epoch = s.epoch ∧
    (s.advance.socketEmit e).outgoingSequence = s.outgoingSequence + 1 ∧
    (s.advance.socketEmit e).connected = s.connected ∧
    (s.advance.socketEmit e).incomingSequence = s.incomingSequence ∧
    (s.advance.socketEmit e).running = s.running := by
  unfold socketEmit
  by_cases hconn : s.advance.connected = true
  · rw [if_pos hconn]
    exact ⟨rfl, rfl, rfl, rfl, rfl, rfl⟩
  · rw [if_neg hconn]
    exact ⟨rfl, rfl, rfl, rfl, rfl, rfl⟩

/-- The frames after an emission are numbered as before, and the counter agrees with them. -/
theorem Sound.numbered (h : Sound waiting s) (he : e.sequence = s.outgoingSequence + 1) :
    Consecutive (s.advance.socketEmit e).emitted ∧
      ((s.advance.socketEmit e).connected = true →
        (s.advance.socketEmit e).outgoingSequence = (s.advance.socketEmit e).emitted.length) := by
  obtain ⟨-, -, hnext, hsame, -, -⟩ := socketEmit_rest (s := s) (e := e)
  rw [emitted_socketEmit, hnext, hsame]
  by_cases hconn : s.connected = true
  · have hcounted := h.counted hconn
    rw [if_pos hconn]
    refine ⟨h.consecutive.concat (by rw [he, hcounted]), fun _ => ?_⟩
    rw [List.length_append, List.length_singleton, hcounted]
    rfl
  · rw [if_neg hconn]
    exact ⟨h.consecutive, fun hc => absurd hc hconn⟩

/-- A frame that is no answer. -/
theorem Sound.say (h : Sound waiting s) (he : e.sequence = s.outgoingSequence + 1)
    (hsil : ∀ n, answersTo n e = false) : Sound waiting (s.advance.socketEmit e) := by
  obtain ⟨hchan, hep, hnext, hsame, hinc, hrunning⟩ := socketEmit_rest (s := s) (e := e)
  obtain ⟨hcons, hcounted⟩ := h.numbered he
  have hans : ∀ n, (s.advance.socketEmit e).answers n = s.answers n := by
    intro n
    rw [answers_socketEmit, hsil n, Bool.and_false]
    rfl
  have houtg := h.outgoing
  refine ⟨by rw [hchan]; exact h.channelId, by rw [hep]; exact h.epoch, by omega, hcounted,
    hcons, by rw [hinc]; exact h.incoming, ?_, ?_, ?_, ?_, ?_, ?_, ?_⟩
  · rw [hrunning, hinc]
    exact h.requests
  · rw [hrunning]
    exact h.nodup
  · intro n
    rw [hans]
    exact h.once n
  · intro n
    rw [hans, hinc]
    exact h.known n
  · intro r hr
    rw [hrunning] at hr
    rw [hans]
    exact h.unanswered r hr
  · intro n hn
    rw [hans, hinc, hrunning]
    exact h.waits n hn
  · intro hconn n
    rw [hsame] at hconn
    rw [hinc, hrunning, hans]
    exact h.answered hconn n

/-- The answer to the request that waits for it. -/
theorem Sound.answer (h : Sound (some n) s) (he : e.sequence = s.outgoingSequence + 1)
    (hanswer : ∀ k, answersTo k e = decide (k = n)) : Sound none (s.advance.socketEmit e) := by
  obtain ⟨hchan, hep, hnext, hsame, hinc, hrunning⟩ := socketEmit_rest (s := s) (e := e)
  obtain ⟨hcons, hcounted⟩ := h.numbered he
  obtain ⟨hzero, hlo, hhi, hrsp⟩ := h.waits n rfl
  have hother : ∀ k, k ≠ n → (s.advance.socketEmit e).answers k = s.answers k := by
    intro k hk
    rw [answers_socketEmit, hanswer, decide_eq_false hk, Bool.and_false]
    rfl
  have hthis : (s.advance.socketEmit e).answers n = if s.connected then 1 else 0 := by
    rw [answers_socketEmit, hanswer, hzero]
    simp
  have houtg := h.outgoing
  refine ⟨by rw [hchan]; exact h.channelId, by rw [hep]; exact h.epoch, by omega, hcounted,
    hcons, by rw [hinc]; exact h.incoming, ?_, ?_, ?_, ?_, ?_, ?_, ?_⟩
  · rw [hrunning, hinc]
    exact h.requests
  · rw [hrunning]
    exact h.nodup
  · intro k
    by_cases hk : k = n
    · rw [hk, hthis]
      split <;> omega
    · rw [hother k hk]
      exact h.once k
  · intro k hne
    rw [hinc]
    by_cases hk : k = n
    · exact hk ▸ ⟨hlo, hhi⟩
    · rw [hother k hk] at hne
      exact h.known k hne
  · intro r hr hopen
    rw [hrunning] at hr
    have hk : r.request.sequence ≠ n := fun hk => by
      rw [hrsp r hr hk] at hopen
      exact absurd hopen (by decide)
    rw [hother _ hk]
    exact h.unanswered r hr hopen
  · intro k hk
    exact absurd hk (by simp)
  · intro hconn k hk1 hk2
    rw [hsame] at hconn
    rw [hinc] at hk2
    rw [hrunning]
    by_cases hk : k = n
    · rw [hk, hthis, if_pos hconn]
      exact .inr (.inr rfl)
    · rw [hother k hk]
      rcases h.answered hconn k hk1 hk2 with hwaits | hrest
      · exact absurd (Option.some.inj hwaits).symm hk
      · exact .inr hrest

end Emit

/-! ## What the functions of a session keep -/

/-- Fewer than 2⁵³ − 1 frames have been sent. -/
def Countable (s : FederatedTargetSession) : Prop := s.outgoingSequence < MAX_SAFE_INTEGER

section Session

variable {H : GatewayHost} {waiting : Option Int} {s : FederatedTargetSession} {n : Int}

open FederatedTargetSession

/-- A frame of the session is valid when what is the message's is. -/
theorem Sound.valid (h : Sound waiting s) (hcnt : Countable s) {m : FederatedMessage}
    (hact : Patterned 1024 isActionId m.actionId) (hcorr : isUuid m.correlationId = true)
    (hev : Patterned 1024 isEvent m.event) (hfits : FitsFrame m.payload) :
    (s.advance.envelope m).Valid := by
  have houtg := h.outgoing
  unfold Countable at hcnt
  exact ⟨h.channelId, h.epoch, ⟨Int.add_nonneg houtg (by decide), Int.add_one_le_of_lt hcnt⟩,
    hact, hcorr, hev, hfits⟩

/-- A message that is no acknowledgement answers nothing. -/
theorem silent_of_kind {e : FederatedWsEnvelope} (hack : e.kind ≠ .ack) (hnack : e.kind ≠ .nack)
    (n : Int) : answersTo n e = false := by
  unfold answersTo
  have h1 : (e.kind == .ack) = false := beq_eq_false_iff_ne.mpr hack
  have h2 : (e.kind == .nack) = false := beq_eq_false_iff_ne.mpr hnack
  rw [h1, h2]
  rfl

/-- The names a state goes under. -/
theorem state_patterned : Patterned 1024 isActionId "federation.ws-state" ∧
    Patterned 1024 isEvent "federation:state" := by
  decide

variable {reasonCode : String}

/-- **A session says its state**, and goes on. -/
theorem Sound.state (h : Sound waiting s) (state : FederatedWsState) (hcnt : Countable s)
    (hcode : reasonCode.toList.length ≤ 128) (readyAt : Option Int) :
    ∃ s', emitFederatedState H s ⟨state, reasonCode, readyAt, none⟩ = (s', .ok ()) ∧
      Sound waiting s' := by
  have hval := h.valid hcnt (m := ⟨"federation.ws-state",
    H.randomUUID s.clientId s.outgoingSequence, "federation:state", .state,
    .object (FederatedWsStatePayload.fields ⟨state, reasonCode, readyAt, none⟩)⟩)
    state_patterned.1 (H.isUuid_randomUUID _ _) state_patterned.2 (state_fits hcode readyAt)
  exact ⟨_, emit_eq hval, h.say rfl (silent_of_kind (by simp [envelope]) (by simp [envelope]))⟩

/-- A socket that closes. -/
theorem Sound.disconnect (h : Sound waiting s) : Sound none s.disconnect where
  __ := h
  counted hconn := absurd hconn (by simp [FederatedTargetSession.disconnect])
  waits n hn := absurd hn (by simp)
  answered hconn := absurd hconn (by simp [FederatedTargetSession.disconnect])

/-- **A session is closed.** -/
theorem Sound.close (h : Sound waiting s) (hcnt : Countable s)
    (hcode : reasonCode.toList.length ≤ 128) :
    ∃ s', closeFederatedProtocol H s reasonCode = (s', .ok ()) ∧ Sound none s' := by
  obtain ⟨s', hs', hsound⟩ := h.state (H := H) .closed hcnt hcode none
  refine ⟨s'.disconnect, ?_, hsound.disconnect⟩
  rw [closeFederatedProtocol, hs']

/-- An acknowledgement answers the request it names, and no other. -/
theorem answersTo_ack (request : FederatedWsEnvelope) (a : FederatedWsAckPayload)
    (hsequence : a.acceptedSequence = n) (k : Int) :
    answersTo k (s.advance.envelope ⟨request.actionId, request.correlationId, request.event,
      if a.outcome = .rejected then .nack else .ack, .object a.fields⟩) = decide (k = n) := by
  have hkind : ((if a.outcome = .rejected then FederatedWsMessageKind.nack else .ack) == .ack ||
      (if a.outcome = .rejected then FederatedWsMessageKind.nack else .ack) == .nack) = true := by
    by_cases hrejected : a.outcome = .rejected
    · rw [if_pos hrejected]
      rfl
    · rw [if_neg hrejected]
      rfl
  unfold answersTo envelope
  simp only [hkind, Bool.true_and, acceptedSequence?_fields, hsequence]
  by_cases hk : k = n
  · simp [hk]
  · have hne : ¬ n = k := fun heq => hk heq.symm
    simp [hk, hne]

/-- **The request that waits is answered.** -/
theorem Sound.acked (h : Sound (some n) s) (hcnt : Countable s) {request : FederatedWsEnvelope}
    (hrequest : request.Valid) {a : FederatedWsAckPayload} (hsequence : a.acceptedSequence = n)
    (hfits : FitsFrame (.object a.fields)) :
    ∃ s', s.emitFederatedAck request a = (s', .ok ()) ∧ Sound none s' := by
  have hval := h.valid hcnt (m := ⟨request.actionId, request.correlationId, request.event,
    if a.outcome = .rejected then .nack else .ack, .object a.fields⟩) hrequest.actionId
    hrequest.correlationId hrequest.event hfits
  exact ⟨_, emit_eq hval, h.answer rfl (answersTo_ack request a hsequence)⟩

/-! ### Requests -/

/-- The next frame of the master. -/
theorem Sound.accept (h : Sound none s) {envelope : FederatedWsEnvelope}
    (hnext : envelope.sequence = s.incomingSequence + 1) :
    Sound (some envelope.sequence) { s with incomingSequence := envelope.sequence } := by
  have hinc := h.incoming
  have hzero : s.answers envelope.sequence = 0 := by
    by_contra hne
    have hkn := (h.known _ hne).2
    omega
  refine ⟨h.channelId, h.epoch, h.outgoing, h.counted, h.consecutive, ?_, ?_, h.nodup, h.once, ?_,
    h.unanswered, ?_, ?_⟩
  · change 0 ≤ envelope.sequence
    omega
  · intro r hr
    obtain ⟨hval, hlo, hhi⟩ := h.requests r hr
    refine ⟨hval, hlo, ?_⟩
    change r.request.sequence ≤ envelope.sequence
    omega
  · intro k hk
    obtain ⟨hlo, hhi⟩ := h.known k hk
    refine ⟨hlo, ?_⟩
    change k ≤ envelope.sequence
    omega
  · intro k hk
    obtain rfl := Option.some.inj hk
    refine ⟨hzero, by omega, Int.le_refl _, fun r hr heq => ?_⟩
    have hhi := (h.requests r hr).2.2
    omega
  · intro hconn k hk1 hk2
    by_cases hk : k = envelope.sequence
    · exact .inl (by rw [hk])
    · have hk3 : k ≤ s.incomingSequence := by
        have hle : k ≤ envelope.sequence := hk2
        omega
      rcases h.answered hconn k hk1 hk3 with hnone | hrest
      · exact absurd hnone (by simp)
      · exact .inr hrest

/-- **The request that waits is handed to its handler.** -/
theorem Sound.start (h : Sound (some n) s) {request : FederatedWsEnvelope}
    (hrequest : request.Valid) (hn : request.sequence = n)
    (hlast : ∀ r ∈ s.running, r.request.sequence ≠ n) (rates : JsMap String Rate) :
    Sound none { s with rateByAction := rates, running := s.running ++ [⟨request, false⟩] } := by
  obtain ⟨hzero, hlo, hhi, -⟩ := h.waits n rfl
  refine ⟨h.channelId, h.epoch, h.outgoing, h.counted, h.consecutive, h.incoming, ?_, ?_, h.once,
    h.known, ?_, fun k hk => absurd hk (by simp), ?_⟩
  · intro r hr
    rcases List.mem_snoc.mp hr with hr | rfl
    · exact h.requests r hr
    · exact ⟨hrequest, hn ▸ hlo, hn ▸ hhi⟩
  · rw [List.map_append, List.map_singleton]
    refine List.nodup_append.mpr ⟨h.nodup, List.nodup_singleton _, ?_⟩
    intro a ha b hb
    obtain ⟨r, hr, rfl⟩ := List.mem_map.mp ha
    rw [List.mem_singleton.mp hb, hn]
    exact hlast r hr
  · intro r hr hopen
    rcases List.mem_snoc.mp hr with hr | rfl
    · exact h.unanswered r hr hopen
    · rw [hn]
      exact hzero
  · intro hconn k hk1 hk2
    rcases h.answered hconn k hk1 hk2 with hwaits | ⟨r, hr, hrest⟩ | hone
    · obtain rfl := Option.some.inj hwaits
      exact .inr (.inl ⟨⟨request, false⟩, List.mem_append_right _ (by simp), hn, rfl⟩)
    · exact .inr (.inl ⟨r, List.mem_append_left _ hr, hrest⟩)
    · exact .inr (.inr hone)

/-- Three codes a channel is closed with. -/
theorem closeCodes_short : "REMOTE_SCHEMA_MISMATCH".toList.length ≤ 128 ∧
    "REMOTE_SEQUENCE_INVALID".toList.length ≤ 128 ∧
    "REMOTE_ACTION_MISMATCH".toList.length ≤ 128 := by
  decide +kernel

/-- A session that is closed, whatever it was about to do. -/
theorem Sound.closed (h : Sound waiting s) (hcnt : Countable s)
    (hcode : reasonCode.toList.length ≤ 128) :
    Sound none (closeFederatedProtocol H s reasonCode).1 := by
  obtain ⟨s', hs', hsound⟩ := h.close (H := H) hcnt hcode
  rw [hs']
  exact hsound

/-- A request beyond the limit is answered at once. -/
theorem rateLimited_fits (hn : Numbered 0 n) : FitsFrame (.object (rateLimited n).fields) := by
  refine small_ack_fits hn ?_ ?_ rfl
  · rintro s ⟨⟩
    decide
  · rintro s ⟨⟩
    decide

theorem applicationError_fits (hn : Numbered 0 n) :
    FitsFrame (.object (applicationError n).fields) := by
  refine small_ack_fits hn ?_ ?_ rfl
  · rintro s ⟨⟩
    decide
  · rintro s ⟨⟩
    decide

/-- What is said for a handler that has returned without an answer. -/
theorem completed_fits (hn : Numbered 0 n) :
    FitsFrame (.object (acknowledgement n .null).fields) := by
  refine small_ack_fits hn ?_ ?_ rfl
  · rintro s ⟨⟩
  · rintro s ⟨⟩

/-- **Requests keep a session sound.** -/
theorem Sound.request (h : Sound none s) (hcnt : Countable s) (value : JsValue) (nowMs : Int) :
    Sound none (handleFederatedTargetEvent H s value nowMs) := by
  unfold handleFederatedTargetEvent
  split
  · exact h.closed hcnt closeCodes_short.1
  · rename_i envelope hvalidated
    have hval := validateFederatedWsEnvelope_ok hvalidated
    split
    · exact h.closed hcnt closeCodes_short.2.1
    · rename_i hnext
      have hsequence : envelope.sequence = s.incomingSequence + 1 := by
        by_contra hne
        exact hnext (.inr (.inr (.inl hne)))
      have hacc := h.accept hsequence
      have hcnt' : Countable { s with incomingSequence := envelope.sequence } := hcnt
      unfold handleRequest
      split
      · exact hacc.closed hcnt' closeCodes_short.2.2
      · split
        · exact hacc.closed hcnt' closeCodes_short.2.2
        · split
          · exact hacc.closed hcnt' closeCodes_short.1
          · split
            · obtain ⟨s', hs', hsound⟩ := hacc.acked hcnt' hval
                (a := rateLimited envelope.sequence) rfl (rateLimited_fits hval.sequence)
              rw [hs']
              exact hsound
            · refine hacc.start hval rfl (fun r hr heq => ?_) _
              have hhi := (h.requests r hr).2.2
              omega

/-! ### Handlers -/

theorem handlerOf_some {r : Running} (h : s.handlerOf n = some r) :
    r ∈ s.running ∧ r.request.sequence = n :=
  ⟨List.mem_of_find?_eq_some h, by simpa using List.find?_some h⟩

/-- What `respond` makes of a handler. -/
theorem mem_respond {r : Running} (hr : r ∈ (s.respond n).running) :
    ∃ r₀ ∈ s.running, r₀.request = r.request ∧
      (r.request.sequence = n ∧ r.responded = true ∨ r.request.sequence ≠ n ∧ r = r₀) := by
  obtain ⟨r₀, hr₀, rfl⟩ := List.mem_map.mp hr
  by_cases hn : r₀.request.sequence = n
  · rw [if_pos hn]
    exact ⟨r₀, hr₀, rfl, .inl ⟨hn, rfl⟩⟩
  · rw [if_neg hn]
    exact ⟨r₀, hr₀, rfl, .inr ⟨hn, rfl⟩⟩

/-- **A handler is about to answer.** -/
theorem Sound.respond (h : Sound none s) {r : Running} (hr : s.handlerOf n = some r)
    (hopen : r.responded = false) : Sound (some n) (s.respond n) := by
  obtain ⟨hmem, hseq⟩ := handlerOf_some hr
  obtain ⟨-, hlo, hhi⟩ := h.requests r hmem
  refine ⟨h.channelId, h.epoch, h.outgoing, h.counted, h.consecutive, h.incoming, ?_, ?_, h.once,
    h.known, ?_, ?_, ?_⟩
  · intro q hq
    obtain ⟨q₀, hq₀, hreq, -⟩ := mem_respond hq
    rw [← hreq]
    exact h.requests q₀ hq₀
  · have hmap : ((s.respond n).running.map fun q => q.request.sequence) =
        s.running.map fun q => q.request.sequence := by
      unfold FederatedTargetSession.respond
      rw [List.map_map]
      refine List.map_congr_left fun q _ => ?_
      change (if q.request.sequence = n then { q with responded := true } else q).request.sequence =
        q.request.sequence
      split <;> rfl
    rw [hmap]
    exact h.nodup
  · intro q hq hunr
    obtain ⟨q₀, hq₀, -, ⟨-, hyes⟩ | ⟨-, rfl⟩⟩ := mem_respond hq
    · rw [hyes] at hunr
      exact absurd hunr (by decide)
    · exact h.unanswered q hq₀ hunr
  · intro k hk
    obtain rfl := Option.some.inj hk
    refine ⟨hseq ▸ h.unanswered r hmem hopen, hseq ▸ hlo, hseq ▸ hhi, fun q hq heq => ?_⟩
    obtain ⟨q₀, -, -, ⟨-, hyes⟩ | ⟨hne, -⟩⟩ := mem_respond hq
    · exact hyes
    · exact absurd heq hne
  · intro hconn k hk1 hk2
    by_cases hk : k = n
    · exact .inl (by rw [hk])
    · rcases h.answered hconn k hk1 hk2 with hnone | ⟨q, hq, hqk, hunr⟩ | hone
      · exact absurd hnone (by simp)
      · refine .inr (.inl ⟨q, ?_, hqk, hunr⟩)
        refine List.mem_map.mpr ⟨q, hq, if_neg fun heq => hk (hqk.symm.trans heq)⟩
      · exact .inr (.inr hone)

/-- A handler that has responded ends. -/
theorem Sound.finish (h : Sound none s)
    (hrsp : ∀ r ∈ s.running, r.request.sequence = n → r.responded = true) :
    Sound none (s.finish n) := by
  have hsub : ∀ r, r ∈ (s.finish n).running ↔ r ∈ s.running ∧ r.request.sequence ≠ n := by
    intro r
    unfold FederatedTargetSession.finish
    simp only [List.mem_filter, Bool.not_eq_true', decide_eq_false_iff_not]
  refine ⟨h.channelId, h.epoch, h.outgoing, h.counted, h.consecutive, h.incoming,
    fun r hr => h.requests r ((hsub r).mp hr).1, ?_, h.once, h.known,
    fun r hr => h.unanswered r ((hsub r).mp hr).1, fun k hk => absurd hk (by simp), ?_⟩
  · exact h.nodup.sublist (List.filter_sublist.map _)
  · intro hconn k hk1 hk2
    rcases h.answered hconn k hk1 hk2 with hnone | ⟨q, hq, hqk, hopen⟩ | hone
    · exact absurd hnone (by simp)
    · refine .inr (.inl ⟨q, (hsub q).mpr ⟨hq, fun heq => ?_⟩, hqk, hopen⟩)
      rw [hrsp q hq heq] at hopen
      exact absurd hopen (by decide)
    · exact .inr (.inr hone)

/-- No emission changes the handlers. -/
theorem running_emit (s : FederatedTargetSession) (request : FederatedWsEnvelope)
    (a : FederatedWsAckPayload) : (s.emitFederatedAck request a).1.running = s.running := by
  unfold emitFederatedAck emitFederatedEnvelope
  split
  · exact socketEmit_rest.2.2.2.2.2
  · rfl

theorem responded_respond : ∀ r ∈ (s.respond n).running, r.request.sequence = n →
    r.responded = true := by
  intro r hr hn
  obtain ⟨-, -, -, ⟨-, hyes⟩ | ⟨hne, -⟩⟩ := mem_respond hr
  · exact hyes
  · exact absurd hn hne

/-- The requests of a session have their own numbers. -/
theorem Sound.unique (h : Sound waiting s) {r q : Running} (hr : r ∈ s.running)
    (hq : q ∈ s.running) (heq : r.request.sequence = q.request.sequence) : r = q :=
  List.inj_on_of_nodup_map h.nodup hr hq heq

/-- **A handler calls its callback.** -/
theorem Sound.acknowledge (h : Sound none s) (hcnt : Countable s) (result : JsValue)
    (hfits : ∀ r, s.handlerOf n = some r → r.responded = false →
      FitsFrame (.object (acknowledgement n result).fields)) :
    Sound none (s.acknowledge n result) ∧
      ∀ r ∈ (s.acknowledge n result).running, r.request.sequence = n → r.responded = true := by
  unfold FederatedTargetSession.acknowledge
  split
  · rename_i hnone
    refine ⟨h, fun r hr hn => ?_⟩
    exact absurd hn (by simpa using List.find?_eq_none.mp hnone r hr)
  · rename_i r hr
    obtain ⟨hmem, hseq⟩ := handlerOf_some hr
    split
    · rename_i hrsp
      refine ⟨h, fun q hq hn => ?_⟩
      rw [h.unique hq hmem (hn.trans hseq.symm)]
      exact hrsp
    · rename_i hopen
      rw [Bool.not_eq_true] at hopen
      have hsequence : (acknowledgement n result).acceptedSequence = n := by
        unfold acknowledgement
        split <;> rfl
      obtain ⟨s', hs', hsound⟩ := (h.respond hr hopen).acked hcnt (h.requests r hmem).1 hsequence
        (hfits r hr hopen)
      refine ⟨by rw [hs']; exact hsound, ?_⟩
      rw [running_emit]
      exact responded_respond

/-- A request that has a handler has a number of its own channel. -/
theorem Sound.number (h : Sound waiting s) {r : Running} (hr : s.handlerOf n = some r) :
    Numbered 0 n := by
  obtain ⟨hmem, hseq⟩ := handlerOf_some hr
  exact hseq ▸ (h.requests r hmem).1.sequence

/-- **A handler returns.** -/
theorem Sound.returns (h : Sound none s) (hcnt : Countable s) :
    Sound none (s.handlerReturns n) := by
  obtain ⟨hsound, hrsp⟩ := h.acknowledge (n := n) hcnt .null
    fun r hr _ => completed_fits (h.number hr)
  exact hsound.finish hrsp

/-- **A handler throws.** -/
theorem Sound.throws (h : Sound none s) (hcnt : Countable s) :
    Sound none (s.handlerThrows n) := by
  unfold handlerThrows
  split
  · exact h
  · rename_i r hr
    obtain ⟨hmem, hseq⟩ := handlerOf_some hr
    split
    · rename_i hrsp
      refine h.finish fun q hq hn => ?_
      rw [h.unique hq hmem (hn.trans hseq.symm)]
      exact hrsp
    · rename_i hopen
      rw [Bool.not_eq_true] at hopen
      obtain ⟨s', hs', hsound⟩ := (h.respond hr hopen).acked hcnt (h.requests r hmem).1
        (a := applicationError n) rfl (applicationError_fits (h.number hr))
      have hrunning := running_emit (s.respond n) r.request (applicationError n)
      rw [hs'] at hrunning ⊢
      refine hsound.finish ?_
      rw [hrunning]
      exact responded_respond

/-! ### Notifications and states -/

/-- A notification would be sent on the session. -/
def Carries (H : GatewayHost) (s : FederatedTargetSession) (event : String) (payload : JsValue) :
    Prop :=
  ∃ action, notificationForEvent event s.role = some action ∧
    action.actionId ∈ s.allowedActionIds ∧ H.validatePayload action payload = true

/-- **A notification never throws** when its payload fits, **and is sent** where it may be. -/
theorem Sound.notify (h : Sound none s) (hcnt : Countable s) {event : String} {payload : JsValue}
    (hfits : Carries H s event payload → FitsFrame payload) :
    ∃ s', emitFederatedNotification H event payload s = (s', .ok ()) ∧ Sound none s' ∧
      (Carries H s event payload → s.connected = true → s'.clientId = s.clientId ∧
        ∃ e, s'.emitted = s.emitted ++ [e] ∧ e.event = event ∧ e.payload = payload) := by
  unfold emitFederatedNotification
  split
  · rename_i hnone
    refine ⟨s, rfl, h, ?_⟩
    rintro ⟨action, hsome, -⟩
    rw [hnone] at hsome
    exact absurd hsome (by simp)
  · rename_i action hact
    obtain ⟨hmem, hev⟩ := mem_of_notificationForEvent hact
    have honly : ∀ a, notificationForEvent event s.role = some a → a = action := by
      intro a ha
      rw [hact] at ha
      exact (Option.some.inj ha).symm
    by_cases halw : s.allowedActionIds.contains action.actionId = true
    · rw [halw, Bool.not_true, if_neg Bool.false_ne_true]
      by_cases hpay : H.validatePayload action payload = true
      · rw [if_pos hpay]
        have hcar : Carries H s event payload :=
          ⟨action, hact, List.contains_iff_mem.mp halw, hpay⟩
        have hpat := policy_patterned action hmem
        have hval := h.valid hcnt (m := ⟨action.actionId,
          H.randomUUID s.clientId s.outgoingSequence, event, .event, payload⟩) hpat.1
          (H.isUuid_randomUUID _ _) (hev ▸ hpat.2) (hfits hcar)
        refine ⟨_, emit_eq hval,
          h.say rfl (silent_of_kind (by simp [envelope]) (by simp [envelope])), ?_⟩
        intro _ hconn
        refine ⟨?_, s.advance.envelope ⟨action.actionId,
          H.randomUUID s.clientId s.outgoingSequence, event, .event, payload⟩, ?_, rfl, rfl⟩
        · unfold socketEmit
          split <;> rfl
        · rw [emitted_socketEmit, if_pos hconn]
      · rw [if_neg hpay]
        obtain ⟨s', hs', hsound⟩ := h.close (H := H) hcnt closeCodes_short.1
        refine ⟨s', hs', hsound, ?_⟩
        rintro ⟨a, ha, -, hval⟩
        rw [honly a ha] at hval
        exact absurd hval hpay
    · rw [Bool.not_eq_true] at halw
      rw [halw, Bool.not_false, if_pos rfl]
      refine ⟨s, rfl, h, ?_⟩
      rintro ⟨a, ha, hmem', -⟩
      rw [honly a ha] at hmem'
      exact absurd (List.contains_iff_mem.mpr hmem') (by rw [halw]; decide)

/-- What does not touch the frames, the requests and the connection keeps a session sound. -/
theorem Sound.rooms (h : Sound none s) (rooms : List String) :
    Sound none { s with rooms := rooms } where
  __ := h

theorem Sound.unregister (h : Sound none s) : Sound none { s with registered := false } where
  __ := h

/-- **A channel begins sound.** -/
theorem sound_start (clientId : String) (verified : VerifiedFederationWsChannel) (now : Int) :
    Sound none (startFederatedTargetMode H clientId verified now) := by
  have hfr : Sound none (targetSession clientId verified) := by
    refine ⟨verified.channelId_uuid, verified.epoch_numbered, Int.le_refl _, fun _ => rfl,
      consecutive_nil, Int.le_refl _, ?_, List.nodup_nil, fun n => Nat.zero_le _, ?_, ?_, ?_, ?_⟩
    · intro r hr
      exact absurd hr List.not_mem_nil
    · intro n hn
      exact absurd rfl hn
    · intro r hr
      exact absurd hr List.not_mem_nil
    · intro n hn
      exact absurd hn (by simp)
    · intro _ n hlo hhi
      have hzero : (targetSession clientId verified).incomingSequence = 0 := rfl
      omega
  have hcode : "READY".toList.length ≤ 128 := by decide
  obtain ⟨s', hs', hsound⟩ := hfr.state (H := H) .ready
    (show (0 : Int) < MAX_SAFE_INTEGER by decide) hcode (some now)
  rw [startFederatedTargetMode, hs']
  exact hsound

end Session

/-! ## The gateway -/

/-- **A loop that nothing throws out of reaches every session.** -/
theorem forEachSession_eq (addressed : FederatedTargetSession → Bool)
    {f : FederatedTargetSession → Emission} {x : GatewayState}
    (h : ∀ s ∈ x, s.registered = true → addressed s = true → ∃ s', f s = (s', .ok ())) :
    forEachSession addressed f x =
      (x.map fun s => if s.registered && addressed s then (f s).1 else s, .ok ()) := by
  induction x with
  | nil => rfl
  | cons s rest ih =>
    have hrest := ih fun t ht => h t (List.mem_cons_of_mem s ht)
    unfold forEachSession
    by_cases hs : (s.registered && addressed s) = true
    · obtain ⟨hregistered, haddr⟩ := Bool.and_eq_true_iff.mp hs
      obtain ⟨s', hs'⟩ := h s List.mem_cons_self hregistered haddr
      rw [if_pos hs, hs', List.map_cons, if_pos hs, hs', hrest]
    · rw [if_neg hs, List.map_cons, if_neg hs, hrest]

/-- What an event addresses to a session: the notification and its payload. -/
def addressedTo (s : FederatedTargetSession) : GatewayEvent → Option (String × JsValue)
  | .broadcast event payload =>
    if s.registered && broadcastEvents.contains event then some (event, payload) else none
  | .toRoom room event payload broadcastToFederated =>
    if s.registered && roomEvents.contains event &&
      (broadcastToFederated || s.rooms.contains room) then some (event, payload) else none
  | .toClient clientId event payload =>
    if s.registered && s.clientId == clientId then some (event, payload) else none
  | _ => none

/-- **What is handed to a channel fits a frame**: the payload of a notification that a session would
send, and the answer a handler gives to a request that has none; and no channel has sent 2⁵³ − 1
frames. -/
def Sendable (H : GatewayHost) (x : GatewayState) (a : GatewayEvent) : Prop :=
  (∀ s ∈ x, Countable s) ∧
  (∀ s ∈ x, ∀ note ∈ addressedTo s a, Carries H s note.1 note.2 → FitsFrame note.2) ∧
  match a with
  | .acknowledge clientId sequence result => ∀ s ∈ x, s.clientId = clientId →
      ∀ r ∈ s.handlerOf sequence, r.responded = false →
        FitsFrame (.object (acknowledgement sequence result).fields)
  | _ => True

section Gateway

variable {H : GatewayHost} {x x' : GatewayState} {a : GatewayEvent}

theorem onClient_sound {clientId : String} {f : FederatedTargetSession → FederatedTargetSession}
    (h : ∀ s ∈ x, Sound none s)
    (hf : ∀ s ∈ x, s.clientId = clientId → Sound none s → Sound none (f s)) :
    ∀ s ∈ x.onClient clientId f, Sound none s := by
  intro s hs
  obtain ⟨s₀, hs₀, rfl⟩ := List.mem_map.mp hs
  split
  · rename_i hcli
    exact hf s₀ hs₀ hcli (h s₀ hs₀)
  · exact h s₀ hs₀

/-- **A notification to some of the sessions** leaves them sound and reaches each of them. -/
theorem notifyAll {addressed : FederatedTargetSession → Bool} {event : String} {payload : JsValue}
    (h : ∀ s ∈ x, Sound none s) (hcnt : ∀ s ∈ x, Countable s)
    (hfits : ∀ s ∈ x, s.registered = true → addressed s = true → Carries H s event payload →
      FitsFrame payload) :
    (∀ s ∈ (forEachSession addressed (emitFederatedNotification H event payload) x).1,
      Sound none s) ∧
    ∀ s ∈ x, s.registered = true → addressed s = true → s.connected = true →
      Carries H s event payload →
      ∃ s' ∈ (forEachSession addressed (emitFederatedNotification H event payload) x).1,
        s'.clientId = s.clientId ∧
          ∃ e, s'.emitted = s.emitted ++ [e] ∧ e.event = event ∧ e.payload = payload := by
  have hnotify : ∀ s ∈ x, s.registered = true → addressed s = true →
      ∃ s', emitFederatedNotification H event payload s = (s', .ok ()) ∧ Sound none s' ∧
        (Carries H s event payload → s.connected = true → s'.clientId = s.clientId ∧
          ∃ e, s'.emitted = s.emitted ++ [e] ∧ e.event = event ∧ e.payload = payload) :=
    fun s hs hregistered haddr =>
      (h s hs).notify (hcnt s hs) (hfits s hs hregistered haddr)
  have heq := forEachSession_eq addressed
    (f := emitFederatedNotification H event payload) (x := x) fun s hs hregistered haddr => by
      obtain ⟨s', hs', -⟩ := hnotify s hs hregistered haddr
      exact ⟨s', hs'⟩
  rw [heq]
  constructor
  · intro s hs
    obtain ⟨s₀, hs₀, rfl⟩ := List.mem_map.mp hs
    by_cases hsent : (s₀.registered && addressed s₀) = true
    · obtain ⟨hregistered, haddr⟩ := Bool.and_eq_true_iff.mp hsent
      obtain ⟨s', hs', hsound, -⟩ := hnotify s₀ hs₀ hregistered haddr
      rw [if_pos hsent, hs']
      exact hsound
    · rw [if_neg hsent]
      exact h s₀ hs₀
  · intro s hs hregistered haddr hconn hcar
    obtain ⟨s', hs', -, hsent⟩ := hnotify s hs hregistered haddr
    refine ⟨s', List.mem_map.mpr ⟨s, hs, ?_⟩, hsent hcar hconn⟩
    rw [hregistered, haddr, Bool.and_self, if_pos rfl, hs']

/-- **One step** whose payloads fit keeps every session sound. -/
theorem step_sound (h : ∀ s ∈ x, Sound none s) (hsend : Sendable H x a)
    (hstep : gatewayStep H x a = some x') : ∀ s ∈ x', Sound none s := by
  obtain ⟨hcnt, hfits, hanswer⟩ := hsend
  cases a with
  | connect clientId verified now =>
    simp only [gatewayStep] at hstep
    obtain ⟨-, hstep⟩ := Failing.unless_some hstep
    obtain rfl := Option.some.inj hstep
    intro s hs
    rcases List.mem_snoc.mp hs with hs | rfl
    · exact h s hs
    · exact sound_start clientId verified now
  | receive clientId value nowMs =>
    obtain rfl := Option.some.inj hstep
    refine onClient_sound h fun s hs _ hsound => ?_
    split
    · exact hsound.request (hcnt s hs) value nowMs
    · exact hsound
  | acknowledge clientId sequence result =>
    obtain rfl := Option.some.inj hstep
    exact onClient_sound h fun s hs hcli hsound =>
      (hsound.acknowledge (hcnt s hs) result (hanswer s hs hcli)).1
  | handlerReturns clientId sequence =>
    obtain rfl := Option.some.inj hstep
    exact onClient_sound h fun s hs _ hsound => hsound.returns (hcnt s hs)
  | handlerThrows clientId sequence =>
    obtain rfl := Option.some.inj hstep
    exact onClient_sound h fun s hs _ hsound => hsound.throws (hcnt s hs)
  | broadcast event payload =>
    obtain rfl := Option.some.inj hstep
    unfold emitBrowserBroadcast
    split
    · rename_i hev
      refine (notifyAll h hcnt fun s hs hregistered _ => ?_).1
      exact hfits s hs (event, payload) (by rw [addressedTo, hregistered, hev]; rfl)
    · exact h
  | toRoom room event payload broadcastToFederated =>
    obtain rfl := Option.some.inj hstep
    unfold emitBrowserRoom
    split
    · rename_i hev
      refine (notifyAll h hcnt fun s hs hregistered hroom => ?_).1
      exact hfits s hs (event, payload) (by rw [addressedTo, hregistered, hev, hroom]; rfl)
    · exact h
  | toClient clientId event payload =>
    obtain rfl := Option.some.inj hstep
    refine (notifyAll h hcnt fun s hs hregistered hcli => ?_).1
    exact hfits s hs (event, payload) (by rw [addressedTo, hregistered, hcli]; rfl)
  | joinRoom clientId room =>
    obtain rfl := Option.some.inj hstep
    refine onClient_sound h fun s _ _ hsound => ?_
    split
    · exact hsound.rooms _
    · exact hsound
  | leaveRoom clientId room =>
    obtain rfl := Option.some.inj hstep
    refine onClient_sound h fun s _ _ hsound => ?_
    split
    · exact hsound.rooms _
    · exact hsound
  | disconnect clientId =>
    obtain rfl := Option.some.inj hstep
    exact onClient_sound h fun s _ _ hsound => hsound.disconnect
  | handleDisconnect clientId =>
    obtain rfl := Option.some.inj hstep
    exact onClient_sound h fun s _ _ hsound => hsound.unregister

/-- **What is addressed to a session is sent on it**, whatever the other sessions are. -/
theorem step_delivers (h : ∀ s ∈ x, Sound none s) (hsend : Sendable H x a)
    (hstep : gatewayStep H x a = some x') {s : FederatedTargetSession} (hs : s ∈ x)
    (hconn : s.connected = true) {note : String × JsValue}
    (hnote : addressedTo s a = some note)
    (hcar : Carries H s note.1 note.2) :
    ∃ s' ∈ x', s'.clientId = s.clientId ∧
      ∃ e, s'.emitted = s.emitted ++ [e] ∧ e.event = note.1 ∧ e.payload = note.2 := by
  obtain ⟨hcnt, hfits, -⟩ := hsend
  cases a with
  | broadcast event payload =>
    obtain rfl := Option.some.inj hstep
    simp only [addressedTo] at hnote
    obtain ⟨haddr, hnote⟩ := Failing.when_some hnote
    obtain rfl := Option.some.inj hnote
    obtain ⟨hregistered, hev⟩ := Bool.and_eq_true_iff.mp haddr
    rw [emitBrowserBroadcast, if_pos hev]
    refine (notifyAll h hcnt fun t ht hreg _ => ?_).2 s hs hregistered rfl hconn hcar
    exact hfits t ht (event, payload) (by rw [addressedTo, hreg, hev]; rfl)
  | toRoom room event payload broadcastToFederated =>
    obtain rfl := Option.some.inj hstep
    simp only [addressedTo] at hnote
    obtain ⟨haddr, hnote⟩ := Failing.when_some hnote
    obtain rfl := Option.some.inj hnote
    obtain ⟨hboth, hroom⟩ := Bool.and_eq_true_iff.mp haddr
    obtain ⟨hregistered, hev⟩ := Bool.and_eq_true_iff.mp hboth
    rw [emitBrowserRoom, if_pos hev]
    refine (notifyAll h hcnt fun t ht hreg hin => ?_).2 s hs hregistered hroom hconn
      hcar
    exact hfits t ht (event, payload) (by rw [addressedTo, hreg, hev, hin]; rfl)
  | toClient clientId event payload =>
    obtain rfl := Option.some.inj hstep
    simp only [addressedTo] at hnote
    obtain ⟨haddr, hnote⟩ := Failing.when_some hnote
    obtain rfl := Option.some.inj hnote
    obtain ⟨hregistered, hcli⟩ := Bool.and_eq_true_iff.mp haddr
    refine (notifyAll h hcnt fun t ht hreg hin => ?_).2 s hs hregistered hcli hconn
      hcar
    exact hfits t ht (event, payload) (by rw [addressedTo, hreg, hin]; rfl)
  | _ => exact absurd hnote (by simp [addressedTo])

theorem run_sound (hx : Stepping.Reach (gatewayStep H) (Sendable H) [] x) :
    ∀ s ∈ x, Sound none s := by
  refine hx.invariant (I := fun x => ∀ s ∈ x, Sound none s) ?_ ?_
  · intro s hs
    exact absurd hs List.not_mem_nil
  · intro x a x' h hsend hstep
    exact step_sound h hsend hstep

/-- **As long as whatever is handed to a channel fits a frame**: the frames of every channel are
numbered 1, 2, 3 and so on; every request is answered at most once, and exactly once when its
handler has ended or it had none, while the channel is open; and whatever is addressed to a session
is sent on it, whichever other sessions it is addressed to as well. -/
theorem channels_sequenced (hx : Stepping.Reach (gatewayStep H) (Sendable H) [] x) :
    (∀ s ∈ x, Consecutive s.emitted) ∧
    (∀ s ∈ x, ∀ n, s.answers n ≤ 1 ∧
      (s.connected = true → 1 ≤ n → n ≤ s.incomingSequence → s.Settled n → s.answers n = 1)) ∧
    ∀ a x', Sendable H x a → gatewayStep H x a = some x' → ∀ s ∈ x, s.connected = true →
      ∀ note, addressedTo s a = some note → Carries H s note.1 note.2 →
        ∃ s' ∈ x', s'.clientId = s.clientId ∧
          ∃ e, s'.emitted = s.emitted ++ [e] ∧ e.event = note.1 ∧ e.payload = note.2 := by
  have hsound := run_sound hx
  refine ⟨fun s hs => (hsound s hs).consecutive, fun s hs n => ⟨(hsound s hs).once n, ?_⟩, ?_⟩
  · intro hconn hlo hhi hset
    rcases (hsound s hs).answered hconn n hlo hhi with hnone | ⟨r, hr, hn, -⟩ | hone
    · exact absurd hnone (by simp)
    · exact absurd hn (hset r hr)
    · exact hone
  · intro a x' hsend hstep s hs hconn note hnote hcar
    exact step_delivers hsound hsend hstep hs hconn hnote hcar

end Gateway

/-! ## A frame that does not fit -/

/-- **A frame that does not fit takes its number with it**, and the function throws. -/
theorem number_lost {s : FederatedTargetSession} {m : FederatedMessage}
    (h : ¬ FitsFrame m.payload) :
    ∃ message, s.emitFederatedEnvelope m = (s.advance, .error message) := by
  unfold FederatedTargetSession.emitFederatedEnvelope
  split
  · rename_i e he
    exact absurd (validateFederatedWsEnvelope_iff.mp he).1.payload h
  · rename_i message _
    exact ⟨message, rfl⟩

theorem le_byteSize_quote (s : String) : s.toList.length ≤ byteSize (quote s) := by
  have hesc : ∀ c : Char, 1 ≤ byteSize (escapeChar c) := by
    intro c
    have hpos : ∀ (d : Char) (ds : List Char), 1 ≤ byteSize (d :: ds) := by
      intro d ds
      have hd := d.utf8Size_pos
      rw [byteSize_cons]
      omega
    unfold escapeChar
    split
    · exact hpos _ _
    · split
      · exact hpos _ _
      · exact hpos _ _
  have hflat : s.toList.length ≤ byteSize (s.toList.flatMap escapeChar) := by
    induction s.toList with
    | nil => exact Nat.le_refl _
    | cons c cs ih =>
      have hc := hesc c
      rw [List.flatMap_cons, byteSize_append, List.length_cons]
      omega
  rw [quote, byteSize_cons, byteSize_append]
  omega

/-- A member of an object takes less than the object. -/
theorem byteSize_member_lt (ms : List (String × Json)) {k : String} {v : Json} (h : (k, v) ∈ ms) :
    byteSize (render v) < byteSize (render (.object ms)) := by
  have hsum : byteSize (render v) ≤ ((renderMembers ms).map byteSize).sum := by
    induction ms with
    | nil => exact absurd h List.not_mem_nil
    | cons kv ms ih =>
      obtain ⟨k', v'⟩ := kv
      simp only [renderMembers, List.map_cons, List.sum_cons, byteSize_append, byteSize_cons]
      rcases List.mem_cons.mp h with heq | hmem
      · obtain ⟨-, rfl⟩ := Prod.mk.inj heq
        omega
      · have hrest := ih hmem
        omega
  have hopen := Char.utf8Size_pos '\x7b'
  rw [render, byteSize_cons, byteSize_append, byteSize_joinComma]
  omega

namespace SampleGateway

def host : GatewayHost where
  randomUUID _ _ := "6f1c2a34-5b6d-4e7f-8a90-123456789abc"
  isUuid_randomUUID _ _ := by decide
  validatePayload action payload :=
    (requireRecord payload "payload").toOption.any fun fields =>
      if action.event == "ai:stop" then fields.isEmpty
      else
        (requireString (property fields "type") "type" 1 64 anyString).toOption.any fun type =>
          "ai:" ++ type == action.event

def verified : VerifiedFederationWsChannel where
  channelId := "0b9e7c66-1d2f-4a3b-9c4d-5e6f70819203"
  epoch := 1
  role := .manager
  actionIds := ["ws.browser-command.ai-stop", "ws.browser-notification.ai-text",
    "ws.browser-notification.ai-tool-use-done"]
  actions := ["ws.browser-command.ai-stop", "ws.browser-notification.ai-text",
    "ws.browser-notification.ai-tool-use-done"].filterMap actionById
  channelId_uuid := by decide
  epoch_numbered := by unfold Numbered; decide

/-- The `ai:stop` of a browser. -/
def stop : JsValue :=
  .object (FederatedWsEnvelope.fields ⟨verified.channelId, 1, 1, "ws.browser-command.ai-stop",
    "d3b07384-d9a1-4f5c-8e2b-7a6c5d4e3f21", "ai:stop", .event, .object []⟩)

/-- What a model writes into a file, and what it says next. -/
def written (content : String) : JsValue :=
  .object [("type", .string "tool_use_done"), ("toolId", .string "toolu_01"),
    ("toolName", .string "Write"), ("input", .object [("content", .string content)])]

def said : JsValue := .object [("type", .string "text"), ("text", .string "Done.")]

instance (H : GatewayHost) (s : FederatedTargetSession) (event : String) (payload : JsValue) :
    Decidable (Carries H s event payload) :=
  decidable_of_iff (∃ action ∈ notificationForEvent event s.role,
      action.actionId ∈ s.allowedActionIds ∧ H.validatePayload action payload = true) Iff.rfl

instance (s : FederatedTargetSession) : Decidable (Countable s) :=
  inferInstanceAs (Decidable (_ < _))

instance (H : GatewayHost) (x : GatewayState) (a : GatewayEvent) : Decidable (Sendable H x a) := by
  unfold Sendable
  apply a.casesOn (motive := fun a => Decidable ((∀ s ∈ x, Countable s) ∧
    (∀ s ∈ x, ∀ note ∈ addressedTo s a, Carries H s note.1 note.2 → FitsFrame note.2) ∧
    match a with
    | .acknowledge clientId sequence result => ∀ s ∈ x, s.clientId = clientId →
        ∀ r ∈ s.handlerOf sequence, r.responded = false →
          FitsFrame (.object (acknowledgement sequence result).fields)
    | _ => True))
  all_goals
    intros
    exact inferInstance

theorem written_unfit {content : String} (h : 262144 ≤ content.toList.length) :
    ¬ FitsFrame (written content) := by
  rintro ⟨encoded, henc, hsize⟩
  have hcont := le_byteSize_quote content
  have hinner := byteSize_member_lt [("content", .string content)] List.mem_cons_self
  have houter := byteSize_member_lt [("type", .string "tool_use_done"),
    ("toolId", .string "toolu_01"), ("toolName", .string "Write"),
    ("input", .object [("content", .string content)])] (k := "input")
    (v := .object [("content", .string content)]) (by simp)
  have hren : render (.string content) = quote content := rfl
  obtain rfl := Option.some.inj henc
  have hwhole : byteSize (render (.object [("type", .string "tool_use_done"),
      ("toolId", .string "toolu_01"), ("toolName", .string "Write"),
      ("input", .object [("content", .string content)])])) ≤ 262144 := by
    rw [utf8ByteSize_ofList] at hsize
    exact hsize
  rw [hren] at hinner
  omega

/-- The session of the sample, once its channel is open. -/
def opened : FederatedTargetSession := startFederatedTargetMode host "c" verified 0

/-- The channel's counter goes on without a frame. -/
theorem written_lost {content : String} (h : 262144 ≤ content.toList.length) :
    gatewayStep host [opened] (.toClient "c" "ai:tool_use_done" (written content)) =
      some [opened.advance] := by
  have hact : notificationForEvent "ai:tool_use_done" opened.role =
      some ⟨"ai:tool_use_done", "ws.browser-notification.ai-tool-use-done", [.admin, .manager],
        .apiToBrowser, none⟩ := by decide +kernel
  have halw : opened.allowedActionIds.contains "ws.browser-notification.ai-tool-use-done" =
      true := by decide
  have hcli : (opened.registered && opened.clientId == "c") = true := by decide
  have hpay : host.validatePayload ⟨"ai:tool_use_done",
      "ws.browser-notification.ai-tool-use-done", [.admin, .manager], .apiToBrowser, none⟩
      (written content) = true := rfl
  have hnotify : ∃ message, emitFederatedNotification host "ai:tool_use_done" (written content)
      opened = (opened.advance, .error message) := by
    unfold emitFederatedNotification
    rw [hact]
    dsimp only
    rw [halw, Bool.not_true, if_neg Bool.false_ne_true, if_pos hpay]
    exact number_lost (written_unfit h)
  obtain ⟨message, hthrown⟩ := hnotify
  simp only [gatewayStep, emitToClient, forEachSession, hcli, if_true, hthrown]

/-- A number is missing after a payload that did not fit. -/
theorem skipped_after (content : String) (h : 262144 ≤ content.toList.length) :
    ∃ x, Stepping.Reach (gatewayStep host) Stepping.anyStep [] x ∧
      ∃ s ∈ x, ¬ Consecutive s.emitted := by
  have hopen : gatewayStep host [] (.connect "c" verified 0) = some [opened] := rfl
  have hsaid : (gatewayStep host [opened.advance] (.toClient "c" "ai:text" said)).map
      (fun x => x.map fun s => s.emitted.map (·.sequence)) = some [[1, 3]] := by decide +kernel
  obtain ⟨x, hx, hframes⟩ := Option.map_eq_some_iff.mp hsaid
  refine ⟨x, ((Stepping.Reach.init.step trivial hopen).step trivial (written_lost h)).step trivial
    hx, ?_⟩
  obtain ⟨s, rest, rfl⟩ : ∃ s rest, x = s :: rest := by
    cases x with
    | nil => exact absurd hframes (by simp)
    | cons s rest => exact ⟨s, rest, rfl⟩
  refine ⟨s, List.mem_cons_self, fun hcons => ?_⟩
  have hs : s.emitted.map (·.sequence) = [1, 3] := (List.cons.inj hframes).1
  have hsnd : (s.emitted.map (·.sequence))[1]? = some 3 := by rw [hs]; rfl
  rw [List.getElem?_map] at hsnd
  obtain ⟨e, he, hthree⟩ := Option.map_eq_some_iff.mp hsnd
  have htwo := hcons 1 e he
  rw [hthree] at htwo
  exact absurd htwo (by decide +kernel)

/-- **A number is missing** after a file of 256 KiB has been written. -/
theorem sequence_skipped : ∃ x, Stepping.Reach (gatewayStep host) Stepping.anyStep [] x ∧
    ∃ s ∈ x, ¬ Consecutive s.emitted :=
  skipped_after (String.ofList (List.replicate 262144 'a'))
    (by rw [String.toList_ofList, List.length_replicate])

/-- The request of the sample is answered, and its frames are numbered. -/
theorem channels_sequenced_stop : ∃ x : GatewayState,
    x.map (fun s => (s.emitted.map (·.sequence), s.answers 1)) = [([1, 2, 3], 1)] ∧
      ∀ s ∈ x, Consecutive s.emitted := by
  have hrun : ∃ x : GatewayState, Stepping.Reach (gatewayStep host) (Sendable host) [] x ∧
      x.map (fun s => (s.emitted.map (·.sequence), s.answers 1)) = [([1, 2, 3], 1)] :=
    Stepping.Reach.of_run_any (l := [.connect "c" verified 0, .receive "c" stop 0,
      .handlerReturns "c" 1, .toClient "c" "ai:text" said]) (by decide +kernel)
  obtain ⟨x, hx, hframes⟩ := hrun
  exact ⟨x, hframes, (channels_sequenced hx).1⟩

end SampleGateway

end Meowbox.Gateway
