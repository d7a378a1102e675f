import Meowbox.Gateway.Sequencing

/-!
# What the gateway acknowledges with

Every acknowledgement of the gateway is an `ACK` or a `NACK` frame whose payload is the result of a
handler, or one of two fixed texts. A frame is sent only when its payload fits, so the one thing
that can be wrong with an acknowledgement is its message.

* `acknowledgement_wellFormed`: an answer that fits is well formed unless it is an error without a
  text.
* `Formed.step`, **`acks_formed`**: as long as no handler answers with such an error, every
  acknowledgement that is sent is well formed.
-/

namespace Meowbox.Gateway

open JsData JsonText AgentJobs

/-- `ACK` or `NACK`. -/
def IsAck (e : FederatedWsEnvelope) : Prop := e.kind = .ack ∨ e.kind = .nack

/-- An answer has no error, or one that reads as something. -/
def Tells (result : JsValue) : Prop := ∀ error ∈ errorOf result, toText error ≠ ""

/-! ## One acknowledgement -/

/-- The first code units of a text are at most so many. -/
theorem units_sliceUnits (n : Nat) (cs : List Char) : units (sliceUnits n cs) ≤ n := by
  induction cs generalizing n with
  | nil => exact Nat.zero_le n
  | cons c cs ih =>
    have hcons : ∀ (d : Char) (ds : List Char),
        units (d :: ds) = (utf16 d).length + units ds := by
      intro d ds
      simp only [units, List.flatMap_cons, List.length_append]
    unfold sliceUnits
    split
    · rename_i hfits
      have hrest := ih (n - (utf16 c).length)
      rw [hcons]
      omega
    · split
      · exact Nat.zero_le n
      · rename_i hpos
        have hone : units ['\uFFFD'] = 1 := by decide
        omega

/-- A text that is cut is not empty, if it was not. -/
theorem sliceUnits_ne {n : Nat} (hn : 0 < n) {cs : List Char} (h : cs ≠ []) :
    sliceUnits n cs ≠ [] := by
  cases cs with
  | nil => exact absurd rfl h
  | cons c cs =>
    unfold sliceUnits
    split
    · exact List.cons_ne_nil _ _
    · rw [if_neg (Nat.pos_iff_ne_zero.mp hn)]
      exact List.cons_ne_nil _ _

/-- **The text of an error is a message exactly when there is one.** -/
theorem slice_message (text : String) :
    Patterned 1024 anyString (slice 1024 text) ↔ text ≠ "" := by
  have hlen : jsLength (slice 1024 text) = units (sliceUnits 1024 text.toList) := by
    rw [jsLength, slice, String.toList_ofList, units]
  constructor
  · rintro ⟨hpos, -, -⟩ rfl
    exact absurd hpos (by decide)
  · intro hne
    have hchs : text.toList ≠ [] := fun hnil => hne (String.toList_inj.mp hnil)
    have hcut := sliceUnits_ne (n := 1024) (by decide) hchs
    have hbounds := (jsLength_bounds (slice 1024 text)).1
    have hsome : 0 < (slice 1024 text).toList.length := by
      rw [slice, String.toList_ofList]
      exact List.length_pos_of_ne_nil hcut
    refine ⟨Nat.lt_of_lt_of_le hsome hbounds, ?_, rfl⟩
    rw [hlen]
    exact units_sliceUnits 1024 text.toList

theorem toJson?_orNull (result : JsValue) : (toJson? (orNull result)).isSome = true := by
  cases result <;> rfl

/-- The result of an acknowledgement takes less than the acknowledgement. -/
theorem FitsFrame.result {a : FederatedWsAckPayload} (h : FitsFrame (.object a.fields))
    (hjson : (toJson? a.result).isSome = true) : FitsFrame a.result := by
  obtain ⟨encoded, henc, hsize⟩ := h
  obtain ⟨j, hj⟩ := Option.isSome_iff_exists.mp hjson
  have hmem : ("result", j) ∈ toJsonMembers a.fields := by
    obtain ⟨c, hc⟩ := Option.isSome_iff_exists.mp (ofNullable_isSome a.code)
    obtain ⟨m, hm⟩ := Option.isSome_iff_exists.mp (ofNullable_isSome a.message)
    simp [FederatedWsAckPayload.fields, toJsonMembers, toJson?, ofInteger, hc, hm, hj]
  have hlt := byteSize_member_lt (toJsonMembers a.fields) hmem
  refine ⟨String.ofList (render j), by rw [stringify, hj]; rfl, ?_⟩
  obtain rfl : String.ofList (render (.object (toJsonMembers a.fields))) = encoded :=
    Option.some.inj henc
  rw [utf8ByteSize_ofList] at hsize ⊢
  omega

/-- The codes of the gateway's acknowledgements. -/
theorem ackCodes_patterned : Patterned 128 isAckCode "REMOTE_ACTION_REJECTED" ∧
    Patterned 128 isAckCode "REMOTE_RATE_LIMITED" ∧
    Patterned 128 isAckCode "REMOTE_APPLICATION_ERROR" := by
  decide +kernel

/-- **What is said to a handler's answer is well formed exactly when the answer tells something.** -/
theorem acknowledgement_wellFormed {n : Int} (hn : Numbered 0 n) {result : JsValue}
    (hfits : FitsFrame (.object (acknowledgement n result).fields)) :
    (acknowledgement n result).WellFormed ↔ Tells result := by
  have hres : (acknowledgement n result).result = orNull result := by
    unfold acknowledgement
    split <;> rfl
  have hinner := hfits.result (by rw [hres]; exact toJson?_orNull result)
  unfold acknowledgement at hinner ⊢
  unfold Tells
  split at hinner
  · rename_i error herr
    constructor
    · intro h e he
      obtain rfl := Option.some.inj (herr.symm.trans he)
      exact (slice_message _).mp (h.message _ rfl)
    · intro htl
      refine ⟨hn, ?_, ?_, hinner⟩
      · rintro code ⟨⟩
        exact ackCodes_patterned.1
      · rintro message ⟨⟩
        exact (slice_message _).mpr (htl error herr)
  · rename_i hnone
    constructor
    · intro _ e he
      exact absurd (hnone.symm.trans he) (by simp)
    · intro _
      refine ⟨hn, ?_, ?_, hinner⟩
      · rintro code ⟨⟩
      · rintro message ⟨⟩

/-- The texts the gateway says of itself. -/
theorem fixed_wellFormed {n : Int} (hn : Numbered 0 n) :
    (rateLimited n).WellFormed ∧ (applicationError n).WellFormed := by
  have hnull : FitsFrame .null := by decide +kernel
  have hmessages : Patterned 1024 anyString "Remote WebSocket action rate limit exceeded" ∧
      Patterned 1024 anyString "Remote WebSocket action failed" := by
    decide +kernel
  refine ⟨⟨hn, ?_, ?_, hnull⟩, ⟨hn, ?_, ?_, hnull⟩⟩
  · rintro code ⟨⟩
    exact ackCodes_patterned.2.1
  · rintro message ⟨⟩
    exact hmessages.1
  · rintro code ⟨⟩
    exact ackCodes_patterned.2.2
  · rintro message ⟨⟩
    exact hmessages.2

/-! ## A session -/

/-- **The acknowledgements of a session are well formed**, and its requests have numbers. -/
structure Formed (s : FederatedTargetSession) : Prop where
  running : ∀ r ∈ s.running, Numbered 0 r.request.sequence
  acks : ∀ e ∈ s.emitted, IsAck e →
    ∃ a : FederatedWsAckPayload, e.payload = .object a.fields ∧ a.WellFormed

section Session

variable {H : GatewayHost} {s : FederatedTargetSession} {m : FederatedMessage} {n : Int}

open FederatedTargetSession

/-- **A frame is sent**: an acknowledgement is well formed if it fits. -/
theorem Formed.emit (h : Formed s) (hm : m.kind = .ack ∨ m.kind = .nack → FitsFrame m.payload →
      ∃ a : FederatedWsAckPayload, m.payload = .object a.fields ∧ a.WellFormed) :
    Formed (s.emitFederatedEnvelope m).1 := by
  unfold emitFederatedEnvelope
  split
  · rename_i e he
    obtain ⟨hval, rfl⟩ := validateFederatedWsEnvelope_iff.mp he
    refine ⟨?_, ?_⟩
    · have hrun := (socketEmit_rest (s := s) (e := s.advance.envelope m)).2.2.2.2.2
      rw [hrun]
      exact h.running
    · rw [emitted_socketEmit]
      intro f hf hack
      by_cases hconn : s.connected = true
      · rw [if_pos hconn] at hf
        rcases List.mem_snoc.mp hf with hf | rfl
        · exact h.acks f hf hack
        · exact hm hack hval.payload
      · rw [if_neg hconn] at hf
        exact h.acks f hf hack
  · exact ⟨h.running, h.acks⟩

/-- What is no acknowledgement. -/
theorem Formed.tell (h : Formed s) (hack : m.kind ≠ .ack) (hnack : m.kind ≠ .nack) :
    Formed (s.emitFederatedEnvelope m).1 :=
  h.emit fun hkind _ => absurd hkind (not_or.mpr ⟨hack, hnack⟩)

theorem Formed.ack (h : Formed s) (request : FederatedWsEnvelope) {a : FederatedWsAckPayload}
    (ha : FitsFrame (.object a.fields) → a.WellFormed) :
    Formed (s.emitFederatedAck request a).1 :=
  h.emit fun _ hfits => ⟨a, rfl, ha hfits⟩

theorem Formed.close (h : Formed s) (reasonCode : String) :
    Formed (closeFederatedProtocol H s reasonCode).1 := by
  have htold : Formed (emitFederatedState H s ⟨.closed, reasonCode, none, none⟩).1 :=
    h.tell (by simp) (by simp)
  unfold closeFederatedProtocol
  split
  · rename_i s' _ heq
    rw [heq] at htold
    exact ⟨htold.running, htold.acks⟩
  · rename_i s' _ heq
    rw [heq] at htold
    exact htold

theorem Formed.notify (h : Formed s) (event : String) (payload : JsValue) :
    Formed (emitFederatedNotification H event payload s).1 := by
  unfold emitFederatedNotification
  split
  · exact h
  · split
    · exact h
    · split
      · exact h.tell (by simp) (by simp)
      · exact h.close _

/-- **A request.** -/
theorem Formed.request (h : Formed s) (value : JsValue) (nowMs : Int) :
    Formed (handleFederatedTargetEvent H s value nowMs) := by
  unfold handleFederatedTargetEvent
  split
  · exact h.close _
  · rename_i envelope hvalidated
    have hnumbered := (validateFederatedWsEnvelope_ok hvalidated).sequence
    split
    · exact h.close _
    · have hnext : Formed { s with incomingSequence := envelope.sequence } :=
        ⟨h.running, h.acks⟩
      unfold handleRequest
      split
      · exact hnext.close _
      · split
        · exact hnext.close _
        · split
          · exact hnext.close _
          · split
            · exact hnext.ack envelope fun _ => (fixed_wellFormed hnumbered).1
            · refine ⟨fun r hr => ?_, hnext.acks⟩
              rcases List.mem_snoc.mp hr with hr | rfl
              · exact h.running r hr
              · exact hnumbered

theorem Formed.respond (h : Formed s) (n : Int) : Formed (s.respond n) := by
  refine ⟨fun r hr => ?_, h.acks⟩
  obtain ⟨r₀, hr₀, hreq, -⟩ := mem_respond hr
  rw [← hreq]
  exact h.running r₀ hr₀

theorem Formed.finish (h : Formed s) (n : Int) : Formed (s.finish n) :=
  ⟨fun r hr => h.running r (List.mem_of_mem_filter hr), h.acks⟩

theorem Formed.number (h : Formed s) {r : Running} (hr : s.handlerOf n = some r) :
    Numbered 0 n := by
  obtain ⟨hmem, hseq⟩ := handlerOf_some hr
  exact hseq ▸ h.running r hmem

/-- **A handler calls its callback.** -/
theorem Formed.acknowledge (h : Formed s) {result : JsValue} (htl : Tells result) :
    Formed (s.acknowledge n result) := by
  unfold FederatedTargetSession.acknowledge
  split
  · exact h
  · rename_i r hr
    split
    · exact h
    · exact (h.respond n).ack r.request fun hfits =>
        (acknowledgement_wellFormed (h.number hr) hfits).mpr htl

theorem Formed.returns (h : Formed s) : Formed (s.handlerReturns n) := by
  have hnull : Tells .null := fun error herr => absurd herr (by simp [errorOf])
  exact (h.acknowledge hnull).finish n

theorem Formed.throws (h : Formed s) : Formed (s.handlerThrows n) := by
  unfold handlerThrows
  split
  · exact h
  · rename_i r hr
    split
    · exact h.finish n
    · exact ((h.respond n).ack r.request fun _ => (fixed_wellFormed (h.number hr)).2).finish n

theorem formed_start (clientId : String) (verified : VerifiedFederationWsChannel) (now : Int) :
    Formed (startFederatedTargetMode H clientId verified now) := by
  have hnew : Formed (targetSession clientId verified) :=
    ⟨fun r hr => absurd hr List.not_mem_nil, fun e he => absurd he List.not_mem_nil⟩
  have htold : Formed (emitFederatedState H (targetSession clientId verified)
      ⟨.ready, "READY", some now, none⟩).1 := hnew.tell (by simp) (by simp)
  unfold startFederatedTargetMode
  split
  · rename_i s' _ heq
    rw [heq] at htold
    exact htold
  · rename_i s' _ heq
    rw [heq] at htold
    exact ⟨htold.running, htold.acks⟩

end Session

/-! ## The gateway -/

/-- **No handler answers with an error that has no text.** -/
def Telling (_ : GatewayState) : GatewayEvent → Prop
  | .acknowledge _ _ result => Tells result
  | _ => True

section Gateway

variable {H : GatewayHost} {x x' : GatewayState} {a : GatewayEvent}

theorem onClient_formed {clientId : String} {f : FederatedTargetSession → FederatedTargetSession}
    (h : ∀ s ∈ x, Formed s) (hf : ∀ s, Formed s → Formed (f s)) :
    ∀ s ∈ x.onClient clientId f, Formed s := by
  intro s hs
  obtain ⟨s₀, hs₀, rfl⟩ := List.mem_map.mp hs
  split
  · exact hf s₀ (h s₀ hs₀)
  · exact h s₀ hs₀

/-- A loop over the sessions, wherever a throw leaves it. -/
theorem forEachSession_formed {addressed : FederatedTargetSession → Bool}
    {f : FederatedTargetSession → Emission} (hf : ∀ s, Formed s → Formed (f s).1)
    (h : ∀ s ∈ x, Formed s) : ∀ s ∈ (forEachSession addressed f x).1, Formed s := by
  induction x with
  | nil => exact h
  | cons t rest ih =>
    have ht := h t List.mem_cons_self
    have hrest := ih fun s hs => h s (List.mem_cons_of_mem t hs)
    unfold forEachSession
    split
    · have hsaid := hf t ht
      split
      · rename_i t' _ heq
        rw [heq] at hsaid
        intro s hs
        rcases List.mem_cons.mp hs with rfl | hs
        · exact hsaid
        · exact hrest s hs
      · rename_i t' _ heq
        rw [heq] at hsaid
        intro s hs
        rcases List.mem_cons.mp hs with rfl | hs
        · exact hsaid
        · exact h s (List.mem_cons_of_mem t hs)
    · intro s hs
      rcases List.mem_cons.mp hs with rfl | hs
      · exact ht
      · exact hrest s hs

theorem formed_step (h : ∀ s ∈ x, Formed s) (htelling : Telling x a)
    (hstep : gatewayStep H x a = some x') : ∀ s ∈ x', Formed s := by
  cases a with
  | connect clientId verified now =>
    simp only [gatewayStep] at hstep
    split at hstep
    · exact absurd hstep (by simp)
    · obtain rfl := Option.some.inj hstep
      intro s hs
      rcases List.mem_snoc.mp hs with hs | rfl
      · exact h s hs
      · exact formed_start clientId verified now
  | receive clientId value nowMs =>
    obtain rfl := Option.some.inj hstep
    refine onClient_formed h fun s hs => ?_
    split
    · exact hs.request value nowMs
    · exact hs
  | acknowledge clientId sequence result =>
    obtain rfl := Option.some.inj hstep
    exact onClient_formed h fun s hs => hs.acknowledge htelling
  | handlerReturns clientId sequence =>
    obtain rfl := Option.some.inj hstep
    exact onClient_formed h fun s hs => hs.returns
  | handlerThrows clientId sequence =>
    obtain rfl := Option.some.inj hstep
    exact onClient_formed h fun s hs => hs.throws
  | broadcast event payload =>
    obtain rfl := Option.some.inj hstep
    unfold emitBrowserBroadcast
    split
    · exact forEachSession_formed (fun s hs => hs.notify event payload) h
    · exact h
  | toRoom room event payload broadcastToFederated =>
    obtain rfl := Option.some.inj hstep
    unfold emitBrowserRoom
    split
    · exact forEachSession_formed (fun s hs => hs.notify event payload) h
    · exact h
  | toClient clientId event payload =>
    obtain rfl := Option.some.inj hstep
    exact forEachSession_formed (fun s hs => hs.notify event payload) h
  | joinRoom clientId room =>
    obtain rfl := Option.some.inj hstep
    refine onClient_formed h fun s hs => ?_
    split
    · exact ⟨hs.running, hs.acks⟩
    · exact hs
  | leaveRoom clientId room =>
    obtain rfl := Option.some.inj hstep
    refine onClient_formed h fun s hs => ?_
    split
    · exact ⟨hs.running, hs.acks⟩
    · exact hs
  | disconnect clientId =>
    obtain rfl := Option.some.inj hstep
    exact onClient_formed h fun s hs => ⟨hs.running, hs.acks⟩
  | handleDisconnect clientId =>
    obtain rfl := Option.some.inj hstep
    exact onClient_formed h fun s hs => ⟨hs.running, hs.acks⟩

/-- **Every acknowledgement of the gateway is admitted once it has travelled**, in any run in which
no handler answers with an error that has no text. -/
theorem acks_formed (hx : Stepping.Reach (gatewayStep H) Telling [] x)
    {s : FederatedTargetSession} (hs : s ∈ x) {e : FederatedWsEnvelope} (he : e ∈ s.emitted)
    (hack : IsAck e) : ∃ ack, validateFederatedWsAck (overWire e.payload) = .ok ack := by
  have hformed : ∀ s ∈ x, Formed s := by
    refine hx.invariant (I := fun x => ∀ s ∈ x, Formed s) ?_ ?_
    · intro s hs
      exact absurd hs List.not_mem_nil
    · intro x a x' h htelling hstep
      exact formed_step h htelling hstep
  obtain ⟨a, hpay, hwell⟩ := (hformed s hs).acks e he hack
  refine ⟨{ a with result := overWire a.result }, ?_⟩
  rw [hpay]
  exact (validateFederatedWsAck_iff hwell.result.isJson).mpr hwell

end Gateway

end Meowbox.Gateway
