import Meowbox.PanelAccess.Calls

/-!
# The two sides end a cutover alike

The target lets a cutover be rolled back that it has finalized, and it writes its journal behind its
checks. So it may roll a cutover back while the master is about to record that it was finalized, or
has recorded that; and a handler that overtakes another may finalize what was rolled back.

* `evidence`: a call of the master has been told how the target ended a cutover, or waits for an
  answer that is given already, or that its handler can only give so.
* `EndGuard`: when the target ends a cutover, the master has not recorded the other end, and there
  is no evidence of it.
* `ends_agree`: in runs of such steps the master and the target never end a cutover differently.
* `ends_differ`: a rollback between the answer and the record of a finalization, and a handler that
  finalizes last what another has rolled back.
-/

namespace Meowbox.PanelAccess

open Interleaved Stepping Meowbox.Registry

/-! ## Evidence -/

/-- The answer to a request from which the master concludes that the cutover has ended so. -/
def TargetRequest.tells : TargetRequest → String → Outcome → Bool
  | .status id, cutoverId, _ => id == cutoverId
  | .finalize id, cutoverId, o => id == cutoverId && o == .finalized
  | .rollback id, cutoverId, o => id == cutoverId && o == .rolledBack
  | .stage _, _, _ | .operation _, _, _ | .cancelOperation _, _, _ => false

/-- The message was answered with a journal that has ended so. -/
def CutoverSystem.answered (x : CutoverSystem) (n : Nat) (o : Outcome) : Bool :=
  match (x.message[n]?).bind Message.response with
  | some (.ok (.journal journal)) => journal.state == o.target
  | _ => false

/-- A call at this stage records that the cutover has ended so, or is answered so. -/
def Stage.supports (x : CutoverSystem) (l : List Stage) (cutoverId : String) (o : Outcome) :
    Stage → Bool
  | .decided id o' => id == cutoverId && o' == o
  | .waiting n request =>
    request.tells cutoverId o && (x.answered n o || l.contains (.holds n request o))
  | .plain | .serving _ _ | .holds _ _ _ => false

/-- Some call of the master records that the cutover has ended so, or is answered so. -/
def evidence (x : CutoverSystem) (l : List Stage) (cutoverId : String) (o : Outcome) : Bool :=
  l.any (Stage.supports x l cutoverId o)

/-- When the target ends a cutover, nobody has recorded the other end or has evidence of it. -/
def EndGuard (x : CutoverSystem) (l : List Stage) (_ : Nat) : CutoverInstr → Prop
  | .setSettingsAndJournal _ journal => ∀ o ∈ journal.state.outcome?,
      ¬ended x.registry journal.cutoverId o.other.master ∧
        evidence x l journal.cutoverId o.other = false
  | _ => True

/-! ## The invariant -/

variable {x x' : CutoverSystem} {l l' : List Stage} {k : Nat} {y y' : Stage} {K : CutoverHost}

structure CutoverInv (x : CutoverSystem) (l : List Stage) : Prop where
  agree : ∀ cutoverId o, ended x.registry cutoverId o.master ∨ evidence x l cutoverId o = true →
    x.target.stateOf cutoverId ≠ some o.other.target
  /-- Calls know what was asked for. -/
  sent : ∀ z ∈ l, ∀ n request, z.message? = some (n, request) →
    (x.message[n]?).map Message.request = some request
  /-- A rollback is answered by a journal that is rolled back. -/
  rolled : ∀ (n : Nat) (m : Message), x.message[n]? = some m → ∀ cutoverId data,
    m.request = .rollback cutoverId → m.response = some (.ok data) →
      ∃ journal, data = .journal journal ∧ journal.state = .rolledBack

variable {cutoverId : String} {o : Outcome}

theorem evidence_iff :
    evidence x l cutoverId o = true ↔ .decided cutoverId o ∈ l ∨
      ∃ n request, .waiting n request ∈ l ∧ request.tells cutoverId o = true ∧
        (x.answered n o = true ∨ .holds n request o ∈ l) := by
  unfold evidence
  rw [List.any_eq_true]
  constructor
  · rintro ⟨z, hz, hsupports⟩
    cases z with
    | decided id o' =>
      simp only [Stage.supports, Bool.and_eq_true, beq_iff_eq] at hsupports
      obtain ⟨rfl, rfl⟩ := hsupports
      exact .inl hz
    | waiting n request =>
      simp only [Stage.supports, Bool.and_eq_true, Bool.or_eq_true,
        List.contains_iff_mem] at hsupports
      exact .inr ⟨n, request, hz, hsupports.1, hsupports.2⟩
    | plain | serving | holds => cases hsupports
  · rintro (hz | ⟨n, request, hz, htl, hans⟩)
    · exact ⟨_, hz, by simp [Stage.supports]⟩
    · refine ⟨_, hz, ?_⟩
      simp only [Stage.supports, Bool.and_eq_true, Bool.or_eq_true, List.contains_iff_mem]
      exact ⟨htl, hans⟩

/-- The stages that are no evidence. -/
def Stage.silent : Stage → Bool
  | .plain | .serving _ _ => true
  | .waiting _ _ | .decided _ _ | .holds _ _ _ => false

/-- A call that goes to a stage that is no evidence leaves less of it. -/
theorem evidence_less (hmessage : x'.message = x.message) (hsil : y'.silent = true)
    (h : evidence x' (l.set k y') cutoverId o = true) :
    evidence x l cutoverId o = true := by
  have hold : ∀ {z : Stage}, z ∈ l.set k y' → z.silent = false → z ∈ l := by
    intro z hz hne
    rcases mem_set_cases hz with rfl | ⟨m, -, hm⟩
    · rw [hsil] at hne
      cases hne
    · exact List.mem_of_getElem? hm
  rw [evidence_iff] at h ⊢
  rcases h with hz | ⟨n, request, hz, htl, hans⟩
  · exact .inl (hold hz rfl)
  · refine .inr ⟨n, request, hold hz rfl, htl, ?_⟩
    rcases hans with hans | hholds
    · refine .inl ?_
      unfold CutoverSystem.answered at hans ⊢
      rwa [hmessage] at hans
    · exact .inr (hold hholds rfl)

theorem evidence_congr (hmessage : x'.message = x.message) (h : evidence x' l cutoverId o = true) :
    evidence x l cutoverId o = true := by
  rw [evidence_iff] at h ⊢
  rcases h with hz | ⟨n, request, hz, htl, hans⟩
  · exact .inl hz
  · refine .inr ⟨n, request, hz, htl, hans.imp_left fun hans => ?_⟩
    unfold CutoverSystem.answered at hans ⊢
    rwa [hmessage] at hans

/-- The stages after a step know what was asked for, when the new one does. -/
theorem CutoverInv.sent_set (h : CutoverInv x l)
    (hmessage : ∀ (n : Nat) request, (x.message[n]?).map Message.request = some request →
      (x'.message[n]?).map Message.request = some request)
    (hsent : ∀ n request, y'.message? = some (n, request) →
      (x'.message[n]?).map Message.request = some request) :
    ∀ z ∈ l.set k y', ∀ n request, z.message? = some (n, request) →
      (x'.message[n]?).map Message.request = some request := by
  intro z hz n request hmsg
  rcases mem_set_cases hz with rfl | ⟨m, -, hm⟩
  · exact hsent n request hmsg
  · exact hmessage n request (h.sent z (List.mem_of_getElem? hm) n request hmsg)

/-- **A step that is no evidence**: messages and the journal stay, and what the registry ends was
supported. -/
theorem CutoverInv.quiet (h : CutoverInv x l) (hmessage : x'.message = x.message)
    (hj : x'.target.journal = x.target.journal)
    (hended : ∀ cutoverId o, ended x'.registry cutoverId (Outcome.master o) →
      ended x.registry cutoverId o.master ∨ evidence x l cutoverId o = true)
    (hl : ∀ cutoverId o, evidence x' l' cutoverId o = true → evidence x l cutoverId o = true)
    (hsent : ∀ z ∈ l', ∀ n request, z.message? = some (n, request) →
      (x.message[n]?).map Message.request = some request) : CutoverInv x' l' := by
  refine ⟨fun cutoverId o hdue => ?_, ?_, ?_⟩
  · have hst : x'.target.stateOf cutoverId = x.target.stateOf cutoverId := by
      unfold TargetDb.stateOf
      rw [hj]
    rw [hst]
    refine h.agree cutoverId o ?_
    rcases hdue with hdue | hdue
    · exact hended cutoverId o hdue
    · exact .inr (hl cutoverId o hdue)
  · rw [hmessage]
    exact hsent
  · rw [hmessage]
    exact h.rolled

/-- Nothing happens that matters. -/
theorem CutoverInv.same (h : CutoverInv x l) (hmessage : x'.message = x.message)
    (hj : x'.target.journal = x.target.journal)
    (hended : ∀ cutoverId o, ended x'.registry cutoverId (Outcome.master o) →
      ended x.registry cutoverId o.master) : CutoverInv x' l :=
  h.quiet hmessage hj (fun cutoverId o hend => .inl (hended cutoverId o hend))
    (fun _ _ => evidence_congr hmessage) h.sent

/-- A call goes to a stage that is no evidence. -/
theorem CutoverInv.silence (h : CutoverInv x l) (hmessage : x'.message = x.message)
    (hj : x'.target.journal = x.target.journal)
    (hended : ∀ cutoverId o, ended x'.registry cutoverId (Outcome.master o) →
      ended x.registry cutoverId o.master ∨ evidence x l cutoverId o = true)
    (hsil : y'.silent = true)
    (hsent : ∀ n request, y'.message? = some (n, request) →
      (x.message[n]?).map Message.request = some request) : CutoverInv x' (l.set k y') :=
  h.quiet hmessage hj hended (fun _ _ => evidence_less hmessage hsil)
    (h.sent_set (fun _ _ h => h) hsent)

/-! ### Messages -/

/-- **A request is sent.** -/
theorem CutoverInv.send (h : CutoverInv x l) (request : TargetRequest) :
    CutoverInv { x with message := x.message ++ [⟨request, none⟩] }
      (l.set k (.waiting x.message.length request)) := by
  have hkept : ∀ (n : Nat) r, (x.message[n]?).map Message.request = some r →
      ((x.message ++ [⟨request, none⟩])[n]?).map Message.request = some r := by
    intro n r hr
    obtain ⟨m, hm, rfl⟩ := Option.map_eq_some_iff.mp hr
    rw [List.getElem?_append_left (List.getElem?_eq_some_iff.mp hm).1, hm]
    rfl
  have hold : ∀ {n : Nat} {o : Outcome},
      CutoverSystem.answered { x with message := x.message ++ [⟨request, none⟩] } n o = true →
        x.answered n o = true := by
    intro n o hans
    unfold CutoverSystem.answered at hans ⊢
    dsimp only at hans
    rcases Nat.lt_trichotomy n x.message.length with hlt | rfl | hgt
    · rwa [List.getElem?_append_left hlt] at hans
    · simp at hans
    · rw [List.getElem?_eq_none (by simp; omega)] at hans
      cases hans
  have hfr : ∀ {r : TargetRequest} {o : Outcome}, .holds x.message.length r o ∉ l := by
    intro r o hholds
    have hsent := h.sent _ hholds _ _ rfl
    simp at hsent
  refine ⟨fun cutoverId o hdue => h.agree cutoverId o ?_, h.sent_set hkept ?_, ?_⟩
  · refine hdue.imp_right fun hev => ?_
    rw [evidence_iff] at hev ⊢
    rcases hev with hz | ⟨n, r, hz, htl, hans⟩
    · rcases mem_set_cases hz with hnew | ⟨m, -, hm⟩
      · cases hnew
      · exact .inl (List.mem_of_getElem? hm)
    · have hans : x.answered n o = true ∨ .holds n r o ∈ l := by
        refine hans.imp hold fun hholds => ?_
        rcases mem_set_cases hholds with hnew | ⟨m, -, hm⟩
        · cases hnew
        · exact List.mem_of_getElem? hm
      rcases mem_set_cases hz with hnew | ⟨m, -, hm⟩
      · -- The new message has no answer, and nobody handles it.
        cases hnew
        rcases hans with hans | hholds
        · unfold CutoverSystem.answered at hans
          simp at hans
        · exact absurd hholds hfr
      · exact .inr ⟨n, r, List.mem_of_getElem? hm, htl, hans⟩
  · intro n r hmsg
    cases hmsg
    simp
  · intro n m hm cutoverId data hreq hresp
    rcases Nat.lt_or_ge n x.message.length with hlt | hge
    · rw [List.getElem?_append_left hlt] at hm
      exact h.rolled n m hm cutoverId data hreq hresp
    · rw [List.getElem?_append_right hge] at hm
      obtain ⟨-, hnew⟩ := Option.ite_none_right_eq_some.mp (List.getElem?_singleton ▸ hm)
      cases hnew
      cases hresp

variable {request : TargetRequest}

/-- What the master concludes, the answer tells. -/
theorem conclusion_tells {data : TargetData} (h : request.conclusion data = some (cutoverId, o)) :
    request.tells cutoverId o = true ∧
      ((∀ id, request ≠ .rollback id) → data.state? = some o.target) := by
  cases request with
  | status id =>
    obtain ⟨o', hst, heq⟩ := Option.map_eq_some_iff.mp h
    cases heq
    obtain ⟨state, hsome, hout⟩ := Option.bind_eq_some_iff.mp hst
    refine ⟨by simp [TargetRequest.tells], fun _ => ?_⟩
    rw [hsome, TargetState.outcome?_eq_some.mp hout]
  | finalize id =>
    obtain ⟨hst, heq⟩ := Option.ite_none_right_eq_some.mp h
    cases heq
    exact ⟨by simp [TargetRequest.tells], fun _ => hst⟩
  | rollback id =>
    cases h
    exact ⟨by simp [TargetRequest.tells], fun hother => absurd rfl (hother _)⟩
  | stage | operation | cancelOperation => cases h

/-- **An answer is received**: what the call now knows was evidence before. -/
theorem CutoverInv.receive (h : CutoverInv x l) {n : Nat} (hk : l[k]? = some (.waiting n request)) :
    CutoverInv x (l.set k (Stage.received request ((x.message[n]?).bind Message.response))) := by
  have hmem := List.mem_of_getElem? hk
  have hsent := h.sent _ hmem n request rfl
  obtain ⟨m, hm, hreq⟩ := Option.map_eq_some_iff.mp hsent
  have hpl : CutoverInv x (l.set k .plain) :=
    h.silence rfl rfl (fun _ _ hend => .inl hend) rfl fun _ _ hmsg => by cases hmsg
  rw [hm, Option.bind_some]
  cases hresp : m.response with
  | none => exact hpl
  | some r =>
    cases r with
    | error e => exact hpl
    | ok data =>
      unfold Stage.received
      dsimp only
      cases hconclusion : request.conclusion data with
      | none => exact hpl
      | some told =>
        obtain ⟨cutoverId, o⟩ := told
        obtain ⟨htl, hst⟩ := conclusion_tells hconclusion
        have hanswered : x.answered n o = true := by
          have hj : ∃ journal, data = .journal journal ∧ journal.state = o.target := by
            by_cases hrb : ∃ id, request = .rollback id
            · obtain ⟨id, rfl⟩ := hrb
              cases hconclusion
              exact h.rolled n m hm _ data hreq hresp
            · have hsome := hst fun id hid => hrb ⟨id, hid⟩
              cases data with
              | journal journal => exact ⟨journal, rfl, Option.some.inj hsome⟩
              | ticket | operation | cancelled => cases hsome
          obtain ⟨journal, rfl, hend⟩ := hj
          simp [CutoverSystem.answered, hm, hresp, hend]
        have hbef : evidence x l cutoverId o = true :=
          evidence_iff.mpr (.inr ⟨n, request, hmem, htl, .inl hanswered⟩)
        refine h.quiet rfl rfl (fun _ _ hend => .inl hend) (fun id o' hev => ?_)
          (h.sent_set (fun _ _ hmsg => hmsg) fun _ _ hmsg => by cases hmsg)
        rw [evidence_iff] at hev
        rcases hev with hz | ⟨n', r, hz, htl', hans⟩
        · rcases mem_set_cases hz with hnew | ⟨m', -, hm'⟩
          · cases hnew
            exact hbef
          · exact evidence_iff.mpr (.inl (List.mem_of_getElem? hm'))
        · rcases mem_set_cases hz with hnew | ⟨m', -, hm'⟩
          · cases hnew
          · refine evidence_iff.mpr (.inr ⟨n', r, List.mem_of_getElem? hm', htl', ?_⟩)
            refine hans.imp_right fun hholds => ?_
            rcases mem_set_cases hholds with hnew | ⟨m'', -, hm''⟩
            · cases hnew
            · exact List.mem_of_getElem? hm''

/-- A handler answers. -/
theorem message_respond (x : CutoverSystem) (n m : Nat) (response : TargetResponse) :
    (x.respond n response).message[m]? = (x.message[m]?).map fun msg =>
      if m = n then { msg with response := some response } else msg := by
  unfold CutoverSystem.respond
  dsimp only
  rw [List.getElem?_modify]
  by_cases hmn : m = n
  · subst hmn
    simp
  · simp [hmn, Ne.symm hmn]

/-- **An answer is given**: what it tells was evidence before. -/
theorem CutoverInv.respond (h : CutoverInv x l) {n : Nat} {response : TargetResponse}
    (hk : l[k]? = some y) (hy : y.mayAnswer n response) (hsil : y'.silent = true)
    (hnone : y'.message? = none) : CutoverInv (x.respond n response) (l.set k y') := by
  obtain ⟨request, known, rfl, hkn, hrb⟩ := hy
  have hmem := List.mem_of_getElem? hk
  have hsent : (x.message[n]?).map Message.request = some request :=
    h.sent _ hmem n request (by cases known <;> rfl)
  have hkept : ∀ (m : Nat) r, (x.message[m]?).map Message.request = some r →
      ((x.respond n response).message[m]?).map Message.request = some r := by
    intro m r hr
    obtain ⟨msg, hmsg, rfl⟩ := Option.map_eq_some_iff.mp hr
    rw [message_respond, hmsg]
    simp only [Option.map_some]
    split <;> rfl
  refine ⟨fun cutoverId o hdue => ?_, h.sent_set hkept ?_, ?_⟩
  · refine h.agree cutoverId o (hdue.imp_right fun hev => ?_)
    rw [evidence_iff] at hev ⊢
    have hold : ∀ {z : Stage}, z ∈ l.set k y' → z.silent = false → z ∈ l := by
      intro z hz hne
      rcases mem_set_cases hz with rfl | ⟨m, -, hm⟩
      · rw [hsil] at hne
        cases hne
      · exact List.mem_of_getElem? hm
    rcases hev with hz | ⟨m, r, hz, htl, hans⟩
    · exact .inl (hold hz rfl)
    · refine .inr ⟨m, r, hold hz rfl, htl, ?_⟩
      rcases hans with hans | hholds
      · unfold CutoverSystem.answered at hans
        rw [message_respond] at hans
        by_cases hmn : m = n
        · -- The journal that is answered is one its handler knows to have ended so.
          subst hmn
          have hr : r = request := by
            have hsent' := h.sent _ (hold hz rfl) m r rfl
            exact Option.some.inj (hsent'.symm.trans hsent)
          subst hr
          obtain ⟨msg, hmsg, -⟩ := Option.map_eq_some_iff.mp hsent
          simp only [hmsg, Option.map_some, if_pos, Option.bind_some] at hans
          split at hans
          · rename_i journal hj
            have hend : known = some o :=
              hkn journal o (Option.some.inj hj) (beq_iff_eq.mp hans)
            subst hend
            exact .inr hmem
          · cases hans
        · refine .inl ?_
          unfold CutoverSystem.answered
          cases hmsg : x.message[m]? with
          | none =>
            rw [hmsg] at hans
            cases hans
          | some msg =>
            rw [hmsg] at hans
            simpa [hmn] using hans
      · exact .inr (hold hholds rfl)
  · intro m r hmsg
    rw [hnone] at hmsg
    cases hmsg
  · intro m msg hmsg cutoverId data hreq hresp
    rw [message_respond] at hmsg
    obtain ⟨msg', hmsg', rfl⟩ := Option.map_eq_some_iff.mp hmsg
    by_cases hmn : m = n
    · subst hmn
      simp only [if_pos] at hreq hresp
      have hr : msg'.request = request := by
        rw [hmsg'] at hsent
        exact Option.some.inj hsent
      exact hrb cutoverId data (hr.symm.trans hreq) (Option.some.inj hresp)
    · simp only [if_neg hmn] at hreq hresp
      exact h.rolled m msg' hmsg' cutoverId data hreq hresp

/-! ### The journal of the target -/

/-- What is written about one cutover. -/
theorem stateOf_write (t : TargetDb) (journal : TargetJournal) (settings : PanelAccessSettings)
    (cutoverId : String) :
    TargetDb.stateOf { t with settings := settings, journal := journal :: t.journal } cutoverId =
      if journal.cutoverId = cutoverId then some journal.state else t.stateOf cutoverId := by
  unfold TargetDb.stateOf
  dsimp only
  rw [List.find?_cons]
  by_cases hid : journal.cutoverId = cutoverId
  · simp [hid]
  · have hto : (journal.cutoverId == cutoverId) = false := by simpa using hid
    rw [hto, if_neg hid]

/-- What a request tells is about its cutover. -/
theorem tells_cutover (h : request.tells cutoverId o = true) :
    request.cutoverId? = some cutoverId := by
  cases request with
  | status id => simpa [TargetRequest.tells, TargetRequest.cutoverId?] using h
  | finalize id => exact congrArg some (by simp [TargetRequest.tells] at h; exact h.1)
  | rollback id => exact congrArg some (by simp [TargetRequest.tells] at h; exact h.1)
  | stage | operation | cancelOperation => cases h

/-- **A handler learns how its cutover stands**, and that is how it stands. -/
theorem CutoverInv.learn (h : CutoverInv x l) {n : Nat}
    (hsent : (x.message[n]?).map Message.request = some request)
    (hst : ∀ cutoverId, request.cutoverId? = some cutoverId → x.target.stateOf cutoverId ≠ some o.other.target) :
    CutoverInv x (l.set k (.holds n request o)) := by
  refine ⟨fun cutoverId o' hdue => ?_, h.sent_set (fun _ _ hmsg => hmsg) ?_, h.rolled⟩
  · by_cases hnew : request.cutoverId? = some cutoverId ∧ o' = o
    · rw [hnew.2]
      exact hst cutoverId hnew.1
    · refine h.agree cutoverId o' (hdue.imp_right fun hev => ?_)
      rw [evidence_iff] at hev ⊢
      rcases hev with hz | ⟨m, r, hz, htl, hans⟩
      · rcases mem_set_cases hz with heq | ⟨m', -, hm'⟩
        · cases heq
        · exact .inl (List.mem_of_getElem? hm')
      · rcases mem_set_cases hz with heq | ⟨m', -, hm'⟩
        · cases heq
        · refine .inr ⟨m, r, List.mem_of_getElem? hm', htl, hans.imp_right fun hholds => ?_⟩
          rcases mem_set_cases hholds with heq | ⟨m'', -, hm''⟩
          · cases heq
            exact absurd ⟨tells_cutover htl, rfl⟩ hnew
          · exact List.mem_of_getElem? hm''
  · intro m r hmsg
    cases hmsg
    exact hsent

/-- **The journal is read.** -/
theorem CutoverInv.read (h : CutoverInv x l) {n : Nat} (hk : l[k]? = some (.serving n request)) :
    CutoverInv x (l.set k (Stage.seen n request x.target.journal.head?)) := by
  have hsent := h.sent _ (List.mem_of_getElem? hk) n request rfl
  have hserving : CutoverInv x (l.set k (.serving n request)) := by
    rw [set_getElem?_self hk]
    exact h
  cases hj : x.target.journal with
  | nil =>
    have hnone : ∀ cutoverId, x.target.stateOf cutoverId = none := by
      intro cutoverId
      unfold TargetDb.stateOf
      rw [hj]
      rfl
    cases request with
    | rollback id =>
      refine h.learn hsent fun cutoverId _ => ?_
      rw [hnone]
      exact fun heq => by cases heq
    | stage | status | finalize | operation | cancelOperation => exact hserving
  | cons journal rest =>
    show CutoverInv x (l.set k (if request.cutoverId? = some journal.cutoverId then
      .about n request journal.state.outcome? else .serving n request))
    split
    · rename_i hreq
      cases hout : journal.state.outcome? with
      | none => exact hserving
      | some o =>
        refine h.learn hsent fun cutoverId hid => ?_
        have hst : x.target.stateOf cutoverId = some o.target := by
          have hsame : journal.cutoverId = cutoverId := Option.some.inj (hreq.symm.trans hid)
          unfold TargetDb.stateOf
          rw [hj, List.find?_cons_of_pos (by simpa using hsame), Option.map_some,
            TargetState.outcome?_eq_some.mp hout]
        rw [hst]
        exact fun heq => o.ne_other (Outcome.target_injective (Option.some.inj heq))
    · exact hserving

/-- **A journal is written that has not ended.** -/
theorem CutoverInv.reopen (h : CutoverInv x l) {journal : TargetJournal}
    (hopen : journal.state.outcome? = none) (hsil : y'.silent = true)
    (hsent : ∀ n request, y'.message? = some (n, request) →
      (x.message[n]?).map Message.request = some request) :
    CutoverInv (x.updateTarget fun t => { t with journal := journal :: t.journal })
      (l.set k y') := by
  refine ⟨fun cutoverId o hdue => ?_, h.sent_set (fun _ _ hmsg => hmsg) hsent, h.rolled⟩
  have hwrite := stateOf_write x.target journal x.target.settings cutoverId
  show TargetDb.stateOf { x.target with journal := journal :: x.target.journal } cutoverId ≠ _
  rw [hwrite]
  split
  · intro heq
    rw [TargetState.outcome?_eq_some.mpr (Option.some.inj heq)] at hopen
    cases hopen
  · exact h.agree cutoverId o (hdue.imp_right (evidence_less rfl hsil))

/-- **A journal ends**, when nobody knows of the other end. -/
theorem CutoverInv.finish (h : CutoverInv x l) {n : Nat} {settings : PanelAccessSettings}
    {journal : TargetJournal} (hend : journal.state.outcome? = some o)
    (hreq : request.cutoverId? = some journal.cutoverId)
    (hsent : (x.message[n]?).map Message.request = some request)
    (hg : ¬ended x.registry journal.cutoverId o.other.master ∧ evidence x l journal.cutoverId o.other = false) :
    CutoverInv (x.updateTarget fun t =>
      { t with settings := settings, journal := journal :: t.journal })
      (l.set k (.holds n request o)) := by
  refine ⟨fun cutoverId o' hdue => ?_, h.sent_set (fun _ _ hmsg => hmsg) ?_, h.rolled⟩
  · show TargetDb.stateOf { x.target with
      settings := settings, journal := journal :: x.target.journal } cutoverId ≠ _
    rw [stateOf_write]
    -- Evidence that is new is of this cutover and of this end.
    have hbef : request.cutoverId? ≠ some cutoverId ∨ o' ≠ o →
        ended x.registry cutoverId o'.master ∨ evidence x l cutoverId o' = true := by
      intro hother
      refine hdue.imp_right fun hev => ?_
      rw [evidence_iff] at hev ⊢
      rcases hev with hz | ⟨m, r, hz, htl, hans⟩
      · rcases mem_set_cases hz with heq | ⟨m', -, hm'⟩
        · cases heq
        · exact .inl (List.mem_of_getElem? hm')
      · rcases mem_set_cases hz with heq | ⟨m', -, hm'⟩
        · cases heq
        · refine .inr ⟨m, r, List.mem_of_getElem? hm', htl, hans.imp_right fun hholds => ?_⟩
          rcases mem_set_cases hholds with heq | ⟨m'', -, hm''⟩
          · cases heq
            rcases hother with hother | hother
            · exact absurd (tells_cutover htl) hother
            · exact absurd rfl hother
          · exact List.mem_of_getElem? hm''
    split
    · rename_i hid
      subst hid
      rw [TargetState.outcome?_eq_some.mp hend]
      intro heq
      have ho : o = o'.other := Outcome.target_injective (Option.some.inj heq)
      have ho' : o' = o.other := by
        rw [ho]
        cases o' <;> rfl
      subst ho'
      rcases hbef (.inr (o.ne_other).symm) with hended | hev
      · exact hg.1 hended
      · rw [hg.2] at hev
        cases hev
    · rename_i hid
      refine h.agree cutoverId o' (hbef (.inl ?_))
      rw [hreq]
      exact fun heq => hid (Option.some.inj heq)
  · intro m r hmsg
    cases hmsg
    exact hsent

/-! ### The registry -/

/-- **The master records an end** it has evidence of. -/
theorem CutoverInv.registry (h : CutoverInv x l) {H : RegistryHost} {i : RegistryInstr}
    (hk : l[k]? = some y) (halw : y.mayPerform i)
    (hkept : y' = y ∨ y'.silent = true) (hsent : y'.message? = y.message?) :
    CutoverInv { x with registry := (Registry.answer H i x.registry).2 } (l.set k y') := by
  have hmem := List.mem_of_getElem? hk
  have hended : ∀ cutoverId o,
      ended (Registry.answer H i x.registry).2 cutoverId (Outcome.master o) →
        ended x.registry cutoverId o.master ∨ evidence x l cutoverId o = true := by
    intro cutoverId o hend
    refine (answer_ended i hend (by cases o <;> rfl)).imp_right fun hi => ?_
    cases y with
    | plain => rw [show endOfInstr i = none from halw] at hi; cases hi
    | waiting | serving | holds => exact halw.elim
    | decided id o' =>
      rcases halw with hnone | hsome
      · rw [hnone] at hi
        cases hi
      · rw [hsome] at hi
        obtain ⟨rfl, hmaster⟩ := Prod.mk.injEq .. ▸ Option.some.inj hi
        have ho : o' = o := by cases o' <;> cases o <;> first | rfl | cases hmaster
        subst ho
        exact evidence_iff.mpr (.inl hmem)
  rcases hkept with rfl | hsil
  · rw [set_getElem?_self hk]
    exact h.quiet rfl rfl hended (fun _ _ => evidence_congr rfl) h.sent
  · refine h.silence rfl rfl hended hsil fun n request hmsg => ?_
    exact h.sent _ hmem n request (hsent ▸ hmsg)

/-! ### Instructions -/

/-- An instruction that leaves its call where it was, and changes nothing that matters. -/
theorem CutoverInv.idle (h : CutoverInv x l) (hk : l[k]? = some y) (hstay : y' = y)
    (hmessage : x'.message = x.message) (hj : x'.target.journal = x.target.journal)
    (hregistry : x'.registry = x.registry) : CutoverInv x' (l.set k y') := by
  rw [hstay, set_getElem?_self hk]
  exact h.same hmessage hj fun _ _ hend => hregistry ▸ hend

/-- Statements of the registry take a call nowhere, or to where it knows nothing. -/
theorem after_registry (y : Stage) (i : RegistryInstr) (r : Registry.Answer i)
    (halw : y.mayPerform i) :
    (Stage.after y (.registry i) r = y ∨ (Stage.after y (.registry i) r).silent = true) ∧
      (Stage.after y (.registry i) r).message? = y.message? := by
  cases y with
  | plain => exact ⟨.inl rfl, rfl⟩
  | waiting | serving | holds => exact halw.elim
  | decided id o =>
    cases i with
    | transact m => exact ⟨.inr rfl, rfl⟩
    | latestJournal =>
      simp only [Stage.after]
      split
      · exact ⟨.inr rfl, rfl⟩
      · exact ⟨.inl rfl, rfl⟩
    | getLocalIdentity =>
      simp only [Stage.after]
      split
      · exact ⟨.inr rfl, rfl⟩
      · exact ⟨.inl rfl, rfl⟩
    | writeFile | commitJournal | freezeProjection | renderDbProjection | repairJournal
    | findServer | recordTrust => exact ⟨.inl rfl, rfl⟩

/-- **One instruction.** -/
theorem reply_inv (i : CutoverInstr) (h : CutoverInv x l) (hk : l[k]? = some y)
    (halw : y.allows i) (hg : EndGuard x l k i) :
    CutoverInv (reply K.registry i x).2 (l.set k (y.after i (reply K.registry i x).1)) := by
  have hmem := List.mem_of_getElem? hk
  cases i with
  | registry i =>
    obtain ⟨hkept, hsent⟩ := after_registry y i (Registry.answer K.registry i x.registry).1 halw
    exact h.registry hk halw hkept hsent
  | send request =>
    obtain rfl : y = .plain := halw
    exact h.send request
  | receive n =>
    obtain ⟨request, rfl⟩ : ∃ request, y = .waiting n request := halw
    exact h.receive hk
  | take n =>
    obtain rfl : y = .plain := halw
    cases hmessage : x.message[n]? with
    | none =>
      simp only [reply, hmessage, Option.map_none]
      exact h.idle hk rfl rfl rfl rfl
    | some m =>
      simp only [reply, hmessage, Option.map_some]
      refine h.silence rfl rfl (fun _ _ hend => .inl hend) rfl fun n' request hmsg => ?_
      cases hmsg
      rw [hmessage]
      rfl
  | getJournal =>
    cases y with
    | serving n request => exact h.read hk
    | plain | waiting | decided | holds => exact h.idle hk rfl rfl rfl rfl
  | setJournal journal =>
    obtain ⟨hopen, hstg⟩ := halw
    cases y with
    | plain => exact h.reopen hopen rfl fun _ _ hmsg => by cases hmsg
    | waiting | decided =>
      rcases hstg with hstg | hstg <;> cases hstg
    | serving n request | holds n request _ =>
      refine h.reopen hopen rfl fun n' r hmsg => ?_
      cases hmsg
      exact h.sent _ hmem n request rfl
  | setSettingsAndJournal settings journal =>
    obtain ⟨hend, n, request, hhandles, hreq⟩ := halw
    obtain ⟨o, hout⟩ := Option.isSome_iff_exists.mp hend
    have hsent : (x.message[n]?).map Message.request = some request := by
      refine h.sent _ hmem n request ?_
      cases y <;> first | exact hhandles | cases hhandles
    have hstg : y.after (.setSettingsAndJournal settings journal) () = .holds n request o := by
      cases y with
      | plain | waiting | decided => cases hhandles
      | serving | holds =>
        cases hhandles
        simp only [Stage.after, hout, Stage.about]
    simp only [reply]
    rw [hstg]
    exact h.finish hout hreq hsent (hg o hout)
  | respond n response =>
    have hanswers := halw
    obtain ⟨request, known, rfl, -⟩ := halw
    have hstg : (Stage.about n request known).after (.respond n response) () = .plain := by
      cases known <;> rfl
    simp only [reply]
    rw [hstg]
    exact h.respond hk hanswers rfl rfl
  | verifyCandidate candidate =>
    cases y with
    | decided =>
      exact h.silence rfl rfl (fun _ _ hend => .inl hend) rfl fun _ _ hmsg => by cases hmsg
    | plain | waiting | serving | holds => exact h.idle hk rfl rfl rfl rfl
  | recordLink link =>
    refine h.idle hk (by cases y <;> rfl) ?_ ?_ ?_ <;>
    · simp only [reply, CutoverSystem.recordLink]
      repeat' split
      all_goals rfl
  | admitOperation request =>
    refine h.idle hk (by cases y <;> rfl) ?_ ?_ ?_ <;>
    · simp only [reply, CutoverSystem.admitOperation]
      split <;> rfl
  | findCutover | findServer | findLink | isAdmin | getPanelAccess | getClaim | findOperation
  | agentFinalize | agentRollback | agentStatus | agentStage =>
    exact h.idle hk (by cases y <;> rfl) rfl rfl rfl

/-- What happens besides the calls ends no cutover. -/
theorem outside_inv (change : CutoverChange) (h : CutoverInv x l) :
    CutoverInv (x.outside change) l := by
  refine h.same ?_ ?_ ?_
  · cases change <;> rfl
  · cases change <;> rfl
  · cases change with
    | registry change =>
      rintro cutoverId o hend
      cases change with
      | createIssuer =>
        simp only [CutoverSystem.outside, RegistryDb.outside] at hend
        split at hend <;> exact hend
      | setDisk | revokeIssuer | setEnrollments => exact hend
    | setAgent | setOperations | setTarget | setVerification | setAdmins =>
      exact fun _ _ hend => hend

theorem call_inv (h : CutoverInv x l) : CutoverInv x (l ++ [.plain]) := by
  have hold : ∀ {z : Stage}, z ∈ l ++ [.plain] → z.silent = false → z ∈ l := by
    intro z hz hne
    rcases List.mem_snoc.mp hz with hz | rfl
    · exact hz
    · cases hne
  refine h.quiet rfl rfl (fun _ _ hend => .inl hend) (fun cutoverId o hev => ?_)
    fun z hz n request hmsg => ?_
  · rw [evidence_iff] at hev ⊢
    rcases hev with hz | ⟨n, request, hz, htl, hans⟩
    · exact .inl (hold hz rfl)
    · exact .inr ⟨n, request, hold hz rfl, htl, hans.imp_right fun hholds => hold hholds rfl⟩
  · rcases List.mem_snoc.mp hz with hz | rfl
    · exact h.sent z hz n request hmsg
    · cases hmsg

/-! ## Runs -/

/-- The master and the target have not ended a cutover differently. -/
def EndsAgree (x : CutoverSystem) : Prop :=
  ∀ cutoverId o, ¬(ended x.registry cutoverId (Outcome.master o) ∧
    x.target.stateOf cutoverId = some o.other.target)

/-- The two sides agree, and no message is under way. -/
structure BeforeCutovers (x : CutoverSystem) : Prop where
  agree : EndsAgree x
  messages : x.message = []

theorem BeforeCutovers.inv (h : BeforeCutovers x) : CutoverInv x [] where
  agree cutoverId o hdue heq := by
    rcases hdue with hended | hev
    · exact h.agree cutoverId o ⟨hended, heq⟩
    · cases hev
  sent z hz := absurd hz List.not_mem_nil
  rolled n m hm := by
    rw [h.messages] at hm
    cases hm

abbrev CutoverRun : Type := Phased CutoverSystem Stage CutoverInstr Reply
  (Except RegistryError Unit)

/-- One step of the two sides, with what their calls know. -/
def cutoverStep (K : CutoverHost) (s : CutoverRun) (a : Event CutoverChange CutoverOrder) :
    Option CutoverRun :=
  Phased.step (cutovers K) cutover (fun _ => .plain) s a

variable {x₀ : CutoverSystem} {s : CutoverRun}

/-- **The master and the target end every cutover alike.** -/
theorem ends_agree (h0 : BeforeCutovers x₀)
    (hs : Reach (cutoverStep K) (Phased.Within EndGuard) ⟨x₀, []⟩ s) : EndsAgree s.store := by
  have h : CutoverInv s.store s.phases := (Phased.invariant (I := CutoverInv) (order_stages K)
    h0.inv (fun change x l h => outside_inv change h) (fun _ x l h => call_inv h)
    (fun x l k y i h hk halw hg => reply_inv i h hk halw hg) hs).1
  rintro cutoverId o ⟨hended, hst⟩
  exact h.agree cutoverId o (.inl hended) hst

instance (x : CutoverSystem) (l : List Stage) (k : Nat) (i : CutoverInstr) :
    Decidable (EndGuard x l k i) := by
  apply CutoverInstr.casesOn (motive := fun i => Decidable (EndGuard x l k i)) i <;> intros <;>
    dsimp only [EndGuard] <;> infer_instance

/-! ### A cutover that is staged on both sides -/

namespace Sample

def host : CutoverHost where
  registry := Registry.Sample.host
  deterministicCutoverId _ _ key := key
  normalize text := text
  requestValid _ := true
  pinValid _ := true
  originHostname origin := some origin
  manifestForEndpoint origin _ := .ok origin

def server : RemoteServer where
  id := "server-1"
  installationId := some "target-1"
  displayName := "Target"
  registryGeneration := 1
  activationMode := "DISABLED"
  topologyMode := "PUBLIC"
  targetManifestKid := some "manifest-1"
  targetManifestPublicKeySpki := some "spki"
  trustState := .active
  trustReasonCode := some "READY"
  reasonCode := some "ENDPOINT_CUTOVER"
  activeEndpointGeneration := some 1
  candidateEndpointGeneration := some 2
  previousEndpointGeneration := none
  httpEnabled := false
  wsEnabled := false
  publicEnabled := false
  legacyEnabled := false
  legacyUrl := none
  legacyTokenEnc := none
  rolloutStage := "DISABLED"
  mutationFrozenAt := none
  endpoints := [⟨1, .active, Registry.Sample.address "https://old.example", some 0⟩,
    ⟨2, .candidate, Registry.Sample.address "https://new.example", some 0⟩]
  cutovers := [⟨"cutover-1", 1, 2, .staged, 900000, none⟩]

def settings (domain : String) : PanelAccessSettings :=
  ⟨some domain, "LE", some "cert", some "key", true, true⟩

def candidate : CutoverCandidate :=
  ⟨"https://new.example", "https://new.example", "/socket.io", "https://new.example",
    "https://new.example", "pin", "manifest"⟩

def target : TargetDb where
  settings := settings "old.example"
  journal := [⟨"cutover-1", .staged, "operation-0", settings "old.example",
    some (settings "new.example"), some candidate, none⟩]
  operation := [⟨"operation-0", .succeeded, some ⟨"cutover-1", .staged, candidate⟩⟩]
  localSocketPath := some "/socket.io"
  agent := {
    finalizeCutover := .ok ⟨true, none⟩
    rollbackCutover := .ok ⟨true, none⟩
    cutoverStatus := .ok ⟨true, some .finalized, some "https://new.example"⟩
    stageCandidate := .error ⟨.internal, "busy"⟩ }
  admits := .ok ()

def staged : CutoverSystem where
  registry := { Registry.Sample.registry with remoteServer := [server] }
  remoteOperationLink := [⟨"server-1", "operation-0", "admin-1", "cutover-1"⟩]
  admins := ["admin-1"]
  verification := .ok ()
  message := []
  target := target

def confirm : CutoverOrder :=
  .confirmBrowser "server-1" "cutover-1" "https://new.example" (some "key-00001") 1

end Sample

/-- A confirmation, up to its request to finalize. -/
def confirmed : List (Event CutoverChange CutoverOrder) :=
  [Event.call Sample.confirm, .advance 0, .advance 0, .call (.serve 0 1)] ++
    List.replicate 3 (Event.advance 1) ++ List.replicate 8 (Event.advance 0) ++
    [Event.call (CutoverOrder.serve 1 1)]

/-- A rollback, up to its request to roll back. -/
def rollbackAsked : List (Event CutoverChange CutoverOrder) :=
  [Event.call (CutoverOrder.rollback "server-1" "cutover-1" (some "key-00002"))] ++
    List.replicate 3 (Event.advance 3) ++ [Event.call (CutoverOrder.serve 2 1)] ++
    List.replicate 3 (Event.advance 4) ++ List.replicate 2 (Event.advance 3) ++
    [Event.call (CutoverOrder.serve 3 1)]

/-- A confirmation that finalizes both sides. -/
theorem ends_agree_finalized : ∃ s : CutoverRun,
    ended s.store.registry "cutover-1" .finalized ∧
      s.store.target.stateOf "cutover-1" = some .finalized ∧ EndsAgree s.store := by
  have hrun : ∃ s, Reach (cutoverStep Sample.host) (Phased.Within EndGuard)
      ⟨Sample.staged, []⟩ s ∧ ended s.store.registry "cutover-1" .finalized ∧
        s.store.target.stateOf "cutover-1" = some .finalized :=
    Reach.of_run_any (l := confirmed ++ List.replicate 6 (Event.advance 2) ++
      List.replicate 6 (Event.advance 0)) (by decide +kernel)
  obtain ⟨s, hs, hmaster, htgt⟩ := hrun
  refine ⟨s, hmaster, htgt, ends_agree ⟨?_, rfl⟩ hs⟩
  rintro cutoverId o ⟨⟨row, hrow, c, hc, -, hst⟩, -⟩
  rw [List.mem_singleton.mp hrow] at hc
  rw [List.mem_singleton.mp hc] at hst
  cases o <;> cases hst

/-- **The master finalizes what the target rolls back**: a rollback runs between the answer and the
record of a finalization. **The target finalizes what the master rolls back**: the handler that
finalizes writes its journal last. -/
theorem ends_differ :
    (∃ s, Reach (Pool.step (cutovers Sample.host)) anyStep ⟨Sample.staged, []⟩ s ∧
      ended s.store.registry "cutover-1" .finalized ∧
        s.store.target.stateOf "cutover-1" = some .rolledBack) ∧
    ∃ s, Reach (Pool.step (cutovers Sample.host)) anyStep ⟨Sample.staged, []⟩ s ∧
      ended s.store.registry "cutover-1" .rolledBack ∧
        s.store.target.stateOf "cutover-1" = some .finalized := by
  constructor
  · exact Reach.of_run_any (l := confirmed ++ List.replicate 6 (Event.advance 2) ++
      [Event.advance 0] ++ rollbackAsked ++ List.replicate 7 (Event.advance 5) ++
      List.replicate 5 (Event.advance 0))
      (by decide +kernel)
  · exact Reach.of_run_any (l := confirmed ++ List.replicate 4 (Event.advance 2) ++ rollbackAsked ++
      List.replicate 9 (Event.advance 5) ++ List.replicate 6 (Event.advance 3) ++ [Event.advance 2])
      (by decide +kernel)

end Meowbox.PanelAccess
