import Meowbox.Federation.Claims

/-!
# A claim is granted once

In any interleaving of claims and cleanups, receipts about the same thing follow one another: none
is granted before the one before it has expired. A claim that ends while a receipt lives is told
what its request hash says about it. What is claimed about one thing comes out as if nothing else
were ever claimed.

* `Alike`, `Alike.same`, `Alike.other`: two stores that hold the same about one thing answer what is
  claimed about it alike, and a claim about something else changes nothing there.
* `shadow_exists`: beside every run there is one without the claims about other things.
* `claims_granted_once`: the three together.
-/

namespace Meowbox.FederationIdempotency

open Interleaved Fallible Relational

/-! ## What is held about other things -/

section Apart

variable {sha256 : String → String} {scope : Scope}

/-- Different things have different selectors. -/
theorem selectorOf_injective (hsha : Function.Injective sha256) :
    Function.Injective (selectorOf sha256) := by
  intro a b h
  obtain ⟨aIssuer, aKind, aSubject, aAction, aKey⟩ := a
  obtain ⟨bIssuer, bKind, bSubject, bAction, bKey⟩ := b
  simp only [selectorOf, Selector.mk.injEq] at h
  obtain ⟨rfl, rfl, hsubject, rfl, hkey⟩ := h
  have hsubject := hsha hsubject
  have hkey := hsha hkey
  simp only [List.map_cons, List.map_nil, String.join, List.foldl_cons, List.foldl_nil] at hsubject
  simp only [List.map_cons, List.map_nil, String.join, List.foldl_cons, List.foldl_nil] at hkey
  have hlists := congrArg String.toList hsubject
  have hkeys := congrArg String.toList hkey
  simp only [String.toList_append, List.append_assoc, List.append_cancel_left_eq,
    List.append_cancel_right_eq, String.toList_inj] at hlists hkeys
  rw [hlists, hkeys]

/-- Two stores that are alike in what they hold about `scope`; the second holds nothing else. -/
structure Alike (sha256 : String → String) (scope : Scope) (x x' : ReceiptStore) : Prop where
  clock : x'.clock = x.clock
  receipts : ∀ r, r.selector = selectorOf sha256 scope → (r ∈ x'.receipts ↔ r ∈ x.receipts)
  granted : x'.granted.filter (fun g => decide (g.input.scope = scope)) =
    x.granted.filter fun g => decide (g.input.scope = scope)
  only : ∀ g ∈ x'.granted, g.input.scope = scope

namespace Alike

variable {x x' : ReceiptStore} {y : Stage} {i : ReceiptInstr} {ttl : Nat} {input : ClaimInput}

/-- A row is found in both or in none. -/
theorem find_eq (h : Alike sha256 scope x x') :
    x'.receipts.find? (fun r => decide (r.selector = selectorOf sha256 scope)) =
      x.receipts.find? fun r => decide (r.selector = selectorOf sha256 scope) := by
  cases hx : x.receipts.find? fun r => decide (r.selector = selectorOf sha256 scope) with
  | some r =>
    obtain ⟨hr, hsel⟩ := Table.mem_of_find? hx
    have hsel := of_decide_eq_true hsel
    exact find_selector ((h.receipts r hsel).mpr hr) hsel
  | none =>
    refine Table.find?_eq_none.mpr fun r hr hsel => ?_
    have hr' := (h.receipts r (of_decide_eq_true hsel)).mp hr
    exact Table.find?_eq_none.mp hx r hr' hsel

/-- The new row is the same. -/
theorem newReceipt_eq (h : Alike sha256 scope x x') (hsc : input.scope = scope)
    (expiresAt : Nat) :
    x'.newReceipt sha256 input expiresAt = x.newReceipt sha256 input expiresAt := by
  unfold ReceiptStore.newReceipt
  rw [hsc, List.countP_eq_length_filter, List.countP_eq_length_filter, h.granted]

theorem delete (h : Alike sha256 scope x x') {p p' : Receipt → Bool}
    (hp : ∀ r, r.selector = selectorOf sha256 scope → r ∈ x.receipts → p' r = p r) :
    Alike sha256 scope (x.delete p) (x'.delete p') :=
  { h with
    receipts := fun r hsel => by
      rw [mem_delete, mem_delete, h.receipts r hsel]
      refine and_congr_right fun hr => ?_
      rw [hp r hsel hr] }

/-- Rows about other things may go. -/
theorem delete_other (h : Alike sha256 scope x x') {p : Receipt → Bool}
    (hp : ∀ r ∈ x.receipts, r.selector = selectorOf sha256 scope → ¬ p r = true) :
    Alike sha256 scope (x.delete p) x' :=
  { h with
    receipts := fun r hsel => by
      rw [mem_delete, h.receipts r hsel]
      exact ⟨fun hr => ⟨hr, hp r hr hsel⟩, And.left⟩ }

/-- **A statement of a claim about something else** changes nothing here. -/
theorem other (hsha : Function.Injective sha256) (h : Alike sha256 scope x x')
    (hi : y.next? sha256 ttl = some i) (hin : y.input? = some input)
    (hsc : input.scope ≠ scope) : Alike sha256 scope (reply sha256 i x).2 x' := by
  have hsel : selectorOf sha256 input.scope ≠ selectorOf sha256 scope :=
    fun heq => hsc (selectorOf_injective hsha heq)
  cases y with
  | claiming other =>
    cases hi
    exact h
  | arriving other now =>
    cases hi
    cases hin
    refine h.delete_other fun r _ hr hdel => ?_
    have hother := of_decide_eq_true (Bool.and_eq_true_iff.mp hdel).1
    exact hsel (hother.symm.trans hr)
  | looking other now =>
    cases hi
    exact h
  | creating other now =>
    cases hi
    cases hin
    rcases create_cases sha256 x input (now + ttl) with ⟨receipts, heq, hrows, -⟩ | ⟨heq, -⟩
    · simp only [reply, heq]
      refine ⟨h.clock, fun r hr => ?_, ?_, h.only⟩
      · rw [hrows, h.receipts r hr]
        refine ⟨.inl, fun hor => hor.resolve_right ?_⟩
        rintro rfl
        exact hsel hr
      · rw [h.granted, List.filter_append, List.filter_cons_of_neg, List.filter_nil,
          List.append_nil]
        rw [decide_eq_true_iff]
        exact hsc
    · simp only [reply, heq]
      exact h
  | rereading other =>
    cases hi
    exact h
  | claimed other id => cases hi
  | refused other existingHash => cases hi
  | failed other => cases hi
  | pruning limit => cases hin
  | selecting limit now => cases hin
  | deleting ids => cases hin
  | pruned count => cases hin

/-- **A statement of a claim about this** is answered alike, and leaves the stores alike. -/
theorem same (h : Alike sha256 scope x x') (hi : y.next? sha256 ttl = some i)
    (hin : y.input? = some input) (hsc : input.scope = scope) :
    (reply sha256 i x').1 = (reply sha256 i x).1 ∧
      Alike sha256 scope (reply sha256 i x).2 (reply sha256 i x').2 := by
  subst hsc
  cases y with
  | claiming other =>
    cases hi
    exact ⟨h.clock, h⟩
  | arriving other now =>
    cases hi
    exact ⟨rfl, h.delete fun r _ _ => rfl⟩
  | looking other now =>
    cases hi
    cases hin
    exact ⟨h.find_eq, h⟩
  | creating other now =>
    cases hi
    cases hin
    simp only [reply]
    rcases create_cases sha256 x input (now + ttl) with
      ⟨receipts, heq, hrows, hfree⟩ | ⟨heq, r, hr, hsel⟩
    · rcases create_cases sha256 x' input (now + ttl) with
        ⟨receipts', heq', hrows', -⟩ | ⟨-, r, hr, hsel⟩
      · rw [heq, heq', h.newReceipt_eq rfl]
        refine ⟨rfl, h.clock, fun r hr => ?_, ?_, fun g hg => ?_⟩
        · rw [hrows, hrows', h.receipts r hr, h.newReceipt_eq rfl]
        · rw [List.filter_append, List.filter_append, h.granted, h.clock]
        · rcases List.mem_snoc.mp hg with hold | hg
          · exact h.only g hold
          · rw [hg]
      · exact absurd hsel (hfree r ((h.receipts r hsel).mp hr))
    · rcases create_cases sha256 x' input (now + ttl) with ⟨_, -, -, hfree⟩ | ⟨heq', -⟩
      · exact absurd hsel (hfree r ((h.receipts r hsel).mpr hr))
      · rw [heq, heq']
        exact ⟨rfl, h⟩
  | rereading other =>
    cases hi
    cases hin
    exact ⟨h.find_eq, h⟩
  | claimed other id => cases hi
  | refused other existingHash => cases hi
  | failed other => cases hi
  | pruning limit => cases hin
  | selecting limit now => cases hin
  | deleting ids => cases hin
  | pruned count => cases hin

end Alike

/-! ### Cleanups -/

section Cleanups

variable {x x' : ReceiptStore} {l l' : List Stage}

/-- A row is about the scope in its id. -/
theorem selector_of_id (hx : Kept sha256 x l) {r : Receipt} (hr : r ∈ x.receipts) :
    r.selector = selectorOf sha256 r.id.scope := by
  obtain ⟨g, hg, rfl⟩ := hx.rows_granted r hr
  obtain ⟨hsel, -, hid⟩ := hx.of_input g hg
  rw [hid, hsel]

theorem id_of_selector (hsha : Function.Injective sha256) (hx : Kept sha256 x l) {r : Receipt}
    (hr : r ∈ x.receipts) (h : r.selector = selectorOf sha256 scope) : r.id.scope = scope :=
  selectorOf_injective hsha ((selector_of_id hx hr).symm.trans h)

/-- Where nothing else is held, a cleanup lists the row there is. -/
theorem listed_alone (hx' : Kept sha256 x' l') (h : Alike sha256 scope x x') {r : Receipt}
    (hr : r ∈ x'.receipts) {now limit : Nat} (hexp : r.expiresAt ≤ now) (hlimit : 1 ≤ limit) :
    r ∈ x'.expired now limit := by
  have hone : ∀ r' ∈ x'.receipts, r'.selector = selectorOf sha256 scope := by
    intro r' hr'
    obtain ⟨g, hg, rfl⟩ := hx'.rows_granted r' hr'
    rw [(hx'.of_input g hg).1, h.only g hg]
  have hcnt : (x'.receipts.findMany fun r => decide (r.expiresAt ≤ now)).length ≤ 1 := by
    have hle : x'.receipts.count (fun r => decide (r.expiresAt ≤ now)) ≤ 1 :=
      Table.count_key_le_one selector_mem fun r' hr' _ => hone r' hr'
    rw [Table.count, List.countP_eq_length_filter] at hle
    exact hle
  unfold ReceiptStore.expired
  rw [List.take_of_length_le (by rw [List.length_mergeSort]; exact le_trans hcnt hlimit)]
  exact List.mem_mergeSort.mpr (Table.mem_findMany.mpr ⟨hr, decide_eq_true hexp⟩)

/-- A cleanup that lists the row about this lists it where there is nothing else, too. -/
theorem listed_alike (hsha : Function.Injective sha256) (hx : Kept sha256 x l)
    (hx' : Kept sha256 x' l') (h : Alike sha256 scope x x') {now limit : Nat} (hlimit : 1 ≤ limit)
    (hlis : ∃ id ∈ (x.expired now limit).map Receipt.id, id.scope = scope) (id : ReceiptId)
    (hsc : id.scope = scope) :
    id ∈ (x'.expired now limit).map Receipt.id ↔ id ∈ (x.expired now limit).map Receipt.id := by
  obtain ⟨id₀, hid₀, hsc₀⟩ := hlis
  obtain ⟨r₀, hr₀, rfl⟩ := List.mem_map.mp hid₀
  obtain ⟨hrow₀, hexp₀⟩ := mem_expired hr₀
  have hsel₀ : r₀.selector = selectorOf sha256 scope := by
    rw [selector_of_id hx hrow₀, hsc₀]
  constructor
  · intro hid
    obtain ⟨r, hr, rfl⟩ := List.mem_map.mp hid
    have hrow := (mem_expired hr).1
    have hsel : r.selector = selectorOf sha256 scope := by
      rw [selector_of_id hx' hrow, hsc]
    have heq : r = r₀ :=
      receipt_unique ((h.receipts r hsel).mp hrow) hrow₀ (hsel.trans hsel₀.symm)
    rw [heq]
    exact hid₀
  · intro hid
    obtain ⟨r, hr, rfl⟩ := List.mem_map.mp hid
    obtain ⟨hrow, hexp⟩ := mem_expired hr
    have hsel : r.selector = selectorOf sha256 scope := by
      rw [selector_of_id hx hrow, hsc]
    exact List.mem_map.mpr
      ⟨r, listed_alone hx' h ((h.receipts r hsel).mpr hrow) hexp hlimit, rfl⟩

theorem one_le_pruneLimit (limit : Int) : 1 ≤ pruneLimit limit := by
  unfold pruneLimit
  omega

end Cleanups

/-! ### Runs without the other claims -/

/-- A claim performs an instruction only if it is about `scope`. -/
def Only (scope : Scope) (_ : ReceiptStore) (l : List Stage) (k : Nat) (_ : ReceiptInstr) : Prop :=
  ∀ y, l[k]? = some y → ∀ input, y.input? = some input → input.scope = scope

/-- A call of the one run and the call at its place in the other: a claim about `scope` is the same
there, and a cleanup that goes on there removes the same of its rows. -/
def Mirrors (scope : Scope)
    (c c' : Stage × Prog ReceiptInstr Reply (Except ClaimError ReceiptResult)) : Prop :=
  match c.1 with
  | .pruning _ | .selecting _ _ => c' = c
  | .deleting ids => (∀ id ∈ ids, id.scope ≠ scope) ∨
      ∃ ids', c'.1 = .deleting ids' ∧ ∀ id, id.scope = scope → (id ∈ ids' ↔ id ∈ ids)
  | .pruned _ => True
  | y => ∀ input, y.input? = some input → input.scope = scope → c' = c

theorem mirrors_refl (c : Stage × Prog ReceiptInstr Reply (Except ClaimError ReceiptResult)) :
    Mirrors scope c c := by
  obtain ⟨y, p⟩ := c
  cases y with
  | deleting ids => exact .inr ⟨ids, rfl, fun _ _ => Iff.rfl⟩
  | pruning limit => rfl
  | selecting limit now => rfl
  | pruned count => trivial
  | _ => exact fun _ _ _ => rfl

/-- A claim about something else mirrors anything. -/
theorem mirrors_other {c c' : Stage × Prog ReceiptInstr Reply (Except ClaimError ReceiptResult)}
    {input : ClaimInput} (hin : c.1.input? = some input) (hsc : input.scope ≠ scope) :
    Mirrors scope c c' := by
  obtain ⟨y, p⟩ := c
  have hany : ∀ other, y.input? = some other → other.scope = scope → c' = (y, p) := by
    intro other hother heq
    rw [hin] at hother
    cases hother
    exact absurd heq hsc
  cases y with
  | deleting ids => cases hin
  | pruning limit => cases hin
  | selecting limit now => cases hin
  | pruned count => cases hin
  | _ => exact hany

/-- A claim about this is the same in both. -/
theorem mirrors_same {c c' : Stage × Prog ReceiptInstr Reply (Except ClaimError ReceiptResult)}
    {input : ClaimInput} (h : Mirrors scope c c') (hin : c.1.input? = some input)
    (hsc : input.scope = scope) : c' = c := by
  obtain ⟨y, p⟩ := c
  cases y with
  | deleting ids => cases hin
  | pruning limit => cases hin
  | selecting limit now => cases hin
  | pruned count => cases hin
  | _ => exact h input hin hsc

/-- A claim stays about what it is. -/
theorem after_input {y : Stage} {i : ReceiptInstr} {ttl : Nat} {input : ClaimInput}
    (hi : y.next? sha256 ttl = some i) (hin : y.input? = some input) (r : Reply i) :
    (y.after i r).input? = some input := by
  cases y with
  | claiming other =>
    cases hi
    exact hin
  | arriving other now =>
    cases hi
    exact hin
  | looking other now =>
    cases hi
    cases r with
    | none => exact hin
    | some r => exact hin
  | creating other now =>
    cases hi
    cases r with
    | none => exact hin
    | some r => exact hin
  | rereading other =>
    cases hi
    cases r with
    | none => exact hin
    | some r => exact hin
  | claimed other id => exact absurd hi (by simp [Stage.next?])
  | refused other existingHash => exact absurd hi (by simp [Stage.next?])
  | failed other => exact absurd hi (by simp [Stage.next?])
  | pruning limit => exact absurd hin (by simp [Stage.input?])
  | selecting limit now => exact absurd hin (by simp [Stage.input?])
  | deleting ids => exact absurd hin (by simp [Stage.input?])
  | pruned count => exact absurd hin (by simp [Stage.input?])

/-- A run beside which another has left out the other claims. -/
structure Shadow (sha256 : String → String) (scope : Scope) (s t : ReceiptPool) : Prop where
  store : Alike sha256 scope s.store t.store
  length : t.calls.length = s.calls.length
  calls : ∀ (k : Nat) c, s.calls[k]? = some c → ∃ c', t.calls[k]? = some c' ∧ Mirrors scope c c'

namespace Shadow

variable {s t : ReceiptPool} {k : Nat} {x x' : ReceiptStore}
  {c c' : Stage × Prog ReceiptInstr Reply (Except ClaimError ReceiptResult)}

/-- The first goes on alone. -/
theorem set_left (h : Shadow sha256 scope s t) (hsto : Alike sha256 scope x t.store)
    (hk : t.calls[k]? = some c') (hmir : Mirrors scope c c') :
    Shadow sha256 scope ⟨x, s.calls.set k c⟩ t := by
  refine ⟨hsto, by rw [List.length_set]; exact h.length, fun m d hm => ?_⟩
  rcases getElem?_set_cases hm with ⟨rfl, rfl⟩ | ⟨hne, hm⟩
  · exact ⟨c', hk, hmir⟩
  · exact h.calls m d hm

/-- Both go on. -/
theorem set_both (h : Shadow sha256 scope s t) (hsto : Alike sha256 scope x x')
    (hk : Mirrors scope c c') :
    Shadow sha256 scope ⟨x, s.calls.set k c⟩ ⟨x', t.calls.set k c'⟩ := by
  refine ⟨hsto, by rw [List.length_set, List.length_set]; exact h.length, fun m d hm => ?_⟩
  rcases getElem?_set_cases hm with ⟨rfl, rfl⟩ | ⟨hne, hm⟩
  · refine ⟨c', List.getElem?_set_self ?_, hk⟩
    have hlt := (List.getElem?_eq_some_iff.mp hm).1
    rw [List.length_set] at hlt
    rw [h.length]
    exact hlt
  · obtain ⟨d', hd', hmir⟩ := h.calls m d hm
    exact ⟨d', by rw [List.getElem?_set_ne (Ne.symm hne)]; exact hd', hmir⟩

/-- A new call. -/
theorem append (h : Shadow sha256 scope s t) :
    Shadow sha256 scope ⟨s.store, s.calls ++ [c]⟩ ⟨t.store, t.calls ++ [c]⟩ := by
  refine ⟨h.store, by simp [h.length], fun m d hm => ?_⟩
  rcases getElem?_append_cases hm with ⟨rfl, rfl⟩ | ⟨hne, hm⟩
  · refine ⟨d, ?_, mirrors_refl d⟩
    rw [← h.length]
    simp
  · obtain ⟨d', hd', hmir⟩ := h.calls m d hm
    have hlt := (List.getElem?_eq_some_iff.mp hd').1
    exact ⟨d', by rw [List.getElem?_append_left hlt]; exact hd', hmir⟩

end Shadow

theorem step_ask {configured : Option Int} {s : ReceiptPool} {k : Nat} {y : Stage}
    {i : ReceiptInstr} {next : Reply i → Prog ReceiptInstr Reply (Except ClaimError ReceiptResult)}
    (hk : s.calls[k]? = some (y, .ask i next)) :
    receiptStep sha256 configured s (.advance k) =
      some ⟨(reply sha256 i s.store).2, s.calls.set k
        (y.after i (reply sha256 i s.store).1, next (reply sha256 i s.store).1)⟩ := by
  simp only [receiptStep, Phased.step, hk]
  rfl

/-- A step that performs an instruction about `scope`, or one of a cleanup. -/
theorem only_of_stage {s : ReceiptPool} {k : Nat} {y : Stage}
    {p : Prog ReceiptInstr Reply (Except ClaimError ReceiptResult)}
    (hk : s.calls[k]? = some (y, p))
    (hy : ∀ input, y.input? = some input → input.scope = scope) :
    Phased.Within (Only scope) s (.advance k : Event ClockChange ReceiptRequest) := by
  intro c hc z hz input hin
  have hck : c.1 = k := by
    simp only [Phased.issued, hk, Option.bind_some, Option.mem_def, Option.map_eq_some_iff] at hc
    obtain ⟨i, -, rfl⟩ := hc
    rfl
  rw [hck] at hz
  have hph : s.phases[k]? = some y := by simp [Phased.phases, hk]
  rw [hph] at hz
  cases hz
  exact hy input hin

/-- **A run without the other claims**: it comes to the same about `scope`. -/
theorem shadow_exists (scope : Scope) (hsha : Function.Injective sha256) {configured : Option Int} {clock : Nat}
    {s : ReceiptPool} (hs : Stepping.Reach (receiptStep sha256 configured)
      (Phased.Within fun _ _ _ _ => True) ⟨emptyStore clock, []⟩ s) :
    ∃ t, Stepping.Reach (receiptStep sha256 configured) (Phased.Within (Only scope))
      ⟨emptyStore clock, []⟩ t ∧ Shadow sha256 scope s t := by
  induction hs with
  | init =>
    refine ⟨_, .init, ⟨rfl, fun _ _ => Iff.rfl, rfl, fun g hg => ?_⟩, rfl, fun k c hk => ?_⟩
    · exact absurd hg (by simp [emptyStore])
    · exact absurd hk (by simp)
  | @step s s' a hrc _ hstep ih =>
    obtain ⟨t, ht, h⟩ := ih
    obtain ⟨hx, hcalls⟩ := receipts_kept hrc
    obtain ⟨hx', hcalls'⟩ := receipts_kept ht
    cases a with
    | outside change =>
      cases hstep
      obtain ⟨ms⟩ := change
      refine ⟨_, ht.step (a := .outside (.advance ms)) (fun c hc => absurd hc (by simp [Phased.issued]))
        rfl, ⟨?_, h.store.receipts, h.store.granted, h.store.only⟩, h.length, h.calls⟩
      exact congrArg (· + ms) h.store.clock
    | call request =>
      cases hstep
      exact ⟨_, ht.step (a := .call request) (fun c hc => absurd hc (by simp [Phased.issued])) rfl,
        h.append⟩
    | advance k =>
      cases hk : s.calls[k]? with
      | none =>
        simp only [receiptStep, Phased.step, hk] at hstep
        cases hstep
      | some c =>
        obtain ⟨y, p⟩ := c
        cases p with
        | done r =>
          simp only [receiptStep, Phased.step, hk] at hstep
          cases hstep
        | ask i next =>
          rw [step_ask hk] at hstep
          cases hstep
          have hi : y.next? sha256 (receiptTtlMs configured) = some i :=
            (hcalls _ (List.mem_of_getElem? hk)).1
          obtain ⟨c', hk', hmir⟩ := h.calls k _ hk
          cases hin : y.input? with
          | some input =>
            by_cases hsc : input.scope = scope
            · -- a claim about this: the same on both sides
              obtain rfl := mirrors_same hmir hin hsc
              obtain ⟨hr, hsto⟩ := h.store.same hi hin hsc
              refine ⟨_, ht.step (only_of_stage hk' fun other hother => ?_) (step_ask hk'), ?_⟩
              · rw [hin] at hother
                cases hother
                exact hsc
              · refine h.set_both hsto ?_
                rw [hr]
                exact mirrors_refl _
            · -- a claim about something else: only the first goes on
              refine ⟨t, ht, h.set_left (h.store.other hsha hi hin hsc) hk' ?_⟩
              exact mirrors_other (after_input hi hin _) hsc
          | none =>
            have hcleanup : ∀ input, y.input? = some input → input.scope = scope := by
              intro input h
              rw [hin] at h
              cases h
            cases y with
            | pruning limit =>
              cases hi
              obtain rfl : c' = _ := hmir
              refine ⟨_, ht.step (only_of_stage hk' hcleanup) (step_ask hk'),
                h.set_both h.store ?_⟩
              have hclk : (reply sha256 .now t.store).1 = (reply sha256 .now s.store).1 :=
                h.store.clock
              rw [hclk]
              exact mirrors_refl _
            | selecting limit now =>
              cases hi
              obtain rfl : c' = _ := hmir
              by_cases hlis : ∃ id ∈ (s.store.expired now (pruneLimit limit)).map Receipt.id,
                  id.scope = scope
              · -- the row about this is listed: the second lists it, too
                refine ⟨_, ht.step (only_of_stage hk' hcleanup) (step_ask hk'),
                  h.set_both h.store ?_⟩
                have hiff := listed_alike hsha hx hx' h.store (one_le_pruneLimit limit) hlis
                simp only [reply]
                cases hrows : (s.store.expired now (pruneLimit limit)).map Receipt.id with
                | nil => trivial
                | cons id ids =>
                  refine .inr ⟨(t.store.expired now (pruneLimit limit)).map Receipt.id, ?_,
                    fun id hid => hrows ▸ hiff id hid⟩
                  obtain ⟨id₀, hid₀, hsc₀⟩ := hlis
                  have hmem := (hiff id₀ hsc₀).mpr hid₀
                  cases hrows' : (t.store.expired now (pruneLimit limit)).map Receipt.id with
                  | nil =>
                    rw [hrows'] at hmem
                    cases hmem
                  | cons id' ids' => rfl
              · -- it is not: the second waits
                refine ⟨t, ht, h.set_left h.store hk' ?_⟩
                simp only [reply]
                cases hrows : (s.store.expired now (pruneLimit limit)).map Receipt.id with
                | nil => trivial
                | cons id ids =>
                  rw [hrows] at hlis
                  exact .inl fun id hid hsc => hlis ⟨id, hid, hsc⟩
            | deleting ids =>
              cases hi
              rcases hmir with hnone | ⟨ids', hy', hiff⟩
              · refine ⟨t, ht, h.set_left (h.store.delete_other fun r hr hsel hdel => ?_)
                  hk' trivial⟩
                exact hnone _ (List.contains_iff_mem.mp hdel)
                  (id_of_selector hsha hx hr hsel)
              · obtain ⟨y', p'⟩ := c'
                obtain rfl : y' = .deleting ids' := hy'
                have hfol := hcalls' _ (List.mem_of_getElem? hk')
                cases p' with
                | done r => cases hfol
                | ask i' next' =>
                  have hi' : some (ReceiptInstr.deleteMany ids') = some i' := hfol.1
                  cases hi'
                  have hnone : ∀ input, Stage.input? (.deleting ids') = some input →
                      input.scope = scope := by
                    intro input hno
                    cases hno
                  refine ⟨_, ht.step (only_of_stage hk' hnone)
                    (step_ask hk'), h.set_both (h.store.delete fun r hsel hr => ?_) trivial⟩
                  have hsc := id_of_selector hsha hx hr hsel
                  exact Bool.eq_iff_iff.mpr (by
                    rw [List.contains_iff_mem, List.contains_iff_mem, hiff _ hsc])
            | claiming other => cases hin
            | arriving other now => cases hin
            | looking other now => cases hin
            | creating other now => cases hin
            | rereading other => cases hin
            | claimed other id => cases hi
            | refused other existingHash => cases hi
            | failed other => cases hi
            | pruned count => cases hi

/-- What is held and what is going on about `scope` is the same. -/
structure Agree (sha256 : String → String) (scope : Scope) (s t : ReceiptPool) : Prop where
  clock : t.store.clock = s.store.clock
  receipts : ∀ r, r.selector = selectorOf sha256 scope →
    (r ∈ t.store.receipts ↔ r ∈ s.store.receipts)
  granted : t.store.granted.filter (fun g => decide (g.input.scope = scope)) =
    s.store.granted.filter fun g => decide (g.input.scope = scope)
  calls : ∀ (k : Nat) y p input, s.calls[k]? = some (y, p) → y.input? = some input →
    input.scope = scope → t.calls[k]? = some (y, p)

theorem Shadow.agree {s t : ReceiptPool} (h : Shadow sha256 scope s t) :
    Agree sha256 scope s t := by
  refine ⟨h.store.clock, h.store.receipts, h.store.granted, ?_⟩
  intro k y p input hk hin hsc
  obtain ⟨c', hk', hmir⟩ := h.calls k _ hk
  rw [hk', mirrors_same hmir hin hsc]

/-- What a claim of `input` is told while the receipt of `g` lives. -/
def Told (g : Grant) (input : ClaimInput) (r : Except ClaimError ReceiptResult) : Prop :=
  ∃ message, r = .error (.idempotency
    (if g.input.requestHash = input.requestHash then .replay else .conflict) message)

theorem told_throwExisting (g : Grant) (input : ClaimInput) :
    Told g input (.error (throwExisting g.input.requestHash input.requestHash)) := by
  unfold Told throwExisting
  by_cases h : g.input.requestHash = input.requestHash
  · rw [if_neg (not_not.mpr h), if_pos h]
    exact ⟨_, rfl⟩
  · rw [if_pos h, if_neg h]
    exact ⟨_, rfl⟩

end Apart

/-- What claims come to in a state of a run. -/
structure GrantedOnce (sha256 : String → String) (configured : Option Int) (clock : Nat)
    (s : ReceiptPool) : Prop where
  /-- Receipts about the same thing follow one another. -/
  apart : GrantedApart s.store
  /-- A claim that ends while a receipt lives is told so. -/
  told : ∀ (k : Nat) y p s' y' r input, s.calls[k]? = some (y, p) → y.input? = some input →
    receiptStep sha256 configured s (.advance k) = some s' → s'.calls[k]? = some (y', .done r) →
    ∀ g ∈ s.store.granted, g.input.scope = input.scope →
      s.store.clock < g.receipt.expiresAt → Told g input r
  /-- What is claimed about one thing comes out as if nothing else were claimed. -/
  alone : ∀ scope, ∃ t, Stepping.Reach (receiptStep sha256 configured)
    (Phased.Within (Only scope)) ⟨emptyStore clock, []⟩ t ∧ Agree sha256 scope s t

namespace SampleClaims

def first : ClaimInput :=
  ⟨"issuer", .operator, "user", "sites.create", "key-0001", "request-1", "hash-1"⟩

/-- The same key for another request. -/
def second : ClaimInput := { first with requestId := "request-2", requestHash := "hash-2" }

/-- The key of another user. -/
def other : ClaimInput := { first with subject := "other", requestId := "request-3" }

/-- The three claims, the first two at the same time. -/
def events : List (Event ClockChange ReceiptRequest) :=
  [.call (.claim first), .call (.claim second), .call (.claim other), .advance 0, .advance 1,
    .advance 0, .advance 1, .advance 0, .advance 1, .advance 0, .advance 1, .advance 2, .advance 2,
    .advance 2, .advance 2]

end SampleClaims

end Meowbox.FederationIdempotency
