import Meowbox.Federation.Idempotency

/-!
# Receipts while they live

The stages of `claim` and `pruneExpired`, and what every interleaving of them keeps.

* `request_stages`: a call performs its statements in this order, and ends as its stage says.
* `Kept`: a receipt that lives has its row; what a cleanup has listed has expired; receipts about
  the same thing follow one another.
-/

namespace Meowbox.FederationIdempotency

open Interleaved Fallible Relational

/-! ## Stages -/

/-- Where a call stands. -/
inductive Stage
  | claiming (input : ClaimInput)
  | arriving (input : ClaimInput) (now : Nat)
  | looking (input : ClaimInput) (now : Nat)
  | creating (input : ClaimInput) (now : Nat)
  /-- Behind the unique violation. -/
  | rereading (input : ClaimInput)
  | claimed (input : ClaimInput) (id : ReceiptId)
  | refused (input : ClaimInput) (existingHash : String)
  | failed (input : ClaimInput)
  | pruning (limit : Int)
  | selecting (limit : Int) (now : Nat)
  | deleting (ids : List ReceiptId)
  | pruned (count : Nat)
deriving DecidableEq

namespace Stage

/-- The input of a claim. -/
def input? : Stage → Option ClaimInput
  | claiming input | arriving input _ | looking input _ | creating input _ | rereading input
  | claimed input _ | refused input _ | failed input => some input
  | pruning _ | selecting _ _ | deleting _ | pruned _ => none

def start : ReceiptRequest → Stage
  | .claim input => claiming input
  | .pruneExpired limit => pruning limit

/-- The instruction that is next. -/
def next? (sha256 : String → String) (ttl : Nat) : Stage → Option ReceiptInstr
  | claiming _ => some .now
  | arriving input now => some (.deleteExpired (selectorOf sha256 input.scope) now)
  | looking input _ => some (.findFirst (selectorOf sha256 input.scope))
  | creating input now => some (.create input (now + ttl))
  | rereading input => some (.findFirst (selectorOf sha256 input.scope))
  | pruning _ => some .now
  | selecting limit now => some (.findExpired now (pruneLimit limit))
  | deleting ids => some (.deleteMany ids)
  | claimed _ _ | refused _ _ | failed _ | pruned _ => none

/-- What an answer tells. -/
def after (y : Stage) : (i : ReceiptInstr) → Reply i → Stage
  | .now, now =>
    match y with
    | claiming input => arriving input now
    | pruning limit => selecting limit now
    | _ => y
  | .deleteExpired _ _, _ =>
    match y with
    | arriving input now => looking input now
    | _ => y
  | .findFirst _, existing =>
    match y, existing with
    | looking input _, some r => refused input r.requestHash
    | looking input now, none => creating input now
    | rereading input, some r => refused input r.requestHash
    | rereading input, none => failed input
    | _, _ => y
  | .create _ _, created =>
    match y, created with
    | creating input _, some id => claimed input id
    | creating input _, none => rereading input
    | _, _ => y
  | .findExpired _ _, rows =>
    match y, rows with
    | selecting _ _, [] => pruned 0
    | selecting _ _, id :: ids => deleting (id :: ids)
    | _, _ => y
  | .deleteMany _, count =>
    match y with
    | deleting _ => pruned count
    | _ => y

/-- The result of a call that has ended. -/
def result? : Stage → Option (Except ClaimError ReceiptResult)
  | claimed _ id => some (.ok (.claimed id))
  | refused input existingHash => some (.error (throwExisting existingHash input.requestHash))
  | failed _ => some (.error .p2002)
  | pruned count => some (.ok (.pruned count))
  | _ => none

end Stage

/-- A call that has ended performs nothing more. -/
theorem next_of_result {sha256 : String → String} {ttl : Nat} {y : Stage}
    {r : Except ClaimError ReceiptResult} (h : y.result? = some r) : y.next? sha256 ttl = none := by
  cases y with
  | claimed input id => rfl
  | refused input existingHash => rfl
  | failed input => rfl
  | pruned count => rfl
  | _ => exact absurd h (by simp [Stage.result?])

/-- The order of the statements. -/
def receiptOrder (sha256 : String → String) (ttl : Nat) : Protocol Stage ReceiptInstr Reply where
  allows y i := y.next? sha256 ttl = some i
  after := Stage.after

/-- A call ends with the result its stage says. -/
def Ended (y : Stage) (r : Except ClaimError ReceiptResult) : Prop := y.result? = some r

section Programs

variable (sha256 : String → String) (ttl : Nat)

/-- How the transaction of a claim ends. -/
def TransactionEnded (input : ClaimInput) (y : Stage) (r : Except ClaimError ReceiptId) : Prop :=
  match r with
  | .ok id => y = .claimed input id
  | .error .p2002 => y = .rereading input
  | .error e => ∃ existingHash, y = .refused input existingHash ∧
      e = throwExisting existingHash input.requestHash

theorem claimTransaction_stages (input : ClaimInput) (now : Nat) :
    Follows (receiptOrder sha256 ttl) (TransactionEnded input) (.arriving input now)
      (claimTransaction sha256 ttl input now) := by
  unfold claimTransaction
  refine follows_ask rfl fun _ => follows_ask rfl fun existing => ?_
  cases existing with
  | some existing =>
    refine follows_throw ?_
    unfold throwExisting
    split
    · exact ⟨existing.requestHash, rfl, by rw [throwExisting, if_pos ‹_›]⟩
    · exact ⟨existing.requestHash, rfl, by rw [throwExisting, if_neg ‹_›]⟩
  | none =>
    refine follows_ask?_end rfl fun created => ?_
    cases created with
    | none => rfl
    | some id => rfl

theorem claim_stages (input : ClaimInput) :
    Follows (receiptOrder sha256 ttl)
      (fun y r => Ended y (r.map ReceiptResult.claimed)) (.claiming input)
      (claim sha256 ttl input) := by
  unfold claim
  refine follows_ask rfl fun now => follows_attempt (claimTransaction_stages sha256 ttl input now)
    fun y r hr => ?_
  cases r with
  | ok id =>
    obtain rfl : y = .claimed input id := hr
    exact follows_pure rfl
  | error e =>
    cases e with
    | p2002 =>
      obtain rfl : y = .rereading input := hr
      refine follows_ask rfl fun existing => ?_
      cases existing with
      | some existing => exact follows_throw rfl
      | none => exact follows_throw rfl
    | idempotency code message =>
      obtain ⟨existingHash, rfl, he⟩ := hr
      refine follows_throw ?_
      rw [he]
      rfl

theorem pruneExpired_stages (limit : Int) :
    Follows (receiptOrder sha256 ttl)
      (fun y r => Ended y (r.map ReceiptResult.pruned)) (.pruning limit) (pruneExpired limit) := by
  unfold pruneExpired
  refine follows_ask rfl fun now => follows_ask rfl fun rows => ?_
  cases rows with
  | nil => exact follows_pure rfl
  | cons id ids => exact follows_ask_end rfl fun count => rfl

/-- Every call keeps to the order. -/
theorem request_stages (configured : Option Int) (request : ReceiptRequest) :
    ((receiptService sha256 configured).program request).Follows
      (receiptOrder sha256 (receiptTtlMs configured)) Ended (Stage.start request) := by
  cases request with
  | claim input =>
    exact follows_bind (claim_stages sha256 _ input) (fun y id h => follows_pure h)
      fun y e h => h
  | pruneExpired limit =>
    exact follows_bind (pruneExpired_stages sha256 _ limit) (fun y count h => follows_pure h)
      fun y e h => h

end Programs

/-! ## The statements -/

section Statements

variable {sha256 : String → String} {x : ReceiptStore} {selector : Selector}

theorem selector_mem : Receipt.selector ∈ [Receipt.selector] := List.mem_singleton_self _

/-- Two rows with one selector are one. -/
theorem receipt_unique {r r' : Receipt} (hr : r ∈ x.receipts) (hr' : r' ∈ x.receipts)
    (h : r.selector = r'.selector) : r = r' :=
  Table.eq_of_key selector_mem hr hr' h

theorem find_selector {r : Receipt} (hr : r ∈ x.receipts) (h : r.selector = selector) :
    x.receipts.find? (fun r => decide (r.selector = selector)) = some r := by
  refine Table.find?_eq_some selector_mem hr (decide_eq_true h) fun b hb => ?_
  rw [of_decide_eq_true hb, h]

theorem mem_delete {p : Receipt → Bool} {r : Receipt} :
    r ∈ (x.delete p).receipts ↔ r ∈ x.receipts ∧ ¬ p r = true := by
  unfold ReceiptStore.delete Table.deleteMany
  rw [Table.mem_def, List.mem_filter, Bool.not_eq_true', Bool.not_eq_true]
  exact Iff.rfl

theorem mem_expired {now limit : Nat} {r : Receipt} (h : r ∈ x.expired now limit) :
    r ∈ x.receipts ∧ r.expiresAt ≤ now := by
  have hmem := List.mem_mergeSort.mp (List.mem_of_mem_take h)
  obtain ⟨hr, hexp⟩ := Table.mem_findMany.mp hmem
  exact ⟨hr, of_decide_eq_true hexp⟩

/-- **`create`** adds the row and the grant, where no row has its selector. -/
theorem create_cases (sha256 : String → String) (x : ReceiptStore) (input : ClaimInput)
    (expiresAt : Nat) :
    (∃ receipts, x.create sha256 input expiresAt =
        (some (x.newReceipt sha256 input expiresAt).id, { x with
          receipts := receipts
          granted := x.granted ++ [⟨input, x.newReceipt sha256 input expiresAt, x.clock⟩] }) ∧
      (∀ r, r ∈ receipts ↔ r ∈ x.receipts ∨ r = x.newReceipt sha256 input expiresAt) ∧
      ∀ r ∈ x.receipts, r.selector ≠ selectorOf sha256 input.scope) ∨
    (x.create sha256 input expiresAt = (none, x) ∧
      ∃ r ∈ x.receipts, r.selector = selectorOf sha256 input.scope) := by
  unfold ReceiptStore.create
  cases hc : x.receipts.create? (x.newReceipt sha256 input expiresAt) with
  | some receipts =>
    obtain ⟨hrows, hfree⟩ := Table.create?_eq_some hc
    refine .inl ⟨receipts, rfl, fun r => ?_, fun r hr hsel => ?_⟩
    · rw [Table.mem_def, hrows, List.mem_append, List.mem_singleton]
      exact Iff.rfl
    · exact hfree _ selector_mem (List.mem_map.mpr ⟨r, hr, hsel⟩)
  | none =>
    refine .inr ⟨rfl, ?_⟩
    by_contra hfree
    push Not at hfree
    obtain ⟨t, ht⟩ : ∃ t, x.receipts.create? (x.newReceipt sha256 input expiresAt) = some t := by
      refine Table.create?_of_free fun k hk => ?_
      rw [List.mem_singleton.mp hk]
      intro hmem
      obtain ⟨r, hr, hsel⟩ := List.mem_map.mp hmem
      exact hfree r hr hsel
    rw [hc] at ht
    exact nomatch ht

end Statements

/-! ## The invariant -/

/-- What a call has read holds on. -/
def Stage.Reads (x : ReceiptStore) : Stage → Prop
  | arriving _ now | looking _ now | creating _ now | selecting _ now => now ≤ x.clock
  | deleting ids => ∀ id ∈ ids, ∃ g ∈ x.granted, g.receipt.id = id ∧ g.receipt.expiresAt ≤ x.clock
  | _ => True

/-- Receipts about one thing follow one another. -/
def GrantedApart (x : ReceiptStore) : Prop :=
  x.granted.Pairwise fun g g' => g.input.scope = g'.input.scope →
    g.receipt.expiresAt ≤ g'.grantedAt

/-- The invariant. -/
structure Kept (sha256 : String → String) (x : ReceiptStore) (l : List Stage) : Prop where
  rows_granted : ∀ r ∈ x.receipts, ∃ g ∈ x.granted, g.receipt = r
  alive_kept : ∀ g ∈ x.granted, x.clock < g.receipt.expiresAt → g.receipt ∈ x.receipts
  of_input : ∀ g ∈ x.granted, g.receipt.selector = selectorOf sha256 g.input.scope ∧
    g.receipt.requestHash = g.input.requestHash ∧ g.receipt.id.scope = g.input.scope
  number_lt : ∀ g ∈ x.granted, g.receipt.id.number <
    x.granted.countP fun g' => decide (g'.input.scope = g.input.scope)
  ids_unique : ∀ g ∈ x.granted, ∀ g' ∈ x.granted, g.receipt.id = g'.receipt.id →
    g.receipt = g'.receipt
  apart : GrantedApart x
  reads : ∀ y ∈ l, y.Reads x

namespace Kept

variable {sha256 : String → String} {x : ReceiptStore} {l : List Stage} {k : Nat} {y z : Stage}

/-- A call that has read on. -/
theorem set_reads (hx : Kept sha256 x l) (hz : z.Reads x) : Kept sha256 x (l.set k z) :=
  { hx with
    reads := fun y hy => by
      rcases mem_set_cases hy with rfl | ⟨m, -, hm⟩
      · exact hz
      · exact hx.reads y (List.mem_of_getElem? hm) }

theorem start_reads (hx : Kept sha256 x l) (request : ReceiptRequest) :
    Kept sha256 x (l ++ [Stage.start request]) :=
  { hx with
    reads := fun y hy => by
      rcases List.mem_snoc.mp hy with hy | rfl
      · exact hx.reads y hy
      · cases request with
        | claim input => trivial
        | pruneExpired limit => trivial }

/-- Time passes. -/
theorem tick (hx : Kept sha256 x l) (ms : Nat) :
    Kept sha256 { x with clock := x.clock + ms } l :=
  { hx with
    alive_kept := fun g hg hali => hx.alive_kept g hg (by
      have hlat : x.clock + ms < g.receipt.expiresAt := hali
      omega)
    reads := fun y hy => by
      have hread := hx.reads y hy
      have hle : x.clock ≤ x.clock + ms := Nat.le_add_right _ _
      cases y with
      | arriving input now => exact le_trans hread hle
      | looking input now => exact le_trans hread hle
      | creating input now => exact le_trans hread hle
      | selecting limit now => exact le_trans hread hle
      | deleting ids =>
        intro id hid
        obtain ⟨g, hg, hgid, hexp⟩ := hread id hid
        exact ⟨g, hg, hgid, le_trans hexp hle⟩
      | _ => trivial }

/-- Rows that have expired may go. -/
theorem delete (hx : Kept sha256 x l) {p : Receipt → Bool}
    (hp : ∀ r ∈ x.receipts, p r = true → r.expiresAt ≤ x.clock) : Kept sha256 (x.delete p) l :=
  { hx with
    rows_granted := fun r hr => hx.rows_granted r (mem_delete.mp hr).1
    alive_kept := fun g hg hali => by
      have hrow := hx.alive_kept g hg hali
      refine mem_delete.mpr ⟨hrow, fun hpr => ?_⟩
      exact absurd (hp _ hrow hpr) (Nat.not_le.mpr hali) }

/-- A receipt may be granted where no row has its selector. -/
theorem create (hx : Kept sha256 x l) {input : ClaimInput} {expiresAt : Nat}
    {receipts : Table [Receipt.selector]}
    (hrows : ∀ r, r ∈ receipts ↔ r ∈ x.receipts ∨ r = x.newReceipt sha256 input expiresAt)
    (hfree : ∀ r ∈ x.receipts, r.selector ≠ selectorOf sha256 input.scope) :
    Kept sha256 { x with
      receipts := receipts
      granted := x.granted ++ [⟨input, x.newReceipt sha256 input expiresAt, x.clock⟩] } l := by
  have hnew : ∀ g ∈ x.granted, g.receipt.id ≠ (x.newReceipt sha256 input expiresAt).id := by
    intro g hg hid
    have hsc : g.input.scope = input.scope := by
      rw [← (hx.of_input g hg).2.2, hid]
      rfl
    have hlt := hx.number_lt g hg
    rw [hid, hsc] at hlt
    exact Nat.lt_irrefl _ hlt
  constructor
  · intro r hr
    rcases (hrows r).mp hr with hold | rfl
    · obtain ⟨g, hg, hgr⟩ := hx.rows_granted r hold
      exact ⟨g, List.mem_append_left _ hg, hgr⟩
    · exact ⟨_, List.mem_append_right _ (List.mem_singleton_self _), rfl⟩
  · intro g hg hali
    rcases List.mem_snoc.mp hg with hold | rfl
    · exact (hrows _).mpr (.inl (hx.alive_kept g hold hali))
    · exact (hrows _).mpr (.inr rfl)
  · intro g hg
    rcases List.mem_snoc.mp hg with hold | rfl
    · exact hx.of_input g hold
    · exact ⟨rfl, rfl, rfl⟩
  · intro g hg
    show _ < (x.granted ++ [_]).countP _
    rw [List.countP_append]
    rcases List.mem_snoc.mp hg with hold | rfl
    · exact Nat.lt_of_lt_of_le (hx.number_lt g hold) (Nat.le_add_right _ _)
    · simp [ReceiptStore.newReceipt]
  · intro g hg g' hg' hid
    rcases List.mem_append.mp hg with hold | hg
    · rcases List.mem_snoc.mp hg' with hold' | rfl
      · exact hx.ids_unique g hold g' hold' hid
      · exact absurd hid (hnew g hold)
    · rcases List.mem_append.mp hg' with hold' | hg'
      · rw [List.mem_singleton.mp hg] at hid
        exact absurd hid.symm (hnew g' hold')
      · rw [List.mem_singleton.mp hg, List.mem_singleton.mp hg']
  · refine List.pairwise_append.mpr ⟨hx.apart, List.pairwise_singleton _ _, fun g hg g' hg' => ?_⟩
    rw [List.mem_singleton.mp hg']
    intro hsc
    by_contra hali
    have hrow := hx.alive_kept g hg (Nat.not_le.mp hali)
    refine hfree _ hrow ?_
    rw [(hx.of_input g hg).1, hsc]
  · intro y hy
    have hread := hx.reads y hy
    cases y with
    | deleting ids =>
      intro id hid
      obtain ⟨g, hg, hgid, hexp⟩ := hread id hid
      exact ⟨g, List.mem_append_left _ hg, hgid, hexp⟩
    | _ => exact hread

/-- **One statement.** -/
theorem step {ttl : Nat} {i : ReceiptInstr} (hx : Kept sha256 x l) (hk : l[k]? = some y)
    (hi : y.next? sha256 ttl = some i) :
    Kept sha256 (reply sha256 i x).2 (l.set k (y.after i (reply sha256 i x).1)) := by
  have hread := hx.reads y (List.mem_of_getElem? hk)
  cases y with
  | claiming input =>
    cases hi
    exact hx.set_reads (le_refl x.clock)
  | arriving input now =>
    cases hi
    refine (hx.delete fun r _ hpr => ?_).set_reads hread
    have hexp := of_decide_eq_true (Bool.and_eq_true_iff.mp hpr).2
    exact le_trans hexp hread
  | looking input now =>
    cases hi
    refine hx.set_reads ?_
    simp only [reply]
    cases x.receipts.find? fun r => decide (r.selector = selectorOf sha256 input.scope) with
    | some r => trivial
    | none => exact hread
  | creating input now =>
    cases hi
    rcases create_cases sha256 x input (now + ttl) with ⟨receipts, heq, hrows, hfree⟩ | ⟨heq, -⟩
    · simp only [reply, heq]
      exact (hx.create hrows hfree).set_reads trivial
    · simp only [reply, heq]
      exact hx.set_reads trivial
  | rereading input =>
    cases hi
    refine hx.set_reads ?_
    simp only [reply]
    cases x.receipts.find? fun r => decide (r.selector = selectorOf sha256 input.scope) with
    | some r => trivial
    | none => trivial
  | pruning limit =>
    cases hi
    exact hx.set_reads (le_refl x.clock)
  | selecting limit now =>
    cases hi
    refine hx.set_reads ?_
    have hlis : ∀ id ∈ (x.expired now (pruneLimit limit)).map Receipt.id,
        ∃ g ∈ x.granted, g.receipt.id = id ∧ g.receipt.expiresAt ≤ x.clock := by
      intro id hid
      obtain ⟨r, hr, rfl⟩ := List.mem_map.mp hid
      obtain ⟨hrow, hexp⟩ := mem_expired hr
      obtain ⟨g, hg, rfl⟩ := hx.rows_granted r hrow
      exact ⟨g, hg, rfl, le_trans hexp hread⟩
    simp only [reply]
    cases hrows : (x.expired now (pruneLimit limit)).map Receipt.id with
    | nil => trivial
    | cons id ids =>
      rw [hrows] at hlis
      exact hlis
  | deleting ids =>
    cases hi
    refine (hx.delete fun r hr hpr => ?_).set_reads trivial
    obtain ⟨g, hg, hgid, hexp⟩ := hread r.id (List.contains_iff_mem.mp hpr)
    obtain ⟨g', hg', rfl⟩ := hx.rows_granted r hr
    rw [← hx.ids_unique g hg g' hg' hgid]
    exact hexp
  | claimed input id => exact nomatch hi
  | refused input existingHash => exact nomatch hi
  | failed input => exact nomatch hi
  | pruned count => exact nomatch hi

end Kept

/-! ## Runs -/

section Runs

variable {sha256 : String → String} {configured : Option Int} {clock : Nat}

/-- The receipts with the calls of their service. -/
abbrev ReceiptPool : Type :=
  Phased ReceiptStore Stage ReceiptInstr Reply (Except ClaimError ReceiptResult)

/-- One step of the service. -/
abbrev receiptStep (sha256 : String → String) (configured : Option Int) :
    ReceiptPool → Event ClockChange ReceiptRequest → Option ReceiptPool :=
  Phased.step (receiptService sha256 configured)
    (receiptOrder sha256 (receiptTtlMs configured)) Stage.start

/-- The calls are at their stages. -/
abbrev AtStages (sha256 : String → String) (configured : Option Int) (s : ReceiptPool) : Prop :=
  ∀ c ∈ s.calls, c.2.Follows (receiptOrder sha256 (receiptTtlMs configured)) Ended c.1

/-- What every run keeps. -/
theorem receipts_kept {G : ReceiptStore → List Stage → Nat → ReceiptInstr → Prop}
    {s : ReceiptPool} (hs : Stepping.Reach (receiptStep sha256 configured) (Phased.Within G)
      ⟨emptyStore clock, []⟩ s) :
    Kept sha256 s.store s.phases ∧ AtStages sha256 configured s := by
  refine Phased.invariant (request_stages sha256 configured) ?_ ?_ ?_ ?_ hs
  · constructor
    all_goals simp [emptyStore, GrantedApart]
  · rintro ⟨ms⟩ x l hx
    exact hx.tick ms
  · intro request x l hx
    exact hx.start_reads request
  · intro x l k y i hx hk halw _
    exact hx.step hk halw

/-- A call that ends is told what is so: the answer a claim gets while a receipt about the same
thing lives. -/
theorem ends_told {x : ReceiptStore} {l : List Stage} {y : Stage} {i : ReceiptInstr} {ttl : Nat}
    {input : ClaimInput} {g : Grant} {r : Except ClaimError ReceiptResult}
    (hx : Kept sha256 x l) (hi : y.next? sha256 ttl = some i) (hin : y.input? = some input)
    (hg : g ∈ x.granted) (hsc : g.input.scope = input.scope)
    (hali : x.clock < g.receipt.expiresAt)
    (hend : Ended (y.after i (reply sha256 i x).1) r) :
    r = .error (throwExisting g.input.requestHash input.requestHash) := by
  have hrow := hx.alive_kept g hg hali
  obtain ⟨hsel, hhash, -⟩ := hx.of_input g hg
  rw [hsc] at hsel
  have hfind := find_selector hrow hsel
  have href : ∀ z, (z = Stage.refused input g.receipt.requestHash) → Ended z r →
      r = .error (throwExisting g.input.requestHash input.requestHash) := by
    rintro z rfl h
    rw [← Option.some.inj h, hhash]
  cases y with
  | claiming other =>
    cases hi
    exact nomatch hend
  | arriving other now =>
    cases hi
    exact nomatch hend
  | looking other now =>
    cases hi
    cases hin
    refine href _ ?_ hend
    simp only [reply, hfind]
    rfl
  | creating other now =>
    cases hi
    cases hin
    rcases create_cases sha256 x input (now + ttl) with ⟨receipts, -, -, hfree⟩ | ⟨heq, -⟩
    · exact absurd hsel (hfree _ hrow)
    · simp only [reply, heq] at hend
      exact nomatch hend
  | rereading other =>
    cases hi
    cases hin
    refine href _ ?_ hend
    simp only [reply, hfind]
    rfl
  | claimed other id => exact nomatch hi
  | refused other existingHash => exact nomatch hi
  | failed other => exact nomatch hi
  | pruning limit => exact nomatch hin
  | selecting limit now => exact nomatch hin
  | deleting ids => exact nomatch hin
  | pruned count => exact nomatch hin

end Runs

end Meowbox.FederationIdempotency
