import Meowbox.Backups.ResticListings

/-!
# What the validators of restic queries admit

* `validateResticTreeResult_ok` and its siblings: a validator returns what the agent sent, when
  every part of it is admissible and its text fits the budget.
* **`query_results_admitted`**: for each query, what the repository has to contain for its result
  to pass.
* `query_results_rejected`: a live diff of one file and a file diff of two texts do not.
-/

namespace Meowbox.Backups

open JsData JsonText Failing

namespace ResticQueryContract

/-! ## The checks on what an agent sends -/

section Checks

variable {message : String}

theorem record_object (members : List (String × Json)) : record (ofJson (.object members)) message =
    .ok (members.map fun kv => (kv.1, ofJson kv.2)) := by
  rw [ofJson, record, ofJsonMembers_eq]

theorem exactKeys_same {fields : List (String × JsValue)} {keys : List String} {u : Unit}
    (h : fields.map Prod.fst = keys) : exactKeys fields keys message = .ok u := by
  rw [exactKeys, h]
  exact ensure_ok.mpr (beq_self_eq_true _)

theorem boundedArray_array {js : List Json} {max : Nat} {items : List JsValue} :
    boundedArray (ofJson (.array js)) max message = .ok items ↔
      js.map ofJson = items ∧ js.length ≤ max := by
  rw [ofJson, boundedArray, ofJsonItems_eq, List.length_map]
  by_cases h : js.length ≤ max
  · simp [h]
  · simp [h]

theorem snapshotId_string {s t : String} :
    snapshotId (ofJson (.string s)) message = .ok t ↔ s = t ∧ isSnapshotId s = true := by
  by_cases h : isSnapshotId s = true
  · simp [ofJson, snapshotId, h]
  · simp [ofJson, snapshotId, h]

theorem filePath_string {s t : String} :
    filePath (ofJson (.string s)) message = .ok t ↔ s = t ∧ isFilePath s = true := by
  by_cases h : isFilePath s = true
  · simp [ofJson, filePath, h]
  · simp [ofJson, filePath, h]

theorem boundedString_string {s t : String} {max : Nat} :
    boundedString (ofJson (.string s)) max message = .ok t ↔ s = t ∧ isBounded max s = true := by
  by_cases h : isBounded max s = true
  · simp [ofJson, boundedString, h]
  · simp [ofJson, boundedString, h]

theorem nonNegativeInteger_natural {n k : Nat} :
    nonNegativeInteger (ofJson (natural n)) message = .ok k ↔
      n = k ∧ (n : Int) ≤ MAX_SAFE_INTEGER := by
  have hread : integer? (JsonNumber.ofInt n) = some (n : Int) := integer?_ofInt n
  simp only [nonNegativeInteger, natural, ofJson, hread]
  by_cases h : (n : Int) ≤ MAX_SAFE_INTEGER
  · simp [h]
  · simp [h]

theorem nonNegativeInteger_text {s : String} {k : Nat} :
    nonNegativeInteger (ofJson (.string s)) message ≠ .ok k := by
  simp [ofJson, nonNegativeInteger]

theorem assertResultBudget_ok {json : Json} {u : Unit} :
    assertResultBudget json = .ok u ↔ byteSize (render json) ≤ MAX_RESULT_BYTES := by
  exact ensure_ok.trans decide_eq_true_iff

/-- The items of an array, when it is known which of them a check admits. -/
theorem sent_ok {α : Type} {json : α → Json} {parse : JsValue → Except String α} {P : α → Prop}
    (hone : ∀ a b, parse (ofJson (json a)) = .ok b ↔ a = b ∧ P a) {as bs : List α} :
    ((as.map json).map ofJson).mapM parse = .ok bs ↔ as = bs ∧ ∀ a ∈ as, P a := by
  rw [List.map_map, List.mapM_map]
  refine (mapM_eq_ok (h := id) hone).trans ?_
  rw [List.map_id]

theorem texts_ok {ss ts : List String} {max : Nat} :
    ((ss.map Json.string).map ofJson).mapM (fun v => boundedString v max message) = .ok ts ↔
      ss = ts ∧ ∀ s ∈ ss, isBounded max s = true :=
  sent_ok fun _ _ => boundedString_string

/-- A record of counters; `g` is what the values count. -/
theorem counterRecord_ok {α : Type} {extra : Char → Bool} {fields : List (String × α)}
    {value : α → Json} {g : α → Nat} {P : α → Prop}
    (hval : ∀ a n message, nonNegativeInteger (ofJson (value a)) message = .ok n ↔
      g a = n ∧ P a) {stats : List (String × Nat)} :
    counterRecord extra (ofJson (.object (fields.map fun c => (c.1, value c.2)))) message =
        .ok stats ↔
      fields.map (fun c => (c.1, g c.2)) = stats ∧ fields.length ≤ 16 ∧
        ∀ c ∈ fields, isCounterName extra c.1 = true ∧ P c.2 := by
  have hone : ∀ (c : String × α) (d : String × Nat),
      (do
        ensure (isCounterName extra c.1) message
        let number ← nonNegativeInteger (ofJson (value c.2)) message
        return (c.1, number)) = .ok d ↔
      (c.1, g c.2) = d ∧ isCounterName extra c.1 = true ∧ P c.2 := by
    intro c d
    simp only [bind_eq_ok, pure_eq_ok, hval]
    constructor
    · rintro ⟨⟨⟩, hname, n, ⟨rfl, hP⟩, rfl⟩
      exact ⟨rfl, ensure_ok.mp hname, hP⟩
    · rintro ⟨rfl, hname, hP⟩
      exact ⟨(), ensure_ok.mpr hname, _, ⟨rfl, hP⟩, rfl⟩
  rw [counterRecord, record_object, List.map_map]
  constructor
  · intro h
    obtain ⟨source, hsrc, h⟩ := bind_eq_ok.mp h
    cases hsrc
    obtain ⟨⟨⟩, hlen, hits⟩ := bind_eq_ok.mp h
    rw [List.mapM_map] at hits
    obtain ⟨rfl, hall⟩ := (mapM_eq_ok hone).mp hits
    have hle := decide_eq_true_iff.mp (ensure_ok.mp hlen)
    rw [List.length_map] at hle
    exact ⟨rfl, hle, hall⟩
  · rintro ⟨rfl, hle, hall⟩
    refine bind_eq_ok.mpr ⟨_, rfl, bind_eq_ok.mpr ⟨(), ensure_ok.mpr (decide_eq_true ?_), ?_⟩⟩
    · rw [List.length_map]
      exact hle
    · rw [List.mapM_map]
      exact (mapM_eq_ok hone).mpr ⟨rfl, hall⟩

end Checks

/-! ## The results -/

/-- What `treeItem` admits. -/
structure AdmitsTreeItem (item : TreeItem) : Prop where
  bounded : isBounded 255 item.name = true
  named : treeName item.name = true
  safe : (item.size : Int) ≤ MAX_SAFE_INTEGER

theorem treeItem_ok {item c : TreeItem} :
    treeItem (ofJson item.json) = .ok c ↔ item = c ∧ AdmitsTreeItem item := by
  have htype : ∀ (t t' : ItemType) (label : String),
      requireEnum (ofJson (.string t.text)) [("dir", ItemType.dir), ("file", .file)] label =
        .ok t' ↔ t = t' := by
    intro t t' label
    cases t with
    | dir => exact pure_eq_ok
    | file => exact pure_eq_ok
  simp only [treeItem, TreeItem.json, record_object, List.map_cons, List.map_nil, bind_eq_ok,
    property_cons, htype, boundedString_string, nonNegativeInteger_natural, pure_eq_ok,
    String.reduceEq, if_false, if_true, Except.ok.injEq, exists_eq_left']
  constructor
  · rintro ⟨⟨⟩, -, _, ⟨rfl, hbd⟩, ⟨⟩, hnm, _, ⟨rfl, hsafe⟩, rfl⟩
    exact ⟨rfl, hbd, ensure_ok.mp hnm, hsafe⟩
  · rintro ⟨rfl, hbd, hnm, hsafe⟩
    exact ⟨(), exactKeys_same rfl, _, ⟨rfl, hbd⟩, (), ensure_ok.mpr hnm, _, ⟨rfl, hsafe⟩,
      rfl⟩

/-- The validator of listings. -/
theorem validateResticTreeResult_ok {items parsed : List TreeItem} :
    validateResticTreeResult (ofJson (treeData items)) = .ok parsed ↔
      items = parsed ∧ items.length ≤ 20000 ∧ (∀ item ∈ items, AdmitsTreeItem item) ∧
        byteSize (render (.array (items.map TreeItem.json))) ≤ MAX_RESULT_BYTES := by
  simp only [validateResticTreeResult, treeData, record_object, List.map_cons, List.map_nil,
    bind_eq_ok, property_cons, if_true, boundedArray_array, List.length_map, pure_eq_ok,
    assertResultBudget_ok, Except.ok.injEq, exists_eq_left']
  constructor
  · rintro ⟨_, ⟨rfl, hlen⟩, _, hits, ⟨⟩, hbud, rfl⟩
    obtain ⟨rfl, hadm⟩ := (sent_ok fun _ _ => treeItem_ok).mp hits
    exact ⟨rfl, hlen, hadm, hbud⟩
  · rintro ⟨rfl, hlen, hadm, hbud⟩
    exact ⟨_, ⟨rfl, hlen⟩, _, (sent_ok fun _ _ => treeItem_ok).mpr ⟨rfl, hadm⟩, (), hbud,
      rfl⟩

/-- What `diffItem` admits. -/
structure AdmitsDiffItem (item : DiffItem) : Prop where
  path : isFilePath item.path = true
  modifier : item.modifier ∈ MODIFIERS

theorem diffItem_ok {item c : DiffItem} :
    diffItem (ofJson item.json) = .ok c ↔ item = c ∧ AdmitsDiffItem item := by
  have hbd : ∀ modifier ∈ MODIFIERS, isBounded 8 modifier = true := by decide
  simp only [diffItem, DiffItem.json, record_object, List.map_cons, List.map_nil, bind_eq_ok,
    property_cons, filePath_string, boundedString_string, pure_eq_ok, String.reduceEq, if_false,
    if_true, Except.ok.injEq, exists_eq_left']
  constructor
  · rintro ⟨⟨⟩, -, _, ⟨rfl, hpath⟩, _, ⟨rfl, -⟩, ⟨⟩, hmodifier, rfl⟩
    exact ⟨rfl, hpath, List.contains_iff_mem.mp (ensure_ok.mp hmodifier)⟩
  · rintro ⟨rfl, hpath, hmodifier⟩
    exact ⟨(), exactKeys_same rfl, _, ⟨rfl, hpath⟩, _, ⟨rfl, hbd _ hmodifier⟩, (),
      ensure_ok.mpr (List.contains_iff_mem.mpr hmodifier), rfl⟩

/-- The validator of diffs. -/
theorem validateResticDiffResult_ok {r parsed : DiffResult} :
    validateResticDiffResult (ofJson r.json) = .ok parsed ↔
      r = parsed ∧ r.items.length ≤ 20000 ∧ (∀ item ∈ r.items, AdmitsDiffItem item) ∧
        r.stats.length ≤ 16 ∧
        (∀ c ∈ r.stats, isCounterName isUpperAscii c.1 = true ∧ (c.2 : Int) ≤ MAX_SAFE_INTEGER) ∧
        byteSize (render r.json) ≤ MAX_RESULT_BYTES := by
  have hstats : ∀ message stats, counterRecord isUpperAscii (ofJson (counters r.stats)) message =
      .ok stats ↔ r.stats = stats ∧ r.stats.length ≤ 16 ∧ ∀ c ∈ r.stats,
        isCounterName isUpperAscii c.1 = true ∧ (c.2 : Int) ≤ MAX_SAFE_INTEGER := by
    intro message stats
    refine (counterRecord_ok (g := id) fun n k message => nonNegativeInteger_natural).trans ?_
    exact Iff.of_eq (congrArg (fun l => l = stats ∧ _) (List.map_id r.stats))
  simp only [validateResticDiffResult, DiffResult.json, record_object, List.map_cons, List.map_nil,
    bind_eq_ok, property_cons, if_true, if_false, String.reduceEq, boundedArray_array,
    List.length_map, hstats, pure_eq_ok, assertResultBudget_ok, Except.ok.injEq,
    exists_eq_left']
  constructor
  · rintro ⟨⟨⟩, -, _, ⟨rfl, hlen⟩, _, hits, _, ⟨rfl, hcnt, hcounters⟩, ⟨⟩, hbud, rfl⟩
    obtain ⟨rfl, hadm⟩ := (sent_ok fun _ _ => diffItem_ok).mp hits
    exact ⟨rfl, hlen, hadm, hcnt, hcounters, hbud⟩
  · rintro ⟨rfl, hlen, hadm, hcnt, hcounters, hbud⟩
    exact ⟨(), exactKeys_same rfl, _, ⟨rfl, hlen⟩, _,
      (sent_ok fun _ _ => diffItem_ok).mpr ⟨rfl, hadm⟩, _, ⟨rfl, hcnt, hcounters⟩, (), hbud,
      rfl⟩

section Snapshots

variable (dateParse : String → Option Int)

/-- A value of a summary that the validator reads as a counter. -/
def IsCounter : SummaryValue → Prop
  | .count n => (n : Int) ≤ MAX_SAFE_INTEGER
  | .text _ => False

/-- What `snapshotOf` admits. -/
structure AdmitsSnapshot (s : ResticSnapshot) : Prop where
  id : isSnapshotId s.id = true
  shortId : isSnapshotId s.shortId = true
  time : isBounded 64 s.time = true
  dated : (dateParse s.time).isSome = true
  hostname : isBounded 255 s.hostname = true
  pathCount : s.paths.length ≤ 64
  paths : ∀ path ∈ s.paths, isBounded 4096 path = true
  tagCount : ∀ tags ∈ s.tags, tags.length ≤ 64
  tags : ∀ tags ∈ s.tags, ∀ tag ∈ tags, isBounded 256 tag = true
  summaryCount : ∀ summary ∈ s.summary, summary.length ≤ 16
  summary : ∀ summary ∈ s.summary, ∀ c ∈ summary,
    isCounterName (· == '_') c.1 = true ∧ IsCounter c.2

theorem ofJson_ne_undefined (json : Json) : ofJson json ≠ .undefined := by
  cases json with
  | null => simp [ofJson]
  | boolean b => simp [ofJson]
  | number n => simp [ofJson]
  | string t => simp [ofJson]
  | array items => simp [ofJson]
  | object members => simp [ofJson]

theorem optional_ok {α β : Type} {json : α → Json} {parse : JsValue → Except String β} {h : α → β}
    {P : α → Prop} (hone : ∀ a b, parse (ofJson (json a)) = .ok b ↔ h a = b ∧ P a) {o : Option α}
    {r : Option β} : optional ((o.map fun a => ofJson (json a)).getD .undefined) parse = .ok r ↔
      o.map h = r ∧ ∀ a ∈ o, P a := by
  cases o with
  | none => simp [optional]
  | some a =>
    have hdefined : optional (ofJson (json a)) parse = (parse (ofJson (json a))).map some := by
      unfold optional
      split
      · rename_i hv
        exact absurd hv (ofJson_ne_undefined _)
      · rfl
    rw [Option.map_some, Option.getD_some, hdefined, map_eq_ok]
    constructor
    · rintro ⟨b, hb, rfl⟩
      obtain ⟨rfl, hP⟩ := (hone a b).mp hb
      exact ⟨rfl, by simpa using hP⟩
    · rintro ⟨rfl, hP⟩
      exact ⟨h a, (hone a _).mpr ⟨rfl, hP a rfl⟩, rfl⟩

/-- The counter of a summary value. -/
def counterOf : SummaryValue → Nat
  | .count n => n
  | .text _ => 0

theorem summaryValue_ok (v : SummaryValue) (n : Nat) (message : String) :
    nonNegativeInteger (ofJson v.json) message = .ok n ↔ counterOf v = n ∧ IsCounter v := by
  cases v with
  | count k => exact nonNegativeInteger_natural
  | text t => simp [SummaryValue.json, IsCounter, nonNegativeInteger_text]

theorem countersOf_eq {summary : List (String × SummaryValue)} (h : ∀ c ∈ summary, IsCounter c.2) :
    (summary.map fun c => (c.1, counterOf c.2)).map (fun c => (c.1, SummaryValue.count c.2)) =
      summary := by
  rw [List.map_map]
  refine (List.map_congr_left fun c hc => ?_).trans (List.map_id summary)
  obtain ⟨k, v⟩ := c
  have hcounter := h _ hc
  cases v with
  | count n => rfl
  | text t => exact hcounter.elim

theorem snapshotFields (s : ResticSnapshot) : ∃ fields,
    (∀ message, record (ofJson s.json) message = .ok fields) ∧
      property fields "id" = ofJson (.string s.id) ∧
      property fields "short_id" = ofJson (.string s.shortId) ∧
      property fields "time" = ofJson (.string s.time) ∧
      property fields "hostname" = ofJson (.string s.hostname) ∧
      property fields "paths" = ofJson (.array (s.paths.map .string)) ∧
      property fields "tags" =
        (s.tags.map fun tags => ofJson (.array (tags.map .string))).getD .undefined ∧
      property fields "summary" =
        (s.summary.map fun summary =>
          ofJson (.object (summary.map fun c => (c.1, c.2.json)))).getD .undefined := by
  obtain ⟨id, shortId, time, hostname, paths, tags, summary⟩ := s
  refine ⟨_, fun message => record_object _, rfl, rfl, rfl, rfl, rfl, ?_, ?_⟩
  · cases tags with
    | none =>
      cases summary with
      | none => rfl
      | some summary => rfl
    | some tags => rfl
  · cases tags with
    | none =>
      cases summary with
      | none => rfl
      | some summary => rfl
    | some tags =>
      cases summary with
      | none => rfl
      | some summary => rfl

theorem snapshotOf_ok {s c : ResticSnapshot} :
    snapshotOf dateParse (ofJson s.json) = .ok c ↔ s = c ∧ AdmitsSnapshot dateParse s := by
  obtain ⟨fields, hrcd, hid, hsho, htime, hhost, hpaths, htags, hsummary⟩ := snapshotFields s
  have htagsOk : ∀ r, optional ((s.tags.map fun tags =>
      ofJson (.array (tags.map .string))).getD .undefined) (fun value => do
        let tags ← boundedArray value 64 "Restic snapshot result is invalid"
        tags.mapM fun tag => boundedString tag 256 "Restic snapshot result is invalid") = .ok r ↔
      s.tags.map id = r ∧
        ∀ tags ∈ s.tags, tags.length ≤ 64 ∧ ∀ tag ∈ tags, isBounded 256 tag = true := by
    intro r
    refine optional_ok fun tags ts => ?_
    simp only [bind_eq_ok, boundedArray_array, List.length_map]
    constructor
    · rintro ⟨_, ⟨rfl, hlen⟩, hits⟩
      obtain ⟨rfl, hbd⟩ := texts_ok.mp hits
      exact ⟨rfl, hlen, hbd⟩
    · rintro ⟨rfl, hlen, hbd⟩
      exact ⟨_, ⟨rfl, hlen⟩, texts_ok.mpr ⟨rfl, hbd⟩⟩
  have hsummaryOk : ∀ r, optional ((s.summary.map fun summary =>
      ofJson (.object (summary.map fun c => (c.1, c.2.json)))).getD .undefined)
      (fun value => counterRecord (· == '_') value "Restic snapshot summary is invalid") = .ok r ↔
      s.summary.map (fun summary => summary.map fun c => (c.1, counterOf c.2)) = r ∧
        ∀ summary ∈ s.summary, summary.length ≤ 16 ∧
          ∀ c ∈ summary, isCounterName (· == '_') c.1 = true ∧ IsCounter c.2 := fun r =>
    optional_ok fun summary stats => counterRecord_ok fun v n message => summaryValue_ok v n message
  simp only [snapshotOf, hrcd, bind_eq_ok, hid, hsho, htime, hhost, hpaths, htags, hsummary,
    snapshotId_string, boundedString_string, boundedArray_array, List.length_map, pure_eq_ok,
    htagsOk, hsummaryOk, Except.ok.injEq, exists_eq_left']
  constructor
  · rintro ⟨_, ⟨rfl, hid⟩, _, ⟨rfl, hsho⟩, _, ⟨rfl, htime⟩, ⟨⟩, hdt, _, ⟨rfl, hhost⟩, _,
      ⟨rfl, hcnt⟩, _, hits, _, ⟨rfl, htags⟩, _, ⟨rfl, hsummary⟩, rfl⟩
    obtain ⟨rfl, hbd⟩ := texts_ok.mp hits
    refine ⟨?_, hid, hsho, htime, ensure_ok.mp hdt, hhost, hcnt, hbd,
      fun tags h => (htags tags h).1, fun tags h => (htags tags h).2,
      fun summary h => (hsummary summary h).1, fun summary h => (hsummary summary h).2⟩
    obtain ⟨id, shortId, time, hostname, paths, tags, summary⟩ := s
    cases summary with
    | none => simp
    | some summary =>
      simp [countersOf_eq fun c hc => ((hsummary summary rfl).2 c hc).2]
  · rintro ⟨rfl, h⟩
    refine ⟨_, ⟨rfl, h.id⟩, _, ⟨rfl, h.shortId⟩, _, ⟨rfl, h.time⟩, (), ensure_ok.mpr h.dated, _,
      ⟨rfl, h.hostname⟩, _, ⟨rfl, h.pathCount⟩, _, texts_ok.mpr ⟨rfl, h.paths⟩, _,
      ⟨rfl, fun tags ht => ⟨h.tagCount tags ht, h.tags tags ht⟩⟩, _,
      ⟨rfl, fun summary hs => ⟨h.summaryCount summary hs, h.summary summary hs⟩⟩, ?_⟩
    obtain ⟨id, shortId, time, hostname, paths, tags, summary⟩ := s
    cases summary with
    | none => simp
    | some summary =>
      simp [countersOf_eq fun c hc => (h.summary summary rfl c hc).2]

/-- The validator of snapshot lists. -/
theorem validateResticSnapshotsResult_ok {snapshots parsed : List ResticSnapshot} :
    validateResticSnapshotsResult dateParse (ofJson (snapshotsData snapshots)) = .ok parsed ↔
      snapshots = parsed ∧ snapshots.length ≤ 5000 ∧
        (∀ s ∈ snapshots, AdmitsSnapshot dateParse s) ∧
        byteSize (render (.array (snapshots.map ResticSnapshot.json))) ≤ MAX_RESULT_BYTES := by
  simp only [validateResticSnapshotsResult, snapshotsData, record_object, List.map_cons,
    List.map_nil, bind_eq_ok, property_cons, if_true, boundedArray_array, List.length_map, pure_eq_ok, assertResultBudget_ok,
    Except.ok.injEq, exists_eq_left']
  constructor
  · rintro ⟨_, ⟨rfl, hlen⟩, _, hits, ⟨⟩, hbud, rfl⟩
    obtain ⟨rfl, hadm⟩ := (sent_ok fun _ _ => snapshotOf_ok dateParse).mp hits
    exact ⟨rfl, hlen, hadm, hbud⟩
  · rintro ⟨rfl, hlen, hadm, hbud⟩
    exact ⟨_, ⟨rfl, hlen⟩, _, (sent_ok fun _ _ => snapshotOf_ok dateParse).mpr ⟨rfl, hadm⟩,
      (), hbud, rfl⟩

end Snapshots

section FileDiffs

/-- What the validator of file diffs returns. -/
def fileDiffParsed (r : FileDiff) : FileDiff :=
  { r with unifiedDiff := some (r.unifiedDiff.getD ""), truncated := some (r.truncated.getD false) }

theorem fileDiffFields (r : FileDiff) : ∃ fields,
    (∀ message, record (ofJson r.json) message = .ok fields) ∧
      (∀ message u, ensure (fields.all fun field =>
        ["binary", "sizeA", "sizeB", "unifiedDiff", "truncated"].contains field.1) message =
          .ok u) ∧
      isTrue (property fields "binary") = r.binary ∧
      (∀ d, orDefault (property fields "sizeA") d = ofJson (natural r.sizeA)) ∧
      (∀ d, orDefault (property fields "sizeB") d = ofJson (natural r.sizeB)) ∧
      orDefault (property fields "unifiedDiff") (.string "") =
        ofJson (.string (r.unifiedDiff.getD "")) ∧
      isTrue (property fields "truncated") = r.truncated.getD false := by
  obtain ⟨binary, sizeA, sizeB, unifiedDiff, truncated⟩ := r
  refine ⟨_, fun message => record_object _, ?_, rfl, fun _ => rfl, fun _ => rfl, ?_, ?_⟩
  · intro message u
    refine ensure_ok.mpr ?_
    cases unifiedDiff with
    | none =>
      cases truncated with
      | none => rfl
      | some t => rfl
    | some text =>
      cases truncated with
      | none => rfl
      | some t => rfl
  · cases unifiedDiff with
    | none =>
      cases truncated with
      | none => rfl
      | some t => rfl
    | some text => rfl
  · cases unifiedDiff with
    | none =>
      cases truncated with
      | none => rfl
      | some t => rfl
    | some text =>
      cases truncated with
      | none => rfl
      | some t => rfl

/-- The validator of file diffs. -/
theorem validateResticFileDiffResult_ok {r parsed : FileDiff} :
    validateResticFileDiffResult (ofJson r.json) = .ok parsed ↔
      fileDiffParsed r = parsed ∧ (r.sizeA : Int) ≤ MAX_SAFE_INTEGER ∧
        (r.sizeB : Int) ≤ MAX_SAFE_INTEGER ∧
        isBounded (768 * 1024) (r.unifiedDiff.getD "") = true ∧
        byteSize (render (fileDiffParsed r).json) ≤ MAX_RESULT_BYTES := by
  obtain ⟨fields, hrcd, hkeys, hbin, hsizeA, hsizeB, hdiff, htruncated⟩ := fileDiffFields r
  simp only [validateResticFileDiffResult, hrcd, bind_eq_ok, hbin, hsizeA, hsizeB, hdiff,
    htruncated, nonNegativeInteger_natural, boundedString_string, pure_eq_ok, assertResultBudget_ok,
    Except.ok.injEq, exists_eq_left']
  constructor
  · rintro ⟨⟨⟩, -, _, ⟨rfl, hA⟩, _, ⟨rfl, hB⟩, _, ⟨rfl, hbd⟩, ⟨⟩, hbud, rfl⟩
    exact ⟨rfl, hA, hB, hbd, hbud⟩
  · rintro ⟨rfl, hA, hB, hbd, hbud⟩
    exact ⟨(), hkeys _ (), _, ⟨rfl, hA⟩, _, ⟨rfl, hB⟩, _, ⟨rfl, hbd⟩, (), hbud, rfl⟩

/-- A safe integer has at most sixteen digits. -/
theorem byteSize_natural {n : Nat} (h : (n : Int) ≤ MAX_SAFE_INTEGER) :
    byteSize (render (natural n)) ≤ 16 := by
  have hlt : n < 10 ^ 16 := by
    have hmax : MAX_SAFE_INTEGER = 9007199254740991 := rfl
    omega
  have hdigits : (Nat.toDigits 10 n).length ≤ 16 :=
    (Nat.length_toDigits_le_iff (by decide) (by decide)).mpr hlt
  have hone : ∀ cs : List Char, (∀ c ∈ cs, c.isDigit = true) → byteSize cs = cs.length := by
    intro cs hcs
    induction cs with
    | nil => rfl
    | cons c cs ih =>
      have hsize : c.utf8Size = 1 := by
        have hdig := hcs c List.mem_cons_self
        rw [Char.isDigit, Bool.and_eq_true, decide_eq_true_iff, decide_eq_true_iff] at hdig
        rw [Char.utf8Size_eq_one_iff]
        exact Nat.le_trans hdig.2 (by decide)
      rw [byteSize_cons, ih fun d hd => hcs d (List.mem_cons_of_mem c hd), hsize, List.length_cons,
        Nat.add_comm]
  have hren : render (natural n) = Nat.toDigits 10 n := String.toList_ofList
  rw [hren, hone _ fun c hc => toDigits_isDigit c hc]
  exact hdigits

theorem byteSize_boolean (b : Bool) : byteSize (render (.boolean b)) ≤ 5 := by
  cases b with
  | false => decide
  | true => decide

/-- Without a text, a result of safe sizes is small. -/
theorem fileDiff_budget {r : FileDiff} (hA : (r.sizeA : Int) ≤ MAX_SAFE_INTEGER)
    (hB : (r.sizeB : Int) ≤ MAX_SAFE_INTEGER) (htext : r.unifiedDiff.getD "" = "") :
    byteSize (render (fileDiffParsed r).json) ≤ MAX_RESULT_BYTES := by
  have hjson : (fileDiffParsed r).json = .object [("binary", .boolean r.binary),
      ("sizeA", natural r.sizeA), ("sizeB", natural r.sizeB), ("unifiedDiff", .string ""),
      ("truncated", .boolean (r.truncated.getD false))] := by
    rw [← htext]
    rfl
  have hkey : byteSize (quote "binary") = 8 ∧ byteSize (quote "sizeA") = 7 ∧
      byteSize (quote "sizeB") = 7 ∧ byteSize (quote "unifiedDiff") = 13 ∧
      byteSize (quote "truncated") = 11 ∧ byteSize (quote "") = 2 := by decide
  have hmark : ('{' : Char).utf8Size = 1 ∧ ('}' : Char).utf8Size = 1 ∧ (':' : Char).utf8Size = 1 :=
    by decide
  have hbin := byteSize_boolean r.binary
  have htruncated := byteSize_boolean (r.truncated.getD false)
  have hsizeA := byteSize_natural hA
  have hsizeB := byteSize_natural hB
  have hmax : MAX_RESULT_BYTES = 921600 := rfl
  have hnil : byteSize ([] : List Char) = 0 := rfl
  rw [hjson, render, byteSize_cons, byteSize_append, byteSize_joinComma]
  simp only [renderMembers, List.map_cons, List.map_nil, List.sum_cons, List.sum_nil,
    List.length_cons, List.length_nil, byteSize_append, byteSize_cons, hnil]
  have hquote : byteSize (render (.string "")) = 2 := hkey.2.2.2.2.2
  omega

end FileDiffs

end ResticQueryContract

/-! ## The contract -/

section Contract

open ResticExecutor ResticQueryContract

/-- The validator returns a result. -/
def Admits {α : Type} (x : Except String α) : Prop := ∃ parsed, x = .ok parsed

/-- What passes from a list of snapshots. -/
structure SnapshotsFit (dateParse : String → Option Int) (snapshots : List ResticSnapshot) :
    Prop where
  count : snapshots.length ≤ 5000
  admits : ∀ s ∈ snapshots, AdmitsSnapshot dateParse s
  text : byteSize (render (.array (snapshots.map ResticSnapshot.json))) ≤ MAX_RESULT_BYTES

/-- What passes from the lines below a root. -/
structure ListingFits (lines : List LsLine) : Prop where
  count : (lines.map LsLine.top).dedup.length ≤ 20000
  names : ∀ l ∈ lines, isBounded 255 l.top = true ∧ treeName l.top = true
  sizes : ∀ l ∈ lines, (totalSize lines l.top : Int) ≤ MAX_SAFE_INTEGER
  text : byteSize (render (.array ((listing lines).map TreeItem.json))) ≤ MAX_RESULT_BYTES

/-- The counters of the last statistics line. -/
def lastStats (lines : List DiffLine) : List (String × Nat) :=
  (lines.filterMap lineStats).getLast?.getD noStats

/-- What passes from the lines of `restic diff`. -/
structure ChangesFit (lines : List DiffLine) : Prop where
  count : (lines.filterMap changeItem).length ≤ 20000
  items : ∀ item ∈ lines.filterMap changeItem,
    isFilePath item.path = true ∧ item.modifier ∈ MODIFIERS
  sizes : ∀ c ∈ lastStats lines, (c.2 : Int) ≤ MAX_SAFE_INTEGER
  text : byteSize (render (DiffResult.mk (lines.filterMap changeItem) (lastStats lines)).json) ≤
    MAX_RESULT_BYTES

/-- What passes from two files. -/
structure FilesFit (a b : Bytes) : Prop where
  plain : isBinary a = true ∨ isBinary b = true ∨ a = b
  sizeA : (a.length : Int) ≤ MAX_SAFE_INTEGER
  sizeB : (b.length : Int) ≤ MAX_SAFE_INTEGER

theorem renderItems_map {α : Type} (json : α → Json) (as : List α) :
    renderItems (as.map json) = as.map fun a => render (json a) := by
  induction as with
  | nil => rfl
  | cons a as ih => rw [List.map_cons, renderItems, ih, List.map_cons]

/-- The size of an array does not depend on the order of its items. -/
theorem byteSize_array_perm {α : Type} {json : α → Json} {as bs : List α} (h : as.Perm bs) :
    byteSize (render (.array (as.map json))) = byteSize (render (.array (bs.map json))) := by
  have hjoin := byteSize_joinComma_congr ((h.map fun a => render (json a)).map byteSize)
  rw [render, render, byteSize_cons, byteSize_cons, byteSize_append, byteSize_append,
    renderItems_map, renderItems_map, hjoin]

theorem listing_admitted (localeCompare : String → String → Int) (rootPath : String)
    (nodes : List LsNode) :
    Admits (validateResticTreeResult
      (ofJson (treeData (listTopLevel localeCompare rootPath nodes)))) ↔
      ListingFits (linesBelow rootPath nodes) := by
  have hperm := listTopLevel_perm localeCompare rootPath nodes
  have hlen : (listing (linesBelow rootPath nodes)).length =
      ((linesBelow rootPath nodes).map LsLine.top).dedup.length := List.length_map _
  have hmem : (∀ item ∈ listTopLevel localeCompare rootPath nodes, AdmitsTreeItem item) ↔
      ∀ l ∈ linesBelow rootPath nodes, AdmitsTreeItem ⟨l.top,
        ownType (linesBelow rootPath nodes) l.top, totalSize (linesBelow rootPath nodes) l.top⟩ := by
    constructor
    · intro h l hl
      refine h _ (hperm.mem_iff.mpr (List.mem_map.mpr ⟨l.top, ?_, rfl⟩))
      exact List.mem_dedup.mpr (List.mem_map_of_mem hl)
    · intro h item hitem
      obtain ⟨name, hname, rfl⟩ := List.mem_map.mp (hperm.mem_iff.mp hitem)
      obtain ⟨l, hl, rfl⟩ := List.mem_map.mp (List.mem_dedup.mp hname)
      exact h l hl
  constructor
  · rintro ⟨parsed, h⟩
    obtain ⟨-, hcnt, hadm, htext⟩ := validateResticTreeResult_ok.mp h
    rw [hperm.length_eq, hlen] at hcnt
    rw [byteSize_array_perm hperm] at htext
    exact ⟨hcnt, fun l hl => ⟨(hmem.mp hadm l hl).bounded, (hmem.mp hadm l hl).named⟩,
      fun l hl => (hmem.mp hadm l hl).safe, htext⟩
  · rintro ⟨hcnt, hns, hsizes, htext⟩
    refine ⟨_, validateResticTreeResult_ok.mpr ⟨rfl, ?_, ?_, ?_⟩⟩
    · rw [hperm.length_eq, hlen]
      exact hcnt
    · exact hmem.mpr fun l hl => ⟨(hns l hl).1, (hns l hl).2, hsizes l hl⟩
    · rw [byteSize_array_perm hperm]
      exact htext

/-- The counters are those of the last statistics line. -/
theorem stats_eq (lines : List DiffLine) : (diffSnapshots lines).stats = lastStats lines := by
  have hfold : lines.foldl (fun stats line => (lineStats line).getD stats) noStats =
      lastStats lines := by
    unfold lastStats
    induction lines using List.reverseRecOn with
    | nil => rfl
    | append_singleton lines line ih =>
      rw [List.foldl_append, List.filterMap_append, ih]
      cases hline : lineStats line with
      | none => simp [hline]
      | some stats => simp [hline]
  exact hfold

theorem lineStats_names (line : DiffLine) {stats : List (String × Nat)}
    (h : lineStats line = some stats) :
    stats.length ≤ 16 ∧ ∀ c ∈ stats, isCounterName isUpperAscii c.1 = true := by
  cases line with
  | change path modifier => cases h
  | other => cases h
  | statistics a b c d e =>
    cases h
    refine ⟨by simp, ?_⟩
    have hns : ∀ name ∈ ["changedFiles", "addedFiles", "removedFiles", "addedBytes",
        "removedBytes"], isCounterName isUpperAscii name = true := by decide
    simpa using hns

theorem lastStats_names (lines : List DiffLine) : (lastStats lines).length ≤ 16 ∧
    ∀ c ∈ lastStats lines, isCounterName isUpperAscii c.1 = true := by
  unfold lastStats
  cases hlast : (lines.filterMap lineStats).getLast? with
  | none => exact lineStats_names (.statistics 0 0 0 0 0) rfl
  | some stats =>
    obtain ⟨line, -, hline⟩ := List.mem_filterMap.mp (List.mem_of_getLast? hlast)
    exact lineStats_names line hline

theorem changes_admitted (lines : List DiffLine) :
    Admits (validateResticDiffResult (ofJson (diffSnapshots lines).json)) ↔ ChangesFit lines := by
  have hns := lastStats_names lines
  have hres : diffSnapshots lines = ⟨lines.filterMap changeItem, lastStats lines⟩ := by
    rw [← stats_eq]
    rfl
  rw [hres]
  constructor
  · rintro ⟨parsed, h⟩
    obtain ⟨-, hcnt, hadm, -, hstats, htext⟩ := validateResticDiffResult_ok.mp h
    exact ⟨hcnt, fun item hi => ⟨(hadm item hi).path, (hadm item hi).modifier⟩,
      fun c hc => (hstats c hc).2, htext⟩
  · rintro ⟨hcnt, hits, hsizes, htext⟩
    exact ⟨_, validateResticDiffResult_ok.mpr ⟨rfl, hcnt,
      fun item hi => ⟨(hits item hi).1, (hits item hi).2⟩, hns.1,
      fun c hc => ⟨hns.2 c hc, hsizes c hc⟩, htext⟩⟩

theorem relative_not_filePath {rel : String} (h : Relative rel) : isFilePath rel = false := by
  obtain ⟨c, cs, hrel, hc⟩ := h
  have hsl : (['/'].isPrefixOf (c :: cs)) = false := by
    simpa [List.isPrefixOf] using Ne.symm hc
  rw [isFilePath, hrel, hsl]
  simp

theorem live_admitted (localeCompare : String → String → Int) (snapshotRoot : String)
    (nodes : List LsNode) (live : List (FileName × LiveEntry)) :
    Admits (validateResticDiffResult
      (ofJson (diffSnapshotWithLive localeCompare snapshotRoot nodes live).json)) ↔
      ∀ rel, SameEntry (snapAt snapshotRoot nodes rel) (liveAt live rel) := by
  rw [← diffSnapshotWithLive_items localeCompare]
  constructor
  · rintro ⟨parsed, h⟩
    obtain ⟨-, -, hadm, -⟩ := validateResticDiffResult_ok.mp h
    refine List.eq_nil_iff_forall_not_mem.mpr fun item hitem => ?_
    have hpath := (hadm item hitem).path
    rw [relative_not_filePath (relative_of_item _ _ _ _ hitem)] at hpath
    cases hpath
  · intro h
    have hres : diffSnapshotWithLive localeCompare snapshotRoot nodes live =
        ⟨[], [("changedFiles", 0), ("addedFiles", 0), ("removedFiles", 0)]⟩ := by
      rw [← stats_of_same localeCompare snapshotRoot nodes live h, ← h]
    rw [hres]
    refine ⟨_, validateResticDiffResult_ok.mpr ⟨rfl, by simp, by simp, by simp, ?_, ?_⟩⟩
    · decide
    · decide

/-- A text with a line end is rejected, an empty one is admitted. -/
theorem isBounded_lines {s : String} {max : Nat} (h : '\n' ∈ s.toList) :
    isBounded max s = false := by
  have hctl : hasControl s = true := List.any_eq_true.mpr ⟨'\n', h, by decide⟩
  rw [isBounded, hctl]
  simp

theorem unifiedDiff_admitted {diff : DiffTool} {a b : Bytes} {r : FileDiff}
    (h : computeUnifiedDiff diff a b = some r) :
    Admits (validateResticFileDiffResult (ofJson r.json)) ↔ FilesFit a b := by
  have hnil : isBounded (768 * 1024) "" = true := by decide
  unfold computeUnifiedDiff at h
  by_cases hbin : (isBinary a || isBinary b) = true
  · rw [if_pos hbin] at h
    cases h
    constructor
    · rintro ⟨parsed, h⟩
      obtain ⟨-, hA, hB, -⟩ := validateResticFileDiffResult_ok.mp h
      rw [Bool.or_eq_true] at hbin
      exact ⟨hbin.elim .inl fun hb => .inr (.inl hb), hA, hB⟩
    · rintro ⟨-, hA, hB⟩
      exact ⟨_, validateResticFileDiffResult_ok.mpr ⟨rfl, hA, hB, hnil,
        fileDiff_budget hA hB rfl⟩⟩
  · rw [if_neg hbin] at h
    simp only at h
    by_cases hcode : 1 < (diff.run a b).exitCode
    · rw [if_pos hcode] at h
      cases h
    · rw [if_neg hcode] at h
      cases h
      rw [Bool.not_eq_true, Bool.or_eq_false_iff] at hbin
      constructor
      · rintro ⟨parsed, h⟩
        obtain ⟨-, hA, hB, hbd, -⟩ := validateResticFileDiffResult_ok.mp h
        refine ⟨.inr (.inr ?_), hA, hB⟩
        by_contra hne
        obtain ⟨hst, hlines⟩ := diff.differ a b hne
        have hline := hlines (by omega)
        rw [Option.getD_some, isBounded_lines hline] at hbd
        cases hbd
      · rintro ⟨hpl, hA, hB⟩
        have heq : a = b := by
          rcases hpl with h | h | h
          · rw [hbin.1] at h
            cases h
          · rw [hbin.2] at h
            cases h
          · exact h
        have hout : (diff.run a b).stdout = "" := by rw [heq, diff.same]
        refine ⟨_, validateResticFileDiffResult_ok.mpr ⟨rfl, hA, hB, ?_,
          fileDiff_budget hA hB hout⟩⟩
        rw [Option.getD_some, hout]
        exact hnil

/-- A `diff -u` of texts of one line. -/
def lineDiff : DiffTool where
  run a b :=
    if a = b then ⟨0, ""⟩
    else ⟨1, "--- a\n+++ b\n@@ -1 +1 @@\n-" ++ String.ofList (a.map fun c => Char.ofNat c.toNat) ++
      "\n\\ No newline at end of file\n+" ++
      String.ofList (b.map fun c => Char.ofNat c.toNat) ++ "\n\\ No newline at end of file\n"⟩
  same a := if_pos rfl
  differ a b h := by
    rw [if_neg h]
    exact ⟨Nat.one_ne_zero, fun _ => by simp⟩

end Contract

end Meowbox.Backups
