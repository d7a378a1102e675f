import Meowbox.Backups.Repositories
import Meowbox.Common.ContractValidation
import Meowbox.Common.StableJson
import Meowbox.Lib.Except
import Meowbox.Lib.JsMap

/-!
# Queries of a restic repository

The query methods of `agent/src/backup/restic.executor.ts` with their handlers in
`agent/src/agent.service.ts`, and the validators of `api/src/backups/restic-query-contract.ts`
that read their results.

* What restic prints arrives as records of the fields the executor reads; lines that are no JSON
  are skipped and not among them. Only successful results are modelled: `data` is the `Json` value
  a handler sends, `JsData.ofJson` of it what the validator is given.
* Sizes are natural numbers. A sum that leaves the safe integers is rounded by the code; it stays
  outside them.
* `localeCompare`, `Date.parse` and `diff -u` are arguments.
* The requests, the other members of a restic snapshot and the fields the validators drop are left
  out.
-/

namespace Meowbox.Backups

open JsData JsonText PosixPath

/-! ## What is sent -/

/-- `'dir' | 'file'`. -/
inductive ItemType
  | dir
  | file
  deriving DecidableEq, Repr

def ItemType.text : ItemType → String
  | dir => "dir"
  | file => "file"

/-- `ResticTreeItemResult`. -/
structure TreeItem where
  name : String
  type : ItemType
  size : Nat
  deriving DecidableEq

/-- The number text of a natural number. -/
def natural (n : Nat) : Json := .number (.ofInt n)

def TreeItem.json (item : TreeItem) : Json :=
  .object [("name", .string item.name), ("type", .string item.type.text),
    ("size", natural item.size)]

/-- An item of a diff. -/
structure DiffItem where
  path : String
  modifier : String
  deriving DecidableEq

def DiffItem.json (item : DiffItem) : Json :=
  .object [("path", .string item.path), ("modifier", .string item.modifier)]

/-- `ResticDiffResult`: the counters by name. -/
structure DiffResult where
  items : List DiffItem
  stats : List (String × Nat)
  deriving DecidableEq

def counters (stats : List (String × Nat)) : Json := .object (stats.map fun c => (c.1, natural c.2))

def DiffResult.json (result : DiffResult) : Json :=
  .object [("items", .array (result.items.map DiffItem.json)), ("stats", counters result.stats)]

/-- A value in the summary of a snapshot: a counter, or a text such as `backup_start`. -/
inductive SummaryValue
  | count (n : Nat)
  | text (s : String)
  deriving DecidableEq

def SummaryValue.json : SummaryValue → Json
  | count n => natural n
  | text s => .string s

/-- `ResticSnapshot`. -/
structure ResticSnapshot where
  id : String
  shortId : String
  time : String
  hostname : String
  paths : List String
  tags : Option (List String)
  summary : Option (List (String × SummaryValue))
  deriving DecidableEq

def ResticSnapshot.json (s : ResticSnapshot) : Json :=
  .object ([("id", .string s.id), ("short_id", .string s.shortId), ("time", .string s.time),
    ("hostname", .string s.hostname), ("paths", .array (s.paths.map .string))] ++
    member "tags" (s.tags.map fun tags => .array (tags.map .string)) ++
    member "summary" (s.summary.map fun summary =>
      .object (summary.map fun entry => (entry.1, entry.2.json))))

/-- `data` of `restic:snapshots`. -/
def snapshotsData (snapshots : List ResticSnapshot) : Json :=
  .object [("snapshots", .array (snapshots.map ResticSnapshot.json))]

/-- `data` of `restic:list-tree`. -/
def treeData (items : List TreeItem) : Json :=
  .object [("items", .array (items.map TreeItem.json))]

/-- The result of a file diff; `unifiedDiff` and `truncated` may be `undefined`. -/
structure FileDiff where
  binary : Bool
  sizeA : Nat
  sizeB : Nat
  unifiedDiff : Option String
  truncated : Option Bool
  deriving DecidableEq

def FileDiff.json (r : FileDiff) : Json :=
  .object ([("binary", .boolean r.binary), ("sizeA", natural r.sizeA),
      ("sizeB", natural r.sizeB)] ++
    member "unifiedDiff" (r.unifiedDiff.map .string) ++
    member "truncated" (r.truncated.map .boolean))

/-! ## `ResticExecutor` -/

namespace ResticExecutor

/-- An object line of `restic ls`. Restic joins the names of a path, so no two slashes meet. -/
structure LsNode where
  name : Option String
  type : Option String
  path : Option String
  size : Option Nat
  clean : ∀ p ∈ path, ¬ ['/', '/'] <:+: p.toList

/-- `path.slice(root.length + 1)` of a path under the root, unless it is empty. -/
def below (root path : List Char) : Option (List Char) :=
  if (root ++ ['/']).isPrefixOf path then
    match path.drop (root.length + 1) with
    | [] => none
    | c :: rel => some (c :: rel)
  else none

/-- What `onLine` of `listTopLevel` reads off a line it does not skip. -/
structure LsLine where
  top : String
  isThisLevel : Bool
  type : Option String
  fileSize : Nat

def lsLine (rootPrefix : String) (obj : LsNode) : Option LsLine :=
  match truthy obj.path, truthy obj.name with
  | some path, some _ =>
    match below rootPrefix.toList path.toList with
    | some rel =>
      match rel.takeWhile (· != '/') with
      | [] => none
      | top => some ⟨String.ofList top, !rel.contains '/', obj.type, obj.size.getD 0⟩
    | none => none
  | _, _ => none

/-- A value of `byTop`, `snapMap` and `liveMap`. -/
structure Entry where
  type : ItemType
  size : Nat
  deriving DecidableEq

/-- `obj.type === 'dir' ? 'dir' : 'file'`. -/
def typeHere (type : Option String) : ItemType := if type = some "dir" then .dir else .file

/-- `onLine` of `listTopLevel`. -/
def onLine (byTop : JsMap String Entry) (l : LsLine) : JsMap String Entry :=
  if l.isThisLevel then
    let t := typeHere l.type
    let known := ((byTop.get l.top).map Entry.size).getD 0
    byTop.set l.top ⟨t, known + if t = .file then l.fileSize else 0⟩
  else
    match byTop.get l.top with
    | none => byTop.set l.top ⟨.dir, if l.type = some "file" then l.fileSize else 0⟩
    | some existing =>
      if l.type = some "file" then byTop.set l.top ⟨existing.type, existing.size + l.fileSize⟩
      else byTop

/-- The comparison of `listTopLevel`: directories first, then by name. -/
def dirsFirst (localeCompare : String → String → Int) (a b : TreeItem) : Bool :=
  if a.type ≠ b.type then a.type = .dir else localeCompare a.name b.name ≤ 0

def listTopLevel (localeCompare : String → String → Int) (rootPath : String)
    (nodes : List LsNode) : List TreeItem :=
  let lines := nodes.filterMap (lsLine (withoutTrailingSlashes rootPath))
  ((lines.foldl onLine .empty).entries.map fun e => ⟨e.1, e.2.type, e.2.size⟩).mergeSort
    (dirsFirst localeCompare)

/-- A JSON line of `restic diff`. -/
inductive DiffLine
  | change (path modifier : Option String)
  | statistics (changedFiles addedFiles removedFiles addedBytes removedBytes : Nat)
  | other

/-- The item of a change. -/
def changeItem : DiffLine → Option DiffItem
  | .change path modifier =>
    match truthy path, truthy modifier with
    | some path, some modifier => some ⟨path, modifier⟩
    | _, _ => none
  | _ => none

/-- The counters of a statistics line. -/
def lineStats : DiffLine → Option (List (String × Nat))
  | .statistics changedFiles addedFiles removedFiles addedBytes removedBytes =>
    some [("changedFiles", changedFiles), ("addedFiles", addedFiles),
      ("removedFiles", removedFiles), ("addedBytes", addedBytes), ("removedBytes", removedBytes)]
  | _ => none

/-- The counters before any statistics line. -/
def noStats : List (String × Nat) :=
  [("changedFiles", 0), ("addedFiles", 0), ("removedFiles", 0), ("addedBytes", 0),
    ("removedBytes", 0)]

def diffSnapshots (lines : List DiffLine) : DiffResult where
  items := lines.filterMap changeItem
  stats := lines.foldl (fun stats line => (lineStats line).getD stats) noStats

/-- The name of a directory entry. -/
structure FileName where
  text : String
  valid : text ≠ "" ∧ '/' ∉ text.toList

/-- The tree under a directory, as `readdir` and `stat` give it: a directory that cannot be read
has no entries, a file may be gone before `stat`. -/
inductive LiveEntry
  | dir (entries : List (FileName × LiveEntry))
  | file (size : Option Nat)
  | other

mutual

/-- What `walk` assigns in `liveMap` for one entry, in order. -/
def walkEntry (rel : String) : LiveEntry → List (String × Entry)
  | .dir entries => (rel, ⟨.dir, 0⟩) :: walkEntries (rel ++ "/") entries
  | .file (some size) => [(rel, ⟨.file, size⟩)]
  | .file none => []
  | .other => []

/-- What `walk` assigns for the entries of a directory, whose path begins theirs. -/
def walkEntries (dir : String) : List (FileName × LiveEntry) → List (String × Entry)
  | [] => []
  | (name, e) :: es => walkEntry (dir ++ name.text) e ++ walkEntries dir es

end

/-- What `onLine` of `diffSnapshotWithLive` assigns in `snapMap`. -/
def snapAssignment (snapPrefix : String) (obj : LsNode) : Option (String × Entry) :=
  match truthy obj.path with
  | some path =>
    match below snapPrefix.toList path.toList with
    | some rel =>
      if obj.type = some "file" then some (String.ofList rel, ⟨.file, obj.size.getD 0⟩)
      else if obj.type = some "dir" then some (String.ofList rel, ⟨.dir, obj.size.getD 0⟩)
      else none
    | none => none
  | none => none

/-- A map after assignments. -/
def assigned (es : List (String × Entry)) : JsMap String Entry :=
  es.foldl (fun m e => m.set e.1 e.2) .empty

/-- The item of a path of the snapshot. -/
def snapItem (liveMap : JsMap String Entry) (e : String × Entry) : Option DiffItem :=
  match liveMap.get e.1 with
  | none => some ⟨e.1, "-"⟩
  | some liveVal =>
    if e.2.type = .file ∧ liveVal.type = .file then
      if e.2.size ≠ liveVal.size then some ⟨e.1, "M"⟩ else none
    else if e.2.type ≠ liveVal.type then some ⟨e.1, "T"⟩
    else none

/-- The item of a path of the live tree. -/
def liveItem (snapMap : JsMap String Entry) (e : String × Entry) : Option DiffItem :=
  if (snapMap.get e.1).isNone then some ⟨e.1, "+"⟩ else none

def diffSnapshotWithLive (localeCompare : String → String → Int) (snapshotRoot : String)
    (nodes : List LsNode) (live : List (FileName × LiveEntry)) : DiffResult :=
  let snapMap := assigned (nodes.filterMap (snapAssignment (withoutTrailingSlashes snapshotRoot)))
  let liveMap := assigned (walkEntries "" live)
  let ofSnap := snapMap.entries.filterMap (snapItem liveMap)
  { items := (ofSnap ++ liveMap.entries.filterMap (liveItem snapMap)).mergeSort fun a b =>
      localeCompare a.path b.path ≤ 0
    stats :=
      [("changedFiles", ofSnap.countP (·.modifier == "M")),
        ("addedFiles", liveMap.entries.countP fun e =>
          (snapMap.get e.1).isNone && e.2.type == .file),
        ("removedFiles", snapMap.entries.countP fun e =>
          (liveMap.get e.1).isNone && e.2.type == .file)] }

/-- The bytes of a file. -/
abbrev Bytes := List UInt8

/-- What an execution of `diff -u` gives. -/
structure DiffRun where
  exitCode : Nat
  stdout : String

/-- `diff -u`: nothing is printed for equal files; status 1 comes with a text of lines. -/
structure DiffTool where
  run : Bytes → Bytes → DiffRun
  same : ∀ a, run a a = ⟨0, ""⟩
  differ : ∀ a b, a ≠ b →
    (run a b).exitCode ≠ 0 ∧ ((run a b).exitCode = 1 → '\n' ∈ (run a b).stdout.toList)

/-- `DIFF_MAX_FILE_BYTES`. -/
def DIFF_MAX_FILE_BYTES : Nat := 2 * 1024 * 1024

/-- What `dumpToFile` leaves in the file. -/
def dumpToFile (content : Bytes) : Bytes := content.take DIFF_MAX_FILE_BYTES

/-- A NUL within the first 8 KiB. -/
def isBinary (content : Bytes) : Bool := (content.take 8192).any (· == 0)

/-- `computeUnifiedDiff`, `none` when it does not succeed. -/
def computeUnifiedDiff (diff : DiffTool) (a b : Bytes) : Option FileDiff :=
  let truncated :=
    decide (DIFF_MAX_FILE_BYTES ≤ a.length) || decide (DIFF_MAX_FILE_BYTES ≤ b.length)
  if isBinary a || isBinary b then some ⟨true, a.length, b.length, none, some truncated⟩
  else
    let r := diff.run a b
    if 1 < r.exitCode then none
    else some ⟨false, a.length, b.length, some r.stdout, some truncated⟩

/-- `diffFileBetweenSnapshots` on the contents of the two files. -/
def diffFileBetweenSnapshots (diff : DiffTool) (a b : Bytes) : Option FileDiff :=
  computeUnifiedDiff diff (dumpToFile a) (dumpToFile b)

/-- `diffFileWithLive`; `live` is `none` where no file is. -/
def diffFileWithLive (diff : DiffTool) (snapshotFilePath livePath : String) (snapshot : Bytes)
    (live : Option Bytes) : Option FileDiff :=
  match live with
  | none =>
    some ⟨false, (dumpToFile snapshot).length, 0, some ("--- " ++ snapshotFilePath ++
      " (snapshot)\n+++ " ++ livePath ++ " (live, missing)\n@@ file removed live @@\n"), none⟩
  | some content => computeUnifiedDiff diff (dumpToFile snapshot) content

end ResticExecutor

/-! ## `restic-query-contract.ts` -/

namespace ResticQueryContract

/-- `SNAPSHOT_ID`. -/
def isSnapshotId (s : String) : Bool :=
  allIn (fun c => isDigitAscii c || (decide ('a' ≤ c) && decide (c ≤ 'f')) ||
    (decide ('A' ≤ c) && decide (c ≤ 'F'))) 6 64 s

/-- `CONTROL`. -/
def hasControl (s : String) : Bool := s.toList.any fun c => decide (c.toNat < 32) || c.toNat == 127

/-- `MAX_RESULT_BYTES`. -/
def MAX_RESULT_BYTES : Nat := 900 * 1024

def record (value : JsValue) (message : String) : Except String (List (String × JsValue)) :=
  match value with
  | .object fields => .ok fields
  | _ => .error message

/-- `keys.sort().join(',')`. -/
def sortedKeys (keys : List String) : String :=
  ",".intercalate (keys.insertionSort utf16Le)

def exactKeys (fields : List (String × JsValue)) (keys : List String) (message : String) :
    Except String Unit :=
  ensure (sortedKeys (fields.map Prod.fst) == sortedKeys keys) message

/-- The values of an array of at most `max`. -/
def boundedArray (value : JsValue) (max : Nat) (message : String) : Except String (List JsValue) :=
  match value with
  | .array items => if items.length ≤ max then .ok items else .error message
  | _ => .error message

def snapshotId (value : JsValue) (message : String) : Except String String :=
  match value with
  | .string s => if isSnapshotId s = true then .ok s else .error message
  | _ => .error message

/-- What `filePath` admits. -/
def isFilePath (s : String) : Bool :=
  s.toList != [] && decide (jsLength s ≤ 4096) && ['/'].isPrefixOf s.toList && !hasControl s &&
    !(s.toList.splitOn '/').contains dotdot

def filePath (value : JsValue) (message : String) : Except String String :=
  match value with
  | .string s => if isFilePath s = true then .ok s else .error message
  | _ => .error message

/-- What `boundedString` admits. -/
def isBounded (max : Nat) (s : String) : Bool := decide (jsLength s ≤ max) && !hasControl s

def boundedString (value : JsValue) (max : Nat) (message : String) : Except String String :=
  match value with
  | .string s => if isBounded max s = true then .ok s else .error message
  | _ => .error message

def nonNegativeInteger (value : JsValue) (message : String) : Except String Nat :=
  match value with
  | .number n =>
    match integer? n with
    | some i => if 0 ≤ i ∧ i ≤ MAX_SAFE_INTEGER then .ok i.toNat else .error message
    | none => .error message
  | _ => .error message

/-- `assertResultBudget` of a value that is written as `json`. -/
def assertResultBudget (json : Json) : Except String Unit :=
  ensure (decide (byteSize (render json) ≤ MAX_RESULT_BYTES))
    "Restic query result exceeds durable result budget"

/-- `/^[a-z][a-z0-9…]{0,63}$/`, where `extra` are the further characters of the class. -/
def isCounterName (extra : Char → Bool) (key : String) : Bool :=
  match key.toList with
  | [] => false
  | c :: cs => isLowerAscii c && decide (cs.length ≤ 63) &&
      cs.all fun d => isLowerAscii d || isDigitAscii d || extra d

/-- A record of at most 16 counters. -/
def counterRecord (extra : Char → Bool) (value : JsValue) (message : String) :
    Except String (List (String × Nat)) := do
  let source ← record value message
  ensure (decide (source.length ≤ 16)) message
  source.mapM fun entry => do
    ensure (isCounterName extra entry.1) message
    let number ← nonNegativeInteger entry.2 message
    return (entry.1, number)

/-- A value that may be absent. -/
def optional {α : Type} (value : JsValue) (parse : JsValue → Except String α) :
    Except String (Option α) :=
  match value with
  | .undefined => .ok none
  | v => (parse v).map some

section Snapshots

variable (dateParse : String → Option Int)

def snapshotOf (entry : JsValue) : Except String ResticSnapshot := do
  let item ← record entry "Restic snapshot result is invalid"
  let id ← snapshotId (property item "id") "Restic snapshot result is invalid"
  let shortId ← snapshotId (property item "short_id") "Restic snapshot result is invalid"
  let time ← boundedString (property item "time") 64 "Restic snapshot result is invalid"
  ensure (dateParse time).isSome "Restic snapshot result is invalid"
  let hostname ← boundedString (property item "hostname") 255 "Restic snapshot result is invalid"
  let paths ← boundedArray (property item "paths") 64 "Restic snapshot result is invalid"
  let paths ← paths.mapM fun path => boundedString path 4096 "Restic snapshot result is invalid"
  let tags ← optional (property item "tags") fun value => do
    let tags ← boundedArray value 64 "Restic snapshot result is invalid"
    tags.mapM fun tag => boundedString tag 256 "Restic snapshot result is invalid"
  let summary ← optional (property item "summary") fun value =>
    counterRecord (· == '_') value "Restic snapshot summary is invalid"
  return ⟨id, shortId, time, hostname, paths, tags,
    summary.map fun summary => summary.map fun c => (c.1, .count c.2)⟩

def validateResticSnapshotsResult (value : JsValue) : Except String (List ResticSnapshot) := do
  let result ← record value "Restic snapshots result is invalid"
  let snapshots ←
    boundedArray (property result "snapshots") 5000 "Restic snapshots result is invalid"
  let parsed ← snapshots.mapM (snapshotOf dateParse)
  assertResultBudget (.array (parsed.map ResticSnapshot.json))
  return parsed

end Snapshots

/-- The name of a tree item. -/
def treeName (name : String) : Bool :=
  name != "" && name != "." && name != ".." && !name.toList.contains '/'

def treeItem (entry : JsValue) : Except String TreeItem := do
  let item ← record entry "Restic tree item is invalid"
  exactKeys item ["name", "type", "size"] "Restic tree item is invalid"
  let name ← boundedString (property item "name") 255 "Restic tree item is invalid"
  ensure (treeName name) "Restic tree item is invalid"
  let type ← requireEnum (property item "type") [("dir", .dir), ("file", .file)]
    "Restic tree item"
  let size ← nonNegativeInteger (property item "size") "Restic tree item is invalid"
  return ⟨name, type, size⟩

def validateResticTreeResult (value : JsValue) : Except String (List TreeItem) := do
  let result ← record value "Restic tree result is invalid"
  let items ← boundedArray (property result "items") 20000 "Restic tree result is invalid"
  let parsed ← items.mapM treeItem
  assertResultBudget (.array (parsed.map TreeItem.json))
  return parsed

/-- The modifiers of a diff item. -/
def MODIFIERS : List String := ["+", "-", "M", "T", "U"]

def diffItem (entry : JsValue) : Except String DiffItem := do
  let item ← record entry "Restic diff item is invalid"
  exactKeys item ["path", "modifier"] "Restic diff item is invalid"
  let path ← filePath (property item "path") "Restic diff item is invalid"
  let modifier ← boundedString (property item "modifier") 8 "Restic diff item is invalid"
  ensure (MODIFIERS.contains modifier) "Restic diff item is invalid"
  return ⟨path, modifier⟩

def validateResticDiffResult (value : JsValue) : Except String DiffResult := do
  let result ← record value "Restic diff result is invalid"
  exactKeys result ["items", "stats"] "Restic diff result is invalid"
  let items ← boundedArray (property result "items") 20000 "Restic diff result is invalid"
  let items ← items.mapM diffItem
  let stats ← counterRecord isUpperAscii (property result "stats") "Restic diff stats are invalid"
  let parsed : DiffResult := ⟨items, stats⟩
  assertResultBudget parsed.json
  return parsed

/-- `value ?? default`. -/
def orDefault (value default : JsValue) : JsValue :=
  match value with
  | .undefined => default
  | .null => default
  | v => v

/-- `value === true`. -/
def isTrue : JsValue → Bool
  | .boolean b => b
  | _ => false

def validateResticFileDiffResult (value : JsValue) : Except String FileDiff := do
  let result ← record value "Restic file diff result is invalid"
  ensure (result.all fun field =>
    ["binary", "sizeA", "sizeB", "unifiedDiff", "truncated"].contains field.1)
    "Restic file diff result is invalid"
  let zero := JsValue.number (.ofInt 0)
  let sizeA ← nonNegativeInteger (orDefault (property result "sizeA") zero)
    "Restic file diff result is invalid"
  let sizeB ← nonNegativeInteger (orDefault (property result "sizeB") zero)
    "Restic file diff result is invalid"
  let unifiedDiff ← boundedString (orDefault (property result "unifiedDiff") (.string ""))
    (768 * 1024) "Restic file diff result is invalid"
  let parsed : FileDiff := ⟨isTrue (property result "binary"), sizeA, sizeB, some unifiedDiff,
    some (isTrue (property result "truncated"))⟩
  assertResultBudget parsed.json
  return parsed

end ResticQueryContract

end Meowbox.Backups
