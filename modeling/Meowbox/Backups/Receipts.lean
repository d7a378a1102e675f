import Meowbox.AgentJobs.System

/-!
# `BackupRuntime` of the agent

A backup is accepted with a receipt, its task waits for the promise of the one before, its result is
stored in the receipt, and the receipt is removed when the API has acknowledged it. `receipts.json`
holds the receipts; a restart loses everything else.

Promises are modelled by what continues when they settle: the tasks of `run` and `exclusive` are
`jobs`, each of which waits for the tail it was attached to, and a delivery is a loop over the
entries it found when it began, which waits for one `send` at a time. JavaScript enumerates
integer-like keys first; here entries keep their order, and nothing depends on it.

A call answers what it throws and leaves the runtime as it is then.

`started` records the backups whose task was started and whose result is not acknowledged; it steers
nothing.
-/

namespace Meowbox.Backups

open JsonText

/-! ## Receipts -/

inductive CompletionEvent
  | backup | serverPath | panelData
deriving DecidableEq

def CompletionEvent.text : CompletionEvent → String
  | .backup => "backup:complete"
  | .serverPath => "server-path:complete"
  | .panelData => "panel-data:complete"

structure BackupResult where
  backupId : String
  success : Bool
  filePath : Option String
  snapshotId : Option String
  sizeBytes : Option Int
  error : Option String
deriving DecidableEq

structure Receipt where
  event : CompletionEvent
  result : Option BackupResult
deriving DecidableEq

/-- The own properties of `receipts`. -/
abbrev Receipts := List (String × Receipt)

def MAX_RECEIPTS : Nat := 128
def MAX_BYTES : Nat := 512 * 1024

namespace Receipts

def has (rs : Receipts) (id : String) : Bool := rs.any fun e => e.1 == id

def lookup (rs : Receipts) (id : String) : Option Receipt :=
  (rs.find? fun e => e.1 == id).map Prod.snd

/-- `receipts[id] = receipt`. -/
def assign (rs : Receipts) (id : String) (receipt : Receipt) : Receipts :=
  if rs.has id then rs.map fun e => if e.1 = id then (id, receipt) else e
  else rs ++ [(id, receipt)]

/-- `delete receipts[id]`. -/
def remove (rs : Receipts) (id : String) : Receipts := rs.filter fun e => e.1 != id

end Receipts

/-- What a property of `Object.prototype` answers for an id without a receipt. -/
def INHERITED : List String :=
  ["constructor", "toString", "valueOf", "hasOwnProperty", "isPrototypeOf", "propertyIsEnumerable",
    "toLocaleString", "__defineGetter__", "__defineSetter__", "__lookupGetter__",
    "__lookupSetter__", "__proto__"]

/-! ### Texts and sizes -/

/-- The first bytes of a text, decoded: a character that is cut becomes U+FFFD. -/
def cutBytes : Nat → List Char → List Char
  | _, [] => []
  | max, c :: cs =>
    if c.utf8Size ≤ max then c :: cutBytes (max - c.utf8Size) cs
    else if max = 0 then [] else [Char.ofNat 0xFFFD]

def textLimit (value : Option String) : Option String :=
  value.map fun text => String.ofList (cutBytes 1000 text.toList)

def resultJson (r : BackupResult) : Json :=
  .object (("backupId", .string r.backupId) :: ("success", .boolean r.success) ::
    member "filePath" (r.filePath.map .string) ++ member "snapshotId" (r.snapshotId.map .string) ++
    member "sizeBytes" (r.sizeBytes.map fun size => .number (.ofInt size)) ++
    member "error" (r.error.map .string))

def receiptJson (r : Receipt) : Json :=
  .object (("event", .string r.event.text) :: member "result" (r.result.map resultJson))

/-- `JSON.stringify(receipts)`. -/
def Receipts.contents (rs : Receipts) : List Char :=
  render (.object (rs.map fun e => (e.1, receiptJson e.2)))

/-- `Buffer.byteLength`. -/
def byteLength (cs : List Char) : Nat := (cs.map Char.utf8Size).sum

/-- The journal would hold these receipts. -/
def Receipts.fits (rs : Receipts) : Bool := byteLength rs.contents ≤ MAX_BYTES

/-! ## The runtime -/

/-- Where a task is: its promise is not settled, it is, or what waits for it may go on. -/
inductive Phase
  | waiting | running | settled | released
deriving DecidableEq

/-- A task that was attached to the tail: the backup it is of, or none for maintenance. -/
structure RuntimeJob where
  backup : Option (String × CompletionEvent)
  after : Option Nat
  phase : Phase
deriving DecidableEq

/-- A delivery that waits for `send`, and the entries it has not come to. -/
structure Delivery where
  sending : String × Receipt
  rest : Receipts
deriving DecidableEq

structure BackupRuntime where
  /-- `receipts.json`. -/
  journal : Option Receipts
  receipts : Receipts
  tasks : List String
  jobs : List RuntimeJob
  tail : Option Nat
  delivery : Option Delivery
  initialized : Bool
  exclusivePending : Nat
  started : List String
deriving DecidableEq

/-- A process that has just begun. -/
def BackupRuntime.fresh (journal : Option Receipts) (started : List String) : BackupRuntime :=
  ⟨journal, [], [], [], none, none, false, 0, started⟩

/-- What a call throws, and the runtime behind it. -/
abbrev Called := Except String Unit × BackupRuntime

/-- Go on unless the call threw. -/
def Called.andThen (c : Called) (f : BackupRuntime → Called) : Called :=
  match c.1 with
  | .ok _ => f c.2
  | .error e => (.error e, c.2)

/-- `/^[a-zA-Z0-9-]{1,80}$/`. -/
def validBackupId (id : String) : Bool :=
  id.toList.length != 0 && decide (id.toList.length ≤ 80) && id.toList.all fun c =>
    c.isAlphanum || c == '-'

namespace BackupRuntime

def save (s : BackupRuntime) : Called :=
  if s.receipts.fits then (.ok (), { s with journal := some s.receipts })
  else (.error "Backup receipt journal is full", s)

/-- The result of a backup a restart has interrupted. -/
def interrupted (id : String) : BackupResult where
  backupId := id
  success := false
  filePath := none
  snapshotId := none
  sizeBytes := none
  error := some "Agent restarted before backup completion was confirmed; repository reconciliation is required"

/-- Every receipt has a result. -/
def fill (rs : Receipts) : Receipts :=
  rs.map fun e => (e.1, { e.2 with result := some (e.2.result.getD (interrupted e.1)) })

/-- The error an entry of the journal is refused with. -/
def entryError (e : String × Receipt) : Option String :=
  if !validBackupId e.1 then some "Invalid backup receipt event"
  else if e.2.result.any fun r => r.backupId != e.1 then some "Invalid backup receipt result"
  else none

/-- `initialize` up to the `save`: the receipts of the journal. -/
def load (s : BackupRuntime) : Called :=
  match s.journal with
  | none => (.ok (), s)
  | some parsed =>
    if !parsed.fits then (.error "Backup receipt journal exceeds its limit", s)
    else if MAX_RECEIPTS < parsed.length then (.error "Invalid backup receipt journal", s)
    else
      match parsed.findSome? entryError with
      | some e => (.error e, { s with receipts := parsed })
      | none => (.ok (), { s with receipts := fill parsed })

def initializeRuntime (s : BackupRuntime) : Called :=
  if s.initialized then (.ok (), s)
  else s.load.andThen fun s => s.save.andThen fun s => (.ok (), { s with initialized := true })

/-- A task is attached to the tail. -/
def attach (s : BackupRuntime) (backup : Option (String × CompletionEvent)) : BackupRuntime :=
  { s with
    jobs := s.jobs ++ [{ backup := backup, after := s.tail, phase := .waiting }]
    tail := some s.jobs.length }

/-- The receipt is reserved and the task attached. -/
def accept (s : BackupRuntime) (id : String) (event : CompletionEvent) : Called :=
  let reserved : BackupRuntime := { s with receipts := s.receipts ++ [(id, ⟨event, none⟩)] }
  match reserved.save with
  | (.ok _, saved) => (.ok (), { saved.attach (some (id, event)) with tasks := saved.tasks ++ [id] })
  | (.error e, _) => (.error e, s)

/-- `run`. -/
def run (s : BackupRuntime) (id : String) (event : CompletionEvent) : Called :=
  s.initializeRuntime.andThen fun s =>
    if !validBackupId id then (.error "Invalid backup ID", s)
    else if s.tasks.contains id then (.ok (), s)
    else if s.receipts.has id then (.ok (), s)
    else if MAX_RECEIPTS ≤ s.receipts.length then
      (.error "Backup queue/receipt journal is full; waiting for API acknowledgements", s)
    else s.accept id event

/-- The receipt `complete` stores. -/
def completed (event : CompletionEvent) (raw : BackupResult) : Receipt where
  event := event
  result := some {
    backupId := raw.backupId
    success := raw.success
    filePath := textLimit raw.filePath
    snapshotId := raw.snapshotId.map (AgentJobs.slice 64)
    sizeBytes := raw.sizeBytes.filter fun size => size.natAbs ≤ 9007199254740991
    error := textLimit raw.error }

/-- An assignment to `__proto__` creates no entry. -/
def store (s : BackupRuntime) (id : String) (receipt : Receipt) : BackupRuntime :=
  if id = "__proto__" then s else { s with receipts := s.receipts.assign id receipt }

/-- `complete`. -/
def complete (s : BackupRuntime) (event : CompletionEvent) (raw : BackupResult) : Called :=
  s.initializeRuntime.andThen fun s =>
    if !s.receipts.has raw.backupId && !INHERITED.contains raw.backupId then
      (.error "Backup completion has no reserved receipt", s)
    else (s.store raw.backupId (completed event raw)).save

/-- `exclusive`; a rejection is what it throws. -/
def exclusive (s : BackupRuntime) (requireIdle : Bool) : Called :=
  let idle : Called := if requireIdle then
      s.initializeRuntime.andThen fun s =>
        if s.receipts ≠ [] ∨ 0 < s.exclusivePending then
          (.error "Backup agent is busy; maintenance must be retried later", s)
        else (.ok (), s)
    else (.ok (), s)
  idle.andThen fun s =>
    if 8 ≤ s.exclusivePending then (.error "Backup maintenance queue is full", s)
    else (.ok (), { s.attach none with exclusivePending := s.exclusivePending + 1 })

/-- The delivery comes to the next entry it may send; without one it ends. -/
def nextEntry (tasks : List String) : Receipts → Option Delivery
  | [] => none
  | e :: rest =>
    if e.2.result.isNone || tasks.contains e.1 then nextEntry tasks rest else some ⟨e, rest⟩

/-- `deliver`, up to its first `await`. -/
def deliver (s : BackupRuntime) : Called :=
  s.initializeRuntime.andThen fun s =>
    if s.delivery.isSome then (.ok (), s)
    else (.ok (), { s with delivery := nextEntry s.tasks s.receipts })

/-- The receipt is removed, and put back when it cannot be. -/
def acknowledge (s : BackupRuntime) (d : Delivery) : BackupRuntime :=
  let removed := { s with
    receipts := s.receipts.remove d.sending.1
    started := s.started.filter fun id => id != d.sending.1 }
  match removed.save with
  | (.ok _, saved) => { saved with delivery := nextEntry saved.tasks d.rest }
  | (.error _, kept) =>
    { kept with receipts := kept.receipts.assign d.sending.1 d.sending.2, delivery := none }

/-- What follows a `send`. -/
def sent (s : BackupRuntime) (acknowledged : Bool) : Option BackupRuntime :=
  s.delivery.map fun d => if acknowledged then s.acknowledge d else { s with delivery := none }

/-! ### The tasks -/

def setPhase (s : BackupRuntime) (k : Nat) (j : RuntimeJob) (phase : Phase) : BackupRuntime :=
  { s with jobs := s.jobs.set k { j with phase := phase } }

/-- The promise a task waits for has settled, and so has what waits for it before. -/
def ready (s : BackupRuntime) (j : RuntimeJob) : Bool :=
  j.after.all fun k => (s.jobs[k]?).any fun before => before.phase == .released

def start (s : BackupRuntime) (k : Nat) : Option BackupRuntime :=
  match s.jobs[k]? with
  | some j =>
    if j.phase = .waiting ∧ s.ready j = true then
      some { s.setPhase k j .running with started := s.started ++ (j.backup.map Prod.fst).toList }
    else none
  | none => none

/-- What `run` completes a backup with whose task ended without a result. -/
def unproduced (id : String) (outcome : Except String Unit) : BackupResult where
  backupId := id
  success := false
  filePath := none
  snapshotId := none
  sizeBytes := none
  error := some (match outcome with
    | .ok _ => "Backup handler did not produce a result"
    | .error message => message)

/-- What `run` makes of the end of a task. -/
def conclude (s : BackupRuntime) (id : String) (event : CompletionEvent)
    (outcome : Except String Unit) : BackupRuntime :=
  if ((s.receipts.lookup id).bind Receipt.result).isSome then s
  else (s.complete event (unproduced id outcome)).2

/-- The task of a backup or of maintenance ends, and its promise settles. -/
def finish (s : BackupRuntime) (k : Nat) (outcome : Except String Unit) : Option BackupRuntime :=
  match s.jobs[k]? with
  | some j =>
    if j.phase = .running then
      some ((match j.backup with
        | some backup => s.conclude backup.1 backup.2 outcome
        | none => s).setPhase k j .settled)
    else none
  | none => none

/-- What waits for the promise of a task goes on. -/
def release (s : BackupRuntime) (k : Nat) : Option BackupRuntime :=
  match s.jobs[k]? with
  | some j =>
    if j.phase = .settled then
      match j.backup with
      | some backup =>
        some { s.setPhase k j .released with tasks := s.tasks.filter fun id => id != backup.1 }
      | none => some { s.setPhase k j .released with exclusivePending := s.exclusivePending - 1 }
    else none
  | none => none

end BackupRuntime

/-! ### Events -/

inductive RuntimeEvent
  | run (id : String) (event : CompletionEvent)
  | complete (event : CompletionEvent) (raw : BackupResult)
  | exclusive (requireIdle : Bool)
  | deliver
  /-- The `send` of the delivery ends. -/
  | sent (acknowledged : Bool)
  | start (k : Nat)
  /-- The task ends. -/
  | finish (k : Nat) (outcome : Except String Unit)
  | release (k : Nat)
  /-- The process dies and another begins. -/
  | restart

def BackupRuntime.step (s : BackupRuntime) : RuntimeEvent → Option BackupRuntime
  | .run id event => some (s.run id event).2
  | .complete event raw => some (s.complete event raw).2
  | .exclusive requireIdle => some (s.exclusive requireIdle).2
  | .deliver => some s.deliver.2
  | .sent acknowledged => s.sent acknowledged
  | .start k => s.start k
  | .finish k outcome => s.finish k outcome
  | .release k => s.release k
  | .restart => some (.fresh s.journal s.started)

end Meowbox.Backups
