import Meowbox.Lib.Runs

/-!
# A backup that is streamed to the browser

Model of what `streamDownload` of `api/src/backups/backup-exports.service.ts` does once Restic is
spawned: the handlers of the process, of its stdout and of the response. Node promises no order
between the end of stdout and the exit of the process: stdout may end first, and a process may exit
with output left in the pipe. `validatedResticOutput`, which the staged exports read from, waits for
`close` instead, which comes behind both.

* `streamStep_stage`, `streamStep_spoils`: what a step keeps, and which steps cannot be made good.
* **`streamed_exports`**: an export whose process has come to its end is `Whole` exactly when every
  step was `Orderly`.
* `truncated_archive`: a process that fails behind the end of its output leaves a whole response.
-/

namespace Meowbox.StreamedExport

open Stepping

abbrev Bytes := List UInt8

/-- `res`, as the client sees it: nothing yet, an archive on its way, an archive that has been
closed, the report of an error with status 500, or a connection that is cut. -/
inductive ExportResponse
  | unsent
  | streaming (body : Bytes)
  | ended (body : Bytes)
  | report
  | destroyed
deriving DecidableEq

namespace ExportResponse

/-- `res.headersSent`; of a connection that is cut nobody sees the difference. -/
def headersSent : ExportResponse → Bool
  | unsent | destroyed => false
  | streaming _ | ended _ | report => true

/-- `res.write(chunk)`. -/
def write (chunk : Bytes) : ExportResponse → ExportResponse
  | unsent => streaming chunk
  | streaming body => streaming (body ++ chunk)
  | res => res

/-- `res.end()`. -/
def finish : ExportResponse → ExportResponse
  | unsent => ended []
  | streaming body => ended body
  | res => res

/-- `res.status(500).json(…)`, which throws behind the headers. -/
def json : ExportResponse → ExportResponse
  | unsent => report
  | res => res

/-- `res.destroy()`: what has been closed stays closed. -/
def destroy : ExportResponse → ExportResponse
  | unsent | streaming _ => destroyed
  | res => res

end ExportResponse

/-- What happens to a stream: `data` and `end` of stdout, `exit` of the process (without a code when
a signal ended it), its `error`, the `close` of the response, and the idle timer. -/
inductive StreamEvent
  | data (chunk : Bytes)
  | stdoutEnd
  | exit (code : Option Nat)
  | error
  | close
  | idle
deriving DecidableEq

/-- The variables of the handlers, and what has happened: all that the process has written, its exit
code, and whether the response was cut while the process ran and its output was open. -/
structure ExportStream where
  response : ExportResponse
  headersSent : Bool
  piped : Bool
  written : Bytes
  stdoutEnded : Bool
  exited : Option (Option Nat)
  failed : Bool
  closed : Bool
  cut : Bool
deriving DecidableEq

namespace ExportStream

/-- The process has been spawned. -/
def start : ExportStream where
  response := .unsent
  headersSent := false
  piped := false
  written := []
  stdoutEnded := false
  exited := none
  failed := false
  closed := false
  cut := false

/-- The process runs and its output is open. -/
def alive (s : ExportStream) : Bool := s.exited.isNone && !s.stdoutEnded

/-- `sendHeadersIfNeeded`: the headers are set, and go out with what is written next. -/
def sendHeadersIfNeeded (s : ExportStream) : ExportStream :=
  if s.headersSent || s.response.headersSent then s else { s with headersSent := true }

/-- `proc.stdout.once('data', …)`, and the pipe that it starts. -/
def onData (s : ExportStream) (chunk : Bytes) : ExportStream :=
  let s := if s.piped then s else { s.sendHeadersIfNeeded with piped := true }
  { s with response := s.response.write chunk, written := s.written ++ chunk }

/-- The pipe ends the response. -/
def onStdoutEnd (s : ExportStream) : ExportStream :=
  { s with
    stdoutEnded := true
    response := if s.piped then s.response.finish else s.response }

/-- `proc.on('exit', …)`. -/
def onExit (s : ExportStream) (code : Option Nat) : ExportStream :=
  let s := { s with exited := some code }
  if code = some 0 then
    if s.headersSent then s
    else { s.sendHeadersIfNeeded with response := s.response.finish }
  else if s.headersSent then { s with response := s.response.destroy }
  else { s with response := s.response.json }

/-- `proc.on('error', …)`. -/
def onError (s : ExportStream) : ExportStream :=
  { s with
    failed := true
    cut := s.cut || (s.alive && s.written.isEmpty)
    response := if s.response.headersSent then s.response else s.response.json }

/-- The response is closed, or the idle timer closes it. -/
def interrupt (s : ExportStream) : ExportStream :=
  { s with cut := s.cut || s.alive, response := s.response.destroy }

end ExportStream

/-- One thing happens: stdout gives chunks, of some bytes each, and then its end; the process exits
once; an error comes from a process that has not exited; the response closes once, and the idle
timer runs until one of these three. -/
def streamStep (s : ExportStream) : StreamEvent → Option ExportStream
  | .data chunk => if !s.stdoutEnded && !chunk.isEmpty then some (s.onData chunk) else none
  | .stdoutEnd => if !s.stdoutEnded then some s.onStdoutEnd else none
  | .exit code => if s.exited.isNone then some (s.onExit code) else none
  | .error => if s.exited.isNone then some s.onError else none
  | .close => if !s.closed then some { s.interrupt with closed := true } else none
  | .idle => if s.exited.isNone && !s.failed && !s.closed then some s.interrupt else none

/-! ## Whole exports -/

/-- The process has come to its end and its output has been read; or it was never there. -/
def Complete (s : ExportStream) : Prop :=
  (s.stdoutEnded = true ∧ s.exited.isSome = true) ∨
    (s.failed = true ∧ s.written = [] ∧ s.exited = none)

/-- **The export is complete or failed**: an archive that is closed is all that the process has
written, and the process has exited with 0; behind a process that has not, the response is cut or
reports an error. -/
structure Whole (s : ExportStream) : Prop where
  archive : ∀ body, s.response = .ended body → body = s.written ∧ s.exited = some (some 0)
  failure : s.exited ≠ some (some 0) → s.response = .report ∨ s.response = .destroyed

/-- **The order that the handlers count on**: a process that fails behind something it has written
exits in front of the end of its output; and one that exits with 0 has written before, if it writes
at all. Of a response that was cut before nothing is left to spoil. -/
def Orderly (s : ExportStream) : StreamEvent → Prop
  | .exit code => code ≠ some 0 → s.stdoutEnded = true → s.written = [] ∨ s.cut = true
  | .data _ => s.exited = some (some 0) → s.written ≠ [] ∨ s.cut = true
  | _ => True

instance (s : ExportStream) (e : StreamEvent) : Decidable (Orderly s e) := by
  apply e.casesOn (motive := fun e => Decidable (Orderly s e)) <;> intros <;>
    dsimp only [Orderly] <;> infer_instance

/-! ## The stages of a response -/

/-- **What the response has been given**, in an order that keeps to the handlers' one: nothing yet;
all that is written so far; all there is, out of the pipe or out of an exit with nothing written; or
it is lost. Why a response is lost that was not cut tells its last field. -/
inductive Stage (s : ExportStream) : Prop
  | fresh (hresp : s.response = .unsent) (hhdr : s.headersSent = false)
      (hpip : s.piped = false) (hwr : s.written = []) (hexit : s.exited = none)
      (hfailed : s.failed = false) (hcut : s.cut = false)
  | flowing (hresp : s.response = .streaming s.written) (hhdr : s.headersSent = true)
      (hpip : s.piped = true) (hwr : s.written ≠ []) (hopen : s.stdoutEnded = false)
      (hexit : s.exited = none ∨ s.exited = some (some 0)) (hcut : s.cut = false)
  | drained (hresp : s.response = .ended s.written) (hhdr : s.headersSent = true)
      (hpip : s.piped = true) (hwr : s.written ≠ []) (hend : s.stdoutEnded = true)
      (hexit : s.exited = none ∨ s.exited = some (some 0)) (hcut : s.cut = false)
  | empty (hresp : s.response = .ended []) (hpip : s.piped = false) (hwr : s.written = [])
      (hexit : s.exited = some (some 0)) (hcut : s.cut = false)
  | lost (hresp : s.response = .report ∨ s.response = .destroyed)
      (hpip : s.piped = true → s.written ≠ [])
      (hunc : s.cut = false → (s.exited = none → s.stdoutEnded = true ∧ s.written = []) ∧
        (s.exited = some (some 0) → s.written ≠ [] ∨ s.stdoutEnded = true))

/-- An archive has been closed that is not all, or whose process has failed. -/
def Spoilt (s : ExportStream) : Prop :=
  ∃ body, s.response = .ended body ∧
    (body.length < s.written.length ∨ ∃ code, s.exited = some code ∧ code ≠ some 0)

theorem stage_start : Stage ExportStream.start := .fresh rfl rfl rfl rfl rfl rfl rfl

section Responses

variable {res : ExportResponse} {chunk : Bytes}

/-- A response that is lost stays lost. -/
def IsLost (res : ExportResponse) : Prop := res = .report ∨ res = .destroyed

theorem IsLost.write (h : IsLost res) : res.write chunk = res := by
  rcases h with rfl | rfl
  · rfl
  · rfl

theorem IsLost.finish (h : IsLost res) : res.finish = res := by
  rcases h with rfl | rfl
  · rfl
  · rfl

theorem IsLost.json (h : IsLost res) : res.json = res := by
  rcases h with rfl | rfl
  · rfl
  · rfl

theorem IsLost.destroy (h : IsLost res) : res.destroy = res := by
  rcases h with rfl | rfl
  · rfl
  · rfl

/-- A response that has been closed stays as it is. -/
theorem ended_stays {body : Bytes} (chunk : Bytes) (h : res = .ended body) :
    res.write chunk = res ∧ res.finish = res ∧ res.json = res ∧ res.destroy = res := by
  subst h
  exact ⟨rfl, rfl, rfl, rfl⟩

end Responses

section Steps

variable {s s' : ExportStream} {e : StreamEvent} {chunk : Bytes} {code : Option Nat}

@[simp] theorem sendHeadersIfNeeded_response : s.sendHeadersIfNeeded.response = s.response := by
  unfold ExportStream.sendHeadersIfNeeded
  split
  · rfl
  · rfl

@[simp] theorem sendHeadersIfNeeded_written : s.sendHeadersIfNeeded.written = s.written := by
  unfold ExportStream.sendHeadersIfNeeded
  split
  · rfl
  · rfl

@[simp] theorem sendHeadersIfNeeded_stdoutEnded :
    s.sendHeadersIfNeeded.stdoutEnded = s.stdoutEnded := by
  unfold ExportStream.sendHeadersIfNeeded
  split
  · rfl
  · rfl

@[simp] theorem sendHeadersIfNeeded_exited : s.sendHeadersIfNeeded.exited = s.exited := by
  unfold ExportStream.sendHeadersIfNeeded
  split
  · rfl
  · rfl

@[simp] theorem sendHeadersIfNeeded_piped : s.sendHeadersIfNeeded.piped = s.piped := by
  unfold ExportStream.sendHeadersIfNeeded
  split
  · rfl
  · rfl

@[simp] theorem sendHeadersIfNeeded_cut : s.sendHeadersIfNeeded.cut = s.cut := by
  unfold ExportStream.sendHeadersIfNeeded
  split
  · rfl
  · rfl

/-- What a chunk does, whether it is the first or not. -/
theorem onData_fields (s : ExportStream) (chunk : Bytes) :
    (s.onData chunk).response = s.response.write chunk ∧
      (s.onData chunk).written = s.written ++ chunk ∧ (s.onData chunk).piped = true ∧
      (s.onData chunk).stdoutEnded = s.stdoutEnded ∧ (s.onData chunk).exited = s.exited ∧
      (s.onData chunk).cut = s.cut := by
  unfold ExportStream.onData
  by_cases hpip : s.piped = true
  · rw [if_pos hpip]
    exact ⟨rfl, rfl, hpip, rfl, rfl, rfl⟩
  · rw [if_neg hpip]
    simp

theorem onData_stage (hs : Stage s) (hopen : s.stdoutEnded = false) (hchunk : chunk ≠ [])
    (hok : s.exited = some (some 0) → s.written ≠ [] ∨ s.cut = true) : Stage (s.onData chunk) := by
  obtain ⟨hres, hwro, hpipe, hstdout, hex, hcut'⟩ := onData_fields s chunk
  have hsome : s.written ++ chunk ≠ [] := fun h => hchunk (List.append_eq_nil_iff.mp h).2
  cases hs with
  | fresh hresp hhdr hpip hwr hexit hfailed hcut =>
    refine .flowing ?_ ?_ hpipe (hwro ▸ hsome) (hstdout.trans hopen) (.inl (hex.trans hexit))
      (hcut'.trans hcut)
    · rw [hres, hwro, hresp, hwr]
      rfl
    · simp [ExportStream.onData, ExportStream.sendHeadersIfNeeded, ExportResponse.headersSent,
        hpip, hhdr, hresp]
  | flowing hresp hhdr hpip hwr hopen' hexit hcut =>
    refine .flowing ?_ ?_ hpipe (hwro ▸ hsome) (hstdout.trans hopen) (hex ▸ hexit)
      (hcut'.trans hcut)
    · rw [hres, hwro, hresp]
      rfl
    · rw [ExportStream.onData, if_pos hpip]
      exact hhdr
  | drained hresp hhdr hpip hwr hend hexit hcut =>
    rw [hopen] at hend
    exact absurd hend (by decide)
  | empty hresp hpip hwr hexit hcut =>
    rcases hok hexit with hsome' | hlost
    · exact absurd hwr hsome'
    · rw [hcut] at hlost
      exact absurd hlost (by decide)
  | lost hresp hpip hunc =>
    refine .lost ?_ (fun _ => hwro ▸ hsome) fun hcut => ⟨fun hrunning => ?_, fun _ => ?_⟩
    · rw [hres, IsLost.write hresp]
      exact hresp
    · have hdone := ((hunc (hcut'.symm.trans hcut)).1 (hex.symm.trans hrunning)).1
      rw [hopen] at hdone
      exact absurd hdone (by decide)
    · exact .inl (hwro ▸ hsome)

theorem onStdoutEnd_stage (hs : Stage s) (hopen : s.stdoutEnded = false) : Stage s.onStdoutEnd := by
  cases hs with
  | fresh hresp hhdr hpip hwr hexit hfailed hcut =>
    refine .fresh ?_ hhdr hpip hwr hexit hfailed hcut
    simp [ExportStream.onStdoutEnd, hpip, hresp]
  | flowing hresp hhdr hpip hwr hopen' hexit hcut =>
    refine .drained ?_ hhdr hpip hwr rfl hexit hcut
    simp [ExportStream.onStdoutEnd, hpip, hresp, ExportResponse.finish]
  | drained hresp hhdr hpip hwr hend hexit hcut =>
    rw [hopen] at hend
    exact absurd hend (by decide)
  | empty hresp hpip hwr hexit hcut =>
    refine .empty ?_ hpip hwr hexit hcut
    simp [ExportStream.onStdoutEnd, hpip, hresp]
  | lost hresp hpip hunc =>
    refine .lost ?_ hpip fun hcut => ⟨fun hrunning => ?_, fun _ => .inr rfl⟩
    · have hsame : s.onStdoutEnd.response = s.response := by
        unfold ExportStream.onStdoutEnd
        dsimp only
        rw [IsLost.finish hresp, ite_self]
      rw [hsame]
      exact hresp
    · exact ⟨rfl, ((hunc hcut).1 hrunning).2⟩

theorem onExit_stage (hs : Stage s) (hrunning : s.exited = none)
    (hok : code ≠ some 0 → s.stdoutEnded = true → s.written = [] ∨ s.cut = true) :
    Stage (s.onExit code) := by
  cases hs with
  | fresh hresp hhdr hpip hwr hexit hfailed hcut =>
    by_cases hcode : code = some 0
    · refine .empty ?_ ?_ ?_ ?_ ?_ <;>
        simp [ExportStream.onExit, hcode, hhdr, hresp, hpip, hwr, hcut,
          ExportResponse.finish]
    · refine .lost (.inl ?_) ?_ fun _ => ⟨fun hnone => ?_, fun hzero => ?_⟩
      · simp [ExportStream.onExit, hcode, hhdr, hresp, ExportResponse.json]
      · simp [ExportStream.onExit, hcode, hhdr, hpip]
      · simp [ExportStream.onExit, hcode, hhdr] at hnone
      · simp [ExportStream.onExit, hcode, hhdr] at hzero
  | flowing hresp hhdr hpip hwr hopen hexit hcut =>
    by_cases hcode : code = some 0
    · refine .flowing ?_ ?_ ?_ ?_ ?_ (.inr ?_) ?_ <;>
        simp [ExportStream.onExit, hcode, hhdr, hresp, hpip, hwr, hcut, hopen]
    · refine .lost (.inr ?_) ?_ fun _ => ⟨fun hnone => ?_, fun hzero => ?_⟩
      · simp [ExportStream.onExit, hcode, hhdr, hresp, ExportResponse.destroy]
      · simp [ExportStream.onExit, hcode, hhdr, hwr]
      · simp [ExportStream.onExit, hcode, hhdr] at hnone
      · simp [ExportStream.onExit, hcode, hhdr] at hzero
  | drained hresp hhdr hpip hwr hend hexit hcut =>
    by_cases hcode : code = some 0
    · refine .drained ?_ ?_ ?_ ?_ ?_ (.inr ?_) ?_ <;>
        simp [ExportStream.onExit, hcode, hhdr, hresp, hpip, hwr, hcut, hend]
    · rcases hok hcode hend with hnone | hlost
      · exact absurd hnone hwr
      · rw [hcut] at hlost
        exact absurd hlost (by decide)
  | empty hresp hpip hwr hexit hcut =>
    rw [hrunning] at hexit
    exact absurd hexit (by simp)
  | lost hresp hpip hunc =>
    have hsame : (s.onExit code).response = s.response ∧ (s.onExit code).written = s.written ∧
        (s.onExit code).piped = s.piped ∧ (s.onExit code).stdoutEnded = s.stdoutEnded ∧
        (s.onExit code).exited = some code ∧ (s.onExit code).cut = s.cut := by
      unfold ExportStream.onExit
      dsimp only
      split
      · split
        · exact ⟨rfl, rfl, rfl, rfl, rfl, rfl⟩
        · simp [IsLost.finish hresp]
      · split
        · simp [IsLost.destroy hresp]
        · simp [IsLost.json hresp]
    obtain ⟨hres, hwro, hpipe, hstdout, hex, hcut'⟩ := hsame
    refine .lost (by rw [hres]; exact hresp) (by rw [hpipe, hwro]; exact hpip) fun hcut =>
      ⟨fun hnone => ?_, fun _ => .inr ?_⟩
    · rw [hex] at hnone
      exact absurd hnone (by simp)
    · rw [hstdout]
      exact ((hunc (hcut'.symm.trans hcut)).1 hrunning).1

theorem onError_stage (hs : Stage s) (hrunning : s.exited = none) : Stage s.onError := by
  cases hs with
  | fresh hresp hhdr hpip hwr hexit hfailed hcut =>
    refine .lost (.inl ?_) ?_ fun hcut' => ⟨fun _ => ⟨?_, hwr⟩, fun hzero => ?_⟩
    · simp [ExportStream.onError, hresp, ExportResponse.headersSent, ExportResponse.json]
    · intro hpip'
      exact absurd (hpip.symm.trans hpip') (by decide)
    · simpa [ExportStream.onError, ExportStream.alive, hcut, hexit, hwr] using hcut'
    · exact absurd (hexit.symm.trans hzero) (by simp)
  | flowing hresp hhdr hpip hwr hopen hexit hcut =>
    refine .flowing ?_ hhdr hpip hwr hopen hexit ?_
    · simp [ExportStream.onError, hresp, ExportResponse.headersSent]
    · simp [ExportStream.onError, hcut, hwr]
  | drained hresp hhdr hpip hwr hend hexit hcut =>
    refine .drained ?_ hhdr hpip hwr hend hexit ?_
    · simp [ExportStream.onError, hresp, ExportResponse.headersSent]
    · simp [ExportStream.onError, hcut, hwr]
  | empty hresp hpip hwr hexit hcut =>
    rw [hrunning] at hexit
    exact absurd hexit (by simp)
  | lost hresp hpip hunc =>
    refine .lost ?_ hpip fun hcut => hunc ?_
    · have hsame : s.onError.response = s.response := by
        unfold ExportStream.onError
        dsimp only
        rw [IsLost.json hresp, ite_self]
      rw [hsame]
      exact hresp
    · simp only [ExportStream.onError, Bool.or_eq_false_iff] at hcut
      exact hcut.1

theorem interrupt_stage (hs : Stage s) : Stage s.interrupt := by
  cases hs with
  | fresh hresp hhdr hpip hwr hexit hfailed hcut =>
    refine .lost (.inr ?_) ?_ fun hcut' => ⟨fun _ => ⟨?_, hwr⟩, fun hzero => ?_⟩
    · simp [ExportStream.interrupt, hresp, ExportResponse.destroy]
    · intro hpip'
      exact absurd (hpip.symm.trans hpip') (by decide)
    · simpa [ExportStream.interrupt, ExportStream.alive, hcut, hexit] using hcut'
    · exact absurd (hexit.symm.trans hzero) (by simp)
  | flowing hresp hhdr hpip hwr hopen hexit hcut =>
    refine .lost (.inr ?_) (fun _ => hwr) fun hcut' => ⟨fun hnone => ?_, fun _ => .inl hwr⟩
    · simp [ExportStream.interrupt, hresp, ExportResponse.destroy]
    · have hnone' : s.exited = none := hnone
      simp [ExportStream.interrupt, ExportStream.alive, hnone', hopen] at hcut'
  | drained hresp hhdr hpip hwr hend hexit hcut =>
    refine .drained ?_ hhdr hpip hwr hend hexit ?_
    · simp [ExportStream.interrupt, hresp, ExportResponse.destroy]
    · simp [ExportStream.interrupt, ExportStream.alive, hcut, hend]
  | empty hresp hpip hwr hexit hcut =>
    refine .empty ?_ hpip hwr hexit ?_
    · simp [ExportStream.interrupt, hresp, ExportResponse.destroy]
    · simp [ExportStream.interrupt, ExportStream.alive, hcut, hexit]
  | lost hresp hpip hunc =>
    refine .lost ?_ hpip fun hcut => hunc ?_
    · have hsame : s.interrupt.response = s.response := IsLost.destroy hresp
      rw [hsame]
      exact hresp
    · simp only [ExportStream.interrupt, Bool.or_eq_false_iff] at hcut
      exact hcut.1

/-- Whether the response has closed is no part of its stage. -/
theorem Stage.close (hs : Stage s) : Stage { s with closed := true } := by
  cases hs with
  | fresh hresp hhdr hpip hwr hexit hfailed hcut =>
    exact .fresh hresp hhdr hpip hwr hexit hfailed hcut
  | flowing hresp hhdr hpip hwr hopen hexit hcut =>
    exact .flowing hresp hhdr hpip hwr hopen hexit hcut
  | drained hresp hhdr hpip hwr hend hexit hcut =>
    exact .drained hresp hhdr hpip hwr hend hexit hcut
  | empty hresp hpip hwr hexit hcut => exact .empty hresp hpip hwr hexit hcut
  | lost hresp hpip hunc => exact .lost hresp hpip hunc

/-- What a step does, and when it may be taken. -/
theorem streamStep_cases (h : streamStep s e = some s') :
    match e with
    | .data chunk => s.stdoutEnded = false ∧ chunk ≠ [] ∧ s' = s.onData chunk
    | .stdoutEnd => s.stdoutEnded = false ∧ s' = s.onStdoutEnd
    | .exit code => s.exited = none ∧ s' = s.onExit code
    | .error => s.exited = none ∧ s' = s.onError
    | .close => s.closed = false ∧ s' = { s.interrupt with closed := true }
    | .idle => s.closed = false ∧ s' = s.interrupt := by
  cases e with
  | data chunk =>
    obtain ⟨hmay, hs'⟩ := Option.ite_none_right_eq_some.mp h
    simp only [Bool.and_eq_true, Bool.not_eq_true', List.isEmpty_eq_false_iff] at hmay
    exact ⟨hmay.1, hmay.2, (Option.some.inj hs').symm⟩
  | stdoutEnd =>
    obtain ⟨hmay, hs'⟩ := Option.ite_none_right_eq_some.mp h
    exact ⟨by simpa using hmay, (Option.some.inj hs').symm⟩
  | exit code =>
    obtain ⟨hmay, hs'⟩ := Option.ite_none_right_eq_some.mp h
    exact ⟨Option.isNone_iff_eq_none.mp hmay, (Option.some.inj hs').symm⟩
  | error =>
    obtain ⟨hmay, hs'⟩ := Option.ite_none_right_eq_some.mp h
    exact ⟨Option.isNone_iff_eq_none.mp hmay, (Option.some.inj hs').symm⟩
  | close =>
    obtain ⟨hmay, hs'⟩ := Option.ite_none_right_eq_some.mp h
    exact ⟨by simpa using hmay, (Option.some.inj hs').symm⟩
  | idle =>
    obtain ⟨hmay, hs'⟩ := Option.ite_none_right_eq_some.mp h
    simp only [Bool.and_eq_true, Bool.not_eq_true'] at hmay
    exact ⟨hmay.2, (Option.some.inj hs').symm⟩

/-- **A step that keeps to the order** keeps what the response has been given. -/
theorem streamStep_stage (hs : Stage s) (hok : Orderly s e) (h : streamStep s e = some s') :
    Stage s' := by
  have hstep := streamStep_cases h
  cases e with
  | data chunk =>
    obtain ⟨hopen, hchunk, rfl⟩ := hstep
    exact onData_stage hs hopen hchunk hok
  | stdoutEnd =>
    obtain ⟨hopen, rfl⟩ := hstep
    exact onStdoutEnd_stage hs hopen
  | exit code =>
    obtain ⟨hrunning, rfl⟩ := hstep
    exact onExit_stage hs hrunning hok
  | error =>
    obtain ⟨hrunning, rfl⟩ := hstep
    exact onError_stage hs hrunning
  | close =>
    obtain ⟨-, rfl⟩ := hstep
    exact (interrupt_stage hs).close
  | idle =>
    obtain ⟨-, rfl⟩ := hstep
    exact interrupt_stage hs

/-- **A step against the order spoils the archive**, which has been closed before. -/
theorem streamStep_spoils (hs : Stage s) (hok : ¬ Orderly s e) (h : streamStep s e = some s') :
    Spoilt s' := by
  have hstep := streamStep_cases h
  cases e with
  | data chunk =>
    obtain ⟨hopen, hchunk, rfl⟩ := hstep
    simp only [Orderly, Classical.not_imp, not_or, Classical.not_not, Bool.not_eq_true] at hok
    obtain ⟨hzero, hno, hunc⟩ := hok
    obtain ⟨hres, hwro, -⟩ := onData_fields s chunk
    cases hs with
    | fresh hresp hhdr hpip hwr hexit hfailed hcut =>
      exact absurd (hexit.symm.trans hzero) (by simp)
    | flowing hresp hhdr hpip hwr hopen' hexit hcut => exact absurd hno hwr
    | drained hresp hhdr hpip hwr hend hexit hcut => exact absurd hno hwr
    | empty hresp hpip hwr hexit hcut =>
      refine ⟨[], by rw [hres, hresp]; rfl, .inl ?_⟩
      rw [hwro, hno]
      exact List.length_pos_iff.mpr hchunk
    | lost hresp hpip hwhy =>
      rcases (hwhy hunc).2 hzero with hsome | hend
      · exact absurd hno hsome
      · rw [hopen] at hend
        exact absurd hend (by decide)
  | exit code =>
    obtain ⟨hrunning, rfl⟩ := hstep
    simp only [Orderly, Classical.not_imp, not_or, Bool.not_eq_true] at hok
    obtain ⟨hcode, hend, hsome, hunc⟩ := hok
    cases hs with
    | fresh hresp hhdr hpip hwr hexit hfailed hcut => exact absurd hwr hsome
    | flowing hresp hhdr hpip hwr hopen hexit hcut =>
      rw [hopen] at hend
      exact absurd hend (by decide)
    | drained hresp hhdr hpip hwr hend' hexit hcut =>
      refine ⟨s.written, ?_, .inr ⟨code, ?_, hcode⟩⟩
      · simp [ExportStream.onExit, hcode, hhdr, hresp, ExportResponse.destroy]
      · simp [ExportStream.onExit, hcode, hhdr]
    | empty hresp hpip hwr hexit hcut => exact absurd hwr hsome
    | lost hresp hpip hwhy => exact absurd ((hwhy hunc).1 hrunning).2 hsome
  | stdoutEnd => exact absurd trivial hok
  | error => exact absurd trivial hok
  | close => exact absurd trivial hok
  | idle => exact absurd trivial hok

/-- What is spoilt stays so. -/
theorem streamStep_spoilt (hs : Spoilt s) (h : streamStep s e = some s') : Spoilt s' := by
  obtain ⟨body, hresp, hwhy⟩ := hs
  have hsty := fun chunk => ended_stays chunk hresp
  have hstep := streamStep_cases h
  cases e with
  | data chunk =>
    obtain ⟨-, -, rfl⟩ := hstep
    obtain ⟨hres, hwro, -, -, hex, -⟩ := onData_fields s chunk
    refine ⟨body, by rw [hres, (hsty chunk).1, hresp], ?_⟩
    rw [hwro, hex, List.length_append]
    exact hwhy.imp (fun hless => Nat.lt_add_right _ hless) id
  | stdoutEnd =>
    obtain ⟨-, rfl⟩ := hstep
    refine ⟨body, ?_, hwhy⟩
    unfold ExportStream.onStdoutEnd
    dsimp only
    rw [(hsty []).2.1, ite_self, hresp]
  | exit code =>
    obtain ⟨hrunning, rfl⟩ := hstep
    have hfields : (s.onExit code).response = s.response ∧ (s.onExit code).written = s.written := by
      unfold ExportStream.onExit
      dsimp only
      split
      · split
        · exact ⟨rfl, rfl⟩
        · simp [(hsty []).2.1]
      · split
        · simp [(hsty []).2.2.2]
        · simp [(hsty []).2.2.1]
    refine ⟨body, hfields.1.trans hresp, .inl ?_⟩
    rcases hwhy with hless | ⟨code', hex, -⟩
    · rwa [hfields.2]
    · rw [hrunning] at hex
      exact absurd hex (by simp)
  | error =>
    obtain ⟨-, rfl⟩ := hstep
    refine ⟨body, ?_, hwhy⟩
    simp [ExportStream.onError, hresp, ExportResponse.headersSent]
  | close =>
    obtain ⟨-, rfl⟩ := hstep
    exact ⟨body, (hsty []).2.2.2.trans hresp, hwhy⟩
  | idle =>
    obtain ⟨-, rfl⟩ := hstep
    exact ⟨body, (hsty []).2.2.2.trans hresp, hwhy⟩

end Steps

/-! ## Complete or failed -/

section Whole

variable {s : ExportStream}

theorem Stage.whole (hs : Stage s) (hcomplete : Complete s) : Whole s := by
  cases hs with
  | fresh hresp hhdr hpip hwr hexit hfailed hcut =>
    rcases hcomplete with ⟨-, hex⟩ | ⟨hfail, -, -⟩
    · rw [hexit] at hex
      exact absurd hex (by decide)
    · rw [hfailed] at hfail
      exact absurd hfail (by decide)
  | flowing hresp hhdr hpip hwr hopen hexit hcut =>
    rcases hcomplete with ⟨hend, -⟩ | ⟨-, hno, -⟩
    · rw [hopen] at hend
      exact absurd hend (by decide)
    · exact absurd hno hwr
  | drained hresp hhdr hpip hwr hend hexit hcut =>
    have hzero : s.exited = some (some 0) := by
      rcases hcomplete with ⟨-, hex⟩ | ⟨-, hno, -⟩
      · rcases hexit with hnone | hzero
        · rw [hnone] at hex
          exact absurd hex (by decide)
        · exact hzero
      · exact absurd hno hwr
    refine ⟨fun body hbody => ?_, fun hfailed => absurd hzero hfailed⟩
    rw [hresp] at hbody
    exact ⟨(ExportResponse.ended.inj hbody).symm, hzero⟩
  | empty hresp hpip hwr hexit hcut =>
    refine ⟨fun body hbody => ?_, fun hfailed => absurd hexit hfailed⟩
    rw [hresp] at hbody
    rw [hwr]
    exact ⟨(ExportResponse.ended.inj hbody).symm, hexit⟩
  | lost hresp hpip hunc =>
    refine ⟨fun body hbody => ?_, fun _ => hresp⟩
    rcases hresp with hreport | hdestroyed
    · exact absurd (hreport.symm.trans hbody) (by simp)
    · exact absurd (hdestroyed.symm.trans hbody) (by simp)

theorem Spoilt.not_whole (hs : Spoilt s) : ¬ Whole s := by
  intro hwhole
  obtain ⟨body, hresp, hwhy⟩ := hs
  obtain ⟨rfl, hzero⟩ := hwhole.archive body hresp
  rcases hwhy with hless | ⟨code, hex, hcode⟩
  · exact absurd hless (Nat.lt_irrefl _)
  · rw [hzero] at hex
    exact hcode (Option.some.inj hex).symm

end Whole

/-- **A streamed export is complete or failed**, for every order of what the process, its output and
the response do, exactly when each step of it was `Orderly`. -/
theorem streamed_exports (es : List StreamEvent) (s : ExportStream)
    (hrun : run streamStep anyStep ExportStream.start es = some s) (hcomplete : Complete s) :
    Whole s ↔ run streamStep Orderly ExportStream.start es = some s := by
  rcases run_split (fun _ _ _ hs hok h => streamStep_stage hs hok h)
    (fun _ _ _ hs hok h => streamStep_spoils hs hok h)
    (fun _ _ _ hs h => streamStep_spoilt hs h) stage_start hrun with
    ⟨horderly, hstg⟩ | ⟨hnot, hspoilt⟩
  · exact iff_of_true (hstg.whole hcomplete) horderly
  · exact iff_of_false hspoilt.not_whole hnot

/-- In the order of a process that writes, exits with 0 and is read to its end, the export is
whole. -/
theorem streamed_exports_whole : ∃ s,
    run streamStep anyStep ExportStream.start [.data [1, 2], .exit (some 0), .data [3], .stdoutEnd] =
      some s ∧ s.response = .ended [1, 2, 3] ∧ Whole s := by
  refine ⟨_, rfl, rfl, (streamed_exports
    [.data [1, 2], .exit (some 0), .data [3], .stdoutEnd] _ rfl (.inl ⟨rfl, rfl⟩)).mpr ?_⟩
  decide

/-- **A truncated archive is closed**: Restic writes two bytes, its output ends, and it exits with
1. -/
theorem truncated_archive : ∃ s,
    run streamStep anyStep ExportStream.start [.data [1, 2], .stdoutEnd, .exit (some 1)] = some s ∧
      Complete s ∧ s.response = .ended [1, 2] ∧ ¬ Whole s := by
  refine ⟨_, rfl, .inl ⟨rfl, rfl⟩, rfl, fun hwhole => ?_⟩
  exact absurd (hwhole.archive _ rfl).2 (by decide)

/-! ## The staged exports -/

/-- The `PassThrough` that an artifact is staged from. -/
inductive StagedOutput
  | flowing (bytes : Bytes)
  | ended (bytes : Bytes)
  | destroyed
deriving DecidableEq

namespace StagedOutput

/-- The pipe passes a chunk on. -/
def write (chunk : Bytes) : StagedOutput → StagedOutput
  | flowing bytes => flowing (bytes ++ chunk)
  | output => output

/-- `child.once('close', …)`. -/
def onClose (code : Option Nat) : StagedOutput → StagedOutput
  | flowing bytes => if code = some 0 then ended bytes else destroyed
  | output => output

end StagedOutput

/-- What happens to the process of a staged export; an error is one of stdout or of the process. -/
inductive StagedEvent
  | data (chunk : Bytes)
  | stdoutEnd
  | exit (code : Option Nat)
  | error
  | close

structure StagedExport where
  output : StagedOutput
  written : Bytes
  stdoutEnded : Bool
  exited : Option (Option Nat)
  closed : Bool

/-- `validatedResticOutput`. -/
def StagedExport.start : StagedExport where
  output := .flowing []
  written := []
  stdoutEnded := false
  exited := none
  closed := false

/-- One event. The `close` of a process comes behind its exit and the end of its output. -/
def stagedStep (s : StagedExport) : StagedEvent → Option StagedExport
  | .data chunk =>
    if !s.stdoutEnded then
      some { s with written := s.written ++ chunk, output := s.output.write chunk }
    else none
  | .stdoutEnd => if !s.stdoutEnded then some { s with stdoutEnded := true } else none
  | .exit code => if s.exited.isNone then some { s with exited := some code } else none
  | .error => if !s.closed then some { s with output := .destroyed } else none
  | .close =>
    match s.exited with
    | some code =>
      if s.stdoutEnded && !s.closed then
        some { s with closed := true, output := s.output.onClose code }
      else none
    | none => none

/-- What flows is all that is written, until the process has closed; what has ended is all, of a
process that has exited with 0. -/
structure StagedWhole (s : StagedExport) : Prop where
  flowing : ∀ bytes, s.output = .flowing bytes → bytes = s.written ∧ s.closed = false
  ended : ∀ bytes, s.output = .ended bytes → bytes = s.written ∧ s.stdoutEnded = true ∧
    s.closed = true ∧ s.exited = some (some 0)

/-- **The staged output is whole or destroyed**, in every order. -/
theorem staged_output_whole (s : StagedExport)
    (hs : Reach stagedStep anyStep StagedExport.start s) : StagedWhole s := by
  refine hs.invariant ?_ fun s e s' hold _ h => ?_
  · exact ⟨fun bytes h => by cases h; exact ⟨rfl, rfl⟩, fun bytes h => by cases h⟩
  · obtain ⟨hflowing, hend⟩ := hold
    cases e with
    | data chunk =>
      obtain ⟨hopen, hs'⟩ := Option.ite_none_right_eq_some.mp h
      obtain rfl := Option.some.inj hs'
      rw [Bool.not_eq_true'] at hopen
      cases hout : s.output with
      | flowing bytes =>
        obtain ⟨rfl, hclosed⟩ := hflowing bytes hout
        exact ⟨by simp [StagedOutput.write, hclosed], by simp [StagedOutput.write]⟩
      | ended bytes =>
        have hdone := (hend bytes hout).2.1
        rw [hopen] at hdone
        exact absurd hdone (by decide)
      | destroyed => exact ⟨by simp [StagedOutput.write], by simp [StagedOutput.write]⟩
    | stdoutEnd =>
      obtain ⟨-, hs'⟩ := Option.ite_none_right_eq_some.mp h
      obtain rfl := Option.some.inj hs'
      refine ⟨hflowing, fun bytes hbs => ?_⟩
      obtain ⟨hall, -, hrest⟩ := hend bytes hbs
      exact ⟨hall, rfl, hrest⟩
    | exit code =>
      obtain ⟨hrunning, hs'⟩ := Option.ite_none_right_eq_some.mp h
      obtain rfl := Option.some.inj hs'
      refine ⟨hflowing, fun bytes hbs => ?_⟩
      rw [(hend bytes hbs).2.2.2] at hrunning
      exact absurd hrunning (by decide)
    | error =>
      obtain ⟨-, hs'⟩ := Option.ite_none_right_eq_some.mp h
      obtain rfl := Option.some.inj hs'
      exact ⟨by simp, by simp⟩
    | close =>
      simp only [stagedStep] at h
      cases hex : s.exited with
      | none =>
        rw [hex] at h
        exact absurd h (by simp)
      | some code =>
        rw [hex] at h
        obtain ⟨hmay, hs'⟩ := Option.ite_none_right_eq_some.mp h
        obtain rfl := Option.some.inj hs'
        rw [Bool.and_eq_true] at hmay
        cases hout : s.output with
        | flowing bytes =>
          obtain ⟨rfl, -⟩ := hflowing bytes hout
          by_cases hcode : code = some 0
          · exact ⟨by simp [StagedOutput.onClose, hcode],
              by simp [StagedOutput.onClose, hcode, hmay.1]⟩
          · exact ⟨by simp [StagedOutput.onClose, hcode], by simp [StagedOutput.onClose, hcode]⟩
        | ended bytes =>
          have hclosed := (hend bytes hout).2.2.1
          rw [hclosed] at hmay
          exact absurd hmay.2 (by decide)
        | destroyed => exact ⟨by simp [StagedOutput.onClose], by simp [StagedOutput.onClose]⟩

theorem staged_output_whole_two : ∃ s, s.output = .ended [1, 2] ∧ StagedWhole s := by
  have hrun : ∃ s, Reach stagedStep anyStep .start s ∧ s.output = .ended [1, 2] :=
    Reach.of_run_any (l := [.data [1], .exit (some 0), .data [2], .stdoutEnd, .close]) (by decide)
  obtain ⟨s, hs, hout⟩ := hrun
  exact ⟨s, hout, staged_output_whole s hs⟩

end Meowbox.StreamedExport
