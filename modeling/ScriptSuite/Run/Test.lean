import ScriptSuite.Run.Program
import ScriptSuite.Run.Script

/-!
# Running a single test

A test is run by writing its script, starting the interpreter with it and waiting. The interpreter
may be stopped before it ends, because a test takes too long or because the whole run is cancelled.
None of this can fail: whatever goes wrong is the outcome of the test.

## Main definitions

* `RunPlan`: what the tests of a run have in common.
* `RunPlan.invocation`: how the interpreter is started for a test.
* `Stop`, `Execution.stop`: what ends the wait for the interpreter.
* `RunPlan.perform`: runs a test.
-/

namespace ScriptSuite

/-- What the tests of a run have in common. -/
structure RunPlan where
  /-- The interpreter. -/
  interpreter : String
  /-- What becomes of warnings. -/
  warnings : WarningMode := .off
  /-- After how many milliseconds a test is stopped. -/
  timeout : Option Nat := none
  /-- The template of the scripts. -/
  template : Template := .bundled
  /-- How many tests may run at once. -/
  jobs : Option Nat := none
  /-- Whether the run reports its coverage. -/
  coverage : Bool := false
  /-- The environment of the interpreter. -/
  environment : Environment := []

/-- What ends the wait for the interpreter. -/
inductive Stop where
  /-- It ended. -/
  | ended
  /-- It took too long. -/
  | timedOut (limit : Nat)
  /-- The run was cancelled. -/
  | cancelled
deriving DecidableEq, Repr

/-- The result of a test that was started: the outcome and how long it took. -/
structure Performed where
  /-- The outcome. -/
  outcome : Outcome
  /-- How long the test took, in milliseconds. -/
  time : Nat

/-- How long the streams of a program are waited for when it has ended, in milliseconds. -/
def streamPatience : Nat := 5000

namespace Outcome

/-- A test that errored with a message. -/
def errored (message : String) : Outcome := { status := .errored, message }

/-- The outcome of a test whose interpreter could not be started. -/
def notStarted (f : DiskFailure) : Outcome :=
  errored s!"Failed to start AutoHotkey: {f.message}"

/-- The outcome of a test whose script could not be written. -/
def notWritten (path : String) (f : DiskFailure) : Outcome :=
  errored s!"Failed to write runner script: {f.message} at path \"{path}\""

/-- The outcome of a test that took too long; full seconds are told. -/
def timedOut (limit : Nat) : Outcome :=
  errored s!"Timed out after {limit / 1000}s"

end Outcome

namespace Execution

/-- What ends the wait for a program, and when: the program itself, the limit or the cancellation of
the run, whichever comes first. -/
def stop (e : Execution) (limit cancel : Option Nat) : Stop × Nat :=
  let earlier (a : Stop × Option Nat) (b : Stop × Option Nat) : Stop × Option Nat :=
    match a.2, b.2 with
    | some m, some n => if n < m then b else a
    | some _, none => a
    | none, _ => b
  let (s, time) := earlier (earlier (.ended, e.time) (.timedOut (limit.getD 0), limit))
    (.cancelled, cancel)
  (s, time.getD 0)

/-- The text that a program printed, and when it was read. A stream that stays open for too long
counts as empty. -/
def printed (e : Execution) (time : Nat) : String × Nat :=
  let until₁ := max time (min e.closed (time + streamPatience))
  let until₂ := max until₁ (min e.closed (until₁ + streamPatience))
  let text (bytes : List UInt8) (lost : Bool) : List Char :=
    if lost then [] else Utf8.decodeLenient bytes
  (String.ofList (text e.output (until₁ < e.closed) ++ text e.errors (until₂ < e.closed)), until₂)

/-- The result of a test whose interpreter was started. -/
def result (e : Execution) (limit cancel : Option Nat) (failOnWarning : Bool) : Performed :=
  match e.stop limit cancel with
  | (.ended, time) =>
    let (text, time) := e.printed time
    { outcome := .ofOutput text e.exit failOnWarning, time }
  | (.timedOut limit, time) => { outcome := .timedOut limit, time }
  | (.cancelled, time) => { outcome := .cancelled, time }

end Execution

namespace RunPlan

/-- How the interpreter is started for a test: with a switch for its messages, the script and the
directory of the test file, in which it is started. -/
def invocation (p : RunPlan) (script : String) (test : TestId) : Invocation where
  program := p.interpreter
  arguments := ["/ErrorStdOut=UTF-8", script, test.fileDir]
  directory := test.fileDir
  environment := p.environment

/-- Runs a test that the cancellation of the run stops after `cancel` milliseconds, if at all. -/
def perform (p : RunPlan) (launch : Launcher) (test : TestId) (cancel : Option Nat) (d : Disk) :
    Performed × Disk :=
  let path := test.scriptPath p.environment.tempDir
  match d.writeScript path (p.template.script p.warnings test) with
  | .error f => ({ outcome := .notWritten path f, time := 0 }, d)
  | .ok written =>
    match launch written (p.invocation path test) with
    | (.error f, after) => ({ outcome := .notStarted f, time := 0 }, after.removeScript path)
    | (.ok e, after) => (e.result p.timeout cancel p.warnings.failsTests, after.removeScript path)

end RunPlan

end ScriptSuite
