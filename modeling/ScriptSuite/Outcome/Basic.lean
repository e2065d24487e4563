import ScriptSuite.Coverage.Map

/-!
# Outcomes of tests

What is known about one test when it is over: how it ended, the message for the user, the error it
threw, what it printed, which lines it executed and what the interpreter warned of.

## Main definitions

* `Status`: the four ways to end.
* `Outcome`: all that is known.
-/

namespace ScriptSuite

/-- How a test ended. -/
inductive Status where
  /-- The test succeeded. -/
  | passed
  /-- The test ran and reported a failure. -/
  | failed
  /-- The test could not be run, or what it printed could not be understood. -/
  | errored
  /-- The test was not run to its end. -/
  | skipped
deriving DecidableEq, Repr

namespace Status

/-- The word for a status. -/
def name : Status → String
  | passed => "passed"
  | failed => "failed"
  | errored => "errored"
  | skipped => "skipped"

/-- The status of a word. -/
def ofName? (name : String) : Option Status :=
  [passed, failed, errored, skipped].find? fun s => s.name = name

end Status

/-- An entry of a call stack. -/
inductive StackFrame where
  /-- Free text. -/
  | note (text : String)
  /-- A place in a file, its line counted from zero. -/
  | located (file : String) (line : UInt32) (label : String)
deriving DecidableEq, Repr

/-- An error that a test threw. -/
structure ThrownError where
  /-- The message for the user. -/
  summary : String
  /-- The file it was thrown from. -/
  file : String
  /-- The line it was thrown from, counted from zero, if it is known. -/
  line : Option UInt32
  /-- The call stack. -/
  frames : List StackFrame
deriving DecidableEq, Repr

/-- A warning of the interpreter. -/
structure Warning where
  /-- The file. -/
  file : String
  /-- The line, counted from zero. -/
  line : UInt32
  /-- The text. -/
  message : String
deriving DecidableEq, Repr

/-- What is known about a test that is over. -/
structure Outcome where
  /-- How it ended. -/
  status : Status
  /-- The message for the user; empty for a success. -/
  message : String := ""
  /-- How long it took, in milliseconds. -/
  duration : Option UInt64 := none
  /-- The error that it threw. -/
  error : Option ThrownError := none
  /-- What the test itself printed. -/
  rawOutput : Option String := none
  /-- Which lines it executed. -/
  coverage : Option CoverageMap := none
  /-- What the interpreter warned of. -/
  warnings : List Warning := []
deriving DecidableEq

namespace Outcome

/-- A test that was not run. -/
def cancelled : Outcome := { status := .skipped, message := "Cancelled" }

/-- The duration in milliseconds; zero if it is not known. -/
def milliseconds (o : Outcome) : Nat := (o.duration.map UInt64.toNat).getD 0

end Outcome

end ScriptSuite
