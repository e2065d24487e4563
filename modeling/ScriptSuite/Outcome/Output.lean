import ScriptSuite.Coverage.Dump
import ScriptSuite.Json.Parser
import ScriptSuite.Json.Record
import ScriptSuite.Outcome.Location
import ScriptSuite.Text.Find

/-!
# From program output to outcome

The script that runs a test prints a word on success and an error payload between two markers on
failure; in both cases it may print a coverage dump between two other markers. Everything else is
output of the test itself.

A payload is a JSON record: type, message, perhaps extra information and a call stack, file and
line. Lines are counted from one there, and zero stands for an error without a place.

The dump is taken out first, and nothing in it counts for the verdict. A test passes if the program
exits with zero, the word occurs, and no warning forbids it.

## Main definitions

* `ErrorPayload`: the record of a thrown error.
* `ErrorPayload.parse?`: the record that a text spells.
* `ErrorPayload.thrown`: the error that it reports.
* `Section.take`: a section between two markers, and the text without it.
* `Outcome.ofOutput`: the outcome of a test whose program ended.
-/

namespace ScriptSuite

/-! ### Error payloads -/

/-- The report of a thrown error. -/
structure ErrorPayload where
  /-- The type of the error. -/
  kind : String
  /-- The message. -/
  message : String
  /-- What the message is about, if it was given. -/
  extra : Option String
  /-- The call stack, if there is one. -/
  stack : Option String
  /-- The file that the error was thrown from. -/
  file : String
  /-- The line that the error was thrown from, counted from one; zero if it is not known. -/
  line : UInt32
deriving DecidableEq, Repr

namespace ErrorPayload

/-- Reads the record from a document. -/
def ofJson? (j : Json) : Option ErrorPayload := do
  let fs ← j.fields? ["type", "message", "extra", "stack", "file", "line"]
  return {
    kind := (← fs.required? "type" Json.text?)
    message := (← fs.required? "message" Json.text?)
    extra := (← fs.defaultedOptional? "extra" Json.text?)
    stack := (← fs.defaultedOptional? "stack" Json.text?)
    file := (← fs.required? "file" Json.text?)
    line := (← fs.required? "line" Json.word32?) }

/-- The record that a text spells. -/
def parse? (s : List Char) : Option ErrorPayload :=
  (Json.parse? s).bind ofJson?

/-- The message for the user: type and message, the extra information if it is not empty, and the
call stack. -/
def summary (p : ErrorPayload) : String :=
  let extra := p.extra.getD ""
  p.kind ++ ": " ++ p.message ++
    (if extra.isEmpty then "" else "\n    Specifically: " ++ extra) ++
    (match p.stack with
      | some stack => "\n\n" ++ stack
      | none => "")

/-- The error that a payload reports. -/
def thrown (p : ErrorPayload) : ThrownError where
  summary := p.summary
  file := p.file
  line := if p.line = 0 then none else some (p.line - 1)
  frames := StackFrame.ofStack (p.stack.getD "").toList

end ErrorPayload

/-! ### Sections and verdicts -/

open Text

/-- The word that a passing test prints. -/
def passWord : List Char := ['P', 'A', 'S', 'S']

/-- The markers in front of a section and behind it. -/
structure Section where
  /-- What stands in front of the section. -/
  start : String
  /-- What stands behind the section. -/
  stop : String

namespace Section

/-- The section of an error payload. -/
def error : Section := { start := "<<<AHK_ERROR_START>>>", stop := "<<<AHK_ERROR_END>>>" }

/-- The section of a coverage dump. -/
def dump : Section := { start := "<<<AHK_LINES_START>>>", stop := "<<<AHK_LINES_END>>>" }

/-- The body of the first section in a text, and the text without section and markers. A section
that is not ended is no section. -/
def take (sec : Section) (s : List Char) : Option (List Char) × List Char :=
  match cut sec.start.toList s with
  | none => (none, s)
  | some (before, rest) =>
    match cut sec.stop.toList rest with
    | none => (none, s)
    | some (body, behind) => (some body, before ++ behind)

end Section

/-- How a program ended: with a code, or by a signal. -/
abbrev ExitCode := Option Int

namespace Outcome

/-- What is told about a program that printed nothing. -/
def exitMessage : ExitCode → String
  | some code => "Exit code: " ++ toString code
  | none => "Exit code: none"

/-- The outcome of a test that did not pass, without warnings and coverage. `output` is what the
program printed without the dump and without blanks at its ends. -/
def ofFailure (output : List Char) (exit : ExitCode) : Outcome :=
  let fallback := if output.isEmpty then exitMessage exit else String.ofList output
  match Section.error.take output with
  | (none, _) => { status := .failed, message := fallback, rawOutput := String.ofList output }
  | (some payload, rest) =>
    match ErrorPayload.parse? (trim payload) with
    | some p =>
      { status := .failed, message := p.summary, error := p.thrown
        rawOutput := String.ofList (trim rest) }
    | none => { status := .errored, message := fallback, rawOutput := String.ofList output }

/-- Whether a test passed. -/
def isPass (output : List Char) (exit : ExitCode) (failOnWarning : Bool) : Bool :=
  exit == some 0 && contains passWord output &&
    !(failOnWarning && !(Warning.ofOutput output).isEmpty)

/-- The outcome of a test from what its program printed and how the program ended. -/
def ofOutput (printed : String) (exit : ExitCode) (failOnWarning : Bool) : Outcome :=
  let (dump, rest) := Section.dump.take (unifyBreaks printed.toList)
  let output := trim rest
  let verdict : Outcome :=
    if isPass output exit failOnWarning then
      { status := .passed, rawOutput := String.ofList (trim (replaceFirst passWord [] output)) }
    else ofFailure output exit
  { verdict with coverage := dump.map CoverageMap.ofDump, warnings := Warning.ofOutput output }

end Outcome

end ScriptSuite
