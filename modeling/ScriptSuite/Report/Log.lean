import ScriptSuite.Decimal.Fixed
import ScriptSuite.Report.Plain

/-!
# The log of a run

Every event of a run is logged with one record, and a finished test with one more for each warning.
A record has a level, a message and perhaps named values. The log may be shown on a terminal, so the
message is written without the characters that can start a command to one.

## Main definitions

* `LogRecord`: the records.
* `LogRecord.visible`: a character without any power over a terminal.
* `LogRecord.ofEvent`: the records of an event.
-/

namespace ScriptSuite

/-- How important a record is. -/
inductive LogLevel where
  /-- For finding faults. -/
  | debug
  /-- For information. -/
  | info
  /-- Something may be wrong. -/
  | warn
  /-- Something is wrong. -/
  | error
deriving DecidableEq, Repr

/-- The word for a level. -/
def LogLevel.name : LogLevel → String
  | debug => "DEBUG"
  | info => "INFO"
  | warn => "WARN"
  | error => "ERROR"

/-- A record of the log. -/
structure LogRecord where
  /-- How important it is. -/
  level : LogLevel
  /-- What it tells. -/
  message : String
  /-- Named values, in order. -/
  values : List (String × String) := []
deriving DecidableEq, Repr

namespace LogRecord

/-- A character as it is written in a message: those that can have power over a terminal are spelled
by their numbers. -/
def visible (c : Char) : List Char :=
  if ['\x07', '\x08', '\x0c', '\x1b', '\x7f'].contains c then
    ['\\', 'x', Json.hexDigit (c.toNat / 16), Json.hexDigit (c.toNat % 16)]
  else if '\u0080' ≤ c && c ≤ '\u009f' then
    ['\\', 'u', '\x7b', Json.hexDigit (c.toNat / 16), Json.hexDigit (c.toNat % 16), '\x7d']
  else [c]

/-- The line of a record. -/
def line (r : LogRecord) : String :=
  r.level.name ++ " " ++ String.ofList (r.message.toList.flatMap visible) ++
    String.join (r.values.map fun (n, v) => s!" {n}={v}")

/-- The record of a status. -/
def ofResult (r : TestResult) : LogRecord :=
  let line := Plain.resultLine r
  match r.outcome.status with
  | .passed => { level := .info, message := line }
  | .skipped => { level := .info, message := s!"{line} ({r.outcome.message})" }
  | .failed => { level := .warn, message := line }
  | .errored => { level := .error, message := s!"{line}: {r.outcome.message}" }

/-- The record of a warning of a test; its line is counted from one. -/
def ofWarning (r : TestResult) (w : Warning) : LogRecord where
  level := .warn
  message := s!"interpreter warning: {w.message}"
  values := [("test", r.id), ("file", w.file), ("line", toString (w.line.toNat + 1))]

/-- The records of an event. -/
def ofEvent : RunEvent → List LogRecord
  | .collected count => [{ level := .info, message := s!"Collected {count} tests to run" }]
  | .started test => [{ level := .debug, message := s!"Starting {test.toString}" }]
  | .finished r => ofResult r :: r.outcome.warnings.map (ofWarning r)
  | .completed s =>
    let time := Decimal.fixed 1 (Decimal.seconds s.duration)
    [{ level := .info
       message := s!"Run complete: {s.passed}/{s.total} passed, {s.failed} failed, " ++
        s!"{s.errored} errored, {s.skipped} skipped ({time}s)" }]

end LogRecord

end ScriptSuite
