import ScriptSuite.Decimal.Fixed
import ScriptSuite.Run.Basic
import ScriptSuite.Text.Find
import ScriptSuite.Text.Lines
import ScriptSuite.Xml.Basic

/-!
# Reports as JUnit documents

One element per suite, and in it one element per result. What is in the element of a result depends
on the status alone: nothing for a success, and otherwise one element that holds the message. What a
failed test printed follows it.
-/

namespace ScriptSuite.Junit

open Text

/-- The first line of a message. -/
def headline (message : String) : String :=
  String.ofList ((lines message.toList).headD [])

/-- The type of error that a headline names in front of its first colon. -/
def errorType (headline : String) : String :=
  match cut [':'] headline.toList with
  | some (before, _) => String.ofList before
  | none => "Error"

/-- The class and the method of a name: what stands before and behind the last dot. -/
def classAndMethod (name : String) : String × String :=
  match cutLast '.' name.toList with
  | some (before, behind) => (String.ofList before, String.ofList behind)
  | none => ("", name)

/-- A number of milliseconds, in seconds with three places. -/
def seconds (milliseconds : Nat) : String :=
  Decimal.fixed 3 (Decimal.seconds milliseconds)

/-- What a test printed, if it printed anything. -/
def systemOut (o : Outcome) : List Xml :=
  match o.rawOutput with
  | some s => if s.isEmpty then [] else [.text "system-out" [] s]
  | none => []

/-- What is in the element of a result. -/
def details (o : Outcome) : List Xml :=
  let first := headline o.message
  match o.status with
  | .passed => []
  | .failed =>
    .text "failure" [("message", first), ("type", errorType first)] o.message :: systemOut o
  | .errored => .text "error" [("message", first)] o.message :: systemOut o
  | .skipped => [.empty "skipped" [("message", o.message)]]

/-- The element of a result. -/
def testCase (r : TestResult) : Xml :=
  let (cls, method) := classAndMethod r.name
  let attributes :=
    [("name", method), ("classname", cls), ("time", seconds r.outcome.milliseconds)]
  match details r.outcome with
  | [] => .empty "testcase" attributes
  | children => .branch "testcase" attributes children

/-- The element of a suite. -/
def testSuite (s : Suite) : Xml :=
  .branch "testsuite"
    [("name", s.name), ("tests", toString s.tests.length),
      ("failures", toString (RunSummary.count .failed s.tests)),
      ("errors", toString (RunSummary.count .errored s.tests)),
      ("skipped", toString (RunSummary.count .skipped s.tests)),
      ("time", seconds s.milliseconds)]
    (s.tests.map testCase)

/-- The document of a report that is written at the given time. -/
def document (timestamp : String) (r : RunReport) : Xml :=
  .branch "testsuites"
    [("name", "ahkunit"), ("tests", toString r.summary.total),
      ("failures", toString r.summary.failed), ("errors", toString r.summary.errored),
      ("skipped", toString r.summary.skipped), ("time", seconds r.summary.duration),
      ("timestamp", timestamp)]
    ((Suite.ofResults r.results).map testSuite)

/-- The text of a report that is written at the given time. -/
def report (timestamp : String) (r : RunReport) : String :=
  (document timestamp r).render

end ScriptSuite.Junit
