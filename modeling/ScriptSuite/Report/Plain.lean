import ScriptSuite.Decimal.Fixed
import ScriptSuite.Run.Basic
import ScriptSuite.Text.Lines

/-!
# Reports for people

The plain report lists the results suite by suite, then the tally, the coverage and the verdict. The
summary on the console has the tally and the coverage only.
-/

namespace ScriptSuite.Plain

/-- A text with a line break behind it. -/
def line (s : String) : String := s ++ "\n"

/-- A double rule over the width of the report. -/
def doubleRule : String := String.ofList (List.replicate 63 '═')

/-- A single rule below the name of a suite. -/
def singleRule : String := "  " ++ String.ofList (List.replicate 61 '─')

/-- The sign for a status. -/
def sign : Status → String
  | .passed => "✓"
  | .failed => "✗"
  | .errored => "!"
  | .skipped => "○"

/-- The lines of a message, indented. -/
def message (o : Outcome) : List String :=
  if o.status = .passed then []
  else (Text.lines o.message.toList).map fun l => "        " ++ String.ofList l

/-- The line of a warning; its line is counted from one. -/
def warning (w : Warning) : String :=
  s!"        warning: {w.file} ({w.line.toNat + 1}): {w.message}"

/-- The lines of a result. -/
def test (r : TestResult) : List String :=
  s!"    {sign r.outcome.status} {r.name} ({r.outcome.milliseconds}ms)" ::
    message r.outcome ++ r.outcome.warnings.map warning

/-- The lines of a suite. -/
def suite (s : Suite) : List String :=
  s!"  {s.name} ({s.tests.length} tests)" :: singleRule :: s.tests.flatMap test ++ [""]

/-- A share in percent with one place. -/
def percent (x : Float) : String := Decimal.fixed 1 (x * 100)

/-- A share in percent with one place, in five columns. -/
def percentColumn (x : Float) : String := Decimal.fixedRight 5 1 (x * 100)

/-- The lines of the coverage. -/
def coverage (c : CoverageReport) : List String :=
  s!"  COVERAGE: {percent c.lineCoverage}% lines ({c.linesCovered}/{c.linesTotal})" ::
    c.files.map fun f => s!"    {percentColumn f.lineCoverage}%  {f.path}"

/-- The verdict on a run. -/
def verdict (r : RunReport) : String :=
  if r.cancelled then "  ○ Run cancelled."
  else if r.isSuccess then "  ✓ All tests passed!"
  else "  ✗ Some tests failed."

/-- The line of the tally. -/
def tally (s : RunSummary) : String :=
  s!"  SUMMARY: {s.passed} passed, {s.failed} failed, {s.errored} errored, {s.skipped} skipped " ++
    s!"({s.duration}ms)"

/-- The plain report. -/
def report (r : RunReport) : String :=
  String.join <| List.map line <|
    ["", doubleRule, "                         TEST RESULTS", doubleRule, ""] ++
    (Suite.ofResults r.results).flatMap suite ++
    [doubleRule, tally r.summary] ++
    (r.coverage.map coverage).getD [] ++
    [doubleRule, "", verdict r, ""]

/-- The word for a status on the console. -/
def statusWord : Status → String
  | .passed => "PASS"
  | .failed => "FAIL"
  | .errored => "ERROR"
  | .skipped => "SKIPPED"

/-- The line of a result on the console. -/
def resultLine (r : TestResult) : String :=
  s!"{statusWord r.outcome.status}: {r.name}"

/-- The lines of the coverage in the summary on the console. -/
def coverageSummary (c : CoverageReport) : List String :=
  "" :: s!"Coverage {percent c.lineCoverage}% ({c.linesCovered}/{c.linesTotal} lines)" ::
    c.files.map fun f => s!"  {percentColumn f.lineCoverage}%  {f.path}"

/-- The summary on the console. -/
def summary (r : RunReport) : List String :=
  ["", "Summary", s!"  Passed: {r.summary.passed}", s!"  Failed: {r.summary.failed}",
    s!"  Errored: {r.summary.errored}", s!"  Skipped: {r.summary.skipped}",
    s!"  Duration: {r.summary.duration}ms"] ++
  (r.coverage.map coverageSummary).getD [] ++ [""] ++
  (if r.cancelled then ["! Test run cancelled"]
    else if r.isSuccess then [s!"✓ All {r.summary.total} tests passed"]
    else [])

end ScriptSuite.Plain
