import ScriptSuite.Decimal.Shortest
import ScriptSuite.Json.Printer
import ScriptSuite.Run.Basic

/-!
# Reports as JSON documents

The document of a report holds whether the run succeeded and whether it was cancelled, the tally,
the results and the coverage, in this order.
-/

namespace ScriptSuite

/-- The document of a float, by its shortest decimal. -/
def Json.ofFloat (x : Float) : Json := .num (Decimal.shortest x)

/-- The record of the coverage of a file. -/
def FileCoverage.toJson (f : FileCoverage) : Json :=
  Json.record
    [("path", .ofString f.path), ("line_coverage", .ofFloat f.lineCoverage),
      ("lines_covered", .ofNat f.linesCovered), ("lines_total", .ofNat f.linesTotal),
      ("statements", .arr (f.statements.map fun n => .ofNat n.toNat))]

/-- Reads the coverage of a file. -/
def FileCoverage.ofJson? (j : Json) : Option FileCoverage := do
  let fs ← j.fields? ["path", "line_coverage", "lines_covered", "lines_total", "statements"]
  return {
    path := (← fs.required? "path" Json.text?)
    lineCoverage := (← fs.required? "line_coverage" Json.float?)
    linesCovered := (← fs.required? "lines_covered" (Json.nat? UInt64.size))
    linesTotal := (← fs.required? "lines_total" (Json.nat? UInt64.size))
    statements := (← fs.required? "statements" (Json.listOf? Json.word32?)) }

namespace CoverageReport

/-- The record of the coverage of a run. -/
def toJson (r : CoverageReport) : Json :=
  Json.record
    [("line_coverage", .ofFloat r.lineCoverage), ("files", .arr (r.files.map FileCoverage.toJson))]

/-- Reads the coverage of a run. -/
def ofJson? (j : Json) : Option CoverageReport := do
  let fs ← j.fields? ["line_coverage", "files"]
  return {
    lineCoverage := (← fs.required? "line_coverage" Json.float?)
    files := (← fs.required? "files" (Json.listOf? FileCoverage.ofJson?)) }

end CoverageReport

namespace RunReport

/-- The document of a report. -/
def toJson (r : RunReport) : Json :=
  Json.record <|
    [("success", .bool r.isSuccess), ("cancelled", .bool r.cancelled)] ++
    r.summary.members ++
    [("results", .arr (r.results.map TestResult.toJson))] ++
    Json.field? "coverage" (r.coverage.map CoverageReport.toJson)

/-- The text of the document of a report. -/
def jsonText (r : RunReport) : String :=
  String.ofList r.toJson.pretty

end RunReport

end ScriptSuite
