import ScriptSuite.Report.Json
import ScriptSuite.Report.Junit
import ScriptSuite.Report.Plain

/-!
# Formats of reports

A report of a run is written for people, as JSON or as JUnit XML.
-/

namespace ScriptSuite

/-- The formats of reports. -/
inductive ReportFormat where
  /-- For people. -/
  | pretty
  /-- JSON. -/
  | json
  /-- JUnit XML. -/
  | junit
deriving DecidableEq, Repr

namespace ReportFormat

/-- The word for a format. -/
def name : ReportFormat → String
  | pretty => "pretty"
  | json => "json"
  | junit => "junit"

/-- All formats. -/
def all : List ReportFormat := [pretty, json, junit]

/-- The format of a word. -/
def ofName? (name : String) : Option ReportFormat :=
  all.find? fun f => f.name = name

end ReportFormat

/-- The report of a run in a format. Only JUnit reports hold the time stamp. -/
def RunReport.text (r : RunReport) (timestamp : String) : ReportFormat → String
  | .pretty => Plain.report r
  | .json => r.jsonText
  | .junit => Junit.report timestamp r

end ScriptSuite
