import ScriptSuite.Coverage.Report
import ScriptSuite.Outcome.Json
import ScriptSuite.TestId

/-!
# Results of a run

A run has one result per requested test, in the order of the request, and a tally of them. For
reports the results are grouped into one *suite* per file.

## Main definitions

* `TestResult`: the outcome of one test.
* `RunSummary`: how many results have which status.
* `RunReport`: everything that a finished run leaves.
* `RunEvent`: what is told while a run goes on.
* `Suite.ofResults`: the results grouped by file.
-/

namespace ScriptSuite

/-- The outcome of a test, with the names of the test. -/
structure TestResult where
  /-- The written id. -/
  id : String
  /-- The file. -/
  file : String
  /-- The name without the file. -/
  name : String
  /-- The outcome. -/
  outcome : Outcome
deriving DecidableEq

namespace TestResult

/-- The result of the test with the given id. -/
def ofTest (t : TestId) (outcome : Outcome) : TestResult where
  id := t.toString
  file := t.file
  name := t.displayName
  outcome := outcome

/-- The record of a result: the names in front of the members of the outcome. -/
def toJson (r : TestResult) : Json :=
  Json.record <|
    [("id", .ofString r.id), ("file", .ofString r.file), ("name", .ofString r.name)] ++
    r.outcome.members

/-- Reads a result, which must be written as an object. -/
def ofJson? (j : Json) : Option TestResult := do
  let fs ← j.fields? (["id", "file", "name"] ++ Outcome.fieldNames)
  if fs.positional then none
  else
    return {
      id := (← fs.required? "id" Json.text?)
      file := (← fs.required? "file" Json.text?)
      name := (← fs.required? "name" Json.text?)
      outcome := (← Outcome.ofFields? fs) }

end TestResult

/-- How many results have which status. -/
structure RunSummary where
  /-- The number of results. -/
  total : Nat
  /-- How many tests passed. -/
  passed : Nat
  /-- How many tests failed. -/
  failed : Nat
  /-- How many tests errored. -/
  errored : Nat
  /-- How many tests were skipped. -/
  skipped : Nat
  /-- How long the run took, in milliseconds. -/
  duration : Nat
deriving DecidableEq, Repr

namespace RunSummary

/-- The number of results with a status. -/
def count (s : Status) (results : List TestResult) : Nat :=
  results.countP fun r => r.outcome.status = s

/-- The tally of results. -/
def ofResults (results : List TestResult) (duration : Nat) : RunSummary where
  total := results.length
  passed := count .passed results
  failed := count .failed results
  errored := count .errored results
  skipped := count .skipped results
  duration := duration

/-- Whether no test failed or errored. -/
def isSuccess (s : RunSummary) : Bool := s.failed = 0 && s.errored = 0

/-- The members of the record of a summary. -/
def members (s : RunSummary) : List (String × Json) :=
  [("total", .ofNat s.total), ("passed", .ofNat s.passed), ("failed", .ofNat s.failed),
    ("errored", .ofNat s.errored), ("skipped", .ofNat s.skipped),
    ("duration_ms", .ofNat s.duration)]

/-- Reads a summary. -/
def ofJson? (j : Json) : Option RunSummary := do
  let fs ← j.fields? ["total", "passed", "failed", "errored", "skipped", "duration_ms"]
  let field (name : String) := fs.required? name (Json.nat? UInt64.size)
  return {
    total := (← field "total"), passed := (← field "passed"), failed := (← field "failed")
    errored := (← field "errored"), skipped := (← field "skipped")
    duration := (← field "duration_ms") }

end RunSummary

/-- Everything that a finished run leaves. -/
structure RunReport where
  /-- One result per requested test, in the order of the request. -/
  results : List TestResult
  /-- The tally of the results. -/
  summary : RunSummary
  /-- The coverage of the run, if it was asked for. -/
  coverage : Option CoverageReport
  /-- Whether the run was cancelled. -/
  cancelled : Bool

/-- Whether no test failed or errored. -/
def RunReport.isSuccess (r : RunReport) : Bool := r.summary.isSuccess

/-! ### Coverage -/

/-- The results without their coverage, and the ledger of all of it. -/
def CoverageLedger.ofResults (results : List TestResult) : List TestResult × CoverageLedger :=
  (results.map fun r => { r with outcome := { r.outcome with coverage := none } },
    results.foldl (fun l r =>
      match r.outcome.coverage with
      | some m => l.record r.id m
      | none => l) ∅)

/-! ### Events -/

/-- What is told while a run goes on. -/
inductive RunEvent where
  /-- So many tests were requested. -/
  | collected (count : Nat)
  /-- The interpreter of a test is about to start. -/
  | started (test : TestId)
  /-- A test is over. -/
  | finished (result : TestResult)
  /-- All tests are over. -/
  | completed (summary : RunSummary)

/-! ### Suites -/

/-- The results of one file. -/
structure Suite where
  /-- The file. -/
  name : String
  /-- The results, in order. -/
  tests : List TestResult
deriving DecidableEq

namespace Suite

/-- The suites with one more result: it joins the suite of its file, or makes a new one at the
end. -/
def add (r : TestResult) : List Suite → List Suite
  | [] => [{ name := r.file, tests := [r] }]
  | s :: rest =>
    if s.name = r.file then { s with tests := s.tests ++ [r] } :: rest else s :: add r rest

/-- The results grouped by file, files in the order in which they first occur. -/
def ofResults (results : List TestResult) : List Suite :=
  results.foldl (fun suites r => add r suites) []

/-- How long the tests of a suite took together, in milliseconds. -/
def milliseconds (s : Suite) : Nat :=
  s.tests.foldr (fun r total => r.outcome.milliseconds + total) 0

end Suite

end ScriptSuite
