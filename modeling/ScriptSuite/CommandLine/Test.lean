import ScriptSuite.CommandLine.Project
import ScriptSuite.CommandLine.Request
import ScriptSuite.Run.Schedule

/-!
# Running tests

The options of the command line replace the settings of the project. The tests are those of the
tree, or those that the options name, and a filter may leave some of them out.

## Main definitions

* `TestOptions.apply`: the settings with those of the options.
* `TestOptions.select`: the tests to run.
* `TestOptions.carryOut`: the command.
-/

namespace ScriptSuite

namespace Disk

/-- The place of an interpreter: a name that is no path of a file is looked up in the search
path. -/
def interpreterAt (d : Disk) (programs : Programs) (env : Environment) (name : String) : String :=
  if d.exists? name || name.toList.contains '/' then name
  else (programs.which? d env name).getD name

/-- The template in a file, or the bundled one. -/
def loadTemplate (d : Disk) : Option String → Except Failure Template
  | none => .ok .bundled
  | some path => do
    let text ← (d.readText path).mapError (.unreadableTemplate path)
    (Template.ofText text).mapError .noMarker

end Disk

/-- How a run with some settings goes. -/
def Config.plan (c : Config) (template : Template) (coverage : Bool) (env : Environment) :
    RunPlan where
  interpreter := c.executablePath
  warnings := c.warnings
  timeout := c.timeoutSecs.map fun n => n.toNat * 1000
  template := template
  jobs := c.jobs.map UInt64.toNat
  coverage := coverage
  environment := env

namespace CommandLine

namespace TestOptions

/-- The settings with those of the options. -/
def apply (o : TestOptions) (c : Config) : Config :=
  { c with
    jobs := o.jobs.or c.jobs
    timeoutSecs := o.timeout.or c.timeoutSecs
    warnings := if o.failOnWarning then .fail else c.warnings
    executablePath := o.interpreter.getD c.executablePath }

/-- The tests to run. -/
def select (o : TestOptions) (t : TestTree) : Except Failure (List TestId) := do
  let tests ← if o.tests.isEmpty then pure t.leaves
    else (t.collect o.tests).mapError fun id => .badTestId id .unknown
  return match o.filter with
    | none => tests
    | some text => tests.filter fun t => Text.occursIn text t.toString

/-- The format of the printed report: JSON output stands in for the plain report. -/
def printedFormat (o : TestOptions) (g : GeneralOptions) : ReportFormat :=
  if g.format = .json && o.reporter = .pretty then .json else o.reporter

/-- Prints the report of a run. -/
def printReport (o : TestOptions) (g : GeneralOptions) (timestamp : String) (r : RunReport) :
    Command Unit :=
  match o.printedFormat g with
  | .pretty => if g.showsText then (Plain.summary r).forM Command.say else pure ()
  | format => if g.quiet then pure () else Command.say (r.text timestamp format)

/-- Writes the report of a run to the file that the options name. -/
def writeReport (o : TestOptions) (g : GeneralOptions) (timestamp : String) (r : RunReport) :
    Command Unit :=
  match o.output with
  | none => pure ()
  | some path => do
    let bytes := Utf8.encode (r.text timestamp o.reporter).toList
    Command.changeDisk (·.write path bytes) fun f => .request (.unwritableReport path f)
    if g.showsText then Command.succeeded s!"Report written to {path}"

/-- Runs the tests. -/
def carryOut (o : TestOptions) (g : GeneralOptions) (programs : Programs) (env : Environment)
    (timestamp : String) : Command Unit := do
  let config := o.apply (← projectConfig)
  Command.ofRequest (config.validate.mapError .badConfig)
  let d ← Command.disk
  let interpreter := d.interpreterAt programs env config.executablePath
  let config := { config with executablePath := interpreter }
  let root := d.resolve o.path
  let tests ← Command.ofRequest (o.select (← projectTree root config.testFileGlob))
  if tests.isEmpty then
    if g.showsText then Command.warn s!"No tests found in {root}"
  else
    let template ← Command.ofRequest (d.loadTemplate config.templatePath)
    let done := (config.plan template o.coverage env).run programs.launch d tests none
    Command.setDisk done.disk
    o.printReport g timestamp done.report
    o.writeReport g timestamp done.report
    let r := done.report
    if r.cancelled then throw .cancelled
    if !r.isSuccess then throw (.testsFailed r.summary.failed r.summary.errored)

end TestOptions

end CommandLine

end ScriptSuite
