import ScriptSuite.CommandLine.Arguments
import ScriptSuite.Report.Format
import ScriptSuite.Run.Program

/-!
# Requests

What a command line asks for. The general options may stand in front of the command or behind it;
what stands behind it counts. The mistakes behind a command are reported before an unchecked value
in front of it.

## Main definitions

* `Request`: a task and the general options.
* `Request.ofWords`: the request that the words of a command line make.
-/

namespace ScriptSuite.CommandLine

/-- How the commands write what they find. -/
inductive OutputFormat where
  /-- For people. -/
  | text
  /-- JSON. -/
  | json
deriving DecidableEq, Repr

/-- The shells that completions are made for. -/
inductive CompletionShell where
  /-- The Bourne again shell. -/
  | bash
  /-- The Z shell. -/
  | zsh
  /-- The friendly interactive shell. -/
  | fish
  /-- PowerShell. -/
  | powershell
  /-- Elvish. -/
  | elvish
deriving DecidableEq, Repr

namespace CompletionShell

/-- The name of a shell. -/
def name : CompletionShell → String
  | bash => "bash"
  | zsh => "zsh"
  | fish => "fish"
  | powershell => "powershell"
  | elvish => "elvish"

/-- All shells. -/
def all : List CompletionShell := [bash, zsh, fish, powershell, elvish]

/-- The shell of a name. -/
def ofName? (name : String) : Option CompletionShell :=
  all.find? fun s => s.name = name

end CompletionShell

/-- The options that every command takes. -/
structure GeneralOptions where
  /-- Whether more is told than needed. -/
  verbose : Bool := false
  /-- Whether only errors are told. -/
  quiet : Bool := false
  /-- How the output is written. -/
  format : OutputFormat := .text
  /-- The directory to work in. -/
  directory : Option String := none

/-- Whether text for people is wanted. -/
def GeneralOptions.showsText (g : GeneralOptions) : Bool :=
  !g.quiet && g.format = .text

/-- The options of a run. -/
structure TestOptions where
  /-- Where the test files are looked for. -/
  path : String := "."
  /-- What the ids of the tests contain. -/
  filter : Option String := none
  /-- The ids of the tests or of items above them; empty for all tests. -/
  tests : List String := []
  /-- Whether the coverage is reported. -/
  coverage : Bool := false
  /-- The format of the report. -/
  reporter : ReportFormat := .pretty
  /-- The file that the report is written to as well. -/
  output : Option String := none
  /-- How many tests may run at once. -/
  jobs : Option UInt64 := none
  /-- How many seconds a test may take. -/
  timeout : Option UInt64 := none
  /-- Whether a test with a warning fails. -/
  failOnWarning : Bool := false
  /-- The interpreter. -/
  interpreter : Option String := none

/-- The options of a list. -/
structure ListOptions where
  /-- Where the test files are looked for. -/
  path : String := "."
  /-- Whether ids are shown. -/
  ids : Bool := false

/-- The options for a new file with settings. -/
structure InitOptions where
  /-- Whether a file that exists is replaced. -/
  force : Bool := false
  /-- Whether nothing is asked. -/
  yes : Bool := false
  /-- The file. -/
  output : Option String := none

/-- The options of completions. -/
structure CompletionOptions where
  /-- The shell. -/
  shell : CompletionShell
  /-- The file that they are written to. -/
  output : Option String := none

/-- What is to be done. -/
inductive Task where
  /-- Tests are to be run. -/
  | test (o : TestOptions)
  /-- Tests are to be listed. -/
  | list (o : ListOptions)
  /-- A file with settings is to be made. -/
  | init (o : InitOptions)
  /-- Completions are to be made. -/
  | completions (o : CompletionOptions)

/-- What a command line asks for. -/
structure Request where
  /-- The general options. -/
  general : GeneralOptions
  /-- The task. -/
  task : Task

/-! ### Grammars -/

/-- The options that every command takes. -/
def generalSwitches : List Switch := [
  { name := "verbose", letter := some 'v' },
  { name := "quiet", letter := some 'q' },
  { name := "format", kind := .value (.oneOf ["text", "json"]) false },
  { name := "directory", letter := some 'C', kind := .value .path false },
  { name := "help", letter := some 'h', kind := .help },
  { name := "version", letter := some 'V', kind := .version }]

/-- The option for a file that something is written to. -/
def outputSwitch : Switch :=
  { name := "output", letter := some 'o', kind := .value .path false }

/-- The argument for a path. -/
def pathSlot : Slot := { name := "PATH", kind := .path }

/-- The argument for a shell. -/
def shellSlot : Slot := { name := "SHELL", kind := .oneOf (CompletionShell.all.map (·.name)) }

/-- The grammars of the commands. -/
def commandGrammars : List (String × Grammar) := [
  ("test", {
    switches := generalSwitches ++ [
      { name := "filter", kind := .value .text false },
      { name := "test", kind := .value .text true },
      { name := "coverage" },
      { name := "reporter", kind := .value (.oneOf (ReportFormat.all.map (·.name))) false },
      outputSwitch,
      { name := "jobs", letter := some 'j', kind := .value .number false },
      { name := "timeout", kind := .value .number false },
      { name := "fail-on-warning" },
      { name := "interpreter", kind := .value .path false }]
    argument := some pathSlot }),
  ("list", { switches := generalSwitches ++ [{ name := "ids" }], argument := some pathSlot }),
  ("init", {
    switches := generalSwitches ++ [
      { name := "force", letter := some 'f' },
      { name := "yes", letter := some 'y' },
      outputSwitch] }),
  ("completions", {
    switches := generalSwitches ++ [outputSwitch]
    argument := some shellSlot })]

/-- The command that tells about the others. -/
def helpCommand : String := "help"

/-- The grammar in front of a command. -/
def mainGrammar : Grammar :=
  { switches := generalSwitches, commands := commandGrammars.map (·.1) ++ [helpCommand] }

/-! ### From words to a request -/

/-- The general options that were given. -/
def GeneralOptions.ofReadings (before behind : Reading) : GeneralOptions where
  verbose := before.has "verbose" || behind.has "verbose"
  quiet := before.has "quiet" || behind.has "quiet"
  format := if (behind.get? "format").or (before.get? "format") = some "json" then .json else .text
  directory := (behind.get? "directory").or (before.get? "directory")

/-- The variable that names an interpreter. -/
def interpreterVariable : String := "AHKUNIT_INTERPRETER"

/-- The task that was given. -/
def Task.ofReading (command : String) (r : Reading) : Except UsageProblem Task :=
  let path := (r.get? pathSlot.name).getD "."
  match command with
  | "test" => .ok <| .test {
      path
      filter := r.get? "filter"
      tests := r.all "test"
      coverage := r.has "coverage"
      reporter := ((r.get? "reporter").bind ReportFormat.ofName?).getD .pretty
      output := r.get? "output"
      jobs := (r.get? "jobs").bind number?
      timeout := (r.get? "timeout").bind number?
      failOnWarning := r.has "fail-on-warning"
      interpreter := r.get? "interpreter" }
  | "list" => .ok (.list { path, ids := r.has "ids" })
  | "init" =>
    .ok (.init { force := r.has "force", yes := r.has "yes", output := r.get? "output" })
  | _ =>
    match (r.get? shellSlot.name).bind CompletionShell.ofName? with
    | some shell => .ok (.completions { shell, output := r.get? "output" })
    | none => .error (.missingArgument shellSlot.name)

/-- Reads the words behind a command. The environment may name the interpreter of a run that the
words do not name. -/
def readCommand (env : Environment) (command : String) (g : Grammar) (words : List String) :
    Except UsageProblem (Reading × Task) := do
  let (r, _) ← g.read {} words
  let r ← r.settle
  let r ← match env.get? interpreterVariable with
    | some path =>
      if command = "test" && !r.has "interpreter" then
        r.accept { name := "interpreter", kind := .path } path
      else pure r
    | none => pure r
  return (r, ← Task.ofReading command r)

/-- The problem that a request for help ends in: the help, if the words name at most a command. -/
def helpOn : List String → UsageProblem
  | [] => .help
  | command :: rest =>
    if mainGrammar.commands.contains command then
      match rest with
      | [] => .help
      | word :: _ => .unknownCommand word
    else .unknownCommand command

/-- The request that the words of a command line make in an environment. -/
def Request.ofWords (env : Environment) (words : List String) : Except UsageProblem Request := do
  match ← mainGrammar.read {} words with
  | (r, none) =>
    let r ← r.settle
    throw (if r.given.isEmpty then .nothingGiven else .noCommand)
  | (r, some (command, rest)) =>
    match commandGrammars.find? fun g => g.1 = command with
    | none => throw (helpOn rest)
    | some (_, g) =>
      let (behind, task) ← readCommand env command g rest
      let before ← r.settle
      return { general := .ofReadings before behind, task }

end ScriptSuite.CommandLine
