import ScriptSuite.Glob
import ScriptSuite.Json.Record
import ScriptSuite.Text.Blank

/-!
# Settings of a project

A project may say which interpreter runs its tests, which files are test files, which template the
runner scripts are made from, what becomes of warnings, how long a test may take and how many tests
may run at once. Everything has a default.

Settings can be well formed and still make no sense: a glob that holds blanks only or cannot be
compiled, no test at a time, no time at all, or an interpreter without a name. The first of these,
in this order, is reported.

## Main definitions

* `WarningMode`: what becomes of interpreter warnings.
* `Config`: the settings.
* `Config.validate`: the first problem with the settings, if there is one.
-/

namespace ScriptSuite

/-- What becomes of interpreter warnings. -/
inductive WarningMode where
  /-- The interpreter gives none. -/
  | off
  /-- They are shown with the outcome. -/
  | report
  /-- They are shown, and a test that has any fails. -/
  | fail
deriving DecidableEq, Repr

namespace WarningMode

/-- The word for a mode. -/
def name : WarningMode → String
  | off => "off"
  | report => "report"
  | fail => "fail"

/-- The mode of a word. -/
def ofName? (name : String) : Option WarningMode :=
  [off, report, fail].find? fun m => m.name = name

/-- Whether a warning makes a test fail. -/
def failsTests (m : WarningMode) : Bool := m = .fail

/-- The line of the runner script that sets the mode. -/
def directive : WarningMode → String
  | off => "#Warn All, Off"
  | report | fail => "#Warn All, StdOut"

end WarningMode

/-- Where the interpreter is installed by default. -/
def defaultExecutable : String := "C:\\Program Files\\AutoHotkey\\v2\\AutoHotkey64.exe"

/-- The glob of test files by default. -/
def defaultGlob : String := "**/*.test.ahk"

/-- The settings of a project. -/
structure Config where
  /-- The interpreter. -/
  executablePath : String := defaultExecutable
  /-- Which files below the root of the project are test files. -/
  testFileGlob : String := defaultGlob
  /-- The template of the runner scripts, if it is not the bundled one. -/
  templatePath : Option String := none
  /-- What becomes of warnings. -/
  warnings : WarningMode := .off
  /-- How many seconds a test may take. -/
  timeoutSecs : Option UInt64 := none
  /-- How many tests may run at once. -/
  jobs : Option UInt64 := none
deriving DecidableEq, Repr

namespace Config

/-- The names of the settings, in order. -/
def fieldNames : List String :=
  ["executable_path", "test_file_glob", "template_path", "warnings", "timeout_secs", "jobs"]

/-- How settings are read from a document with values of one kind. -/
structure Reader (α : Type) where
  /-- A text. -/
  text? : α → Option String
  /-- A mode, by its word. -/
  mode? : α → Option WarningMode
  /-- A number of 64 bits. -/
  word? : α → Option UInt64
  /-- Whether a value stands for an absent one, where a setting may be absent. -/
  isNothing : α → Bool

namespace Reader

variable {α : Type} (r : Reader α)

/-- A setting that may be absent. -/
def optional? {β : Type} (read : α → Option β) (v : α) : Option (Option β) :=
  if r.isNothing v then some none else (read v).map some

/-- The settings among the given fields. Fields with other names are passed over, and whatever is
absent has its default. No setting occurs twice. -/
def ofFields? (fields : List (String × α)) : Option Config :=
  let known := fields.filter fun f => fieldNames.contains f.1
  let field {β : Type} (name : String) (read : α → Option β) (default : β) : Option β :=
    match known.find? fun f => f.1 = name with
    | some f => read f.2
    | none => some default
  if (known.map (·.1)).Nodup then do
    return {
      executablePath := (← field "executable_path" r.text? defaultExecutable)
      testFileGlob := (← field "test_file_glob" r.text? defaultGlob)
      templatePath := (← field "template_path" (r.optional? r.text?) none)
      warnings := (← field "warnings" r.mode? .off)
      timeoutSecs := (← field "timeout_secs" (r.optional? r.word?) none)
      jobs := (← field "jobs" (r.optional? r.word?) none) }
  else none

end Reader

/-- How settings are read from JSON. -/
def jsonReader : Reader Json where
  text? := Json.text?
  mode? j := j.tag?.bind WarningMode.ofName?
  word? := Json.word64?
  isNothing
    | .null => true
    | _ => false

/-- Reads settings from JSON. -/
def ofJson? (j : Json) : Option Config := do
  jsonReader.ofFields? (← j.fields? fieldNames).present

end Config

/-! ### Settings that make sense -/

/-- Why settings make no sense. -/
inductive ConfigProblem where
  /-- The glob is blank. -/
  | blankGlob
  /-- The glob cannot be compiled. -/
  | badGlob (e : GlobError)
  /-- No test may run. -/
  | noJobs
  /-- A test has no time. -/
  | noTime
  /-- The interpreter has no name. -/
  | noExecutable
deriving DecidableEq, Repr

namespace ConfigProblem

/-- The name of the setting. -/
def field : ConfigProblem → String
  | blankGlob | badGlob _ => "test_file_glob"
  | noJobs => "jobs"
  | noTime => "timeout_secs"
  | noExecutable => "executable_path"

/-- What is wrong with the setting. -/
def reason : ConfigProblem → String
  | blankGlob => "glob cannot be empty"
  | badGlob e => e.message
  | noJobs => "must be at least 1"
  | noTime => "must be at least 1 second"
  | noExecutable => "interpreter path cannot be empty"

end ConfigProblem

/-- The settings, if they make sense, or the first problem. -/
def Config.validate (c : Config) : Except ConfigProblem Unit := do
  if Text.isAllBlank c.testFileGlob.toList then throw .blankGlob
  match Glob.parse? c.testFileGlob with
  | .error e => throw (.badGlob e)
  | .ok _ => pure ()
  if c.jobs = some 0 then throw .noJobs
  if c.timeoutSecs = some 0 then throw .noTime
  if c.executablePath.isEmpty then throw .noExecutable

end ScriptSuite
