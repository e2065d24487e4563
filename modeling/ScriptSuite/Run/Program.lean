import ScriptSuite.Disk.Basic
import ScriptSuite.Outcome.Output

/-!
# Programs

What is asked for when a program is started, and what comes of it. Starting a program may fail, and
a program may change the disk; how it does so is left open here.

## Main definitions

* `Invocation`: a program with its arguments, its directory and its environment.
* `Execution`: what came of a program.
* `Launcher`: the way in which programs are run.
* `Programs`: the programs that can be used.
-/

namespace ScriptSuite

/-- The variables of an environment. -/
abbrev Environment := List (String × String)

/-- The value of a variable. -/
def Environment.get? (env : Environment) (name : String) : Option String :=
  (env.find? fun v => v.1 = name).map (·.2)

/-- The directories in which programs without a directory are looked for. -/
def Environment.searchPath (env : Environment) : List String :=
  ((Text.splitOn [':'] ((env.get? "PATH").getD "/usr/local/bin:/usr/bin:/bin").toList).map
    String.ofList)

/-- The directory for temporary files. -/
def Environment.tempDir (env : Environment) : String :=
  (env.get? "TMPDIR").getD "/tmp"

/-- A program to be started. -/
structure Invocation where
  /-- The program. -/
  program : String
  /-- Its arguments. -/
  arguments : List String
  /-- The directory that it is started in; empty for the one of the caller. -/
  directory : String
  /-- Its environment. -/
  environment : Environment

/-- What came of a program that was started and left alone. -/
structure Execution where
  /-- What it printed. -/
  output : List UInt8
  /-- What it printed for errors. -/
  errors : List UInt8
  /-- How it ended. -/
  exit : ExitCode
  /-- After how many milliseconds it ended; none if it does not end. -/
  time : Option Nat
  /-- After how many milliseconds the last process that it left behind closed its streams. -/
  closed : Nat

/-- The way in which programs are run: the disk and the invocation decide what comes of it, and the
disk afterwards. -/
abbrev Launcher := Disk → Invocation → Except DiskFailure Execution × Disk

/-- The programs that can be used. -/
structure Programs where
  /-- The place of a program in the search path of an environment. -/
  which? : Disk → Environment → String → Option String
  /-- How they are run. -/
  launch : Launcher

end ScriptSuite
