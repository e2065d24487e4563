import ScriptSuite.CommandLine.Completions
import ScriptSuite.CommandLine.Init
import ScriptSuite.CommandLine.List
import ScriptSuite.CommandLine.Test
import ScriptSuite.Shell.Launch

/-!
# From a request to a reply

A request is carried out in a directory of a disk. The reply is what is printed, the exit code and
the disk afterwards.

## Main definitions

* `Surroundings`: what a command is told besides the request and the disk.
* `Request.carryOut`: the reply to a request.
-/

namespace ScriptSuite.CommandLine

/-- What a command is told besides the request and the disk. -/
structure Surroundings where
  /-- The environment. -/
  environment : Environment
  /-- The time stamp for reports. -/
  timestamp : String
  /-- The programs that tests can be run with. -/
  programs : Programs := shellPrograms
  /-- The completions for each shell. -/
  completions : CompletionShell → String := CompletionShell.script

/-- What a command leaves behind. -/
structure Reply where
  /-- The exit code. -/
  exit : Nat
  /-- What was printed. -/
  output : String
  /-- What was printed for errors. -/
  errors : String
  /-- The disk. -/
  disk : Disk

/-- Carries out a task. -/
def Task.carryOut (t : Task) (g : GeneralOptions) (s : Surroundings) : Command Unit :=
  match t with
  | .test o => o.carryOut g s.programs s.environment s.timestamp
  | .list o => o.carryOut g
  | .init o => o.carryOut g
  | .completions o => o.carryOut g s.completions

/-- The reply to a request. -/
def Request.carryOut (r : Request) (s : Surroundings) (d : Disk) : Reply :=
  let command : Command Unit := do
    if let some dir := r.general.directory then Command.changeDisk (·.enterDirectory dir) .disk
    r.task.carryOut r.general s
  let (result, p) := command.run.run { disk := d }
  match result with
  | .ok _ => { exit := 0, output := p.output, errors := "", disk := p.disk }
  | .error f =>
    { exit := f.exitCode, output := p.output, errors := "✗ " ++ f.message ++ "\n", disk := p.disk }

end ScriptSuite.CommandLine
