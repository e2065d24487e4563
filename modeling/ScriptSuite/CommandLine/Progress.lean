import ScriptSuite.Failure

/-!
# Carrying out a command

A command prints lines, changes the disk and may fail. What it printed and changed up to then stays.

## Main definitions

* `CommandFailure`: why a command fails, with its text and its exit code.
* `Command`: a step of a command.
-/

namespace ScriptSuite.CommandLine

/-- Why a command fails. -/
inductive CommandFailure where
  /-- The request failed. -/
  | request (f : Failure)
  /-- The test files below a root cannot be found. -/
  | discovery (root : String) (f : Failure)
  /-- A directory or file cannot be used. -/
  | disk (f : DiskFailure)
  /-- There is a file with settings already. -/
  | configExists (path : String)
  /-- There is nobody to ask. -/
  | noTerminal
  /-- Some tests did not pass. -/
  | testsFailed (failed errored : Nat)
  /-- The run was cancelled. -/
  | cancelled
deriving DecidableEq, Repr

namespace CommandFailure

/-- The text for a failure, with what caused it. -/
def message : CommandFailure → String
  | request f => f.account
  | discovery root f => s!"Failed to discover tests in {root}: {f.account}"
  | disk f => f.message
  | configExists path =>
    s!"Configuration file already exists at {path}. Use --force to overwrite."
  | noTerminal => "IO error: not a terminal: not a terminal"
  | testsFailed failed errored => s!"Tests failed: {failed} failed, {errored} errored"
  | cancelled => "Test run cancelled"

/-- The exit code for a failure. -/
def exitCode : CommandFailure → Nat
  | request f | discovery _ f => f.exitCode
  | cancelled => 130
  | disk _ | configExists _ | noTerminal | testsFailed .. => 1

end CommandFailure

/-- How far a command is. -/
structure Progress where
  /-- The disk. -/
  disk : Disk
  /-- What was printed. -/
  output : String := ""

/-- A step of a command. -/
abbrev Command := ExceptT CommandFailure (StateM Progress)

namespace Command

/-- The disk. -/
def disk : Command Disk := return (← get).disk

/-- Goes on with another disk. -/
def setDisk (d : Disk) : Command Unit := modify fun p => { p with disk := d }

/-- Prints a text as it is. -/
def print (text : String) : Command Unit :=
  modify fun p => { p with output := p.output ++ text }

/-- Prints a line. -/
def say (line : String) : Command Unit := print (line ++ "\n")

/-- Prints a line that tells of a success. -/
def succeeded (message : String) : Command Unit := say ("✓ " ++ message)

/-- Prints a line that warns. -/
def warn (message : String) : Command Unit := say ("! " ++ message)

/-- What a part of the request comes to. -/
def ofRequest {α : Type} (r : Except Failure α) : Command α :=
  ExceptT.mk (pure (r.mapError .request))

/-- Goes on with the disk that an operation leaves. -/
def changeDisk (change : Disk → Except DiskFailure Disk) (failure : DiskFailure → CommandFailure) :
    Command Unit := do
  match change (← disk) with
  | .ok d => setDisk d
  | .error f => throw (failure f)

end Command

end ScriptSuite.CommandLine
