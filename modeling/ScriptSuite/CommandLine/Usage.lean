/-!
# Misuse of the command line

A command line that cannot be understood is refused with a problem. A request for help or for the
version is told in the same way, since it keeps the command from being carried out; it is no mistake
and has the exit code zero.

## Main definitions

* `UsageProblem`: why a command line is not carried out.
* `helpText`, `versionText`: what the program says about itself.
-/

namespace ScriptSuite.CommandLine

/-- Why a command line is not carried out. -/
inductive UsageProblem where
  /-- Help is asked for. -/
  | help
  /-- The version is asked for. -/
  | version
  /-- There are no arguments. -/
  | nothingGiven
  /-- There are arguments, but no command. -/
  | noCommand
  /-- There is no command of this name. -/
  | unknownCommand (name : String)
  /-- Nothing takes this argument. -/
  | unknownArgument (argument : String)
  /-- An option or argument is left without a value. -/
  | missingValue (name : String)
  /-- The value is not one of the allowed words. -/
  | badWord (name value : String)
  /-- The value is no number of 64 bits. -/
  | badNumber (name value : String)
  /-- An option is given twice that may be given once. -/
  | repeated (name : String)
  /-- A value is attached to an option that takes none. -/
  | unwantedValue (name value : String)
  /-- An argument that the command needs is missing. -/
  | missingArgument (name : String)
deriving DecidableEq, Repr

namespace UsageProblem

/-- The exit code for a problem. -/
def exitCode : UsageProblem → Nat
  | help | version => 0
  | _ => 2

end UsageProblem

/-- What the program says about its use. -/
def helpText : String :=
  String.join <| List.map (· ++ "\n") [
    "Run AutoHotkey v2 unit tests",
    "",
    "Usage: ahkunit [OPTIONS] <COMMAND>",
    "",
    "Commands:",
    "  test         Run tests",
    "  list         List discovered tests without running them",
    "  init         Create an ahkunit configuration file",
    "  completions  Generate shell completions",
    "",
    "Options:",
    "  -v, --verbose                Enable verbose output",
    "  -q, --quiet                  Suppress output except errors",
    "      --format <FORMAT>        Output format: text or json",
    "  -C, --directory <DIRECTORY>  Working directory",
    "  -h, --help                   Print help",
    "  -V, --version                Print version"]

/-- The name and the version of the program. -/
def versionText : String := "ahkunit 0.1.0\n"

/-- The text for a problem that is a mistake. -/
def UsageProblem.message : UsageProblem → String
  | help | version | nothingGiven => ""
  | noCommand => "a command is required"
  | unknownCommand name => s!"unknown command '{name}'"
  | unknownArgument argument => s!"unexpected argument '{argument}'"
  | missingValue name => s!"a value is required for '{name}'"
  | badWord name value => s!"invalid value '{value}' for '{name}'"
  | badNumber name value => s!"'{value}' is not a number for '{name}'"
  | repeated name => s!"'{name}' cannot be used more than once"
  | unwantedValue name value => s!"unexpected value '{value}' for '{name}'"
  | missingArgument name => s!"'{name}' is required"

end ScriptSuite.CommandLine
