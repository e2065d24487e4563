import ScriptSuite.Shell.Program.Arguments
import ScriptSuite.Shell.Program.Awk
import ScriptSuite.Shell.Program.Find
import ScriptSuite.Shell.Program.Surroundings
import ScriptSuite.Shell.Tools

/-!
# Finding programs

A name that is no path is looked up among the programs of the system and then in the search path.

## Main definitions

* `Shell.FoundCommand`: what a name stands for outside of the shell.
* `Shell.Session.find`: finds it.
-/

namespace ScriptSuite.Shell

/-- What a name stands for outside of the shell. -/
inductive FoundCommand where
  /-- A tool. -/
  | tool (act : Tool)
  /-- A program that starts others. -/
  | program (act : Program)
  /-- A shell. -/
  | shell
  /-- A program that does what a command of the shell does. -/
  | own
  /-- A script with its bytes. -/
  | script (path : List Char) (bytes : List UInt8)
  /-- A file that may not be run. -/
  | denied
  /-- Nothing. -/
  | nothing

/-- The commands of the shell that are programs, too. -/
def builtinPrograms : List String :=
  ["[", "false", "kill", "printf", "pwd", "test", "true"]

/-- An upper bound for the depth of a program for records. -/
def awkSteps : Nat := 4000000

/-- The programs that start others, by name. -/
def program? (name : String) : Option Program :=
  match name with
  | "awk" | "mawk" => some (awk name awkSteps)
  | "env" => some env
  | "find" => some find
  | "nice" => some nice
  | "nohup" => some nohup
  | "printenv" => some printenv
  | "setsid" => some (starting "setsid" "+cfw")
  | "stdbuf" => some (starting "stdbuf" "+i:o:e:")
  | "timeout" => some timeout
  | "which" => some which
  | "xargs" => some xargs
  | _ => none

/-- The program of the system of a name. `inputIsFile` tells whether its input is that of a file. -/
def systemProgram (name : String) (inputIsFile : Bool) : FoundCommand :=
  match tool? name inputIsFile with
  | some act => .tool act
  | none =>
    match program? name with
    | some act => .program act
    | none =>
      if ["sh", "dash", "bash"].contains name then .shell
      else if builtinPrograms.contains name then .own
      else .nothing

/-- Whether a directory is one of the system's programs. -/
def isSystemDirectory (dir : List Char) : Bool :=
  [chars "/bin", chars "/usr/bin"].contains dir

namespace Session

/-- What a path stands for. -/
def findPath (s : Session) (path : List Char) : FoundCommand :=
  match s.disk.get (toString path) with
  | .ok (.file bytes true) => .script path bytes
  | .ok _ => .denied
  | .error _ =>
    if isSystemDirectory (dirname path) then
      systemProgram (toString (basename path [])) s.inputIsFile
    else .nothing

/-- What a name stands for outside of the shell: a path is taken as it is, and any other name is
looked up in the system and then in the search path. -/
def find (s : Session) (name : List Char) : FoundCommand :=
  if name.contains '/' then s.findPath name
  else
    match systemProgram (toString name) s.inputIsFile with
    | .nothing =>
      let dirs := Text.splitOn [':'] ((s.bindings.get? (chars "PATH")).getD [])
      (dirs.findSome? fun dir =>
        match s.disk.get (toString (dir ++ '/' :: name)) with
        | .ok (.file bytes true) => some (.script (dir ++ '/' :: name) bytes)
        | _ => none).getD .nothing
    | found => found

/-- The path of a file of commands: a name that is no path is looked up in the search path. -/
def readable? (s : Session) (name : List Char) : Option (List Char) :=
  if name.contains '/' then some name
  else
    let dirs := Text.splitOn [':'] ((s.bindings.get? (chars "PATH")).getD [])
    (dirs.map fun dir => if dir.isEmpty then name else dir ++ '/' :: name).find? fun path =>
      match s.disk.get (toString path) with
      | .ok (.file ..) => true
      | _ => false

end Session

end ScriptSuite.Shell
