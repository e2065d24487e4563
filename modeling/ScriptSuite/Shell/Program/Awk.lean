import ScriptSuite.Shell.Awk.Evaluate
import ScriptSuite.Shell.Awk.Parser

/-!
# The program for records

The program that runs a program for records: its options tell where the text of that program is,
what stands between fields, and which values its variables have.

## Main definitions

* `Shell.Awk.Call`: what the arguments ask for.
* `Shell.awk`: the program.
-/

namespace ScriptSuite.Shell

namespace Awk

/-- What the arguments ask for. -/
structure Call where
  /-- The texts of the program by the paths of their files. -/
  files : List (List Char) := []
  /-- What stands between fields. -/
  separator : Option (List Char) := none
  /-- The variables with their values. -/
  assignments : List (List Char) := []
  /-- The other arguments. -/
  operands : List (List Char) := []
  /-- Whether the version is asked for. -/
  tellsVersion : Bool := false

/-- Reads arguments up to the first one that is no option; what is said if that fails. -/
def Call.read (steps : Nat) (c : Call) (args : List (List Char)) : Except (List Char) Call :=
  match steps with
  | 0 => .ok c
  | steps + 1 =>
    let valued (letter : Char) (value : List Char) : Call :=
      if letter = 'F' then { c with separator := some (unescaped (value.length + 1) value) }
      else if letter = 'v' then { c with assignments := c.assignments ++ [value] }
      else { c with files := c.files ++ [value] }
    match args with
    | ['-', '-'] :: rest => .ok { c with operands := rest }
    | ('-' :: letter :: value) :: rest =>
      if ['F', 'v', 'f'].contains letter then
        match value, rest with
        | [], [] => .error (chars "option -" ++ letter :: chars " lacks argument")
        | [], value :: rest => (valued letter value).read steps rest
        | value, rest => (valued letter value).read steps rest
      else if letter = 'W' then
        match value, rest with
        | [], option :: rest => if option = chars "version" then .ok { c with tellsVersion := true }
            else c.read steps rest
        | value, rest => if value = chars "version" then .ok { c with tellsVersion := true }
            else c.read steps rest
      else if '-' :: letter :: value = chars "--version" then .ok { c with tellsVersion := true }
      else .error (chars "not an option: -" ++ letter :: value)
    | rest => .ok { c with operands := rest }

/-- What is said when there is no program. -/
def usage (name : List Char) : List Char :=
  chars "Usage: " ++ name ++ chars " [Options] [Program] [file ...]\n\nProgram:\n" ++
  chars "    The -f option value is the name of a file containing program text.\n" ++
  chars "    If no -f option is given, a \"--\" ends option processing; the following\n" ++
  chars "    parameters are the program text.\n\nOptions:\n" ++
  chars "    -f program-file  Program  text is read from file instead of from the\n" ++
  chars "                     command-line.  Multiple -f options are accepted.\n" ++
  chars "    -F value         sets the field separator, FS, to value.\n" ++
  chars "    -v var=value     assigns value to program variable var.\n" ++
  chars "    --               unambiguous end of options.\n\n" ++
  chars "    Implementation-specific options are prefixed with \"-W\".  They can be\n" ++
  chars "    abbreviated:\n\n" ++
  chars "    -W version       show version information and exit.\n" ++
  chars "    -W compat        pre-POSIX 2001.\n" ++
  chars "    -W dump          show assembler-like listing of program and exit.\n" ++
  chars "    -W help          show this message and exit.\n" ++
  chars "    -W interactive   set unbuffered output, line-buffered input.\n" ++
  chars "    -W exec file     use file as program as well as last option.\n" ++
  chars "    -W posix         stricter POSIX checking.\n" ++
  chars "    -W random=number set initial random seed.\n" ++
  chars "    -W sprintf=number adjust size of sprintf buffer.\n" ++
  chars "    -W usage         show this message and exit.\n"

/-- The program of a text; the path of its file is told with a mistake in it. -/
def programOf (path : List Char) (text : List Char) : Run Program := do
  match parse text with
  | .ok p => return p
  | .error problem =>
    let place := if path.isEmpty then [] else path ++ chars ": "
    fail (place ++ chars s!"line {problem.line}: " ++ problem.message)

/-- The texts of files one behind the other. -/
def textOfFiles (paths : List (List Char)) : Run (List Char) := do
  let mut texts : List (List Char) := []
  for path in paths do
    match ← fileText path with
    | .ok text => texts := texts ++ [text]
    | .error f => fail (chars "cannot open \"" ++ path ++ chars s!"\" ({f.reason})")
  return Text.join ['\n'] texts

/-- Gives the variables that every program has their first values. -/
def prepare (name : List Char) (c : Call) (operands : List (List Char)) : Run Unit := do
  let s ← inShell get
  for (variableName, value) in [("FS", " "), ("RS", "\n"), ("OFS", " "), ("ORS", "\n"),
      ("SUBSEP", "\x1c"), ("CONVFMT", "%.6g"), ("OFMT", "%.6g"), ("FILENAME", "")] do
    setSpecial variableName (.text (chars value))
  for variableName in ["NF", "NR", "FNR", "RSTART"] do setSpecial variableName (.ofNat 0)
  setSpecial "RLENGTH" (.number (-1))
  setSpecial "ARGC" (.ofNat (operands.length + 1))
  setTable (← tableIndex (chars "ARGV")) (((name :: operands).zipIdx).foldl
    (fun t (a, i) => t.put (.number i) (.input a)) {})
  let surroundings := s.bindings.reverse.filter fun v => s.exported.contains v.1
  setTable (← tableIndex (chars "ENVIRON")) (surroundings.foldl
    (fun t (n, value) => t.put (.text n) (.input value)) {})
  if let some sep := c.separator then
    setSpecial "FS" (.text sep)
    if let .error p := Separator.ofFields sep then fail (chars "line 0: " ++ regexComplaint p sep)
  for assignment in c.assignments do
    match assignmentOf? assignment with
    | some (name, value) => assignArgument name value
    | none => fail (chars "improper assignment: -v " ++ assignment)

/-- Runs steps of a program with a state; what is said if it cannot go on, and the state behind. -/
def Run.from (act : Run Unit) (context : Context) (s : State) :
    Action (Option (List Char) × State) := do
  let (r, s) ← (act.run context).run.run s
  match r with
  | .error (.failed text) => return (some text, s)
  | _ => return (none, s)

end Awk

/-- Runs a program for records. -/
def awk (name : String) (steps : Nat) : Program := fun host args => do
  let name := chars name
  let complain (text : List Char) : Action Unit := do
    write 2 (name ++ chars ": " ++ text ++ ['\n'])
    setStatus 2
  match Awk.Call.read (args.length + 1) {} args with
  | .error text => complain text
  | .ok c =>
    if c.tellsVersion then
      say (chars "mawk 1.3.4 20240123\n")
      setStatus 0
    else
      match c.files, c.operands with
      | [], [] =>
        write 2 (Awk.usage name)
        setStatus 0
      | _, _ =>
        let empty : Awk.Context := { host, program := {} }
        let operands := if c.files.isEmpty then c.operands.tail else c.operands
        let run (program : Awk.Program) : Action Unit := do
          let context : Awk.Context := { host, program }
          let body : Awk.Run Unit := do
            Awk.prepare name c operands
            Awk.runProgram steps
          let (failure, s) ← Awk.Run.from body context {}
          if let some text := failure then complain text
          discard (Awk.Run.from Awk.finishAll context s)
          setStatus (if failure.isSome then 2 else s.status)
        let reading : Awk.Run Awk.Program := do
          if c.files.isEmpty then Awk.programOf [] (c.operands.headD [])
          else
            let file := if c.files.length = 1 then c.files.headD [] else []
            Awk.programOf file (← Awk.textOfFiles c.files)
        let (r, _) ← (reading.run empty).run.run {}
        match r with
        | .ok program => run program
        | .error (.failed text) => complain text
        | .error _ => setStatus 2

end ScriptSuite.Shell
