import ScriptSuite.Run.Program
import ScriptSuite.Shell.Turn

/-!
# Starting programs

A program is a file on the disk that may be run and that names a shell in its first line, or one of
the programs of the system. A name without a directory is looked for in the directories of the
search path.

The shell and the programs of the system stand in for the ones outside, and only serve to execute
the test runner on a disk that is a plain value. The rest of the library sees no more of them than
`shellPrograms`, one of the values that a `Programs` can have. Runs take their `Launcher` as a
parameter, and all that is stated of runs holds for each launcher, so nothing depends on how the
shell works.

## Main definitions

* `Disk.launch`: starts a program and runs it to its end.
* `Disk.which?`: the place of a program in the search path.
* `shellPrograms`: the shell and the programs of the system.
-/

namespace ScriptSuite

open Shell

/-- A program that was found. -/
inductive FoundProgram where
  /-- A script with its text. -/
  | script (path : String) (options : List Char) (text : List Char)
  /-- A program of the system, by its name. -/
  | system (name : String) (arguments : List String)

/-- Whether a name is that of a program of the system. -/
def isSystemName (name : String) : Bool :=
  match systemProgram name false with
  | .nothing => false
  | _ => true

/-- The name of a program of the system in one of its directories. -/
def systemName? (path : String) : Option String :=
  match Path.parent? path, Path.fileName? path with
  | some dir, some name =>
    if ["/bin", "/usr/bin"].contains dir && isSystemName name then some name else none
  | _, _ => none

/-- The interpreter that the first line of a file names, and its argument. -/
def interpreterLine? (text : List Char) : Option (List Char × List Char) :=
  match text with
  | '#' :: '!' :: s =>
    let isBlank (c : Char) := c = ' ' || c = '\t'
    let line := (s.takeWhile (· != '\n')).dropWhile isBlank
    let name := line.takeWhile (!isBlank ·)
    let argument := (line.dropWhile (!isBlank ·)).dropWhile isBlank
    some (name, (argument.reverse.dropWhile isBlank).reverse)
  | _ => none

/-- Whether a text names a shell. -/
def isShell (name argument : List Char) : Bool :=
  let shells := ["sh", "dash", "bash"]
  let dirs := ["/bin/", "/usr/bin/"]
  dirs.any fun dir => shells.any fun sh =>
    name = (dir ++ sh).toList || (name = (dir ++ "env").toList && argument = sh.toList)

namespace Disk

/-- The program at a path. -/
def programAt (d : Disk) (path : String) (arguments : List String) :
    Except DiskFailure FoundProgram :=
  match d.get path with
  | .ok (.file bytes true) =>
    let text := ofBytes bytes
    match interpreterLine? text with
    | none => .error .noProgram
    | some (name, argument) =>
      if isShell name argument then
        .ok (.script path (if argument.head? = some '-' then argument else []) text)
      else
        match systemName? (Shell.toString name) with
        | some tool =>
          .ok (.system tool ((if argument.isEmpty then [] else [Shell.toString argument]) ++
            path :: arguments))
        | none => .error .missing
  | .ok _ => .error .denied
  | .error f =>
    match systemName? path with
    | some name => .ok (.system name arguments)
    | none => .error f

/-- The first program of a name in directories. `denied` tells whether a file was found that may not
be run. -/
def searchProgram (d : Disk) (name : String) (arguments : List String) (denied : Bool) :
    List String → Except DiskFailure FoundProgram
  | [] => .error (if denied then .denied else .missing)
  | dir :: dirs =>
    match d.programAt (Path.join dir name) arguments with
    | .ok p => .ok p
    | .error .denied => searchProgram d name arguments true dirs
    | .error .noProgram => .error .noProgram
    | .error _ => searchProgram d name arguments denied dirs

/-- The program of an invocation. -/
def findProgram (d : Disk) (i : Invocation) : Except DiskFailure FoundProgram :=
  if i.program.toList.contains '/' then d.programAt i.program i.arguments
  else if i.program.isEmpty then .error .missing
  else d.searchProgram i.program i.arguments false i.environment.searchPath

/-- The place of a program in the search path. -/
def which? (d : Disk) (env : Environment) (name : String) : Option String :=
  (env.searchPath.map fun dir => Path.join dir name).find? fun path =>
    match d.get path with
    | .ok (.file _ runnable) => runnable
    | .ok _ => false
    | .error _ => (systemName? path).isSome

/-- The number of steps for a script: more than its commands can use up. -/
def scriptSteps : Nat := 1000000

/-- The variables that programs see if nothing else is said. -/
def standardVariables : Variables :=
  [(chars "HOME", chars "/root"), (chars "PATH", chars "/usr/local/bin:/usr/bin:/bin")]

/-- The variables that a shell starts with. -/
def shellVariables : List (String × String) :=
  [("OPTIND", "1"), ("PPID", "4241"), ("PS1", "$ "), ("PS2", "> "), ("PS4", "+ ")]

/-- Runs a program that was found. -/
def execute (d : Disk) (env : Environment) (i : Invocation) (p : FoundProgram) :
    Execution × Disk :=
  let given := env.foldl (fun vars (name, value) =>
    Variables.set (ofString name) (ofString value) vars) standardVariables
  let bindings := shellVariables.foldl (fun vars (name, value) =>
    Variables.set (chars name) (chars value) vars) given
  let start : Session := {
    disk := d
    origin := d.now
    name := []
    arguments := i.arguments.map ofString
    bindings := Variables.set (chars "IFS") blanks
      (Variables.set (chars "PWD") (ofString d.cwdPath) bindings)
    exported := chars "PWD" :: given.map (·.1) }
  let (start, act) := match p with
    | .script path options text =>
      ({ start with name := ofString path, flags := (options.drop 1).filter shellFlags.contains },
        script scriptSteps text)
    | .system name arguments =>
      ({ start with name := ofString name },
        dispatch scriptSteps (ofString name :: arguments.map ofString))
  let (ending, s, last) := runAlone scriptSteps start act
  ({ output := toBytes (last.buffer 0)
     errors := toBytes (last.buffer 1)
     exit := match ending with
       | .error (.killed ..) => none
       | _ => some (s.status % 256)
     time := match ending with
       | .error .endless => none
       | _ => some s.clock
     closed := max s.clock last.held }, last.present)

/-- Starts a program and runs it to its end. -/
def launch : Launcher := fun d i =>
  if (i.program :: i.directory :: i.arguments).any fun s => s.toList.contains '\x00' then
    (.error .zeroInArgument, d)
  else
    match (if i.directory.isEmpty then .ok d else d.enterDirectory i.directory) with
    | .error f => (.error f, d)
    | .ok there =>
      match there.findProgram i with
      | .error f => (.error f, d)
      | .ok p =>
        let (e, after) := there.execute i.environment i p
        (.ok e, { after with cwd := d.cwd })

end Disk

/-- The shell and the programs of the system. -/
def shellPrograms : Programs where
  which? := Disk.which?
  launch := Disk.launch

end ScriptSuite
