import ScriptSuite.Shell.Action
import ScriptSuite.Shell.Parser
import ScriptSuite.Shell.Tool.Mode

/-!
# Commands that change the state of the shell

The working directory, the arguments, the options and the variables of a shell are changed by
commands of the shell itself. A mistake in the arguments of some of them ends the shell.

## Main definitions

* `Shell.cd`, `Shell.exit`, `Shell.shift`: moving, ending, dropping arguments.
* `Shell.setOptions`: options and arguments.
* `Shell.doExport`, `Shell.doReadonly`, `Shell.doLocal`, `Shell.unset`: variables.
* `Shell.umask`, `Shell.ulimit`: what new files may be used for, and limits.
-/

namespace ScriptSuite.Shell

/-- Gives up because of an option that is not known. -/
def refuseOption {α : Type} (c : Char) : Action α := giveUp (chars "Illegal option -" ++ [c])

/-- The letters in front of arguments that are options, and the other arguments. -/
def switches (args : List (List Char)) : List Char × List (List Char) :=
  match args with
  | ['-', '-'] :: rest => ([], rest)
  | ('-' :: c :: letters) :: rest =>
    let (more, others) := switches rest
    (c :: letters ++ more, others)
  | args => ([], args)

/-- The letters of options, of which only some are allowed, and the other arguments. -/
def switchesOf (allowed : String) (args : List (List Char)) :
    Action (List Char × List (List Char)) := do
  let (letters, others) := switches args
  match letters.find? fun c => !allowed.toList.contains c with
  | some c => refuseOption c
  | none => return (letters, others)

/-- A text in single quotes; single quotes stand in double quotes. -/
def singleQuoted (steps : Nat) (s : List Char) : List Char :=
  match steps with
  | 0 => s
  | steps + 1 =>
    let front := s.takeWhile (· != '\'')
    let rest := s.drop front.length
    let quotes := rest.takeWhile (· = '\'')
    let behind := rest.drop quotes.length
    ['\''] ++ front ++ ['\''] ++ (if quotes.isEmpty then [] else ['"'] ++ quotes ++ ['"']) ++
      (if behind.isEmpty then [] else singleQuoted steps behind)

/-- A variable with its value as it is listed. -/
def shownVariable (name : List Char) (value : Option (List Char)) : List Char :=
  match value with
  | some value => name ++ '=' :: singleQuoted (value.length + 1) value
  | none => name

/-- Lists variables in the order of their names, each behind a word. -/
def listVariables (front : String) (names : List (List Char)) : Action Unit := do
  let s ← get
  for name in names.eraseDups.mergeSort dictionaryLe do
    say (chars front ++ shownVariable name (s.bindings.get? name) ++ ['\n'])

/-! ### Moving and ending -/

/-- Changes the working directory. -/
def cd (args : List (List Char)) : Action Unit := do
  let s ← get
  let var (name : String) : List Char := (s.bindings.get? (chars name)).getD []
  let (_, args) ← switchesOf "LP" args
  let (target, shown) := match args with
    | [] => (var "HOME", false)
    | ['-'] :: _ => (var "OLDPWD", true)
    | dir :: _ => (dir, false)
  let path := toString (if target.isEmpty then ['.'] else target)
  match s.disk.enterDirectory path with
  | .ok disk =>
    let before := ofString s.disk.cwdPath
    let now := ofString disk.cwdPath
    set { s with disk, status := 0 }
    assign (chars "OLDPWD") before
    assign (chars "PWD") now
    exportAll [chars "OLDPWD", chars "PWD"]
    if shown then say (now ++ ['\n'])
  | .error _ => giveUp (chars "can't cd to " ++ target)

/-- Tells the working directory. -/
def pwd (args : List (List Char)) : Action Unit := do
  discard (switchesOf "LP" args)
  say (ofString (← get).disk.cwdPath ++ ['\n'])
  setStatus 0

/-- The number of an argument of a command, which must be one. -/
def numberOf (arg : List Char) : Action Nat :=
  if !arg.isEmpty && arg.all Char.isDigit then return decimal arg
  else giveUp (chars "Illegal number: " ++ arg)

/-- Ends the shell with a status. -/
def exit (args : List (List Char)) : Action Unit := do
  if let n :: _ := args then setStatus ((← numberOf n) % 256)
  throw .exit

/-- Ends a function with a status. -/
def doReturn (args : List (List Char)) : Action Unit := do
  if let n :: _ := args then setStatus (← numberOf n)
  throw .returned

/-- Leaves loops, if there are any. -/
def leave (interruption : Nat → Interruption) (args : List (List Char)) : Action Unit := do
  setStatus 0
  let count ← match args with
    | n :: _ => numberOf n
    | [] => pure 1
  if count = 0 then giveUp (chars "Illegal number: " ++ args.headD [])
  let loops := (← get).loops
  if loops != 0 then throw (interruption (min loops count))

/-- Drops arguments. -/
def shift (args : List (List Char)) : Action Unit := do
  let n ← match args with
    | n :: _ => numberOf n
    | [] => pure 1
  let s ← get
  if n ≤ s.arguments.length then set { s with arguments := s.arguments.drop n, status := 0 }
  else giveUp (chars "can't shift that many")

/-! ### Options -/

/-- Lists the options: as they are, or as the commands that set them. -/
def listOptions (asCommands : Bool) : Action Unit := do
  let flags := (← get).flags
  let line (o : Char × String) : List Char :=
    let on := flags.contains o.1
    if asCommands then chars (if on then "set -o " else "set +o ") ++ chars o.2
    else chars o.2 ++ List.replicate (16 - o.2.length) ' ' ++ chars (if on then "on" else "off")
  unless asCommands do say (chars "Current option settings\n")
  say (shellOptions.flatMap fun o => line o ++ ['\n'])

/-- Turns options on or off. -/
def turn (on : Bool) (letters : List Char) : Action Unit := do
  for c in letters do
    if !shellFlags.contains c then refuseOption c
    modify fun s =>
      let others := s.flags.filter (· != c)
      { s with flags := if on then c :: others else others }

/-- Turns the option of a name on or off. -/
def turnNamed (on : Bool) (name : List Char) : Action Unit := do
  match shellOptions.find? fun o => chars o.2 = name with
  | some (c, _) => modify fun s =>
    let others := s.flags.filter (· != c)
    { s with flags := if on then c :: others else others }
  | none => giveUp (chars "Illegal option " ++ (if on then ['-'] else ['+']) ++ chars "o " ++ name)

/-- Sets options and arguments. An option that takes a name takes the next argument. -/
def setFrom (args : List (List Char)) : Action Unit := do
  match args with
  | [] => return
  | ['-', '-'] :: rest => modify fun s => { s with arguments := rest }
  | ['-'] :: rest =>
    turn false ['x', 'v']
    unless rest.isEmpty do modify fun s => { s with arguments := rest }
  | (sign :: letters) :: rest =>
    if (sign = '-' || sign = '+') && !letters.isEmpty then
      let on := sign = '-'
      turn on (letters.filter (· != 'o'))
      if letters.contains 'o' then
        match rest with
        | name :: rest =>
          turnNamed on name
          setFrom rest
        | [] => listOptions (!on)
      else setFrom rest
    else if sign = '+' && letters.isEmpty then setFrom rest
    else modify fun s => { s with arguments := (sign :: letters) :: rest }
  | [] :: rest => modify fun s => { s with arguments := [] :: rest }

/-- Sets options and arguments; without any, the variables are listed. -/
def setOptions (args : List (List Char)) : Action Unit := do
  setStatus 0
  if args.isEmpty then listVariables "" ((← get).bindings.map (·.1)) else setFrom args

/-! ### Variables -/

/-- The name and the value of an argument that assigns one. -/
def assignment (arg : List Char) : Action (List Char × Option (List Char)) := do
  let (name, value) := match Text.cut ['='] arg with
    | some (left, right) => (left, some right)
    | none => (arg, none)
  if isName name then return (name, value)
  else giveUp (name ++ chars ": bad variable name")

/-- Makes variables visible to programs, and may assign values to them. -/
def doExport (args : List (List Char)) : Action Unit := do
  setStatus 0
  let (letters, args) ← switchesOf "p" args
  if letters.contains 'p' || args.isEmpty then listVariables "export " (← get).exported
  else
    for arg in args do
      let (name, value) ← assignment arg
      if let some value := value then assign name value
      exportAll [name]

/-- Makes variables keep their values. -/
def doReadonly (args : List (List Char)) : Action Unit := do
  setStatus 0
  let (letters, args) ← switchesOf "p" args
  if letters.contains 'p' || args.isEmpty then listVariables "readonly " (← get).readonly
  else
    for arg in args do
      let (name, value) ← assignment arg
      if (← get).readonly.contains name && value.isSome then
        giveUp (name ++ chars ": is read only")
      if let some value := value then assign name value
      modify fun s => { s with readonly := name :: s.readonly }

/-- Makes variables have their values again behind the function. -/
def doLocal (args : List (List Char)) : Action Unit := do
  setStatus 0
  for arg in args do
    let (name, value) ← assignment arg
    let s ← get
    match s.locals with
    | none => giveUp (chars "not in a function")
    | some known =>
      unless known.any fun k => k.1 = name do
        set { s with locals := some (known ++ [(name, s.bindings.get? name)]) }
    if let some value := value then assign name value

/-- Removes variables and functions. -/
def unset (args : List (List Char)) : Action Unit := do
  setStatus 0
  let (letters, names) ← switchesOf "vf" args
  let ofFunctions := letters.contains 'f'
  for name in names do
    unless isName name do giveUp (name ++ chars ": bad variable name")
    if (← get).readonly.contains name && !ofFunctions then
      giveUp (name ++ chars ": is read only")
  modify fun s => { s with
    bindings := if ofFunctions then s.bindings else s.bindings.filter fun v => !names.contains v.1
    exported := if ofFunctions then s.exported else s.exported.filter fun v => !names.contains v
    functions := if ofFunctions then s.functions.filter fun f => !names.contains f.1
      else s.functions }

/-! ### Limits -/

/-- What everybody may do, in letters. -/
def permissionText (mode : Nat) : List Char :=
  let three (shift : Nat) : List Char :=
    (if mode >>> shift &&& 4 != 0 then ['r'] else []) ++
      (if mode >>> shift &&& 2 != 0 then ['w'] else []) ++
      (if mode >>> shift &&& 1 != 0 then ['x'] else [])
  chars "u=" ++ three 6 ++ chars ",g=" ++ three 3 ++ chars ",o=" ++ three 0

/-- Tells or changes what nobody may do with new files. -/
def umask (args : List (List Char)) : Action Unit := do
  let (letters, args) := switches args
  let disk := (← get).disk
  let allowed := 0o777 - (disk.mask &&& 0o777)
  let change (mask : Nat) : Action Unit := do
    modify fun s => { s with disk := { s.disk with mask } }
    setStatus 0
  match letters.find? (· != 'S'), args with
  | some c, _ => refuseOption c
  | none, [] =>
    say ((if letters.isEmpty then Mode.octal 4 disk.mask else permissionText allowed) ++ ['\n'])
    setStatus 0
  | none, mode :: _ =>
    if mode.head?.any Char.isDigit then
      if mode.all fun c => '0' ≤ c && c ≤ '7' then
        change ((Mode.change? true 0 mode).getD 0 &&& 0o777)
      else giveUp (chars "Illegal number: " ++ mode)
    else
      -- without owners a change is for everybody
      let clauses := (Text.splitOn [','] mode).map fun clause =>
        if clause.head?.any Mode.isOwner then clause else 'a' :: clause
      match Mode.change? true allowed (Text.join [','] clauses) with
      | some mode => change (0o777 - (mode &&& 0o777))
      | none => giveUp (chars "Illegal mode: " ++ mode)

/-- The limits by their letters, with what they are called and their values. -/
def limits : List (Char × String × String) :=
  [('t', "time(seconds)", "unlimited"), ('f', "file(blocks)", "unlimited"),
    ('d', "data(kbytes)", "unlimited"), ('s', "stack(kbytes)", "8192"),
    ('c', "coredump(blocks)", "0"), ('m', "memory(kbytes)", "unlimited"),
    ('l', "locked memory(kbytes)", "8192"), ('p', "process", "unlimited"),
    ('n', "nofiles", "1048576"), ('v', "vmemory(kbytes)", "unlimited"), ('w', "locks", "unlimited"),
    ('r', "rtprio", "0")]

/-- Tells limits; changes of limits have no effect. -/
def ulimit (args : List (List Char)) : Action Unit := do
  let (letters, args) := switches args
  let known := limits.map (·.1)
  let asked := letters.filter fun c => c != 'H' && c != 'S'
  match asked.find? fun c => c != 'a' && !known.contains c, args with
  | some c, _ => refuseOption c
  | none, [] =>
    if asked.contains 'a' then
      say (limits.flatMap fun (_, name, value) =>
        chars name ++ List.replicate (20 - name.length) ' ' ++ ' ' :: chars value ++ ['\n'])
    else
      let value := (limits.find? fun l => l.1 = asked.getLast?.getD 'f').map (·.2.2)
      say (chars (value.getD "unlimited") ++ ['\n'])
    setStatus 0
  | none, [value] =>
    if value = chars "unlimited" || value.all Char.isDigit then setStatus 0
    else giveUp (chars "bad number")
  | none, _ => giveUp (chars "too many arguments")

/-- Tells how long the shell and its programs have worked, which is no time at all. -/
def times : Action Unit := do
  let line := chars "0m0.000000s 0m0.000000s\n"
  say (line ++ line)
  setStatus 0

end ScriptSuite.Shell
