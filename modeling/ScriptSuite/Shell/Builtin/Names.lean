import ScriptSuite.Shell.Builtin.Settings
import ScriptSuite.Shell.Found

/-!
# Names of commands

What a name stands for where a command starts: a reserved word, another text, a function, a command
of the shell or a program.

## Main definitions

* `Shell.specialBuiltins`, `Shell.plainBuiltins`: the commands of the shell.
* `Shell.typeOf`, `Shell.commandPath`, `Shell.hash`: what names stand for.
* `Shell.doAlias`, `Shell.unalias`: texts that stand for names.
-/

namespace ScriptSuite.Shell

/-- The commands that end the shell if their redirections fail, and whose assignments stay. -/
def specialBuiltins : List String :=
  [":", ".", "break", "continue", "eval", "exec", "exit", "export", "local", "readonly", "return",
    "set", "shift", "times", "trap", "unset"]

/-- The other commands that are part of the shell. -/
def plainBuiltins : List String :=
  ["[", "alias", "bg", "cd", "chdir", "command", "echo", "false", "fg", "getopts", "hash", "jobs",
    "kill", "printf", "pwd", "read", "test", "true", "type", "ulimit", "umask", "unalias", "wait"]

/-- The path of a program of the system or the search path. -/
def pathOfCommand? (s : Session) (name : List Char) : Option (List Char) :=
  match s.find name with
  | .nothing | .denied => none
  | .script path _ => some path
  | _ => some (if name.contains '/' then name else chars "/usr/bin/" ++ name)

/-- What a name stands for, as it is told; none if it stands for nothing. -/
def accountOf? (s : Session) (name : List Char) : Option (List Char) :=
  let word := toString name
  if reserved.contains word then some (chars " is a shell keyword")
  else
    match s.aliases.find? fun a => a.1 = name with
    | some (_, text) => some (chars " is an alias for " ++ text)
    | none =>
      if s.functions.any (fun f => f.1 = name) then some (chars " is a shell function")
      else if specialBuiltins.contains word then some (chars " is a special shell builtin")
      else if plainBuiltins.contains word then some (chars " is a shell builtin")
      else (pathOfCommand? s name).map fun path =>
        let tracked := s.started.any fun p => p.1 = name
        chars (if tracked then " is a tracked alias for " else " is ") ++ path

/-- Tells what names stand for. -/
def typeOf (names : List (List Char)) : Action Unit := do
  setStatus 0
  for name in names do
    match accountOf? (← get) name with
    | some account => say (name ++ account ++ ['\n'])
    | none =>
      say (name ++ chars ": not found\n")
      setStatus 127

/-- Tells what a name stands for, in a word. -/
def commandPath (name : List Char) : Action Unit := do
  let s ← get
  let word := toString name
  let isOwn := s.functions.any (fun f => f.1 = name) || reserved.contains word ||
    (specialBuiltins ++ plainBuiltins).contains word
  let account := match s.aliases.find? fun a => a.1 = name with
    | some (name, text) => some (chars "alias " ++ shownVariable name (some text))
    | none => if isOwn then some name else pathOfCommand? s name
  match account with
  | some path =>
    say (path ++ ['\n'])
    setStatus 0
  | none => setStatus 127

/-! ### Tables -/

/-- The order of names in a table with a number of chains. -/
def tableOrder (count : Nat) (name : List Char) : Nat :=
  (16 * (name.headD '\x00').toNat + name.foldl (fun n c => n + c.toNat) 0) % 32768 % count

/-- Names with texts in the order of a table. -/
def inTableOrder (count : Nat) (table : List (List Char × List Char)) :
    List (List Char × List Char) :=
  table.mergeSort fun a b => tableOrder count a.1 ≤ tableOrder count b.1

/-- Tells which programs are known, finds programs, or forgets them. -/
def hash (args : List (List Char)) : Action Unit := do
  let (letters, names) := switches args
  setStatus 0
  match letters.find? (· != 'r') with
  | some c => refuseOption c
  | none =>
    if letters.contains 'r' then modify fun s => { s with started := [] }
    else if names.isEmpty then
      for (_, path) in inTableOrder 31 (← get).started.reverse do say (path ++ ['\n'])
    else
      for name in names do
        let s ← get
        if !name.contains '/' && (accountOf? s name).isNone then
          complain (name ++ chars ": not found")
          setStatus 1
        else if !(specialBuiltins ++ plainBuiltins).contains (toString name) &&
            !name.contains '/' then
          if let some path := pathOfCommand? s name then set (s.starting name path)

/-- Lets texts stand for names, or tells those that do. -/
def doAlias (args : List (List Char)) : Action Unit := do
  setStatus 0
  if args.isEmpty then
    for (name, text) in inTableOrder 39 (← get).aliases do
      say (shownVariable name (some text) ++ ['\n'])
  else
    for arg in args do
      let s ← get
      match if arg.head? = some '=' then none else Text.cut ['='] arg with
      | some (name, text) =>
        let isKnown := s.aliases.any fun a => a.1 = name
        let aliases := if isKnown then
            s.aliases.map fun (a : List Char × List Char) => if a.1 = name then (name, text) else a
          else s.aliases ++ [(name, text)]
        set { s with aliases }
      | none =>
        match s.aliases.find? fun a => a.1 = arg with
        | some (name, text) => say (shownVariable name (some text) ++ ['\n'])
        | none =>
          write 2 (chars "alias: " ++ arg ++ chars " not found\n")
          setStatus 1

/-- Lets names stand for themselves again. -/
def unalias (args : List (List Char)) : Action Unit := do
  let (letters, names) := switches args
  setStatus 0
  match letters.find? (· != 'a') with
  | some c => refuseOption c
  | none =>
    if letters.contains 'a' then modify fun s => { s with aliases := [] }
    else
      for name in names do
        let s ← get
        if s.aliases.any fun a => a.1 = name then
          set { s with aliases := s.aliases.filter fun a => a.1 != name }
        else
          write 2 (chars "unalias: " ++ name ++ chars " not found\n")
          setStatus 1

end ScriptSuite.Shell
