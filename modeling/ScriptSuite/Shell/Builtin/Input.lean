import ScriptSuite.Shell.Action
import ScriptSuite.Shell.Parser
import ScriptSuite.Shell.Tool.Basic

/-!
# Commands that read

The commands of the shell that read options from arguments and lines from the input.

## Main definitions

* `Shell.getopts`: the next option of arguments.
* `Shell.readLine`: the next line of the input.
-/

namespace ScriptSuite.Shell

/-- Takes the next option from arguments: its letter becomes the value of a variable, and what
belongs to it that of `OPTARG`. -/
def getopts (args : List (List Char)) : Action Unit := do
  match args with
  | letters :: target :: others =>
    let s ← get
    let words := if others.isEmpty then s.arguments else others
    let restarts := words.length + 1 < s.optionIndex
    let index := if restarts then 1 else s.optionIndex
    let silent := letters.head? = some ':'
    -- what is left of the argument that is being read
    let current := match if restarts then none else s.optionOffset with
      | some offset => (((words[index - 2]?).getD []).drop offset, index)
      | none => ([], index)
    let (rest, next) := match current with
      | ([], index) =>
        match words[index - 1]? with
        | some ['-', '-'] => ([], index + 1)
        | some ('-' :: c :: rest) => (c :: rest, index + 1)
        | _ => ([], index)
      | current => current
    let finish (letter : Char) (rest : List Char) (next : Nat) (status : Nat) : Action Unit := do
      assign (chars "OPTIND") (digits next)
      if isName target then assign target [letter]
      let offset := ((words[next - 2]?).getD []).length - rest.length
      modify fun s => { s with
        optionIndex := next
        optionOffset := if rest.isEmpty then none else some offset
        status }
      unless isName target do giveUp (target ++ chars ": bad variable name")
    let forget : Action Unit :=
      modify fun s => { s with bindings := s.bindings.erase (chars "OPTARG") }
    match rest with
    | [] => finish '?' [] next 1
    | c :: rest =>
      match if c = ':' then none else letters.findIdx? (· = c) with
      | none =>
        if silent then assign (chars "OPTARG") [c]
        else
          write 2 (chars "Illegal option -" ++ [c, '\n'])
          forget
        finish '?' rest next 0
      | some i =>
        if letters[i + 1]? != some ':' then
          assign (chars "OPTARG") []
          finish c rest next 0
        else if !rest.isEmpty then
          assign (chars "OPTARG") rest
          finish c [] next 0
        else
          match words[next - 1]? with
          | some value =>
            assign (chars "OPTARG") value
            finish c [] (next + 1) 0
          | none =>
            if silent then assign (chars "OPTARG") [c]
            else
              write 2 (chars "No arg for -" ++ [c] ++ chars " option\n")
              forget
            finish (if silent then ':' else '?') [] next 0
  | _ =>
    giveUp (chars "Usage: getopts optstring var [arg...]")

/-- The line at the front of a text, its characters with a mark whether they were quoted, what
follows it, and whether its end was found. Unless the line is taken as it is, a backslash quotes the
next character and takes away a line end. -/
def inputLine (asItIs : Bool) : List Char → List (Bool × Char) × List Char × Bool
  | [] => ([], [], false)
  | '\\' :: c :: rest =>
    if asItIs then
      let (line, behind) := inputLine asItIs (c :: rest)
      ((false, '\\') :: line, behind)
    else
      let (line, behind) := inputLine asItIs rest
      (if c = '\n' then line else (true, c) :: line, behind)
  | c :: rest =>
    if c = '\n' then ([], rest, true)
    else
      let (line, behind) := inputLine asItIs rest
      ((false, c) :: line, behind)

/-- Gives variables the fields of a line; the last one gets all that is left. -/
def assignFields (separators : List Char) (names : List (List Char)) (line : List (Bool × Char)) :
    Action Unit :=
  let isBlank (c : Bool × Char) : Bool :=
    !c.1 && separators.contains c.2 && [' ', '\t', '\n'].contains c.2
  let isSeparator (c : Bool × Char) : Bool := !c.1 && separators.contains c.2
  let isHard (c : Bool × Char) : Bool := isSeparator c && !isBlank c
  let text (s : List (Bool × Char)) : List Char := s.map (·.2)
  match names with
  | [] => return
  | [name] => do
    let trimmed := (line.reverse.dropWhile isBlank).reverse
    let body := trimmed.takeWhile (!isSeparator ·)
    let behind := (trimmed.drop body.length).dropWhile isBlank
    -- a single separator at the very end belongs to the only field in front of it
    let only := match behind with
      | [c] => isHard c
      | _ => false
    assign name (text (if only then body else trimmed))
  | name :: rest => do
    let field := line.takeWhile (!isSeparator ·)
    let behind := (line.drop field.length).dropWhile isBlank
    let behind := if (behind.head?.map isHard).getD false && !(field.length = line.length) then
        behind.tail.dropWhile isBlank else behind
    assign name (text field)
    assignFields separators rest behind

/-- Reads a line. -/
def readLine (args : List (List Char)) : Action Unit := do
  let (os, names) := optionsOf "p" args
  if names.isEmpty then
    giveUp (chars "arg count")
  else
    let (line, rest, found) := inputLine (os.any (·.1 = 'r')) (← get).input
    modify fun s => { s with input := rest }
    let separators ← separators
    let isBlank (c : Bool × Char) : Bool := !c.1 && isSpace separators c.2
    assignFields separators names (line.dropWhile isBlank)
    setStatus (if found then 0 else 1)
where
  /-- Whether a character is a blank between fields. -/
  isSpace (separators : List Char) (c : Char) : Bool :=
    separators.contains c && [' ', '\t', '\n'].contains c

end ScriptSuite.Shell
