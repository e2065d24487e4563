import ScriptSuite.CommandLine.Usage

/-!
# Arguments

A command has options and at most one argument of its own, or commands below it. An option has a
name, written behind two dashes, and may have a letter, written behind one dash. Letters of options
may stand together behind one dash; a value follows its option as the next word, behind `=`, or
right behind the letter. Everything behind `--` is an argument and no option.

Values are checked late: the word that follows an option is only looked at when the next option or
argument turns up or when the words end. Of two mistakes the one that is met first is reported, in
this sense.

## Main definitions

* `Grammar`: the options, the argument and the commands that words are read with.
* `Reading`: what was read so far.
* `Grammar.read`: reads the words in front of a command.
-/

namespace ScriptSuite.CommandLine

/-- What is accepted as a value. -/
inductive ValueKind where
  /-- Any text. -/
  | text
  /-- A path; it is not empty. -/
  | path
  /-- A number of 64 bits. -/
  | number
  /-- One of some words. -/
  | oneOf (words : List String)
deriving DecidableEq, Repr

/-- The number of at most 64 bits that a word spells; a plus may stand in front. -/
def number? (word : String) : Option UInt64 :=
  let digits := match word.toList with
    | '+' :: rest => rest
    | s => s
  if digits.isEmpty || !digits.all Char.isDigit then none
  else
    let n := digits.foldl (fun n c => 10 * n + (c.toNat - '0'.toNat)) 0
    if n < UInt64.size then some (.ofNat n) else none

/-- Something that a value is given for. -/
structure Slot where
  /-- Its name. -/
  name : String
  /-- What is accepted. -/
  kind : ValueKind
  /-- Whether it may be given more than once. -/
  repeatable : Bool := false
deriving DecidableEq, Repr

/-- The problem with a value, if there is one. -/
def Slot.problem? (s : Slot) (value : String) : Option UsageProblem :=
  match s.kind with
  | .text => none
  | .path => if value.isEmpty then some (.missingValue s.name) else none
  | .number => if (number? value).isNone then some (.badNumber s.name value) else none
  | .oneOf words => if words.contains value then none else some (.badWord s.name value)

/-- What a switch does. -/
inductive SwitchKind where
  /-- It is on when it is given. -/
  | flag
  /-- It takes a value. -/
  | value (kind : ValueKind) (repeatable : Bool)
  /-- It asks for help. -/
  | help
  /-- It asks for the version. -/
  | version
deriving DecidableEq, Repr

/-- A switch: an option as it is declared. -/
structure Switch where
  /-- Its name. -/
  name : String
  /-- Its letter, if it has one. -/
  letter : Option Char := none
  /-- What it does. -/
  kind : SwitchKind := .flag
deriving DecidableEq, Repr

/-- What words are read with. -/
structure Grammar where
  /-- The options. -/
  switches : List Switch
  /-- The argument. -/
  argument : Option Slot := none
  /-- The names of the commands. -/
  commands : List String := []

/-- A value that was announced and is not checked yet. -/
inductive Pending where
  /-- There is none. -/
  | nothing
  /-- An option waits for its value. -/
  | waiting (slot : Slot)
  /-- A value waits for its check. -/
  | unchecked (slot : Slot) (value : String)
deriving DecidableEq, Repr

/-- What was read so far. -/
structure Reading where
  /-- The names that were given, with their values; flags have the empty value. -/
  given : List (String × String) := []
  /-- What is not checked yet. -/
  pending : Pending := .nothing
  /-- Whether the argument was given. -/
  hasArgument : Bool := false

namespace Reading

/-- Whether a name was given. -/
def has (r : Reading) (name : String) : Bool :=
  r.given.any fun g => g.1 = name

/-- The value given for a name. -/
def get? (r : Reading) (name : String) : Option String :=
  (r.given.find? fun g => g.1 = name).map (·.2)

/-- All values given for a name. -/
def all (r : Reading) (name : String) : List String :=
  (r.given.filter fun g => g.1 = name).map (·.2)

/-- Takes a value for a slot. -/
def accept (r : Reading) (slot : Slot) (value : String) : Except UsageProblem Reading :=
  if r.has slot.name && !slot.repeatable then .error (.repeated slot.name)
  else
    match slot.problem? value with
    | some p => .error p
    | none => .ok { r with given := r.given ++ [(slot.name, value)] }

/-- Checks the value that is not checked yet. -/
def settle (r : Reading) : Except UsageProblem Reading :=
  match r.pending with
  | .nothing => .ok r
  | .waiting slot => .error (.missingValue slot.name)
  | .unchecked slot value => { r with pending := .nothing }.accept slot value

/-- Takes an option that has no value attached. -/
def takeSwitch (r : Reading) (s : Switch) : Except UsageProblem Reading := do
  let r ← r.settle
  match s.kind with
  | .flag =>
    if r.has s.name then throw (.repeated s.name)
    return { r with given := r.given ++ [(s.name, "")] }
  | .value kind repeatable =>
    return { r with pending := .waiting { name := s.name, kind, repeatable } }
  | .help => throw .help
  | .version => throw .version

/-- Takes an option with a value attached. -/
def takeAttached (r : Reading) (s : Switch) (value : String) : Except UsageProblem Reading :=
  match s.kind with
  | .value kind repeatable => do (← r.settle).accept { name := s.name, kind, repeatable } value
  | _ => .error (.unwantedValue s.name value)

/-- Takes the letters behind a dash. -/
def takeLetters (r : Reading) (g : Grammar) : List Char → Except UsageProblem Reading
  | [] => .ok r
  | c :: rest =>
    match g.switches.find? fun s => s.letter = some c with
    | none => .error (.unknownArgument ("-" ++ String.singleton c))
    | some s =>
      match s.kind, rest with
      | .value .., '=' :: value => r.takeAttached s (String.ofList value)
      | .value .., _ :: _ => r.takeAttached s (String.ofList rest)
      | _, _ => do (← r.takeSwitch s).takeLetters g rest

/-- Takes what stands behind two dashes. -/
def takeName (r : Reading) (g : Grammar) (text : List Char) : Except UsageProblem Reading :=
  let name := String.ofList (text.takeWhile (· != '='))
  match g.switches.find? fun s => s.name = name, text.dropWhile (· != '=') with
  | none, _ => .error (.unknownArgument ("--" ++ name))
  | some s, [] => r.takeSwitch s
  | some s, _ :: value => r.takeAttached s (String.ofList value)

/-- Takes an argument. `literal` tells whether it stands behind `--`. -/
def takeArgument (r : Reading) (g : Grammar) (literal : Bool) (word : String) :
    Except UsageProblem Reading :=
  match g.argument, r.hasArgument with
  | some slot, false => do
    return { ← r.settle with pending := .unchecked slot word, hasArgument := true }
  | _, _ =>
    if g.commands.isEmpty || (literal && g.commands.contains word) then
      .error (.unknownArgument word)
    else .error (.unknownCommand word)

/-- Takes a word that is no command. -/
def takeWord (r : Reading) (g : Grammar) (word : String) : Except UsageProblem Reading :=
  match word.toList, r.pending with
  | '-' :: '-' :: text, _ => r.takeName g text
  | '-' :: c :: letters, _ => r.takeLetters g (c :: letters)
  | _, .waiting slot => .ok { r with pending := .unchecked slot word }
  | _, _ => r.takeArgument g false word

/-- Whether an option waits for its value. -/
def isWaiting (r : Reading) : Bool :=
  match r.pending with
  | .waiting _ => true
  | _ => false

end Reading

/-- Reads words up to a command. The command comes with the words behind it. -/
def Grammar.read (g : Grammar) (r : Reading) :
    List String → Except UsageProblem (Reading × Option (String × List String))
  | [] => .ok (r, none)
  | word :: rest =>
    if !r.isWaiting && g.commands.contains word then .ok (r, some (word, rest))
    else if word = "--" then do
      return (← rest.foldlM (fun r word => r.takeArgument g true word) r, none)
    else do g.read (← r.takeWord g word) rest

end ScriptSuite.CommandLine
