import ScriptSuite.Shell.Awk.State
import ScriptSuite.Shell.Awk.Token

/-!
# Input and output of programs that work on records

What a program prints is held back until it starts a command or ends. A command that is printed to
starts when all of its input is there.

## Main definitions

* `Awk.printTo`: prints to a file or a command.
* `Awk.nextRecord?`: reads a record from the files that the arguments name.
* `Awk.lineFrom?`: reads a line from another file or from a command.
* `Awk.closeStream`: closes a file or a command.
-/

namespace ScriptSuite.Shell.Awk

/-! ### Output and commands -/

/-- Prints what was held back. -/
def flush : Run Unit := do
  let text := (← state).pending.reverse
  change fun s => { s with pending := [] }
  inShell (say text)

/-- Runs a command, with an input of its own if there is one, and tells how it ended. -/
def runCommand (command : List Char) (input : Option (List Char)) : Run Nat := do
  let host := (← read).host
  inShell do
    let before ← get
    inSubshell do
      if let some input := input then modify fun s => { s with input, inputIsFile := false }
      discard (host.start [chars "sh", chars "-c", command])
    let status := (← get).status
    if input.isSome then
      modify fun s => { s with input := before.input, inputIsFile := before.inputIsFile }
    return status

/-- Runs a command: what it prints, and how it ended. -/
def outputOf (command : List Char) : Run (List Char × Nat) := do
  flush
  let host := (← read).host
  inShell do
    let out ← withBuffer fun index => inSubshell do
      redirectTo 1 (.buffer index)
      discard (host.start [chars "sh", chars "-c", command])
    return (out, (← get).status)

/-- Opens a file or a command to print to. -/
def destination (outlet : Outlet) (name : List Char) : Run Destination := do
  if outlet = .command then
    flush
    return .command []
  else if name = ['-'] || name = chars "/dev/stdout" then return .output
  else if name = chars "/dev/stderr" then return .complaints
  else if name = chars "/dev/null" then return .nowhere
  else
    let disk := (← inShell get).present
    let path := toString name
    let before := if outlet = .append then ((disk.read path).toOption).getD [] else []
    match disk.write path before with
    | .ok disk =>
      inShell (modify fun s => { s with disk })
      return .file (((disk.locate path).toOption).getD [])
    | .error f => fail (chars "cannot open \"" ++ name ++ chars s!"\" for output ({f.reason})")

/-- Prints a text. -/
def put (text : List Char) : Run Unit :=
  change fun s => { s with pending := text.reverse ++ s.pending }

/-- Prints a text to a file or a command, which is opened if it is not open. -/
def printTo (outlet : Outlet) (name text : List Char) : Run Unit := do
  let writer ← match (← state).writers.find? fun w => w.name = name with
    | some w => pure w
    | none =>
      let writer : Writer := { name, destination := ← destination outlet name }
      change fun s => { s with writers := s.writers ++ [writer] }
      pure writer
  match writer.destination with
  | .output => put text
  | .complaints => inShell (write 2 text)
  | .nowhere => return
  | .file way => inShell (appendTo way text)
  | .command before =>
    let writer := { writer with destination := .command (text.reverse ++ before) }
    change fun s => { s with
      writers := s.writers.map fun w => if w.name = name then writer else w }

/-- Closes a file or a command that was printed to, and tells how it ended. -/
def finishWriter (w : Writer) : Run Nat := do
  change fun s => { s with writers := s.writers.filter fun v => v.name != w.name }
  match w.destination with
  | .command text => runCommand w.name (some text.reverse)
  | _ => return 0

/-- Closes a file or a command, and tells how it ended, if it was open. -/
def closeStream (name : List Char) : Run (Option Nat) := do
  let s ← state
  let written ← match s.writers.find? fun w => w.name = name with
    | some w => some <$> finishWriter w
    | none => pure none
  let readers := s.readers.filter fun r => r.name = name
  change fun s => { s with readers := s.readers.filter fun r => r.name != name }
  return written.or (readers.head?.map (·.status))

/-- Closes all that was printed to, and prints what was held back. -/
def finishAll : Run Unit := do
  for w in (← state).writers do discard (finishWriter w)
  flush

/-! ### Input -/

/-- Takes all of the input of the program. -/
def takeInput : Action (List Char) := do
  let text := (← get).input
  modify fun s => { s with input := [] }
  return text

/-- The text of a file; the input of the program has names of its own. -/
def fileText (name : List Char) : Run (Except DiskFailure (List Char)) := do
  if name = ['-'] || name = chars "/dev/stdin" then return .ok (← inShell takeInput)
  else if name = chars "/dev/null" then return .ok []
  else return ((← inShell get).disk.read (toString name)).map ofBytes

/-- Ends a program that cannot read. -/
def failReading {α : Type} : Run α := fail (chars "read error (Is a directory)")

/-- What stands between records. -/
def recordSeparator : Run Separator := do
  let s ← specialText "RS"
  match Separator.ofRecords s with
  | .ok sep => return sep
  | .error p => failAtRegex p s

/-- The name and the value of an argument that gives a variable a value. -/
def assignmentOf? (s : List Char) : Option (Name × List Char) :=
  (Text.cut ['='] s).filter fun (name, _) =>
    !name.isEmpty && name.all isNameChar && !name.head?.any Char.isDigit

/-- Gives a variable the value of an argument, whose escapes are replaced. -/
def assignArgument (name : Name) (value : List Char) : Run Unit :=
  assignTo name (.input (unescaped (value.length + 1) value))

/-- Opens a file for records. -/
def openSource (name : List Char) : Run Unit := do
  match ← fileText name with
  | .ok text =>
    change fun s => { s with source := some text, opened := true }
    setSpecial "FILENAME" (.text name)
    setSpecial "FNR" (.ofNat 0)
  | .error .isDirectory => failReading
  | .error f => fail (chars "cannot open \"" ++ name ++ chars s!"\" ({f.reason})")

/-- Adds one to a variable that every program has. -/
def count (name : String) : Run Unit := do
  setSpecial name (.number ((← special name).toNumber + 1))

/-- Reads a record from the files that the arguments name, or from the input if they name none. -/
def nextRecord? (steps : Nat) : Run (Option (List Char)) := do
  match steps with
  | 0 => inShell (throw .endless)
  | steps + 1 =>
    match (← state).source with
    | some text =>
      match (← recordSeparator).record? text with
      | some (record, rest) =>
        change fun s => { s with source := some rest }
        count "NR"
        count "FNR"
        return some record
      | none =>
        change fun s => { s with source := none }
        nextRecord? steps
    | none =>
      let index := (← state).argument
      if (← special "ARGC").toNumber.toUInt64.toNat ≤ index then
        if (← state).opened then return none
        else
          openSource ['-']
          nextRecord? steps
      else
        change fun s => { s with argument := index + 1 }
        let arguments ← table (chars "ARGV")
        let key : Key := .number index
        let argument ← textOf (arguments.value key)
        match assignmentOf? argument with
        | some (name, value) => assignArgument name value
        | none => unless argument.isEmpty do openSource argument
        nextRecord? steps

/-- Leaves the file that records are read from. -/
def leaveSource : Run Unit := change fun s => { s with source := some [] }

/-- Reads a line from a file or a command: none if it cannot be read, and no line at the end. -/
def lineFrom? (isCommand : Bool) (name : List Char) : Run (Option (Option (List Char))) := do
  let reader ← match (← state).readers.find? fun r => r.name = name with
    | some r => pure (some r)
    | none =>
      if isCommand then
        let (rest, status) ← outputOf name
        pure (some { name, rest, status : LineReader })
      else
        match ← fileText name with
        | .ok rest => pure (some { name, rest : LineReader })
        | .error .isDirectory => failReading
        | .error _ => pure none
  match reader with
  | none => return none
  | some r =>
    let line := (← recordSeparator).record? r.rest
    let reader := { r with rest := (line.map (·.2)).getD [] }
    change fun s => { s with readers := reader :: s.readers.filter fun r => r.name != name }
    return some (line.map (·.1))

end ScriptSuite.Shell.Awk
