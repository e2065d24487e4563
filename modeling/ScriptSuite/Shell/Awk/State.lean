import ScriptSuite.Shell.Awk.Record
import ScriptSuite.Shell.Awk.Syntax
import ScriptSuite.Shell.Awk.Table
import ScriptSuite.Shell.Program.Basic

/-!
# The state of programs that work on records

What a program knows while it runs: its variables and arrays, the record with its fields, and what
it reads from and prints to.

A name that was never used may become a variable or an array. When it is passed to a function, both
have to become the same array, so it already has the number of the array that it may become.

## Main definitions

* `Awk.Slot`: what a name stands for.
* `Awk.State`: the state of a program.
* `Awk.Leap`: why a program does not go on with the next statement.
* `Awk.Run`: the steps of a program.
* `Awk.variableOf`, `Awk.assignTo`, `Awk.table`: variables and arrays.
* `Awk.field`, `Awk.setField`, `Awk.setRecord`: the record and its fields.
-/

namespace ScriptSuite.Shell.Awk

/-- What a name stands for. -/
inductive Slot where
  /-- A variable with its value. -/
  | value (v : Value)
  /-- An array, by its number. -/
  | table (index : Nat)
  /-- Not known yet: the number of the array that it becomes if it is used as one. -/
  | unknown (index : Nat)

/-- A file or a command that lines are read from. -/
structure LineReader where
  /-- The path or the command. -/
  name : List Char
  /-- What is left to read. -/
  rest : List Char
  /-- How the command ended. -/
  status : Nat := 0

/-- Where something printed goes to. -/
inductive Destination where
  /-- The output of the program. -/
  | output
  /-- Where complaints go to. -/
  | complaints
  /-- Nowhere. -/
  | nowhere
  /-- The end of a file. -/
  | file (way : List String)
  /-- A command, which starts when all of its input is there; the last character comes first. -/
  | command (text : List Char)

/-- A file or a command that something is printed to. -/
structure Writer where
  /-- The path or the command. -/
  name : List Char
  /-- Where it leads. -/
  destination : Destination

/-- The state of a program. -/
structure State where
  /-- What names stand for outside of functions. -/
  globals : Std.HashMap String Slot := {}
  /-- What names stand for in the function that runs. -/
  locals : List (Name × Slot) := []
  /-- The arrays by their numbers. -/
  tables : Std.HashMap Nat Table := {}
  /-- The number of the next array. -/
  nextTable : Nat := 0
  /-- The text of the record. -/
  record : List Char := []
  /-- The fields of the record. -/
  fields : Array Value := #[]
  /-- Whether fields were changed since the text of the record was made. -/
  stale : Bool := false
  /-- What is left of the file that records are read from, if one is open. -/
  source : Option (List Char) := none
  /-- The number of the next argument. -/
  argument : Nat := 1
  /-- Whether any file was opened for records. -/
  opened : Bool := false
  /-- The files and commands that lines are read from. -/
  readers : List LineReader := []
  /-- The files and commands that something is printed to, the first one in front. -/
  writers : List Writer := []
  /-- What was printed but is held back, last character first. -/
  pending : List Char := []
  /-- The rules whose ranges have started, by their numbers. -/
  ranges : List Nat := []
  /-- The start of the random numbers. -/
  seed : Float := 0
  /-- The last random number. -/
  random : Nat := 1
  /-- How the program ends. -/
  status : Nat := 0
  /-- The number of rounds of loops that may follow. -/
  rounds : Nat := 2000000

instance : Inhabited State := ⟨{}⟩

/-- Why a program does not go on with the next statement. -/
inductive Leap where
  /-- It goes to the next record. -/
  | next
  /-- It goes to the next file. -/
  | nextFile
  /-- It ends. -/
  | exit
  /-- A function ends with a value. -/
  | giveBack (v : Value)
  /-- A loop ends. -/
  | leave
  /-- A round of a loop ends. -/
  | again
  /-- It cannot go on; this is said about it. -/
  | failed (text : List Char)

/-- What does not change while a program runs. -/
structure Context where
  /-- What starts programs. -/
  host : Host
  /-- The program. -/
  program : Program

/-- The steps of a program. -/
abbrev Run := ReaderT Context (ExceptT Leap (StateT State Action))

/-- A step of the shell that the program runs in. -/
def inShell {α : Type} (act : Action α) : Run α := do
  let a ← act
  return a

/-- The state. -/
def state : Run State := getThe State

/-- Changes the state. -/
def change (f : State → State) : Run Unit := modifyThe State f

/-- Ends a program that cannot go on. -/
def fail {α : Type} (text : List Char) : Run α := throw (.failed text)

/-- Takes notice of a round of a loop. A long run makes a pause now and then, in which no time
passes. -/
def countRound : Run Unit := do
  let rounds := (← state).rounds
  if rounds = 0 then inShell (throw .endless)
  change fun s => { s with rounds := rounds - 1 }
  if rounds % pauseRounds = 0 then inShell do pause (.time (← get).clock)

/-! ### Variables and arrays -/

/-- What a name stands for. -/
def slot (name : Name) : Run Slot := do
  let s ← state
  match (s.locals.find? fun l => l.1 = name).map (·.2) with
  | some slot => return slot
  | none =>
    match s.globals.get? (String.ofList name) with
    | some slot => return slot
    | none =>
      let slot : Slot := .unknown s.nextTable
      change fun s => { s with
        globals := s.globals.insert (String.ofList name) slot, nextTable := s.nextTable + 1 }
      return slot

/-- Lets a name stand for something else. -/
def setSlot (name : Name) (slot : Slot) : Run Unit :=
  change fun s =>
    if s.locals.any fun l => l.1 = name then
      { s with locals := s.locals.map fun l => if l.1 = name then (name, slot) else l }
    else { s with globals := s.globals.insert (String.ofList name) slot }

/-- The value of a variable. -/
def variableOf (name : Name) : Run Value := do
  match ← slot name with
  | .value v => return v
  | _ => return .missing

/-- The value of a variable that every program has. -/
def special (name : String) : Run Value := variableOf name.toList

/-- The format of numbers that become texts. -/
def numberFormat : Run (List Char) := do return (← special "CONVFMT").toText (chars "%.6g")

/-- The text of a value. -/
def textOf (v : Value) : Run (List Char) := do return v.toText (← numberFormat)

/-- The text of a variable that every program has. -/
def specialText (name : String) : Run (List Char) := do textOf (← special name)

/-- Sets a variable that every program has. -/
def setSpecial (name : String) (v : Value) : Run Unit :=
  change fun s => { s with globals := s.globals.insert name (.value v) }

/-- Ends a program that cannot go on, and tells which record it worked on. -/
def failInRecord {α : Type} (text : List Char) : Run α := do
  let file ← specialText "FILENAME"
  let inFile ← specialText "FNR"
  let inAll ← specialText "NR"
  fail (chars "run time error: " ++ text ++ chars "\n\tFILENAME=\"" ++ file ++
    chars "\" FNR=" ++ inFile ++ chars " NR=" ++ inAll)

/-- The number of the array that a name stands for. -/
def tableIndex (name : Name) : Run Nat := do
  match ← slot name with
  | .table index => return index
  | .unknown index =>
    setSlot name (.table index)
    return index
  | .value _ => failInRecord (chars "illegal reference to variable " ++ name)

/-- The array of a number. -/
def tableAt (index : Nat) : Run Table := do return (← state).tables.getD index {}

/-- Changes the array of a number. -/
def setTable (index : Nat) (t : Table) : Run Unit :=
  change fun s => { s with tables := s.tables.insert index t }

/-- The array of a name. -/
def table (name : Name) : Run Table := do tableAt (← tableIndex name)

/-! ### Records and fields -/

/-- The text of the record. It is made of the fields if they were changed. -/
def recordText : Run (List Char) := do
  let s ← state
  if s.stale then
    let between ← specialText "OFS"
    let parts ← s.fields.toList.mapM textOf
    let record := Text.join between parts
    change fun s => { s with record, stale := false }
    return record
  else return s.record

/-- Ends a program with a text that is no regular expression. -/
def failAtRegex {α : Type} (p : Regex.Problem) (s : List Char) : Run α :=
  fail (chars "line 1: " ++ regexComplaint p s)

/-- What stands between fields by a text. -/
def fieldSeparator (s : List Char) : Run Separator := do
  match Separator.ofFields s with
  | .ok sep => return sep
  | .error p => failAtRegex p s

/-- Changes the record. -/
def setRecord (record : List Char) : Run Unit := do
  let sep ← fieldSeparator (← specialText "FS")
  let fields := ((sep.fields record).map Value.input).toArray
  change fun s => { s with record, fields, stale := false }
  setSpecial "NF" (.ofNat fields.size)

/-- The value of a field; the field zero is the record. -/
def field (index : Nat) : Run Value := do
  if index = 0 then return .input (← recordText)
  else return ((← state).fields[index - 1]?).getD (.input [])

/-- Changes the number of fields. -/
def setFieldCount (count : Nat) : Run Unit := do
  change fun s =>
    let more := Array.replicate (count - s.fields.size) (Value.input [])
    { s with fields := s.fields.extract 0 count ++ more, stale := true }
  setSpecial "NF" (.ofNat count)

/-- Changes a field. -/
def setField (index : Nat) (v : Value) : Run Unit := do
  if index = 0 then setRecord (← textOf v)
  else
    if (← state).fields.size < index then setFieldCount index
    change fun s => { s with fields := s.fields.set! (index - 1) v, stale := true }

/-- Gives a variable a value. -/
def assignTo (name : Name) (v : Value) : Run Unit := do
  match ← slot name with
  | .table _ => failInRecord (chars "illegal assignment to array " ++ name)
  | _ =>
    if name = chars "NF" then
      let n := wholePart v.toNumber
      if n < 0 then failInRecord (chars "negative value assigned to NF")
      setFieldCount n.toNat
    else
      -- what stood between fields so far stands between those that were changed
      if name = chars "OFS" then discard recordText
      setSlot name (.value v)

end ScriptSuite.Shell.Awk
