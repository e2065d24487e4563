import ScriptSuite.Shell.Awk.Stream
import ScriptSuite.Shell.Awk.Text
import ScriptSuite.Shell.Calendar

/-!
# Running programs that work on records

Expressions have values, and finding these may change variables, read lines and start commands.
Statements are done one after the other.

Functions may call themselves, so everything gets a number of steps that is an upper bound for the
depth of its recursion. A program that uses up all steps is taken for one that never ends.

## Main definitions

* `Awk.evaluate`: the value of an expression.
* `Awk.perform`: does a statement.
* `Awk.performRules`: does the rules of a program for a record.
-/

namespace ScriptSuite.Shell.Awk

/-- The regular expression of a text. -/
def regexOf (s : List Char) : Run Regex := do
  match Regex.parse .escaping true s with
  | .ok r => return r
  | .error p => failAtRegex p s

/-- The value of an operation on two values. -/
def operate (o : Operation) (a b : Value) : Run Value := do
  let numbers (f : Float → Float → Float) : Value := .number (f a.toNumber b.toNumber)
  let format ← numberFormat
  return match o with
    | .add => numbers (· + ·)
    | .subtract => numbers (· - ·)
    | .multiply => numbers (· * ·)
    | .divide => numbers (· / ·)
    | .remainder => numbers remainder
    | .power => numbers Float.pow
    | .join => .text (a.toText format ++ b.toText format)
    | .less => .ofBool (a.less format b)
    | .atMost => .ofBool (a.less format b || a.same format b)
    | .same => .ofBool (a.same format b)
    | .different => .ofBool (!a.same format b)
    | .greater => .ofBool (b.less format a)
    | .atLeast => .ofBool (b.less format a || a.same format b)

/-- Values in a format; a mistake ends the program. -/
def formatValues (name : String) (values : List Value) (print : List Char → Run Unit) :
    Run (List Char) := do
  match values with
  | [] => return []
  | format :: values =>
    let format ← textOf format
    let (text, mistake) := formatted (← numberFormat) format values
    if let some mistake := mistake then
      print text
      failInRecord (mistake.message ++ chars name ++ chars "(\"" ++ format ++ chars "\")")
    return text

/-- The next random number. -/
def nextRandom : Run Float := do
  let n := ((← state).random * 6364136223846793005 + 1442695040888963407) % UInt64.size
  change fun s => { s with random := n }
  return Float.ofNat (n / 2048) / 9007199254740992

/-- The value of a function of numbers. -/
def numberFunction? (name : String) : Option (Float → Float) :=
  match name with
  | "cos" => some Float.cos
  | "exp" => some Float.exp
  | "int" => some truncated
  | "log" => some Float.log
  | "sin" => some Float.sin
  | "sqrt" => some Float.sqrt
  | _ => none

/-- The moment that a text of numbers tells. -/
def momentOf? (s : List Char) : Option Moment :=
  match ((Text.splitOn [' '] s).filter (!·.isEmpty)).mapM integer? with
  | some (year :: month :: day :: hour :: minute :: second :: _) =>
    some (Moment.ofDate ({ year, month := 1, day := 1 : CivilDate }.monthsLater (month - 1))
      (86400 * (day - 1) + 3600 * hour + 60 * minute + second))
  | _ => none

/-- The value of a function of values that every program has. -/
def standardFunction (name : String) (values : List Value) : Run Value := do
  let format ← numberFormat
  let first := values.headD .missing
  let second := values[1]?.getD .missing
  let text := first.toText format
  match name with
  | "atan2" => return .number (Float.atan2 first.toNumber second.toNumber)
  | "close" =>
    match ← closeStream text with
    | some status => return .ofNat status
    | none => return .number (-1)
  | "fflush" =>
    if values.isEmpty then
      flush
      return .ofNat 0
    else
      let known := (← state).writers.any fun w => w.name = text
      return if known || text = chars "/dev/stdout" then .ofNat 0 else .number (-1)
  | "index" => return .ofNat (placeOf (second.toText format) text)
  | "length" =>
    let s ← if values.isEmpty then recordText else pure text
    return .ofNat s.length
  | "mktime" => return .number (((momentOf? text).map fun m => Float.ofInt m.seconds).getD (-1))
  | "rand" => return .number (← nextRandom)
  | "sprintf" => return .text (← formatValues "sprintf" values fun _ => return)
  | "srand" =>
    let before := (← state).seed
    let seed ← if values.isEmpty then do
        pure (Float.ofInt ((← inShell get).present.now.fdiv 1000))
      else pure first.toNumber
    change fun s => { s with seed, random := (wholePart seed).natAbs }
    return .number before
  | "strftime" =>
    let moment : Moment ← match values[1]? with
      | some v => pure (1000 * wholePart v.toNumber)
      | none => pure (← inShell get).present.now
    let form := if values.isEmpty then chars "%c" else text
    return .text (moment.format (form.length + 100) form)
  | "substr" =>
    return .text (part text second.toNumber (values[2]?.map Value.toNumber))
  | "system" =>
    flush
    return .ofNat (← runCommand text none)
  | "systime" => return .number (Float.ofInt ((← inShell get).present.now.fdiv 1000))
  | "tolower" => return .text (text.map Char.toLower)
  | "toupper" => return .text (text.map Char.toUpper)
  | name =>
    match numberFunction? name with
    | some f => return .number (f first.toNumber)
    | none => return .missing

/-- Reads a line into a place; the place is the record if there is none. -/
def readLine (source : LineSource) (name : List Char) (steps : Nat) (store : Value → Run Unit) :
    Run Value := do
  let line ← match source with
    | .records => some <$> nextRecord? steps
    | .file => lineFrom? false name
    | .command => lineFrom? true name
  match line with
  | none => return .number (-1)
  | some none => return .ofNat 0
  | some (some s) =>
    store (.input s)
    return .ofNat 1

/-- The number of a field that a value tells. -/
def fieldIndex (v : Value) : Run Nat := do
  let n := wholePart v.toNumber
  if n < 0 then failInRecord (chars "negative field index $" ++ digits n)
  return n.toNat

/-- A place that is known: its parts have been worked out. -/
inductive Target where
  /-- A variable. -/
  | named (name : Name)
  /-- A field. -/
  | field (index : Nat)
  /-- An element of an array. -/
  | element (table : Nat) (key : Key)

/-- The value at a place. -/
def Target.value : Target → Run Value
  | named name => variableOf name
  | .field index => Awk.field index
  | element index key => do return (← tableAt index).value key

/-- Changes the value at a place. -/
def Target.set (v : Value) : Target → Run Unit
  | named name => assignTo name v
  | .field index => setField index v
  | element index key => do setTable index ((← tableAt index).put key v)

/-- The slot of an argument that is a name: an array, or what may become one. -/
def slotOfArgument? (e : Expression) : Run (Option Slot) := do
  match e with
  | .value (.named name) =>
    match ← slot name with
    | .value _ => return none
    | s => return some s
  | _ => return none

mutual

/-- The value of an expression. -/
def evaluate (steps : Nat) (e : Expression) : Run Value :=
  match steps with
  | 0 => inShell (throw .endless)
  | steps + 1 => do
    match e with
    | .number x => return .number x
    | .text s => return .text s
    | .record r => return .ofBool (r.occursIn (← recordText))
    | .value p => (← target steps p).value
    | .assign operation p e =>
      let t ← target steps p
      let v ← evaluate steps e
      let v ← match operation with
        | some o => operate o (← t.value) v
        | none => pure v
      t.set v
      return v
    | .choice c first second =>
      if (← evaluate steps c).holds then evaluate steps first else evaluate steps second
    | .operate o a b =>
      let v ← evaluate steps a
      operate o v (← evaluate steps b)
    | .both a b =>
      if (← evaluate steps a).holds then return .ofBool (← evaluate steps b).holds
      else return .ofBool false
    | .either a b =>
      if (← evaluate steps a).holds then return .ofBool true
      else return .ofBool (← evaluate steps b).holds
    | .no e => return .ofBool !(← evaluate steps e).holds
    | .negate e => return .number (-(← evaluate steps e).toNumber)
    | .plus e => return .number (← evaluate steps e).toNumber
    | .like expected e pattern =>
      let v ← evaluate steps e
      let r ← regexIn steps pattern
      return .ofBool (r.occursIn (← textOf v) = expected)
    | .member keys array =>
      let key ← keyOf steps keys
      let index ← tableIndex array
      let t ← tableAt index
      setTable index (t.find false key)
      return .ofBool (t.contains key)
    | .step before difference p =>
      let t ← target steps p
      let x := (← t.value).toNumber
      let y := x + Float.ofInt difference
      t.set (.number y)
      return .number (if before then y else x)
    | .call name arguments => call steps name arguments
    | .standard name arguments => standard steps name arguments
    | .line source name? p =>
      let name ← match name? with
        | some e => do textOf (← evaluate steps e)
        | none => pure []
      let store (v : Value) : Run Unit := do
        match p with
        | some p => (← target steps p).set v
        | none => setRecord (← textOf v)
      readLine source name steps store
    | .grouped e => evaluate steps e
    | .several es => do
      let vs ← evaluateAll steps es
      return vs.getLastD .missing

/-- The values of expressions. -/
def evaluateAll (steps : Nat) (es : List Expression) : Run (List Value) :=
  match steps with
  | 0 => inShell (throw .endless)
  | steps + 1 => do
    match es with
    | [] => return []
    | e :: rest =>
      let v ← evaluate steps e
      return v :: (← evaluateAll steps rest)

/-- The key that expressions tell; the texts of several are joined. -/
def keyOf (steps : Nat) (es : List Expression) : Run Key :=
  match steps with
  | 0 => inShell (throw .endless)
  | steps + 1 => do
    match ← evaluateAll steps es with
    | [v] => return v.key (← numberFormat)
    | vs =>
      let parts ← vs.mapM textOf
      return .text (Text.join (← specialText "SUBSEP") parts)

/-- Works out the parts of a place. An element is added to its array if it is not there. -/
def target (steps : Nat) (p : Place) : Run Target :=
  match steps with
  | 0 => inShell (throw .endless)
  | steps + 1 => do
    match p with
    | .named name => return .named name
    | .field e => return .field (← fieldIndex (← evaluate steps e))
    | .element array keys =>
      let key ← keyOf steps keys
      let index ← tableIndex array
      setTable index ((← tableAt index).find true key)
      return .element index key

/-- The regular expression that an expression stands for. -/
def regexIn (steps : Nat) (e : Expression) : Run Regex :=
  match steps with
  | 0 => inShell (throw .endless)
  | steps + 1 => do
    match e with
    | .record r => return r
    | e => regexOf (← textOf (← evaluate steps e))

/-- The value of a function of the program. -/
def call (steps : Nat) (name : Name) (arguments : List Expression) : Run Value :=
  match steps with
  | 0 => inShell (throw .endless)
  | steps + 1 => do
    match (← read).program.routines.find? fun r => r.name = name with
    | none => fail (chars "function " ++ name ++ chars " never defined")
    | some r =>
      countRound
      let mut slots : List Slot := []
      for e in arguments do
        let slot ← match ← slotOfArgument? e with
          | some slot => pure slot
          | none => Slot.value <$> evaluate steps e
        slots := slot :: slots
      let before := (← state).locals
      let fresh := (← state).nextTable
      let given := slots.reverse
      let locals := r.parameters.zipIdx.map fun (name, i) =>
        (name, (given[i]?).getD (.unknown (fresh + i)))
      change fun s => { s with locals, nextTable := fresh + r.parameters.length }
      let restore : Run Unit := change fun s => { s with locals := before }
      let v ← try
          perform steps r.body
          pure Value.missing
        catch
          | .giveBack v => pure v
          | l =>
            restore
            throw l
      restore
      return v

/-- The value of a function that every program has. -/
def standard (steps : Nat) (name : String) (arguments : List Expression) : Run Value :=
  match steps with
  | 0 => inShell (throw .endless)
  | steps + 1 => do
    match name, arguments with
    | "length", [e] =>
      match ← slotOfArgument? e with
      | some (.table index) | some (.unknown index) => return .ofNat (← tableAt index).size
      | _ => standardFunction name (← evaluateAll steps [e])
    | "match", [e, pattern] =>
      let v ← evaluate steps e
      let r ← regexIn steps pattern
      let (start, length) : Nat × Float := match r.find? (← textOf v).toArray 0 with
        | some m => (m.start + 1, Float.ofNat (m.stop - m.start))
        | none => (0, -1)
      setSpecial "RSTART" (.ofNat start)
      setSpecial "RLENGTH" (.number length)
      return .ofNat start
    | "split", e :: .value (.named array) :: separator =>
      let s ← textOf (← evaluate steps e)
      let sep ← match separator with
        | .record r :: _ => pure (Separator.regex r)
        | e :: _ => fieldSeparator (← textOf (← evaluate steps e))
        | [] => fieldSeparator (← specialText "FS")
      let parts := sep.fields s
      setTable (← tableIndex array) (Table.ofList (parts.map .input))
      return .ofNat parts.length
    | "sub", pattern :: value :: place => substituteIn steps false pattern value place.head?
    | "gsub", pattern :: value :: place => substituteIn steps true pattern value place.head?
    | name, arguments => standardFunction name (← evaluateAll steps arguments)

/-- Replaces matches in a place, or in the record. -/
def substituteIn (steps : Nat) (all : Bool) (pattern value : Expression)
    (place : Option Expression) : Run Value :=
  match steps with
  | 0 => inShell (throw .endless)
  | steps + 1 => do
    let r ← regexIn steps pattern
    let value ← textOf (← evaluate steps value)
    let (t, s) : Option Target × List Char ← match place with
      | some (.value p) | some (.grouped (.value p)) => do
        let t ← target steps p
        pure (some t, ← textOf (← t.value))
      | some e => do pure (none, ← textOf (← evaluate steps e))
      | none => do pure (some (Target.field 0), ← recordText)
    let (n, s) := substitute all r value s
    if n != 0 then
      if let some t := t then t.set (.text s)
    return .ofNat n

/-- Does a statement. -/
def perform (steps : Nat) (s : Statement) : Run Unit :=
  match steps with
  | 0 => inShell (throw .endless)
  | steps + 1 => do
    match s with
    | .expression e => discard (evaluate steps e)
    | .print es outlet =>
      let values ← evaluateAll steps es
      let texts ← if es.isEmpty then do pure [← recordText] else do
        let format := (← special "OFMT").toText (chars "%.6g")
        pure (values.map (·.toText format))
      let text := Text.join (← specialText "OFS") texts ++ (← specialText "ORS")
      printOut steps outlet text
    | .printf es outlet =>
      let values ← evaluateAll steps es
      let text ← formatValues "printf" values (printOut steps outlet)
      printOut steps outlet text
    | .choice c first second =>
      if (← evaluate steps c).holds then perform steps first
      else
        if let some second := second then perform steps second
    | .whileLoop c body => loop steps true (some c) none body
    | .doLoop body c => loop steps false (some c) none body
    | .forLoop start c step body =>
      if let some start := start then perform steps start
      loop steps true c step body
    | .each name array body =>
      let index ← tableIndex array
      let (keys, t) := (← tableAt index).keys
      setTable index t
      each steps name keys body
    | .block ss => performAll steps ss
    | .next => throw .next
    | .nextFile => throw .nextFile
    | .exit e =>
      if let some e := e then
        let n := wholePart (← evaluate steps e).toNumber
        change fun s => { s with status := (Int.fmod n 256).toNat }
      throw .exit
    | .giveBack e =>
      let v ← match e with
        | some e => evaluate steps e
        | none => pure .missing
      throw (.giveBack v)
    | .leave => throw .leave
    | .again => throw .again
    | .delete array keys =>
      match keys with
      | some keys =>
        let key ← keyOf steps keys
        let index ← tableIndex array
        setTable index ((← tableAt index).erase key)
      | none => setTable (← tableIndex array) {}

/-- Prints a text where it is to go to. -/
def printOut (steps : Nat) (outlet : Option (Outlet × Expression)) (text : List Char) : Run Unit :=
  match steps with
  | 0 => inShell (throw .endless)
  | steps + 1 => do
    match outlet with
    | some (o, e) => printTo o (← textOf (← evaluate steps e)) text
    | none => put text

/-- Does statements one after the other. -/
def performAll (steps : Nat) (ss : List Statement) : Run Unit :=
  match steps with
  | 0 => inShell (throw .endless)
  | steps + 1 => do
    match ss with
    | [] => return
    | s :: rest =>
      perform steps s
      performAll steps rest

/-- Does the body of a loop once; tells whether the loop goes on. -/
def performRound (steps : Nat) (body : Statement) : Run Bool :=
  match steps with
  | 0 => inShell (throw .endless)
  | steps + 1 => do
    countRound
    try
      perform steps body
      return true
    catch
      | .leave => return false
      | .again => return true
      | l => throw l

/-- Does a loop, which may start with its condition or with its body. -/
def loop (steps : Nat) (asks : Bool) (condition : Option Expression) (step : Option Statement)
    (body : Statement) : Run Unit :=
  match steps with
  | 0 => inShell (throw .endless)
  | steps + 1 => do
    let goesOn ← match condition with
      | some c => if asks then (·.holds) <$> evaluate steps c else pure true
      | none => pure true
    if goesOn then
      if ← performRound steps body then
        if let some step := step then perform steps step
        loop steps true condition step body

/-- Does a loop over keys. -/
def each (steps : Nat) (name : Name) (keys : List (List Char)) (body : Statement) : Run Unit :=
  match steps with
  | 0 => inShell (throw .endless)
  | steps + 1 => do
    match keys with
    | [] => return
    | key :: rest =>
      assignTo name (.text key)
      if ← performRound steps body then each steps name rest body

end

/-! ### Rules -/

/-- Whether the statements of a rule are to be done for the record. -/
def applies (steps place : Nat) (p : Pattern) : Run Bool := do
  match p with
  | .start | .finish => return false
  | .every => return true
  | .holds e => return (← evaluate steps e).holds
  | .range first last =>
    let inside := (← state).ranges.contains place
    let starts ← if inside then pure true else do pure (← evaluate steps first).holds
    if starts then
      let ends := (← evaluate steps last).holds
      change fun s => { s with
        ranges := (if ends then [] else [place]) ++ s.ranges.filter (· != place) }
    return starts

/-- Does the statements of a rule; without any, the record is printed. -/
def performBody (steps : Nat) (r : Rule) : Run Unit :=
  match r.body with
  | some body => perform steps body
  | none => perform steps (.print [] none)

/-- Does the rules of a program for the record. -/
def performRules (steps : Nat) : Run Unit := do
  for (r, place) in (← read).program.rules.zipIdx do
    if ← applies steps place r.pattern then performBody steps r

/-- Does the rules for one record after the other. -/
def performRecords (steps : Nat) : Run Unit :=
  match steps with
  | 0 => inShell (throw .endless)
  | steps + 1 => do
    match ← nextRecord? steps with
    | none => return
    | some record =>
      setRecord record
      try performRules steps
      catch
        | .next => pure ()
        | .nextFile => leaveSource
        | l => throw l
      performRecords steps

/-- Does the rules for the start or the end. -/
def performEnds (steps : Nat) (isStart : Bool) : Run Unit := do
  for r in (← read).program.rules do
    match r.pattern, isStart with
    | .start, true | .finish, false => performBody steps r
    | _, _ => pure ()

/-- Whether a program needs records. -/
def Program.readsRecords (p : Program) : Bool :=
  p.rules.any fun r => match r.pattern with
    | .start => false
    | _ => true

/-- Runs a program. An exit does not skip the rules for the end. -/
def runProgram (steps : Nat) : Run Unit := do
  let untilExit (act : Run Unit) : Run Unit := do
    try act
    catch
      | .exit => pure ()
      | l => throw l
  untilExit do
    performEnds steps true
    if (← read).program.readsRecords then performRecords steps
  untilExit (performEnds steps false)

end ScriptSuite.Shell.Awk
