import ScriptSuite.Shell.Session

/-!
# Steps of a shell

What a shell does is a course of events: it goes on until it is done, has to wait for something, or
starts another shell that runs beside it. While it waits, others may go on.

Commands are made of steps: printing, changing streams and variables, passing time, and taking
signals.

## Main definitions

* `Shell.Awaited`: what a shell waits for.
* `Shell.Course`: what becomes of a shell.
* `Shell.Action`: the steps of a shell, which can be put one after the other.
* `Shell.write`, `Shell.withBuffer`: printing to streams and buffers.
* `Shell.inSubshell`, `Shell.inProgram`: doing something in a shell of its own.
* `Shell.await`, `Shell.passTime`: waiting, while other shells may go on.
* `Shell.receive`: what a signal does.
-/

namespace ScriptSuite.Shell

/-! ### Courses -/

/-- What a shell waits for. -/
inductive Awaited where
  /-- A point of time. -/
  | time (t : Nat)
  /-- The ends of processes, but not beyond a point of time. -/
  | endings (processes : List Nat) (limit : Option Nat)
  /-- Nothing that ever happens. -/
  | nothing
deriving DecidableEq, Repr

/-- What becomes of a shell. -/
inductive Course (α : Type) where
  /-- It is done. -/
  | done (s : Session) (result : Except Interruption α)
  /-- It waits and then goes on, with what it sees by then. -/
  | waits (s : Session) (awaited : Awaited) (next : Session → Course α)
  /-- It starts a process that runs a command with a state of its own, and goes on. -/
  | starts (s : Session) (process : Nat) (first : Session) (body : Command)
      (next : Session → Course α)

/-- The course that goes on with another one when it is done. -/
def Course.andThen {α β : Type} (f : Session → Except Interruption α → Course β) :
    Course α → Course β
  | done s r => f s r
  | waits s awaited next => waits s awaited fun s => andThen f (next s)
  | starts s process first body next => starts s process first body fun s => andThen f (next s)

/-- The steps of a shell. -/
def Action (α : Type) := Session → Course α

namespace Action

/-- The step that does nothing. -/
def ofValue {α : Type} (a : α) : Action α := fun s => .done s (.ok a)

/-- One step after the other; an interruption skips what follows. -/
def andThen {α β : Type} (act : Action α) (f : α → Action β) : Action β :=
  fun s => (act s).andThen fun s r =>
    match r with
    | .ok a => f a s
    | .error e => .done s (.error e)

/-- The step that takes another course if it is interrupted. -/
def orElse {α : Type} (act : Action α) (f : Interruption → Action α) : Action α :=
  fun s => (act s).andThen fun s r =>
    match r with
    | .ok a => .done s (.ok a)
    | .error e => f e s

instance : Monad Action where
  pure := ofValue
  bind := andThen

instance : MonadStateOf Session Action where
  get := fun s => .done s (.ok s)
  set s := fun _ => .done s (.ok ())
  modifyGet f := fun s =>
    let (a, s) := f s
    .done s (.ok a)

instance : MonadExceptOf Interruption Action where
  throw e := fun s => .done s (.error e)
  tryCatch := orElse

instance {α : Type} : Inhabited (Action α) := ⟨throw .exit⟩

end Action

/-- Waits and lets other shells go on. -/
def pause (awaited : Awaited) : Action Unit :=
  fun s => .waits s awaited fun s => .done s (.ok ())

/-- Starts a process beside the shell that runs a command. -/
def startBeside (process : Nat) (first : Session) (body : Command) : Action Unit :=
  fun s => .starts s process first body fun s => .done s (.ok ())

/-! ### Status and streams -/

/-- Changes how the last command ended. -/
def setStatus (n : Nat) : Action Unit :=
  modify fun s => { s with status := n }

/-- Where a stream leads, if it is open. -/
def sinkOf? (stream : Nat) : Action (Option Sink) := do
  return ((← get).streams.find? fun p => p.1 = stream).map (·.2)

/-- Lets a stream lead elsewhere. -/
def redirectTo (stream : Nat) (sink : Sink) : Action Unit :=
  modify fun s => { s with streams := (stream, sink) :: s.streams.filter fun p => p.1 != stream }

/-- Closes a stream. -/
def closeStream (stream : Nat) : Action Unit :=
  modify fun s => { s with
    streams := s.streams.filter fun p => p.1 != stream
    inputs := s.inputs.filter fun p => p.1 != stream
    input := if stream = 0 then [] else s.input
    inputStream := if stream = 0 then none else s.inputStream }

/-- Lets a stream be read from a text. -/
def readFrom (stream : Nat) (text : List Char) (isFile : Bool) : Action Unit :=
  modify fun s =>
    if stream = 0 then { s with input := text, inputIsFile := isFile, inputStream := none }
    else { s with inputs := (stream, text) :: s.inputs.filter fun p => p.1 != stream }

/-- Takes note of what is left of the stream that the input is. -/
def keepInput : Action Unit :=
  modify fun s =>
    match s.inputStream with
    | some stream =>
      { s with inputs := s.inputs.map fun p => if p.1 = stream then (stream, s.input) else p }
    | none => s

/-- Lets the input be another stream, if that one is read from. -/
def readStream (stream : Nat) : Action Bool := do
  keepInput
  match (← get).inputs.find? fun p => p.1 = stream with
  | some (_, text) =>
    modify fun s => { s with input := text, inputIsFile := true, inputStream := some stream }
    return true
  | none => return false

/-- Writes to the end of a file. -/
def appendTo (way : List String) (text : List Char) : Action Unit :=
  modify fun s =>
    match s.disk.tree.at? way with
    | some (.file bytes runnable) =>
      let tree := FileTree.put (.file (bytes ++ toBytes text) runnable) way s.disk.tree
      { s with disk := { s.present with tree }.changing way }
    | _ => s

/-- Writes to a stream. -/
def write (stream : Nat) (text : List Char) : Action Unit := do
  match (← sinkOf? stream).getD .nowhere with
  | .nowhere => return
  | .buffer index =>
    modify fun s => { s with
      buffers := s.buffers.map fun b => if b.1 = index then (index, text.reverse ++ b.2) else b }
  | .file way => appendTo way text

/-- Prints a text. -/
def say (text : List Char) : Action Unit := write 1 text

/-- Prints a complaint with the name of the script, the line and who makes it. -/
def complain (text : List Char) : Action Unit := do
  let s ← get
  let speaker := if s.speaker.isEmpty then [] else s.speaker ++ [':', ' ']
  write 2 (s.name ++ chars s!": {s.line}: " ++ speaker ++ text ++ ['\n'])

/-- Prints a complaint and ends the shell. -/
def giveUp {α : Type} (text : List Char) : Action α := do
  complain text
  setStatus 2
  throw .mistake

/-- Does something in whose course complaints are made in a name. -/
def speakingAs (name : List Char) (act : Action Unit) : Action Unit := do
  let speaker := (← get).speaker
  let restore : Action Unit := modify fun s => { s with speaker }
  modify fun s => { s with speaker := name }
  try act catch e => restore; throw e
  restore

/-- Does something whose mistakes do not end the shell. -/
def forgiving (act : Action Unit) : Action Unit := do
  try act
  catch
    | .mistake => return
    | e => throw e

/-- A number for a new process. -/
def newProcess : Action Nat := do
  let process := (← get).nextProcess
  modify fun s => { s with nextProcess := process + 1 }
  return process

/-- Does something in a shell of its own: what changes but what all shells share, the input, the
time and the budget is undone. The new shell does nothing for signals that it does not pass over. If
a signal ends it, this is told. -/
def inSubshell (act : Action Unit) : Action Unit := do
  let process ← newProcess
  let before ← get
  set { before with
    own := process
    replaced := false
    outer := (before.own, before.traps) :: before.outer
    traps := before.traps.filter fun t => t.2.isEmpty
    children := [] }
  let interruption ← try act; pure none catch e => pure (some e)
  modify fun s => { before.seeing s with
    clock := s.clock, budget := s.budget, input := s.input, inputIsFile := s.inputIsFile
    inputs := s.inputs, inputStream := s.inputStream
    arrived := s.arrived.filter fun a => a.1 != process
    limits := s.limits.filter fun l => l.1 != process
    status := s.status }
  match interruption with
  | some (.killed p signal) =>
    if p = process then
      setStatus (128 + signal)
      let account := Signal.account signal
      unless account.isEmpty do write 2 (account ++ ['\n'])
    else throw (.killed p signal)
  | some .endless => throw .endless
  | _ => return

/-- Does something in the shell of a program, which sees the exported variables only. -/
def inProgram (act : Action Unit) : Action Unit := do
  let start : Action Unit := do
    modify fun s => { s with
      process := s.own
      replaced := false
      bindings := Variables.set (chars "IFS") blanks
        (s.bindings.filter fun v => s.exported.contains v.1)
      traps := s.traps.filter fun t => t.2.isEmpty
      functions := [], locals := none, readonly := [], flags := [], line := 1
      aliases := [], started := [], speaker := [] }
    act
  if (← get).replaced then start else inSubshell start

/-- Does something and lets the streams lead where they led before; if the input or another stream
that is read from is `redirected`, what was left of the one before is there again. -/
def withStreams (redirected : List Nat) (act : Action Unit) : Action Unit := do
  let before ← get
  let otherInput := redirected.contains 0
  let restore : Action Unit := do
    if otherInput then keepInput
    modify fun s =>
      let old := before.inputs.filter fun p => redirected.contains p.1
      { s with
        streams := before.streams
        inputs := old ++ s.inputs.filter fun p => !redirected.contains p.1
        input := if otherInput then before.input else s.input
        inputIsFile := if otherInput then before.inputIsFile else s.inputIsFile
        inputStream := if otherInput then before.inputStream else s.inputStream }
    if otherInput then
      if let some stream := before.inputStream then discard (readStream stream)
  try act catch e => restore; throw e
  restore

/-- Does something that is the body of a loop. -/
def inLoop (act : Action Unit) : Action Unit := do
  let leave : Action Unit := modify fun s => { s with loops := s.loops - 1 }
  modify fun s => { s with loops := s.loops + 1 }
  try act catch e => leave; throw e
  leave

/-- The number of rounds behind which a long run makes a pause. -/
def pauseRounds : Nat := 1000

/-- Uses up a part of the budget. A long run makes a pause now and then, in which no time passes. -/
def spend : Action Unit := do
  let s ← get
  if s.budget = 0 then throw .endless
  set { s with budget := s.budget - 1 }
  if s.budget % pauseRounds = 0 then pause (.time s.clock)

/-! ### Time and signals -/

/-- A signal arrives at a process that is the one of the shell or of a shell that waits for it. -/
def receive (signal process : Nat) : Action Unit := do
  let s ← get
  let traps := if Signal.isOptional signal && signal != 0 then (s.trapsOf? process).getD [] else []
  match traps.find? fun t => t.1 = signal with
  | some (_, text) =>
    unless text.isEmpty do set { s with arrived := s.arrived ++ [(process, signal, text)] }
  | none =>
    match Signal.effect signal with
    | .ends => throw (.killed process signal)
    | .stops => throw .endless
    | .nothing => return

/-- Waits, lets other shells go on, and takes the signals that they have sent. -/
def await (awaited : Awaited) : Action Unit := do
  pause awaited
  let s ← get
  let (mine, others) := s.sendings.partition fun sending => (s.trapsOf? sending.process).isSome
  set { s with sendings := others }
  for sending in mine.reverse do receive sending.signal sending.process

/-- Lets other shells go on that have something to do by now. -/
def makeWay : Action Unit := do
  let s ← get
  if s.jobs.any (·.ending.isNone) then await (.time s.clock)

/-- Waits for a point of time, unless a process is asked to end before. -/
def awaitTime (stop : Nat) : Action Unit := do
  let s ← get
  let limits := s.limits.filter fun l => l.2 < stop
  match limits.foldl (fun first l =>
      match first with
      | none => some l
      | some f => if l.2 < f.2 then some l else first) (none : Option (Nat × Nat)) with
  | some (process, time) =>
    await (.time time)
    modify fun s => { s with limits := s.limits.filter fun l => l.1 != process }
    receive 15 process
    await (.time stop)
  | none => await (.time stop)

/-- Lets time pass. -/
def passTime (milliseconds : Nat) : Action Unit := do
  if milliseconds = 0 then makeWay
  else awaitTime ((← get).clock + milliseconds)

/-- Adds a buffer, does something with its number, and takes the buffer away again when nothing
prints to it any more. -/
def withBuffer (act : Nat → Action Unit) : Action (List Char) := do
  let index := (← get).nextBuffer
  modify fun s => { s with buffers := (index, []) :: s.buffers, nextBuffer := index + 1 }
  act index
  let printing := (← get).printingTo index
  unless printing.isEmpty do await (.endings printing none)
  let s ← get
  set { s with buffers := s.buffers.filter fun b => b.1 != index }
  return s.buffer index

/-! ### Variables -/

/-- The characters that stand between fields. -/
def separators : Action (List Char) := do
  return ((← get).bindings.get? (chars "IFS")).getD blanks

/-- The value of a parameter, if it has one. -/
def valueOf? (name : List Char) : Action (Option (List Char)) := do
  let s ← get
  match name with
  | ['#'] => return some (digits s.arguments.length)
  | ['?'] => return some (digits s.status)
  | ['$'] => return some (digits s.process)
  | ['!'] => return s.lastChild.map fun p => digits p
  | ['-'] => return some (shellFlags.filter s.flags.contains).reverse
  | ['@'] | ['*'] =>
    let between ← separators
    let between := if name = ['*'] then between.take 1 else [' ']
    return if s.arguments.isEmpty then none else some (Text.join between s.arguments)
  | ['0'] => return some s.name
  | _ =>
    if name.all Char.isDigit then
      return if decimal name = 0 then some s.name else s.arguments[decimal name - 1]?
    else return s.bindings.get? name

/-- The homes of users. -/
def homes : List (String × String) :=
  [("root", "/root"), ("daemon", "/usr/sbin"), ("bin", "/bin"), ("sys", "/dev"),
    ("games", "/usr/games"), ("man", "/var/cache/man"), ("mail", "/var/mail"),
    ("www-data", "/var/www"), ("backup", "/var/backups"), ("nobody", "/nonexistent")]

/-- The home of a user, if there is one; without a name it is that of the user who runs the
shell. -/
def homeOf? (name : List Char) : Action (Option (List Char)) := do
  if name.isEmpty then return (← get).bindings.get? (chars "HOME")
  else return (homes.find? fun h => chars h.1 = name).map fun h => chars h.2

/-- Gives a variable a value. -/
def assign (name value : List Char) : Action Unit := do
  unless isName name do giveUp (name ++ chars ": bad variable name")
  if (← get).readonly.contains name then giveUp (name ++ chars ": is read only")
  modify fun s => { s with
    bindings := s.bindings.set name value
    exported := if s.flags.contains 'a' && !s.exported.contains name then name :: s.exported
      else s.exported }
  if name = chars "OPTIND" then
    modify fun s => { s with optionIndex := max 1 (decimal value), optionOffset := none }
  if name = chars "PATH" then modify fun s => { s with started := [] }

/-- Makes variables visible to programs. -/
def exportAll (names : List (List Char)) : Action Unit :=
  modify fun s => { s with exported := names ++ s.exported.filter (!names.contains ·) }

end ScriptSuite.Shell
