import ScriptSuite.Shell.Builtin.Settings

/-!
# Commands about processes

A shell knows the commands that it did not wait for by numbers, can send signals to them and wait
for them. What it does itself for signals is set by `trap`.

## Main definitions

* `Shell.kill`, `Shell.trap`: sending signals and expecting them.
* `Shell.wait`: waiting for commands.
* `Shell.listJobs`, `Shell.resume`: the commands that are not waited for.
-/

namespace ScriptSuite.Shell

/-! ### Numbers of commands -/

/-- The command that a text like `%1` stands for; the newest one if it has no number. -/
def childOf (spec : List Char) : Action Child := do
  let children := (← get).children
  let found := match spec with
    | ['%'] | ['%', '%'] | ['%', '+'] => children.head?
    | ['%', '-'] => children[1]?
    | _ => children.find? fun c => digits c.number = spec.drop 1
  match found with
  | some child => return child
  | none =>
    let newest := spec.length = 1 || spec = ['%', '%'] || spec = ['%', '+']
    giveUp (if newest then chars "No current job" else chars "No such job: " ++ spec)

/-! ### Signals -/

/-- Sends a signal to a process. -/
def send (signal process : Nat) : Action Unit := do
  let s ← get
  let job := s.jobs.find? fun j => j.process = process
  if (s.trapsOf? process).isSome then receive signal process
  else if process < 4242 || s.nextProcess ≤ process || job.any (·.known) then
    complain (chars "No such process\n")
    setStatus 1
  else if job.all (·.ending.isNone) then
    set { s with sendings := { process, signal, time := s.clock } :: s.sendings }

/-- Tells the names of signals. -/
def listSignals (args : List (List Char)) : Action Unit := do
  match args with
  | [] =>
    let names := (List.range 65).filterMap fun n => if n = 0 then some ['0'] else Signal.known? n
    say (names.flatMap (· ++ ['\n']))
    setStatus 0
  | n :: _ =>
    let number ← numberOf n
    let sent := if number < 128 then none else Signal.known? (number - 128)
    match (Signal.known? number).or sent with
    | some name =>
      say (name ++ ['\n'])
      setStatus 0
    | none => giveUp (chars "invalid signal number or exit status: " ++ n)

/-- Sends signals. -/
def kill (args : List (List Char)) : Action Unit := do
  let sendAll (signal : Nat) (targets : List (List Char)) : Action Unit := do
    if targets.isEmpty then
      giveUp (chars "Usage: kill [-s sigspec | -signum | -sigspec] [pid | job]... or\n" ++
        chars "kill -l [exitstatus]")
    else
      setStatus 0
      for target in targets do
        if target.head? = some '%' then
          -- no command that is not waited for leads a group of processes
          discard (childOf target)
          complain (chars "No such process\n")
          setStatus 1
        else
          let number := if target.head? = some '-' then target.drop 1 else target
          if !number.isEmpty && number.all Char.isDigit then send signal (decimal target)
          else giveUp (chars "Illegal number: " ++ number)
  match args with
  | ['-', 'l'] :: rest => listSignals rest
  | [['-', 's']] => giveUp (chars "No arg for -s option")
  | ['-', 's'] :: name :: targets =>
    match Signal.number? name with
    | some signal => sendAll signal targets
    | none => giveUp (chars "invalid signal number or name: " ++ name)
  | ['-', '-'] :: targets => sendAll 15 targets
  | ('-' :: c :: name) :: targets =>
    match Signal.number? (c :: name) with
    | some signal => sendAll signal targets
    | none => refuseOption c
  | targets => sendAll 15 targets

/-- Sets what is done for signals. -/
def trap (args : List (List Char)) : Action Unit := do
  setStatus 0
  let (letters, args) := match args with
    | ['-', '-'] :: rest => ([], rest)
    | ('-' :: c :: _) :: _ => ([c], args)
    | args => ([], args)
  if let c :: _ := letters then refuseOption c
  let put (action : Option (List Char)) (names : List (List Char)) : Action Unit := do
    for name in names do
      match Signal.number? name with
      | some n => modify fun s => { s with
          traps := (action.map fun text => (n, text)).toList ++ s.traps.filter fun t => t.1 != n }
      | none =>
        write 2 (chars "trap: " ++ name ++ chars ": bad trap\n")
        setStatus 1
  match args with
  | [] =>
    for (n, text) in (← get).traps.mergeSort (fun a b => a.1 ≤ b.1) do
      say (chars "trap -- " ++ singleQuoted (text.length + 1) text ++
        ' ' :: Signal.name n ++ ['\n'])
  | [name] => put none [name]
  | ['-'] :: names => put none names
  | action :: names =>
    if !action.isEmpty && action.all Char.isDigit then put none (action :: names)
    else put (some action) names

/-! ### Waiting -/

/-- Waits for processes to end. A signal ends the wait if something is done for it. -/
def awaitEndings (processes : List Nat) : Action Bool := do
  unless processes.isEmpty do await (.endings processes none)
  match (← get).arrived with
  | [] => return true
  | (_, signal, _) :: _ =>
    setStatus (128 + signal)
    return false

/-- Takes note that commands have been waited for. -/
def noteAwaited (processes : List Nat) : Action Unit :=
  modify fun s => { s with
    children := s.children.map fun (c : Child) =>
      if processes.contains c.process then { c with awaited := true } else c
    jobs := s.jobs.map fun (j : Job) =>
      if processes.contains j.process then { j with known := true } else j }

/-- Waits for a command that was not waited for, and takes over how it ended. -/
def waitFor (arg : List Char) : Action Unit := do
  let wanted ← match arg with
    | '%' :: _ => pure (← childOf arg).process
    | arg => numberOf arg
  let s ← get
  match s.jobs.find? fun j =>
    j.process = wanted && s.children.any fun c => c.process = j.process with
  | none => setStatus 127
  | some j =>
    if ← awaitEndings [j.process] then
      let (stop, status) := ((← get).ending? j.process).getD (s.clock, 0)
      modify fun s => { s with clock := max s.clock stop, status }
      noteAwaited [j.process]
      let account := if 128 < status && !j.known then Signal.account (status - 128) else []
      unless account.isEmpty do write 2 (account ++ ['\n'])

/-- Waits for commands that were not waited for. -/
def wait (args : List (List Char)) : Action Unit := do
  setStatus 0
  match args with
  | [] =>
    let processes := (← get).children.map (·.process)
    if ← awaitEndings processes then noteAwaited processes
  | ('-' :: c :: _) :: _ => refuseOption c
  | args => for arg in args do waitFor arg

/-! ### Listing -/

/-- How a command that was not waited for is doing. -/
def stateText (ending : Option (Nat × Nat)) : List Char :=
  match ending with
  | none => chars "Running"
  | some (_, 0) => chars "Done"
  | some (_, status) =>
    let account := if 128 < status then Signal.account (status - 128) else []
    if account.isEmpty then chars "Done(" ++ digits status ++ [')'] else account

/-- Lists commands that were not waited for, the newest first. One that has ended is told once. -/
def listChildren (withProcess : Bool) (current previous : Option Nat) (children : List Child) :
    Action Unit := do
  match children with
  | [] => return
  | child :: rest =>
    let ending := (← get).ending? child.process
    let sign := if current = some child.number then " + "
      else if previous = some child.number then " - "
      else "   "
    let start := ['['] ++ digits child.number ++ [']'] ++ chars sign ++
      (if withProcess then digits child.process ++ [' '] else []) ++ stateText ending
    say (start ++ List.replicate (33 - start.length) ' ' ++ ['\n'])
    if ending.isSome then
      noteAwaited [child.process]
      modify fun s => { s with children := s.children.filter fun c => c.process != child.process }
      listChildren withProcess previous (rest[1]?.map (·.number)) rest
    else listChildren withProcess current previous rest

/-- Lists the commands that were not waited for. -/
def listJobs (args : List (List Char)) : Action Unit := do
  makeWay
  setStatus 0
  let (letters, specs) := switches args
  match letters.find? fun c => c != 'l' && c != 'p' with
  | some c => refuseOption c
  | none =>
    let children := (← get).children
    let number (i : Nat) : Option Nat := children[i]?.map (·.number)
    let tell (children : List Child) : Action Unit := do
      if letters.contains 'p' then say (children.flatMap fun c => digits c.process ++ ['\n'])
      else listChildren (letters.contains 'l') (number 0) (number 1) children
    if specs.isEmpty then tell children
    else
      for spec in specs do tell [← childOf spec]

/-- Refuses to let a command go on behind or before the shell, which does not control it. -/
def resume (args : List (List Char)) : Action Unit := do
  discard (childOf (args.headD ['%']))
  giveUp (chars "job " ++ args.headD (chars "(null)") ++ chars " not created under job control")

end ScriptSuite.Shell
