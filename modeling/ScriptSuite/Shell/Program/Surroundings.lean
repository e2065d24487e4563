import ScriptSuite.Shell.Program.Basic

/-!
# Programs that change the surroundings of others

The programs that start another program with other variables, in another directory or with a limit
of time, and those that tell what surrounds a program.

## Main definitions

* `Shell.env`, `Shell.timeout`, `Shell.nohup`, `Shell.nice`: starting programs.
* `Shell.printenv`, `Shell.which`: telling what surrounds a program.
-/

namespace ScriptSuite.Shell

/-- The complaint that a program cannot be started. -/
def cannotRun (name : List Char) (f : DiskFailure) : List Char :=
  quoted name ++ chars s!": {f.reason}\n"

/-- The lines of the environment that programs see. -/
def Session.environmentLines (s : Session) : List (List Char) :=
  (s.bindings.reverse.filter fun v => s.exported.contains v.1).map fun (name, value) =>
    name ++ '=' :: value

/-- Starts a program with other variables, or prints the variables. -/
def env : Program :=
  let forms := OptionForms.of "+iu:C:0v" [("ignore-environment", 'i'), ("unset", 'u'),
    ("chdir", 'C'), ("null", '0'), ("debug", 'v')]
  withGiven "env" forms 125 fun host g => do
    let (dashes, fields) := g.operands.span (· = ['-'])
    let settings := fields.takeWhile fun f => f.contains '='
    let fields := fields.drop settings.length
    inSubshell do
      if g.has 'i' || !dashes.isEmpty then modify fun s => { s with exported := [] }
      for name in g.values 'u' do
        modify fun s => { s with
          bindings := s.bindings.erase name
          exported := s.exported.filter (· != name) }
      for setting in settings do
        if let some (name, value) := Text.cut ['='] setting then
          modify fun s => { s with bindings := s.bindings.set name value }
          exportAll [name]
      let mut ready := true
      if let some dir := g.value? 'C' then
        match (← get).disk.enterDirectory (toString dir) with
        | .ok disk => modify fun s => { s with disk }
        | .error f =>
          write 2 (chars "env: cannot change directory to " ++ cannotRun dir f)
          setStatus 125
          ready := false
      if ready then
        if fields.isEmpty then
          let stop := if g.has '0' then '\x00' else '\n'
          say ((← get).environmentLines.flatMap fun l => l ++ [stop])
          setStatus 0
        else host.startOr (fun name f => chars "env: " ++ cannotRun name f) fields

/-- Prints the values of variables, or all of them. -/
def printenv : Program :=
  withGiven "printenv" (.of "+0" [("null", '0')]) 2 fun _ g => do
    let s ← get
    let stop := if g.has '0' then '\x00' else '\n'
    if g.operands.isEmpty then
      say (s.environmentLines.flatMap fun l => l ++ [stop])
      setStatus 0
    else
      let values := g.operands.map fun name =>
        if s.exported.contains name then s.bindings.get? name else none
      say (values.flatMap fun v => (v.map fun v => v ++ [stop]).getD [])
      setStatus (if values.all Option.isSome then 0 else 1)

/-- Prints the paths of programs. -/
def which : Program := fun host args => do
  let names := args.filter (· != ['-', 'a'])
  setStatus (if names.isEmpty then 1 else 0)
  for name in names do
    match ← host.find name with
    | some path => say (path ++ ['\n'])
    | none => setStatus 1

/-- Starts a program that a hangup does not end. -/
def nohup : Program := fun host args => do
  if args.isEmpty then refuse "nohup" 125 (chars "missing operand")
  else host.startOr (fun name f => chars "nohup: failed to run command " ++ cannotRun name f) args

/-- Starts a program that is nice to others. -/
def nice : Program :=
  withGiven "nice" (.of "+n:" [("adjustment", 'n')]) 125 fun host g => do
    if g.operands.isEmpty then
      say (chars "0\n")
      setStatus 0
    else host.startOr (fun name f => chars "nice: " ++ cannotRun name f) g.operands

/-- Starts a program in the way of another one that takes options first. -/
def starting (name letters : String) : Program :=
  withGiven name (.of letters []) 125 fun host g => do
    if g.operands.isEmpty then refuse name 125 (chars "missing operand")
    else
      let explain (program : List Char) (f : DiskFailure) : List Char :=
        chars name ++ chars ": failed to run command " ++ cannotRun program f
      host.startOr explain g.operands

/-- Starts a program and asks it to end when a time has passed. -/
def timeout : Program :=
  let forms := OptionForms.of "+fk:ps:v" [("foreground", 'f'), ("kill-after", 'k'),
    ("preserve-status", 'p'), ("signal", 's'), ("verbose", 'v')]
  withGiven "timeout" forms 125 fun host g => do
    match g.operands with
    | [] | [_] =>
      write 2 (helpAdvice "timeout")
      setStatus 125
    | duration :: fields =>
      match milliseconds? duration, Signal.number? ((g.value? 's').getD (chars "TERM")) with
      | none, _ => refuse "timeout" 125 (chars "invalid time interval " ++ quoted duration)
      | _, none =>
        refuse "timeout" 125 (quoted ((g.value? 's').getD []) ++ chars ": invalid signal")
      | some time, some signal => inSubshell do
        let own := (← get).own
        if time != 0 then modify fun s => { s with limits := (own, s.clock + time) :: s.limits }
        try
          host.startOr (fun name f =>
            chars "timeout: failed to run command " ++ cannotRun name f) fields
        catch
          | .killed process _ =>
            if process != own then throw (.killed process signal)
            else if signal = 9 then throw (.killed own 9)
            else setStatus (if g.has 'p' then 128 + signal else 124)
          | e => throw e

end ScriptSuite.Shell
