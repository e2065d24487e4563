import ScriptSuite.Shell.Bytes
import ScriptSuite.Shell.Tools

/-!
# Sessions

A session is what a shell knows while it runs a script: the disk, its variables, functions and
arguments, and where its streams lead. Time is counted, not spent: whatever waits moves the clock.

Several shells may run at the same time. They share the disk, the buffers that they print to, the
list of the commands that are not waited for and the signals on their way; the rest is their own.
Most signals end a process that does not expect them; some stop it, and some do nothing to it.

A session has a budget of commands. A script that uses it up is taken for one that never ends.

## Main definitions

* `Shell.Signal.number?`, `Shell.Signal.effect`: the number of a signal, and what it does.
* `Shell.Session`: the state of a shell.
* `Shell.Session.seeing`: the state of a shell after another one went on.
* `Shell.Interruption`: why a script does not go on with the next command.
-/

namespace ScriptSuite.Shell

/-! ### Signals -/

/-- What a signal does to a process that does not expect it. -/
inductive SignalEffect where
  /-- It ends the process. -/
  | ends
  /-- It stops the process. -/
  | stops
  /-- It does nothing. -/
  | nothing
deriving DecidableEq, Repr

namespace Signal

/-- The names of the signals, from the number one on. -/
def names : List String :=
  ["HUP", "INT", "QUIT", "ILL", "TRAP", "ABRT", "BUS", "FPE", "KILL", "USR1", "SEGV", "USR2",
    "PIPE", "ALRM", "TERM", "16", "CHLD", "CONT", "STOP", "TSTP", "TTIN", "TTOU", "URG", "XCPU",
    "XFSZ", "VTALRM", "PROF", "WINCH", "IO", "PWR", "SYS"]

/-- The number of a signal that is given by its name or its number; zero stands for the end of the
shell. -/
def number? (s : List Char) : Option Nat :=
  if !s.isEmpty && s.all Char.isDigit then
    if decimal s ≤ 64 then some (decimal s) else none
  else
    let name := String.ofList (s.map Char.toUpper)
    if name = "EXIT" then some 0 else (names.findIdx? (· = name)).map (· + 1)

/-- The name of a signal. -/
def name (n : Nat) : List Char :=
  match n with
  | 0 => "EXIT".toList
  | n + 1 => ((names[n]?).map String.toList).getD (Nat.toDigits 10 (n + 1))

/-- The name of a number that is the one of a signal; signals with large numbers are counted from
the ends of their range. -/
def known? (n : Nat) : Option (List Char) :=
  if n = 0 || 64 < n then none
  else if n < 34 then some (name n)
  else if n = 34 then some "RTMIN".toList
  else if n = 64 then some "RTMAX".toList
  else if n < 50 then some ("RTMIN+".toList ++ Nat.toDigits 10 (n - 34))
  else some ("RTMAX-".toList ++ Nat.toDigits 10 (64 - n))

/-- What a signal does to a process that does not expect it. -/
def effect (n : Nat) : SignalEffect :=
  if [0, 17, 18, 23, 28].contains n then .nothing
  else if 19 ≤ n && n ≤ 22 then .stops
  else .ends

/-- Whether a process may expect a signal. -/
def isOptional (n : Nat) : Bool := n != 9 && n != 19

/-- What a shell says when a signal ended a program; nothing for an interruption or a pipe that is
closed. -/
def account (n : Nat) : List Char :=
  match n with
  | 1 => "Hangup".toList
  | 3 => "Quit".toList
  | 4 => "Illegal instruction".toList
  | 5 => "Trace/breakpoint trap".toList
  | 6 => "Aborted".toList
  | 7 => "Bus error".toList
  | 8 => "Floating point exception".toList
  | 9 => "Killed".toList
  | 10 => "User defined signal 1".toList
  | 11 => "Segmentation fault".toList
  | 12 => "User defined signal 2".toList
  | 14 => "Alarm clock".toList
  | 15 => "Terminated".toList
  | _ => []

end Signal

/-! ### The state of a shell -/

/-- Where a stream leads. -/
inductive Sink where
  /-- To a buffer, by its number. -/
  | buffer (index : Nat)
  /-- To the end of a file. -/
  | file (way : List String)
  /-- Nowhere. -/
  | nowhere
deriving DecidableEq, Repr

/-- A command that is not waited for. -/
structure Job where
  /-- The number of its process. -/
  process : Nat
  /-- When it ended and how, once it has. -/
  ending : Option (Nat × Nat) := none
  /-- The numbers of the buffers that it prints to. -/
  buffers : List Nat
  /-- Whether its end was taken notice of. -/
  known : Bool := false

/-- A command that a shell did not wait for, as that shell knows it. -/
structure Child where
  /-- The number of its process. -/
  process : Nat
  /-- The number that the shell gives it. -/
  number : Nat
  /-- Whether the shell has waited for it. -/
  awaited : Bool := false

/-- A signal on its way. -/
structure Sending where
  /-- The number of the process that it is sent to. -/
  process : Nat
  /-- Its number. -/
  signal : Nat
  /-- When it is sent. -/
  time : Nat

/-- The state of a shell. -/
structure Session where
  /-- The disk, with the working directory of the shell. -/
  disk : Disk
  /-- The path that the script was started with. -/
  name : List Char
  /-- The arguments. -/
  arguments : List (List Char)
  /-- The variables. -/
  bindings : Variables
  /-- The names of the variables that programs see. -/
  exported : List (List Char) := []
  /-- The names of the variables that keep their values. -/
  readonly : List (List Char) := []
  /-- The values that variables have again behind a function; none outside of functions. -/
  locals : Option (List (List Char × Option (List Char))) := none
  /-- The number of the argument in which options are looked for next. -/
  optionIndex : Nat := 1
  /-- How much of the argument in front of it has been read, if it is not done. -/
  optionOffset : Option Nat := none
  /-- Whether it is looked at whether the last command failed. -/
  tested : Bool := false
  /-- The number of loops around the last command. -/
  loops : Nat := 0
  /-- The functions. -/
  functions : List (List Char × Command) := []
  /-- What is done when a signal arrives, or at the end for the number zero. -/
  traps : List (Nat × List Char) := []
  /-- The signals that have arrived at processes, and what is to be done for them. -/
  arrived : List (Nat × Nat × List Char) := []
  /-- How the last command ended. -/
  status : Nat := 0
  /-- The letters of the options that are on. -/
  flags : List Char := []
  /-- What is left of the input. -/
  input : List Char := []
  /-- What is left of other streams that are read from, by their numbers. -/
  inputs : List (Nat × List Char) := []
  /-- The other stream that the input is, if it is one. -/
  inputStream : Option Nat := none
  /-- The texts that stand for words where a command starts, in the order of their names. -/
  aliases : List (List Char × List Char) := []
  /-- The programs that were started, with their paths, last one first. -/
  started : List (List Char × List Char) := []
  /-- Whether the input is that of a file. -/
  inputIsFile : Bool := false
  /-- Where the output streams lead. -/
  streams : List (Nat × Sink) := [(1, .buffer 0), (2, .buffer 1)]
  /-- The contents of the buffers by their numbers, last character first. -/
  buffers : List (Nat × List Char) := [(1, []), (0, [])]
  /-- The number of the next buffer. -/
  nextBuffer : Nat := 2
  /-- The texts for redirections that are part of the script. -/
  texts : List Word := []
  /-- The line of the last command. -/
  line : Nat := 1
  /-- In whose name complaints are made: that of a command of the shell or of a file of commands;
  empty for the script itself. -/
  speaker : List Char := []
  /-- The time since the start, in milliseconds. -/
  clock : Nat := 0
  /-- When the script was started, in milliseconds from the start of the year 1970. -/
  origin : Int := 0
  /-- The commands that were not waited for, last one first. -/
  jobs : List Job := []
  /-- The signals that have been sent to other shells, last one first. -/
  sendings : List Sending := []
  /-- The commands that this shell did not wait for, last one first. -/
  children : List Child := []
  /-- The number of the last command that was not waited for. -/
  lastChild : Option Nat := none
  /-- The number that a script takes for that of its process. -/
  process : Nat := 4242
  /-- The number of the process of the shell. -/
  own : Nat := 4242
  /-- Whether the next program takes the place of the shell, so that it gets no process of its
  own. -/
  replaced : Bool := false
  /-- The processes of the shells that wait for this one, with what they do for signals. -/
  outer : List (Nat × List (Nat × List Char)) := []
  /-- The number of the next process. -/
  nextProcess : Nat := 4243
  /-- The points of time at which processes are asked to end. -/
  limits : List (Nat × Nat) := []
  /-- The number of commands that may follow. -/
  budget : Nat := 100000

/-- The options of a shell by their letters, with their names. Two of them have no letter of their
own. -/
def shellOptions : List (Char × String) :=
  [('e', "errexit"), ('f', "noglob"), ('I', "ignoreeof"), ('i', "interactive"), ('m', "monitor"),
    ('n', "noexec"), ('s', "stdin"), ('x', "xtrace"), ('v', "verbose"), ('V', "vi"), ('E', "emacs"),
    ('C', "noclobber"), ('a', "allexport"), ('b', "notify"), ('u', "nounset"), ('p', "privileged"),
    ('\x01', "nolog"), ('\x02', "debug")]

/-- The letters of the options of a shell. -/
def shellFlags : List Char := (shellOptions.map (·.1)).filter Char.isAlpha

/-- The characters that stand between fields when a shell starts. -/
def blanks : List Char := [' ', '\t', '\n']

/-- Why a script does not go on with the next command. -/
inductive Interruption where
  /-- The shell ends. -/
  | exit
  /-- The shell ends because of a mistake. -/
  | mistake
  /-- Loops end. -/
  | broke (loops : Nat)
  /-- Loops end but for the outermost, which goes on. -/
  | continued (loops : Nat)
  /-- A function ends. -/
  | returned
  /-- A shell is ended by a signal. -/
  | killed (process signal : Nat)
  /-- The script does not end. -/
  | endless
deriving DecidableEq, Repr

namespace Session

/-- The state of a shell after another one went on: it sees what they share. -/
def seeing (s other : Session) : Session :=
  { s with
    disk := { other.disk with cwd := s.disk.cwd, mask := s.disk.mask }
    buffers := other.buffers, nextBuffer := other.nextBuffer
    jobs := other.jobs, sendings := other.sendings, nextProcess := other.nextProcess }

/-- The disk as it is now. -/
def present (s : Session) : Disk := { s.disk with now := s.origin + s.clock }

/-- A point of time that no script reaches. -/
def never : Nat := 1000000000000000

/-- When the last command ends that keeps a stream of the script open. -/
def held (s : Session) : Nat :=
  s.jobs.foldl (fun time j =>
    if j.buffers.any (· < 2) then max time ((j.ending.map (·.1)).getD never) else time) 0

/-- The state of a shell that has started the program of a name. -/
def starting (s : Session) (name path : List Char) : Session :=
  { s with started := (name, path) :: s.started.filter fun p => p.1 != name }

/-- The state of a shell when a command that is not waited for has ended. -/
def ended (process status : Nat) (s : Session) : Session :=
  { s with jobs := s.jobs.map fun j =>
      if j.process = process then { j with ending := some (s.clock, status) } else j }

/-- When and how a command ended that was not waited for. -/
def ending? (s : Session) (process : Nat) : Option (Nat × Nat) :=
  (s.jobs.find? fun j => j.process = process).bind (·.ending)

/-- The number of the next command that is not waited for: the least that no other one has. -/
def freeNumber (s : Session) : Nat :=
  let lasting := s.children.filter fun c => !(c.awaited && (s.ending? c.process).isSome)
  let taken := lasting.map (·.number)
  (((List.range (taken.length + 1)).map (· + 1)).find? fun n => !taken.contains n).getD 1

/-- What a process of this shell, or of one that waits for it, does for signals. -/
def trapsOf? (s : Session) (process : Nat) : Option (List (Nat × List Char)) :=
  (((s.own, s.traps) :: s.outer).find? fun o => o.1 = process).map (·.2)

/-- The commands that are not waited for and print to a buffer. -/
def printingTo (s : Session) (index : Nat) : List Nat :=
  (s.jobs.filter fun j => j.ending.isNone && j.buffers.contains index).map (·.process)

/-- The text of a buffer. -/
def buffer (s : Session) (index : Nat) : List Char :=
  (((s.buffers.find? fun b => b.1 = index).map (·.2)).getD []).reverse

end Session

end ScriptSuite.Shell
