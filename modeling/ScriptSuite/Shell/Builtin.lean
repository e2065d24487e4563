import ScriptSuite.Shell.Action
import ScriptSuite.Shell.Builtin.Input
import ScriptSuite.Shell.Builtin.Jobs
import ScriptSuite.Shell.Builtin.Names
import ScriptSuite.Shell.Printf
import ScriptSuite.Shell.Tool.Condition

/-!
# Commands of the shell itself

Some commands change the state of the shell and so cannot be programs, and some others are part of
it all the same: those that print their arguments, and those that tell whether a condition holds.
Commands that run other commands are not here.

## Main definitions

* `Shell.echo`, `Shell.printf`: printing.
* `Shell.test`, `Shell.bracket`: conditions.
* `Shell.builtin?`: the command of a name.
-/

namespace ScriptSuite.Shell

/-! ### Printing -/

/-- Prints arguments; escapes in them are replaced, and `-n` leaves out the line end. -/
def echo (args : List (List Char)) : Action Unit := do
  let (stop, args) := match args with
    | ['-', 'n'] :: rest => ([], rest)
    | _ => (['\n'], args)
  let text := Text.join [' '] args
  let (text, cut) := unescape (text.length + 1) text
  if (← sinkOf? 1).isNone then
    complain (chars "echo: I/O error")
    setStatus 1
  else
    say (text ++ if cut then [] else stop)
    setStatus 0

/-- Prints a format with arguments. -/
def printf (args : List (List Char)) : Action Unit := do
  let printAll (format : List Char) (args : List (List Char)) : Action Unit := do
    match Format.parse (format.length + 1) format with
    | (f, some mistake) =>
      say (Format.print 1 f { args }).out
      giveUp mistake
    | (f, none) =>
      let p := Format.print (args.length + 1) f { args }
      for complaint in p.complaints do complain complaint
      say p.out
      setStatus (if p.complaints.isEmpty then 0 else 1)
  match args with
  | [] | [['-', '-']] => giveUp (chars "usage: printf format [arg ...]")
  | ['-', '-'] :: format :: args => printAll format args
  | ('-' :: c :: _) :: _ => giveUp (chars "Illegal option -" ++ [c])
  | format :: args => printAll format args

/-! ### Conditions -/

/-- Checks a condition. -/
def test (args : List (List Char)) : Action Unit := do
  match Test.holds (← get).disk (args.length + 1) args with
  | .ok b => setStatus (if b then 0 else 1)
  | .error complaint => giveUp complaint

/-- Checks a condition in brackets. -/
def bracket (args : List (List Char)) : Action Unit := do
  if args.getLast? = some [']'] then test args.dropLast else giveUp (chars "missing ]")

/-! ### The command of a name -/

/-- The command of a name. -/
def builtin? (name : String) : Option (List (List Char) → Action Unit) :=
  match name with
  | ":" | "true" => some fun _ => setStatus 0
  | "false" => some fun _ => setStatus 1
  | "echo" => some echo
  | "printf" => some printf
  | "test" => some test
  | "[" => some bracket
  | "alias" => some doAlias
  | "bg" => some resume
  | "break" => some (leave .broke)
  | "cd" | "chdir" => some cd
  | "continue" => some (leave .continued)
  | "exit" => some exit
  | "export" => some doExport
  | "fg" => some resume
  | "getopts" => some getopts
  | "hash" => some hash
  | "jobs" => some listJobs
  | "kill" => some kill
  | "local" => some doLocal
  | "pwd" => some pwd
  | "read" => some readLine
  | "readonly" => some doReadonly
  | "return" => some doReturn
  | "set" => some setOptions
  | "shift" => some shift
  | "times" => some fun _ => times
  | "trap" => some trap
  | "type" => some typeOf
  | "ulimit" => some ulimit
  | "umask" => some umask
  | "unalias" => some unalias
  | "unset" => some unset
  | "wait" => some wait
  | _ => none

end ScriptSuite.Shell
