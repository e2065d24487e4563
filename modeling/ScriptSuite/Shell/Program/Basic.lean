import ScriptSuite.Shell.Action
import ScriptSuite.Shell.Tool.Options

/-!
# Programs that start others

Some programs start other programs. They are steps of a shell with a host, which starts programs for
them.

## Main definitions

* `Shell.Host`: what starts programs.
* `Shell.Program`: a program that starts others.
* `Shell.Host.startOr`: starts a program, or says why it cannot be started.
-/

namespace ScriptSuite.Shell

/-- What starts programs. -/
structure Host where
  /-- Starts the program of the first field with the others as its arguments; if there is none, the
  failure is told. -/
  start : List (List Char) → Action (Option DiskFailure)
  /-- The path of the program of a name. -/
  find : List Char → Action (Option (List Char))

/-- A program that starts others: its host and its arguments decide what it does. -/
abbrev Program := Host → List (List Char) → Action Unit

/-- Starts a program. If it cannot be started, this is told, and the status is the one of a
shell. -/
def Host.startOr (h : Host) (complaint : List Char → DiskFailure → List Char)
    (fields : List (List Char)) : Action Unit := do
  if let some f ← h.start fields then
    write 2 (complaint (fields.headD []) f)
    setStatus (if f = .missing then 127 else 126)

/-- A program whose arguments are read as options and operands; a mistake in them has a status. -/
def withGiven (name : String) (forms : OptionForms) (status : Nat)
    (act : Host → Given → Action Unit) :
    Program :=
  fun host args => do
    match forms.read args with
    | .ok g => act host g
    | .error mistake =>
      write 2 (chars name ++ chars ": " ++ mistake.message ++ '\n' :: helpAdvice name)
      setStatus status

/-- Complains about arguments. -/
def refuse (name : String) (status : Nat) (text : List Char) : Action Unit := do
  write 2 (chars name ++ chars ": " ++ text ++ '\n' :: helpAdvice name)
  setStatus status

end ScriptSuite.Shell
