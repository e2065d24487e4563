import ScriptSuite.Shell.Tool.Basic

/-!
# Options

A tool has options of single letters, some of which have a long name too. An option may ask for a
value, which stands behind its letter or in the next argument. Options and operands may be mixed,
but two dashes end the options.

## Main definitions

* `Shell.OptionForms`: the options that a tool knows.
* `Shell.OptionForms.read`: the options and operands among arguments.
* `Shell.OptionMistake`: why arguments cannot be read.
-/

namespace ScriptSuite.Shell

/-- Whether an option has a value. -/
inductive OptionValue where
  /-- It has none. -/
  | none
  /-- It always has one. -/
  | required
  /-- It may have one, directly behind it. -/
  | optional
deriving DecidableEq, Repr

/-- The options that a tool knows. -/
structure OptionForms where
  /-- The letters. -/
  letters : List (Char × OptionValue)
  /-- The long names with the letters that they stand for. -/
  words : List (String × Char × OptionValue)
  /-- Whether the first operand ends the options. -/
  leading : Bool := false

/-- Why arguments cannot be read. -/
inductive OptionMistake where
  /-- There is no option of this letter. -/
  | letter (c : Char)
  /-- There is no option of this name. -/
  | word (argument : List Char)
  /-- Several options start like this. -/
  | ambiguous (argument : List Char) (names : List String)
  /-- The option of this letter has no value. -/
  | noValue (c : Char)
  /-- The option of this name has no value. -/
  | noWordValue (name : String)
  /-- The option of this name has a value. -/
  | extraValue (name : String)
deriving DecidableEq, Repr

/-- What is said about a mistake. -/
def OptionMistake.message : OptionMistake → List Char
  | letter c => chars "invalid option -- '" ++ [c, '\'']
  | word argument => chars "unrecognized option '" ++ argument ++ ['\'']
  | ambiguous argument names =>
    chars "option '" ++ argument ++ chars "' is ambiguous; possibilities:" ++
      names.flatMap fun n => chars (" '--" ++ n ++ "'")
  | noValue c => chars "option requires an argument -- '" ++ [c, '\'']
  | noWordValue name => chars ("option '--" ++ name ++ "' requires an argument")
  | extraValue name => chars ("option '--" ++ name ++ "' doesn't allow an argument")

/-- Options with their values, and operands. -/
structure Given where
  /-- The options, in order. -/
  options : List (Char × List Char) := []
  /-- The operands, in order. -/
  operands : List (List Char) := []

namespace Given

/-- Whether an option is given. -/
def has (g : Given) (c : Char) : Bool := g.options.any (·.1 = c)

/-- The last value of an option. -/
def value? (g : Given) (c : Char) : Option (List Char) :=
  (g.options.reverse.find? fun o => o.1 = c).map (·.2)

/-- All values of an option. -/
def values (g : Given) (c : Char) : List (List Char) :=
  (g.options.filter fun o => o.1 = c).map (·.2)

/-- The last of some options that is given. -/
def lastOf? (g : Given) (letters : List Char) : Option Char :=
  (g.options.reverse.find? fun o => letters.contains o.1).map (·.1)

end Given

namespace OptionForms

/-- The options that are told in a text: each letter is followed by a colon if it has a value, and
by two if it may have one. -/
def lettersOf : List Char → List (Char × OptionValue)
  | [] => []
  | c :: ':' :: ':' :: s => (c, .optional) :: lettersOf s
  | c :: ':' :: s => (c, .required) :: lettersOf s
  | c :: s => (c, .none) :: lettersOf s

/-- The options of letters and long names; a long name has a value if its letter has one. A plus in
front of the letters says that the first operand ends the options. -/
def of (letters : String) (words : List (String × Char)) : OptionForms :=
  let (leading, text) := match letters.toList with
    | '+' :: s => (true, s)
    | s => (false, s)
  let letters := lettersOf text
  { letters, leading
    words := words.map fun (name, c) =>
      (name, c, ((letters.find? fun l => l.1 = c).map (·.2)).getD .none) }

/-- The options of one argument of letters, with whether the last one takes the next argument as its
value. -/
def readLetters (forms : OptionForms) :
    List Char → Except OptionMistake (List (Char × List Char) × Bool)
  | [] => .ok ([], false)
  | c :: s =>
    match forms.letters.find? fun l => l.1 = c with
    | none => .error (.letter c)
    | some (_, .none) => do
      let (others, waits) ← readLetters forms s
      return ((c, []) :: others, waits)
    | some (_, .required) => .ok ([(c, s)], s.isEmpty)
    | some (_, .optional) => .ok ([(c, s)], false)

/-- The option of a long name, which may be shortened, and whether it takes the next argument as its
value. -/
def readWord (forms : OptionForms) (argument : List Char) :
    Except OptionMistake ((Char × List Char) × Bool) :=
  let name := argument.takeWhile (· != '=')
  let value := (argument.drop name.length).tail?
  let known := forms.words.filter fun w => name.isPrefixOf w.1.toList
  let exact := known.find? fun w => w.1.toList = name
  let letters := (known.map (·.2.1)).eraseDups
  match exact.or (if letters.length = 1 then known.head? else none) with
  | none =>
    if known.isEmpty then .error (.word ('-' :: '-' :: name))
    else .error (.ambiguous ('-' :: '-' :: name) (known.map (·.1)))
  | some (word, c, .none) =>
    if value.isSome then .error (.extraValue word) else .ok ((c, []), false)
  | some (_, c, .optional) => .ok ((c, value.getD []), false)
  | some (_, c, .required) => .ok ((c, value.getD []), value.isNone)

/-- The options and operands among arguments. -/
def read (forms : OptionForms) : List (List Char) → Except OptionMistake Given
  | [] => .ok {}
  | ['-', '-'] :: rest => .ok { operands := rest }
  | arg :: rest =>
    let isOption := match arg with
      | '-' :: _ :: _ => true
      | _ => false
    if !isOption then
      if forms.leading then .ok { operands := arg :: rest }
      else do
        let g ← read forms rest
        return { g with operands := arg :: g.operands }
    else do
      let isWord := arg[1]? = some '-'
      let (options, waits) ←
        if isWord then do
          let (option, waits) ← forms.readWord (arg.drop 2)
          pure ([option], waits)
        else forms.readLetters arg.tail
      if waits then
        let (letter, _) := options.getLastD (' ', [])
        match rest with
        | value :: rest =>
          let g ← read forms rest
          return { g with options := options.dropLast ++ (letter, value) :: g.options }
        | [] =>
          throw (if isWord then
            .noWordValue (((forms.words.find? fun w => w.2.1 = letter).map (·.1)).getD "")
            else .noValue letter)
      else
        let g ← read forms rest
        return { g with options := options ++ g.options }

end OptionForms

/-- The advice behind a complaint about arguments. -/
def helpAdvice (name : String) : List Char :=
  chars ("Try '" ++ name ++ " --help' for more information.\n")

/-- A tool whose arguments are read as options and operands; a mistake in them has a status. -/
def withOptions (name : String) (forms : OptionForms) (status : Nat)
    (act : Given → List Char → Disk → Effect) : Tool :=
  fun args input disk =>
    match forms.read args with
    | .ok g => act g input disk
    | .error mistake =>
      { disk, status
        err := chars name ++ chars ": " ++ mistake.message ++ '\n' :: helpAdvice name }

/-- The effect of a tool that complains about its arguments. -/
def usageMistake (name : String) (status : Nat) (text : List Char) (disk : Disk) : Effect :=
  { disk, status, err := chars name ++ chars ": " ++ text ++ '\n' :: helpAdvice name }

end ScriptSuite.Shell
