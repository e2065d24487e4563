import ScriptSuite.Disk.Basic
import ScriptSuite.Shell.Bytes

/-!
# Tools

The programs that scripts use: they read their arguments, their input and the disk, and print
something.

## Main definitions

* `Shell.Effect`: what a tool does.
* `Shell.Tool`: the tools.
* `Shell.readAll`, `Shell.filterTool`: reading files or the input.
* `Shell.optionsOf`: options of single letters.
-/

namespace ScriptSuite.Shell

/-- What a tool does. -/
structure Effect where
  /-- The disk behind it. -/
  disk : Disk
  /-- What it prints. -/
  out : List Char := []
  /-- What it complains about. -/
  err : List Char := []
  /-- How it ends: zero for a success. -/
  status : Nat := 0
  /-- How long it takes, in milliseconds. -/
  time : Nat := 0
  /-- What it leaves of the input, if it looks at the input at all. -/
  left : Option (List Char) := none

/-- A tool: its arguments, its input and the disk decide what it does. -/
abbrev Tool := List (List Char) → List Char → Disk → Effect

/-! ### Names in complaints -/

/-- Whether a character has a meaning in a shell, so that a name with it is quoted. -/
def isSpecialInNames (c : Char) : Bool :=
  [' ', '!', '"', '$', '&', '\'', '(', ')', '*', ';', '<', '=', '>', '?', '[', '\\', '^', '\x60',
    '|', ':'].contains c || c < ' ' || '\x7f' ≤ c

/-- The escape of a character that cannot be printed. -/
def escapeInName (c : Char) : List Char :=
  match c with
  | '\n' => ['\\', 'n']
  | '\t' => ['\\', 't']
  | '\r' => ['\\', 'r']
  | '\x07' => ['\\', 'a']
  | '\x08' => ['\\', 'b']
  | '\x0b' => ['\\', 'v']
  | '\x0c' => ['\\', 'f']
  | c =>
    let ds := Nat.toDigits 8 c.toNat
    '\\' :: (List.replicate (3 - ds.length) '0' ++ ds)

/-- The inside of a name between single quotes: a quote is put outside of them, and characters that
cannot be printed are put between quotes of their own behind a dollar sign. `outside` tells whether
the text stands there. -/
def quotedInside (outside : Bool) : List Char → List Char
  | [] => ['\'']
  | c :: s =>
    let isOdd := c < ' ' || '\x7f' ≤ c
    if isOdd then
      (if outside then [] else ['\'', '$', '\'']) ++ escapeInName c ++ quotedInside true s
    else
      (if outside then ['\'', '\''] else []) ++
        (if c = '\'' then ['\'', '\\', '\'', '\''] else [c]) ++ quotedInside false s

/-- A name between quotes. -/
def quoted (name : List Char) : List Char :=
  let plain := name.all fun c => c = '\'' || c = ':' || !isSpecialInNames c
  if name.contains '\'' && plain then '"' :: name ++ ['"']
  else '\'' :: quotedInside false name

/-- A name that is quoted only if it has to be. -/
def quotedIfNeeded (name : List Char) : List Char :=
  let needed := name.isEmpty || name.any isSpecialInNames ||
    name.head? = some '#' || name.head? = some '~'
  if needed then quoted name else name

/-- The line of a complaint about a file. -/
def complaint (name : String) (subject : List Char) (f : DiskFailure) : List Char :=
  chars name ++ [':', ' '] ++ subject ++ chars s!": {f.reason}\n"

/-- A name between quotes, behind what could not be done with it. -/
def quotedSubject (deed : String) (name : List Char) : List Char :=
  chars deed ++ quoted name

/-- The effect of a tool that complains that an operand is missing. -/
def missingOperand (name : String) (disk : Disk) : Effect :=
  { disk, status := 1
    err := chars (name ++ ": missing operand\n" ++
      "Try '" ++ name ++ " --help' for more information.\n") }

/-- The bytes of a file, or of the input for a dash. -/
def readFile (input : List Char) (d : Disk) (path : List Char) : Except DiskFailure (List Char) :=
  if path = ['-'] then .ok input
  else if path = chars "/dev/null" then .ok []
  else (d.read (toString path)).map ofBytes

/-- What is read from files. -/
structure Texts where
  /-- The files that could be read, with their texts. -/
  texts : List (List Char × List Char)
  /-- The complaints about the others. -/
  err : List Char
  /-- What is left of the input, if it was looked at. -/
  left : Option (List Char)

/-- Reads all files, or the input if there are none. `subject` is how a complaint names a file. -/
def readAll (name : String) (subject : List Char → List Char) (paths : List (List Char))
    (input : List Char) (d : Disk) : Texts :=
  let left := if paths.isEmpty || paths.contains ['-'] then some [] else none
  if paths.isEmpty then { texts := [([], input)], err := [], left }
  else
    let (texts, err) := paths.foldr (fun path (texts, err) =>
      match readFile input d path with
      | .ok text => ((path, text) :: texts, err)
      | .error f => (texts, complaint name (subject path) f ++ err)) ([], [])
    { texts, err, left }

/-- The status of a tool that may have complained. -/
def statusOf (err : List Char) : Nat := if err.isEmpty then 0 else 1

/-- A tool that prints the texts of files one behind the other after changing them. -/
def filterTool (name : String) (subject : List Char → List Char) (f : List Char → List Char)
    (paths : List (List Char)) : Tool :=
  fun _ input disk =>
    let r := readAll name subject paths input disk
    { disk, out := f (r.texts.flatMap (·.2)), err := r.err, status := statusOf r.err
      left := r.left }

/-- Options of single letters, some of which take a value: each option with its value, and the other
arguments. -/
def options (withValue : List Char) (steps : Nat) (args : List (List Char)) :
    List (Char × List Char) × List (List Char) :=
  match steps with
  | 0 => ([], args)
  | steps + 1 =>
    match args with
    | ['-', '-'] :: rest => ([], rest)
    | ('-' :: c :: s) :: rest =>
      if withValue.contains c then
        let (value, rest) := if s.isEmpty then (rest.headD [], rest.tail) else (s, rest)
        let (os, others) := options withValue steps rest
        ((c, value) :: os, others)
      else
        let (os, others) :=
          options withValue steps (if s.isEmpty then rest else ('-' :: s) :: rest)
        ((c, []) :: os, others)
    | arg :: rest =>
      let (os, others) := options withValue steps rest
      (os, arg :: others)
    | [] => ([], [])

/-- The options and the other arguments of a tool. -/
def optionsOf (withValue : String) (args : List (List Char)) :
    List (Char × List Char) × List (List Char) :=
  options withValue.toList (args.foldr (fun a total => a.length + 1 + total) 1) args

/-- A text without the line end behind it. -/
def withoutLineEnd (line : List Char) : List Char :=
  line.takeWhile (· != '\n')

/-- A number in a column on the right. -/
def column (width n : Nat) : List Char :=
  let ds := Nat.toDigits 10 n
  List.replicate (width - ds.length) ' ' ++ ds

/-- The milliseconds of a text for a number of seconds, or of another unit. -/
def milliseconds? (s : List Char) : Option Nat :=
  let whole := s.takeWhile Char.isDigit
  let (part, unit) := match s.drop whole.length with
    | '.' :: rest => (rest.takeWhile Char.isDigit, rest.dropWhile Char.isDigit)
    | rest => ([], rest)
  let ms := 1000 * decimal whole + decimal ((part ++ ['0', '0', '0']).take 3)
  if whole.isEmpty && part.isEmpty then
    if [chars "inf", chars "infinity"].contains s then some 1000000000000000 else none
  else
    match toString unit with
    | "" | "s" => some ms
    | "m" => some (60 * ms)
    | "h" => some (3600 * ms)
    | "d" => some (86400 * ms)
    | _ => none

/-! ### Names -/

/-- The last component of a path without a suffix. -/
def basename (path suffix : List Char) : List Char :=
  let trimmed := (path.reverse.dropWhile (· = '/')).reverse
  if trimmed.isEmpty then (if path.isEmpty then [] else ['/'])
  else
    let name := (trimmed.reverse.takeWhile (· != '/')).reverse
    if suffix.isSuffixOf name && suffix != name then name.take (name.length - suffix.length)
    else name

/-- A path without its last component. -/
def dirname (path : List Char) : List Char :=
  let r := path.reverse.dropWhile (· = '/')
  let front := r.dropWhile (· != '/')
  let dir := (front.dropWhile (· = '/')).reverse
  if !dir.isEmpty then dir
  else if front.isEmpty && !(r.isEmpty && !path.isEmpty) then ['.']
  else ['/']

end ScriptSuite.Shell
