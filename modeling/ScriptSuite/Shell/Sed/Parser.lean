import ScriptSuite.Shell.Regex.Parser
import ScriptSuite.Shell.Sed.Rule
import ScriptSuite.Decimal.Scientific

/-!
# Reading editing scripts

A script is a text with one or more rules on each of its lines. Where a mistake is found, the number
of characters up to it is told.

## Main definitions

* `Sed.Mistake`: why a text is no script, and what is left of it there.
* `Sed.parse`: the rules of a script.
-/

namespace ScriptSuite.Shell.Sed

/-- Why a text is no script. -/
structure Mistake where
  /-- What is wrong. -/
  message : List Char
  /-- The length of what is left of the script; none if the mistake has no place. -/
  left : Option Nat

/-- A reader of scripts. -/
abbrev Reader := StateT (List Char) (Except Mistake)

namespace Reader

/-- Gives up in front of what is left. -/
def fail {α : Type} (message : String) : Reader α := do
  throw { message := message.toList, left := some (← get).length }

/-- The next character, which is passed over. -/
def next? : Reader (Option Char) := do
  match ← get with
  | [] => return none
  | c :: s =>
    set s
    return some c

/-- Passes over characters of a class. -/
def skip (p : Char → Bool) : Reader Unit := modify fun s => s.dropWhile p

/-- The characters of a class at the front, which are passed over. -/
def takeWhile (p : Char → Bool) : Reader (List Char) := do
  let s ← get
  set (s.dropWhile p)
  return s.takeWhile p

end Reader

/-- Whether a character is a blank within a line. -/
def isBlank (c : Char) : Bool := c = ' ' || c = '\t'

/-- Whether a character is a blank. -/
def isSpace (c : Char) : Bool := c = ' ' || ('\t' ≤ c && c ≤ '\r')

/-- Whether a backslash in front of a delimiter stays, and which character follows it. -/
def afterBackslash (inRegex : Bool) (delimiter c : Char) : List Char :=
  if inRegex && c = 'n' then ['\n']
  else if c = '\n' then if inRegex then ['\n'] else ['\\', '\n']
  else if c = delimiter && (inRegex || c != '&') then [c]
  else ['\\', c]

/-- Where a character of an expression stands. -/
inductive BracketState where
  /-- Outside of brackets. -/
  | outside
  /-- Behind an opening bracket. -/
  | opened
  /-- Behind an opening bracket with the sign of a negation. -/
  | negated
  /-- Between brackets. -/
  | inside
deriving DecidableEq, Repr

/-- Where the next character stands. A closing bracket that comes first does not close. -/
def BracketState.step (c : Char) : BracketState → BracketState
  | outside => if c = '[' then opened else outside
  | opened => if c = '^' then negated else inside
  | negated => inside
  | inside => if c = ']' then outside else inside

/-- A text up to a delimiter that has no backslash in front, and what follows it. In an expression
the delimiter does not count between brackets, and a line end may not stand. -/
def delimited? (inRegex : Bool) (delimiter : Char) (state : BracketState) :
    List Char → Option (List Char × List Char)
  | [] => none
  | '\\' :: c :: s =>
    if state = .outside || c = 'n' then
      (delimited? inRegex delimiter state s).map fun (t, s) =>
        (afterBackslash inRegex delimiter c ++ t, s)
    else (delimited? inRegex delimiter .inside (c :: s)).map fun (t, s) => ('\\' :: t, s)
  | c :: s =>
    if c = delimiter && state = .outside then some ([], s)
    else if inRegex && c = '\n' then none
    else
      (delimited? inRegex delimiter (if inRegex then state.step c else state) s).map fun (t, s) =>
        (c :: t, s)

/-- The value of digits to a base of at most 16. -/
def digitsToNat (base : Nat) (ds : List Char) : Nat :=
  ds.foldl (fun n c => base * n + Decimal.hexValue c) 0

/-- The character of a number that an escape tells with its digits, and what follows it. -/
def numbered? (s : List Char) : Option (Char × List Char) :=
  let cut (base count : Nat) (p : Char → Bool) (s : List Char) : Option (Char × List Char) :=
    let ds := (s.take count).takeWhile p
    if ds.isEmpty then none else some (Char.ofNat (digitsToNat base ds % 256), s.drop ds.length)
  match s with
  | 'x' :: s => cut 16 2 Decimal.isHexDigit s
  | 'o' :: s => cut 8 3 (fun c => '0' ≤ c && c ≤ '7') s
  | 'd' :: s => cut 10 3 Char.isDigit s
  | _ => none

/-- The character that an escape with a letter stands for. -/
def lettered? (c : Char) : Option Char :=
  match c with
  | 'a' => some '\x07'
  | 'f' => some '\x0c'
  | 't' => some '\t'
  | 'r' => some '\r'
  | 'v' => some '\x0b'
  | _ => none

/-- An expression with its escapes of letters and numbers replaced. What such a number stands for
has no meaning of its own. -/
def unescapedRegex (steps : Nat) (s : List Char) : List Char :=
  match steps, s with
  | 0, _ | _, [] => s
  | steps + 1, '\\' :: c :: s =>
    match lettered? c with
    | some d => d :: unescapedRegex steps s
    | none =>
      match numbered? (c :: s) with
      | some (d, rest) =>
        let special := ['.', '*', '[', ']', '^', '$', '\\', '/'].contains d
        (if special then ['\\', d] else [d]) ++ unescapedRegex steps rest
      | none => '\\' :: c :: unescapedRegex steps s
  | steps + 1, c :: s => c :: unescapedRegex steps s

/-- The parts of a text that takes the place of a match. -/
def pieces (steps : Nat) (s : List Char) : List Piece :=
  match steps, s with
  | 0, _ | _, [] => []
  | steps + 1, '\\' :: c :: s =>
    let case? : Option CaseChange := match c with
      | 'U' => some .upper
      | 'L' => some .lower
      | 'u' => some .upperNext
      | 'l' => some .lowerNext
      | 'E' => some .stop
      | _ => none
    match case? with
    | some change => .case change :: pieces steps s
    | none =>
      if c.isDigit then .group (c.toNat - '0'.toNat) :: pieces steps s
      else
        match numbered? (c :: s) with
        | some (d, rest) => .char d :: pieces steps rest
        | none =>
          .char (if c = 'n' then '\n' else (lettered? c).getD c) :: pieces steps s
  | steps + 1, '&' :: s => .group 0 :: pieces steps s
  | steps + 1, c :: s => .char c :: pieces steps s

/-- The largest group that a replacement refers to. -/
def lastGroup (value : List Piece) : Nat :=
  value.foldl (fun n p => match p with
    | .group index => max n index
    | _ => n) 0

/-- The expression of a text; an empty text is none. -/
def regexOf (d : Regex.Dialect) (flags text : List Char) : Reader (Option Regex) := do
  if text.isEmpty then return none
  match Regex.parse d false (unescapedRegex (text.length + 1) text) with
  | .ok r =>
    let r := if flags.contains 'I' || flags.contains 'i' then r.ignoringCase else r
    return some (if flags.contains 'M' || flags.contains 'm' then r.byLines else r)
  | .error problem => Reader.fail problem.message

/-- Reads a number. -/
def number : Reader Nat := do return decimal (← Reader.takeWhile Char.isDigit)

/-- Reads an address, if there is one. -/
def address? (d : Regex.Dialect) : Reader (Option Address) := do
  let matching (delimiter : Char) (s : List Char) : Reader (Option Address) := do
    match delimited? true delimiter .outside s with
    | none =>
      set ([] : List Char)
      Reader.fail "unterminated address regex"
    | some (text, rest) =>
      set rest
      let flags ← Reader.takeWhile fun c => c = 'I' || c = 'M'
      return some (.matching (← regexOf d flags text))
  match ← get with
  | '$' :: s =>
    set s
    return some .last
  | '/' :: s => matching '/' s
  | '\\' :: c :: s => matching c s
  | c :: _ =>
    if c.isDigit then
      let n ← number
      match ← get with
      | '~' :: s =>
        set s
        return some (.step n (← number))
      | _ => return some (.line n)
    else return none
  | [] => return none

/-- Reads where a range ends. -/
def rangeEnd (d : Regex.Dialect) : Reader RangeEnd := do
  match ← get with
  | '+' :: s =>
    set s
    return .lines (← number)
  | '~' :: s =>
    set s
    return .multiple (← number)
  | _ =>
    match ← address? d with
    | some a => return .address a
    | none => Reader.fail "unexpected \x60,'"

/-- Reads which lines a rule is for. -/
def selection (d : Regex.Dialect) : Reader Selection := do
  match ← address? d with
  | none => return .all
  | some start =>
    Reader.skip isBlank
    match ← get with
    | ',' :: s =>
      set s
      Reader.skip isBlank
      let stop ← rangeEnd d
      match start, stop with
      | .line 0, .address (.matching _) => return .range start stop
      | .line 0, _ =>
        discard Reader.next?
        Reader.fail "invalid usage of line address 0"
      | _, _ => return .range start stop
    | _ =>
      match start with
      | .line 0 =>
        discard Reader.next?
        Reader.fail "invalid usage of line address 0"
      | _ => return .one start

/-- Passes over the end of a command. -/
def endOfCommand : Reader Unit := do
  Reader.skip isBlank
  match ← get with
  | [] | '}' :: _ | '#' :: _ => return
  | ';' :: s | '\n' :: s => set s
  | _ =>
    discard Reader.next?
    Reader.fail "extra characters after command"

/-- The lines of a text that is printed, up to one without a backslash at its end; other backslashes
are taken away. -/
def textLines (steps : Nat) (s : List Char) : List Char × List Char :=
  match steps, s with
  | 0, _ | _, [] => ([], [])
  | _ + 1, '\n' :: s => ([], s)
  | steps + 1, '\\' :: c :: s =>
    let (d, s) := match numbered? (c :: s) with
      | some (d, rest) => (d, rest)
      | none => (if c = 'n' then '\n' else (lettered? c).getD c, s)
    let (t, s) := textLines steps s
    (d :: t, s)
  | steps + 1, c :: s =>
    let (t, s) := textLines steps s
    (c :: t, s)

/-- Reads the text of a command that prints one. It starts on the same line, or on the next one
behind a backslash. -/
def printedText : Reader (List Char) := do
  Reader.skip isBlank
  match ← get with
  | [] => Reader.fail "expected \\ after \x60a', \x60c' or \x60i'"
  | '\\' :: s =>
    let line := s.dropWhile isBlank
    set (match line with
      | '\n' :: rest => rest
      | _ => s)
  | _ => pure ()
  let s ← get
  let (text, rest) := textLines (s.length + 1) s
  set rest
  return if text.isEmpty then [] else text ++ ['\n']

/-- Reads the name of a mark. -/
def labelName : Reader (List Char) := do
  Reader.skip isBlank
  let name ← Reader.takeWhile fun c => !isSpace c && c != ';' && c != '\x7d'
  endOfCommand
  return name

/-- Reads the name of a file, up to the end of the line. -/
def fileName : Reader (List Char) := do
  Reader.skip isBlank
  let name ← Reader.takeWhile (· != '\n')
  if name.isEmpty then Reader.fail "missing filename in r/R/w/W commands"
  Reader.skip (· = '\n')
  return name

/-- Reads the flags of a substitution. -/
def substitutionFlags (steps : Nat) (s : Substitution) (counted : Bool) (letters : List Char) :
    Reader (Substitution × List Char) :=
  match steps with
  | 0 => return (s, letters)
  | steps + 1 => do
    match ← get with
    | [] | '}' :: _ | '#' :: _ => return (s, letters)
    | c :: rest =>
      if c.isDigit then
        let n ← number
        if n = 0 then Reader.fail "number option to \x60s' command may not be zero"
        if counted then Reader.fail "multiple number options to \x60s' command"
        substitutionFlags steps { s with count := n } true letters
      else
        set rest
        match c with
        | '\n' | ';' => return (s, letters)
        | ' ' => substitutionFlags steps s counted letters
        | 'g' =>
          if s.all then Reader.fail "multiple \x60g' options to \x60s' command"
          substitutionFlags steps { s with all := true } counted letters
        | 'p' =>
          if s.printing then Reader.fail "multiple \x60p' options to \x60s' command"
          substitutionFlags steps { s with printing := true } counted letters
        | 'i' | 'I' | 'm' | 'M' => substitutionFlags steps s counted (c :: letters)
        | 'w' => return ({ s with file := some (← fileName) }, letters)
        | _ => Reader.fail "unknown option to \x60s'"

/-- Reads a substitution behind its letter. -/
def substitution (d : Regex.Dialect) : Reader Substitution := do
  let unfinished {α : Type} : Reader α := do
    set ([] : List Char)
    Reader.fail "unterminated \x60s' command"
  match ← get with
  | [] => unfinished
  | delimiter :: s =>
    match delimited? true delimiter .outside s with
    | none => unfinished
    | some (text, s) =>
      match delimited? false delimiter .outside s with
      | none => unfinished
      | some (value, s) =>
        let value := pieces (value.length + 1) value
        set s
        let (found, letters) ←
          substitutionFlags (s.length + 1) { regex := none, value } false []
        let regex ← regexOf d letters text
        let last := lastGroup value
        if (regex.map Regex.groupCount).any (· < last) then
          Reader.fail s!"invalid reference \\{last} on \x60s' command's RHS"
        return { found with regex }

/-- Reads the characters of a translation behind its letter. -/
def translation : Reader (List (Char × Char)) := do
  let unfinished {α : Type} : Reader α := do
    set ([] : List Char)
    Reader.fail "unterminated \x60y' command"
  let plain (steps : Nat) (s : List Char) : List Char := (pieces steps s).filterMap fun
    | .char c => some c
    | _ => none
  let literal (s : List Char) : List Char :=
    plain (2 * s.length + 2) (s.flatMap fun c => if c = '&' then ['\\', '&'] else [c])
  match ← get with
  | [] => unfinished
  | delimiter :: s =>
    match delimited? false delimiter .outside s with
    | none => unfinished
    | some (source, s) =>
      match delimited? false delimiter .outside s with
      | none => unfinished
      | some (target, s) =>
        set s
        let source := literal source
        let target := literal target
        if source.length != target.length then
          Reader.fail "strings for \x60y' command are different lengths"
        endOfCommand
        return source.zip target

/-- Reads the number behind a command, if there is one. -/
def numberBehind? : Reader (Option Nat) := do
  Reader.skip isBlank
  let ds ← Reader.takeWhile Char.isDigit
  endOfCommand
  return if ds.isEmpty then none else some (decimal ds)

/-- Reads a command; `isAll` tells whether it is for all lines. -/
def deed (d : Regex.Dialect) (isAll : Bool) : Reader Deed := do
  let plain (deed : Deed) : Reader Deed := do
    endOfCommand
    return deed
  match ← Reader.next? with
  | none => Reader.fail "missing command"
  | some c =>
    match c with
    | '\x7b' => return .openBlock
    | '\x7d' =>
      unless isAll do Reader.fail "\x7d doesn't want any addresses"
      endOfCommand
      return .closeBlock
    | '#' =>
      unless isAll do Reader.fail "comments don't accept any addresses"
      Reader.skip (· != '\n')
      return .nothing
    | ':' =>
      unless isAll do Reader.fail ": doesn't want any addresses"
      Reader.skip isBlank
      let name ← Reader.takeWhile fun c => !isSpace c && c != ';'
      if name.isEmpty then Reader.fail "\":\" lacks a label"
      if name.getLast? = some '\x7d' then Reader.fail "unexpected \x60\x7d'"
      endOfCommand
      return .label name
    | 'b' => return .jump .always (← labelName)
    | 't' => return .jump .ifReplaced (← labelName)
    | 'T' => return .jump .unlessReplaced (← labelName)
    | 'a' => return .append (← printedText)
    | 'i' => return .insert (← printedText)
    | 'c' => return .change (← printedText)
    | 'd' => plain .delete
    | 'D' => plain .deleteFirst
    | 'p' => plain .print
    | 'P' => plain .printFirst
    | '=' => plain .number
    | 'F' => plain .fileName
    | 'g' => plain .get
    | 'G' => plain .getBehind
    | 'h' => plain .hold
    | 'H' => plain .holdBehind
    | 'x' => plain .exchange
    | 'z' => plain .empty
    | 'n' => plain .next
    | 'N' => plain .nextBehind
    | 'l' => return .list (← numberBehind?)
    | 'q' => return .quit true ((← numberBehind?).getD 0)
    | 'Q' => return .quit false ((← numberBehind?).getD 0)
    | 'r' => return .readFile (← fileName)
    | 'R' => return .readLine (← fileName)
    | 'w' => return .writeFile (← fileName)
    | 'W' => return .writeLine (← fileName)
    | 's' => return .substitute (← substitution d)
    | 'y' => return .translate (← translation)
    | 'v' =>
      discard labelName
      return .nothing
    | c => Reader.fail s!"unknown command: \x60{c}'"

/-- Reads the rules of a script; `depth` is the number of blocks that are not closed. -/
def rules (d : Regex.Dialect) (steps depth : Nat) : Reader (List Rule) :=
  match steps with
  | 0 => return []
  | steps + 1 => do
    Reader.skip fun c => isSpace c || c = ';'
    if (← get).isEmpty then
      if depth = 0 then return []
      else throw { message := "unmatched \x60\x7b'".toList, left := none }
    let chosen ← selection d
    Reader.skip isBlank
    let mut negated := false
    if (← get).head? = some '!' then
      discard Reader.next?
      Reader.skip isBlank
      if (← get).head? = some '!' then
        discard Reader.next?
        Reader.fail "multiple \x60!'s"
      negated := true
    if (← get).head? = some '\x7d' && depth = 0 then
      discard Reader.next?
      Reader.fail "unexpected \x60\x7d'"
    let isAll := match chosen with
      | .all => true
      | _ => false
    let act ← deed d isAll
    let depth := match act with
      | .openBlock => depth + 1
      | .closeBlock => depth - 1
      | _ => depth
    return { selection := chosen, negated, deed := act } :: (← rules d steps depth)

/-- The rules of a script. -/
def parse (d : Regex.Dialect) (script : List Char) : Except Mistake (List Rule) := do
  let (found, _) ← rules d (script.length + 1) 0 script
  let names := found.filterMap fun r => match r.deed with
    | .label name => some name
    | _ => none
  let missing := found.findSome? fun r => match r.deed with
    | .jump _ name => if name.isEmpty || names.contains name then none else some name
    | _ => none
  match missing with
  | some name =>
    throw { message := chars "can't find label for jump to \x60" ++ name ++ ['\''], left := none }
  | none => return found

end ScriptSuite.Shell.Sed
