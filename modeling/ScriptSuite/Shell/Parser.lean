import ScriptSuite.Shell.Syntax
import ScriptSuite.Text.Find

/-!
# Reading shell scripts

A script is read one line of commands at a time, so that a mistake further below does not keep what
stands above it from being run. The text for a `<<` redirection follows the line that holds it; it
is kept in a table, and the redirection knows its number.

Every reader gets a number of steps that is an upper bound for the depth of its recursion.

## Main definitions

* `Shell.Source`: what is left of a script.
* `Shell.nextLine`: the next line of commands.
* `Shell.SyntaxProblem`: why there is none.
-/

namespace ScriptSuite.Shell

/-- A text for a redirection that was announced and is not read yet. -/
structure Announced where
  /-- The line that ends the text. -/
  delimiter : List Char
  /-- Whether the text is taken as it is. -/
  verbatim : Bool
  /-- Whether tabs at the start of its lines do not count. -/
  stripTabs : Bool

/-- A text that was put in the place of a word. -/
structure Substituted where
  /-- The word. -/
  name : List Char
  /-- The number of characters that are left of the script behind the text. -/
  behind : Nat
  /-- Whether the word behind the text may be replaced, too. -/
  goesOn : Bool

/-- What is left of a script. -/
structure Source where
  /-- The text. -/
  rest : List Char
  /-- The number of the line, counted from one. -/
  line : Nat := 1
  /-- The texts that are announced, in order. -/
  announced : List Announced := []
  /-- The texts read so far, in order. -/
  texts : List Word := []
  /-- The texts that stand for words where a command starts. -/
  aliases : List (List Char × List Char) := []
  /-- The texts that were put in the place of words, the last one first. -/
  substituted : List Substituted := []

/-- Why a script cannot be read. -/
structure SyntaxProblem where
  /-- The line of the mistake. -/
  line : Nat
  /-- What is wrong. -/
  message : String

/-- A reader of a script. -/
abbrev Reader := StateT Source (Except SyntaxProblem)

/-- The words that have a meaning where a command may start. -/
def reserved : List String :=
  ["if", "then", "elif", "else", "fi", "while", "until", "do", "done", "for", "case", "esac", "in",
    "\x7b", "\x7d", "!"]

/-- The reserved words that end a list of commands. -/
def closers : List String :=
  ["then", "elif", "else", "fi", "do", "done", "esac", "\x7d"]

/-- Whether a character ends a word. -/
def endsWord (c : Char) : Bool :=
  [' ', '\t', '\n', ';', '&', '|', '<', '>', '(', ')'].contains c

/-- What a complaint calls the next part of a script. -/
def partName (rest : List Char) : String :=
  match rest with
  | [] => "end of file"
  | '\n' :: _ => "newline"
  | '<' :: _ | '>' :: _ => "redirection"
  | c :: s =>
    if endsWord c then
      let twice := s.head? = some c && [';', '&', '|'].contains c
      "\"" ++ String.ofList (if twice then [c, c] else [c]) ++ "\""
    else
      let text := String.ofList ((c :: s).takeWhile (!endsWord ·))
      if reserved.contains text && text != "in" then "\"" ++ text ++ "\"" else "word"

namespace Reader

/-- Gives up with a message. -/
def fail {α : Type} (message : String) : Reader α := do
  throw { line := (← get).line, message }

/-- Gives up because of what comes next; something else may have been `wanted`. -/
def unexpected {α : Type} (wanted : Option String) : Reader α := do
  let rest := (← get).rest.dropWhile fun c => c = ' ' || c = '\t'
  if rest.head? = some '\n' then modify fun s => { s with line := s.line + 1 }
  fail ("Syntax error: " ++ partName rest ++ " unexpected" ++
    (match wanted with
      | some "word" => " (expecting word)"
      | some w => " (expecting \"" ++ w ++ "\")"
      | none => ""))

/-- The next characters, up to a number. -/
def peek (n : Nat) : Reader (List Char) := do
  return (← get).rest.take n

/-- The next character. -/
def peekChar : Reader (Option Char) := do
  return (← get).rest.head?

/-- Passes over a number of characters. -/
def pass (n : Nat) : Reader Unit :=
  modify fun s => { s with
    rest := s.rest.drop n
    line := s.line + ((s.rest.take n).filter (· = '\n')).length }

/-- Passes over a text, which must follow. -/
def expect (text : String) (complaint : String) : Reader Unit := do
  if (← peek text.length) = text.toList then pass text.length
  else fail ("Syntax error: " ++ complaint)

/-- Passes over a closing bracket, which must follow. -/
def expectBracket : Reader Unit := do
  if (← peekChar) = some ')' then pass 1 else unexpected (some ")")

/-- The characters up to the first that is not in a class. -/
def takeWhile (p : Char → Bool) : Reader (List Char) := do
  let text := (← get).rest.takeWhile p
  pass text.length
  return text

end Reader

open Reader

/-! ### Characters -/

/-- Whether a character may start a name. -/
def isNameStart (c : Char) : Bool := c.isAlpha || c = '_'

/-- Whether a character may stand in a name. -/
def isNameChar (c : Char) : Bool := c.isAlphanum || c = '_'

/-- Whether a text is a name. -/
def isName (s : List Char) : Bool :=
  s.head?.any isNameStart && s.all isNameChar

/-- Whether a character names a parameter on its own. -/
def isSpecialParameter (c : Char) : Bool :=
  ['@', '*', '#', '?', '-', '$', '!'].contains c || c.isDigit

/-! ### Words -/

/-- Where a text stands, which decides what a backslash takes the meaning of. -/
inductive Place where
  /-- Outside of quotes. -/
  | plain
  /-- Between double quotes. -/
  | quotes
  /-- In a text for a redirection. -/
  | here
  /-- In an expression. -/
  | expression
  /-- In the braces of a parameter. -/
  | braces
  /-- In the braces of a parameter between double quotes. -/
  | quotedBraces
deriving DecidableEq, Repr

/-- What a complaint says when a place is never left. -/
def Place.unfinished : Place → String
  | quotes => "Unterminated quoted string"
  | expression => "Missing '))'"
  | _ => "Missing '\x7d'"

/-- Whether texts in a place count as quoted. -/
def Place.isQuoted : Place → Bool
  | plain | braces => false
  | quotes | here | expression | quotedBraces => true

/-- Whether a backslash in a place takes the meaning of a character. -/
def Place.escapes (p : Place) (c : Char) : Bool :=
  match p with
  | plain | braces => true
  | quotes => ['$', '\x60', '"', '\\'].contains c
  | quotedBraces => ['$', '\x60', '"', '\\', '\x7d'].contains c
  | here | expression => ['$', '\x60', '\\'].contains c

/-- Whether a character stands for itself in a place, wherever it stands there. -/
def Place.isOrdinary (p : Place) (c : Char) : Bool :=
  !(['\\', '$', '\x60', '"', '\'', '(', ')', '\x7d'].contains c) && (p.isQuoted || !endsWord c)

/-- Adds a text to the parts of a word, of which the last one comes first. -/
def addText (quoted : Bool) (text : List Char) : List Part → List Part
  | .literal q t :: rest =>
    if q = quoted then .literal q (t ++ text) :: rest
    else .literal quoted text :: .literal q t :: rest
  | parts => .literal quoted text :: parts

/-- The text between backquotes, and what follows: a backslash takes the meaning of a dollar sign, a
backquote and a backslash, and that of a double quote between double quotes. -/
def backquoted? (inQuotes : Bool) : List Char → Option (List Char × List Char)
  | [] => none
  | '\\' :: c :: s =>
    let isMeant := ['$', '\x60', '\\'].contains c || (inQuotes && c = '"')
    (backquoted? inQuotes s).map fun (body, rest) =>
      (if isMeant then (c :: body, rest) else ('\\' :: c :: body, rest))
  | c :: s =>
    if c = '\x60' then some ([], s)
    else (backquoted? inQuotes s).map fun (body, rest) => (c :: body, rest)

/-- Passes over blanks, over a comment, and over line ends behind a backslash. -/
def skipBlanks (steps : Nat) : Reader Unit :=
  match steps with
  | 0 => fail "Syntax error"
  | steps + 1 => do
    match ← peek 2 with
    | ['\\', '\n'] => pass 2; skipBlanks steps
    | ' ' :: _ | '\t' :: _ => pass 1; skipBlanks steps
    | '#' :: _ => discard <| takeWhile (· != '\n')
    | _ => return

/-- The lines of an announced text, and what follows it. -/
def bodyOf (a : Announced) (lines : List (List Char)) : List (List Char) × List (List Char) :=
  match lines with
  | [] | [[]] => ([], [])
  | line :: rest =>
    let line := if a.stripTabs then line.dropWhile (· = '\t') else line
    if line = a.delimiter then ([], rest)
    else
      let (body, behind) := bodyOf a rest
      (line :: body, behind)

/-- The reserved word that follows blanks, if one does. -/
def keyword (steps : Nat) : Reader (Option String) := do
  skipBlanks steps
  let text := (← get).rest.takeWhile (!endsWord ·)
  return reserved.find? fun k => k.toList = text

/-- Passes over a reserved word that follows. -/
def passWord (k : String) : Reader Unit := pass k.length

/-- The commands whose arguments assign values. -/
def declarations : List String := ["export", "local", "readonly"]

/-- The name and the value of a word that assigns one. -/
def assigned? (w : Word) : Option (List Char × Word) :=
  match w with
  | .literal false text :: rest => (Text.cut ['='] text).bind fun (name, value) =>
      if isName name then
        some (name, (if value.isEmpty then rest else .literal false value :: rest))
      else none
  | _ => none

/-- Puts the text in the place of the next word that stands for it, unless that word comes from such
a text for the same word. -/
def substitute : Reader Bool := do
  let s ← get
  if s.aliases.isEmpty then return false
  let name := s.rest.takeWhile (!endsWord ·)
  let active := s.substituted.filter fun r => r.behind < s.rest.length
  match s.aliases.find? fun a => a.1 = name && !active.any fun r => r.name = name with
  | none => return false
  | some (_, text) =>
    let rest := s.rest.drop name.length
    let goesOn := text.getLast?.any fun c => c = ' ' || c = '\t'
    set { s with
      rest := text ++ rest
      substituted := { name, behind := rest.length, goesOn } :: active }
    return true

/-- Whether a text that was put in the place of a word ends here, so that the next word may be
replaced, too. -/
def leavesSubstituted : Reader Bool := do
  let s ← get
  let (left, active) := s.substituted.partition fun r => s.rest.length ≤ r.behind
  unless left.isEmpty do set { s with substituted := active }
  return left.any (·.goesOn)

/-- The kind of fallback of a sign. -/
def fallbackOf? (c : Char) : Option Fallback :=
  match c with
  | '-' => some .instead
  | '=' => some .assign
  | '?' => some .complain
  | '+' => some .whenPresent
  | _ => none

mutual

/-- Reads the parts of a word in a place; `read` holds those read so far, last first, and `depth` is
the number of open brackets in an expression. -/
def parts (steps : Nat) (place : Place) (depth : Nat) (read : List Part) : Reader Word :=
  match steps with
  | 0 => fail "Syntax error"
  | steps + 1 => do
    let quoted := place.isQuoted
    let done : Word := read.reverse
    match ← peek 2 with
    | [] =>
      if place = .plain || place = .here then return done
      else fail ("Syntax error: " ++ place.unfinished)
    | ['\\', c] =>
      pass 2
      if c = '\n' then parts steps place depth read
      else if place.escapes c then parts steps place depth (addText true [c] read)
      else parts steps place depth (addText quoted ['\\', c] read)
    | c :: _ =>
      if place = .plain && endsWord c then return done
      else if place = .quotes && c = '"' then return done
      else if (place = .braces || place = .quotedBraces) && c = '\x7d' then return done
      else if place = .expression && depth = 0 && (← peek 2) = [')', ')'] then return done
      else if c = '$' then
        pass 1
        let next ← dollar steps quoted
        match next with
        | some part => parts steps place depth (part :: read)
        | none => parts steps place depth (addText quoted ['$'] read)
      else if c = '\x60' then
        pass 1
        let s ← get
        match backquoted? (place = .quotes || place = .quotedBraces) s.rest with
        | none =>
          modify fun t => { t with line := s.line + (s.rest.filter (· = '\n')).length }
          fail "Syntax error: EOF in backquote substitution"
        | some (body, rest) =>
          -- the lines of the text between the quotes are counted on their own
          set { s with rest := body, line := 1 }
          let inner ← commands steps
          if (← peekChar).isSome then unexpected none
          modify fun t => { t with
            rest, line := s.line + (body.filter (· = '\n')).length }
          parts steps place depth (.output quoted inner :: read)
      else if !quoted && c = '\'' then
        pass 1
        let text ← takeWhile (· != '\'')
        expect "'" "Unterminated quoted string"
        parts steps place depth (.literal true text :: read)
      else if (!quoted || place = .quotedBraces) && c = '"' then
        pass 1
        let inner ← parts steps .quotes 0 []
        expect "\"" "Unterminated quoted string"
        let inner := if inner.isEmpty then [.literal true []] else inner
        parts steps place depth (inner.reverse ++ read)
      else if place.isOrdinary c then
        let text ← takeWhile place.isOrdinary
        parts steps place depth (addText quoted text read)
      else
        pass 1
        let depth := if c = '(' then depth + 1 else if c = ')' then depth - 1 else depth
        parts steps place depth (addText quoted [c] read)

/-- Reads what follows a dollar sign; none if the sign stands for itself. -/
def dollar (steps : Nat) (quoted : Bool) : Reader (Option Part) :=
  match steps with
  | 0 => fail "Syntax error"
  | steps + 1 => do
    match ← peek 2 with
    | ['(', '('] =>
      pass 2
      let expression ← parts steps .expression 0 []
      expect "))" Place.expression.unfinished
      return some (.arithmetic quoted expression)
    | '(' :: _ =>
      pass 1
      let body ← commands steps
      expectBracket
      return some (.output quoted body)
    | '\x7b' :: _ =>
      pass 1
      let part ← parameter steps quoted
      unless (← peekChar) = some '\x7d' do fail "Bad substitution"
      pass 1
      return some part
    | c :: _ =>
      if isNameStart c then
        return some (.parameter quoted (← takeWhile isNameChar) .same)
      else if isSpecialParameter c then
        pass 1
        return some (.parameter quoted [c] .same)
      else return none
    | [] => return none

/-- Reads what stands between the braces of a parameter. -/
def parameter (steps : Nat) (quoted : Bool) : Reader Part :=
  match steps with
  | 0 => fail "Syntax error"
  | steps + 1 => do
    let name : Reader (List Char) := do
      match ← peekChar with
      | some c =>
        if isNameStart c then takeWhile isNameChar
        else if c.isDigit then takeWhile Char.isDigit
        else if isSpecialParameter c then pass 1; return [c]
        else fail "Bad substitution"
      | none => fail ("Syntax error: " ++ Place.braces.unfinished)
    match ← peek 2 with
    | ['#', c] =>
      if c != '\x7d' then
        pass 1
        return .parameter quoted (← name) .length
    | _ => pure ()
    let name ← name
    match ← peek 2 with
    | ['%', '%'] =>
      pass 2
      return .parameter quoted name (.cutBack true (← parts steps .braces 0 []))
    | ['#', '#'] =>
      pass 2
      return .parameter quoted name (.cutFront true (← parts steps .braces 0 []))
    | '%' :: _ =>
      pass 1
      return .parameter quoted name (.cutBack false (← parts steps .braces 0 []))
    | '#' :: _ =>
      pass 1
      return .parameter quoted name (.cutFront false (← parts steps .braces 0 []))
    | '\x7d' :: _ => return .parameter quoted name .same
    | first =>
      let (orEmpty, sign) := match first with
        | [':', c] => (true, some c)
        | c :: _ => (false, some c)
        | [] => (false, none)
      match sign.bind fallbackOf? with
      | some kind =>
        pass (if orEmpty then 2 else 1)
        let place : Place := if quoted then .quotedBraces else .braces
        return .parameter quoted name (.fallback orEmpty kind (← parts steps place 0 []))
      | none => fail (if sign.isNone || sign = some '\n' then
          "Syntax error: " ++ Place.braces.unfinished else "Bad substitution")

/-- Passes over a line end and the texts that were announced on the line. -/
def lineEnd (steps : Nat) : Reader Unit :=
  match steps with
  | 0 => fail "Syntax error"
  | steps + 1 => do
    unless (← peekChar) = some '\n' do unexpected none
    pass 1
    let s ← get
    set { s with announced := [] }
    texts steps s.announced

/-- Reads announced texts. -/
def texts (steps : Nat) (announced : List Announced) : Reader Unit :=
  match steps with
  | 0 => fail "Syntax error"
  | steps + 1 =>
    match announced with
    | [] => return
    | a :: others => do
      let s ← get
      let (body, behind) := bodyOf a (Text.splitOn ['\n'] s.rest)
      let text := body.flatMap (· ++ ['\n'])
      let rest := Text.join ['\n'] behind
      let line := s.line + body.length + 1
      let word ←
        if a.verbatim then pure [.literal true text]
        else
          set { s with rest := text }
          parts steps .here 0 []
      modify fun t => { t with rest, line, texts := t.texts ++ [word] }
      texts steps others

/-- Passes over blanks, comments and line ends. -/
def skipLines (steps : Nat) : Reader Unit :=
  match steps with
  | 0 => fail "Syntax error"
  | steps + 1 => do
    skipBlanks steps
    if (← peekChar) = some '\n' then
      lineEnd steps
      skipLines steps

/-- Reads a word behind blanks. -/
def word (steps : Nat) : Reader Word :=
  match steps with
  | 0 => fail "Syntax error"
  | steps + 1 => do
    skipBlanks steps
    let w ← parts steps .plain 0 []
    if w.isEmpty then unexpected none else return w.withHome

/-- Passes over a reserved word, which must follow. -/
def expectWord (steps : Nat) (k : String) : Reader Unit :=
  match steps with
  | 0 => fail "Syntax error"
  | steps + 1 => do
    skipLines steps
    if (← keyword steps) = some k then passWord k else unexpected (some k)

/-- Reads a redirection, if one follows. -/
def redirect? (steps : Nat) : Reader (Option Redirect) :=
  match steps with
  | 0 => fail "Syntax error"
  | steps + 1 => do
    skipBlanks steps
    let digits := (← get).rest.takeWhile Char.isDigit
    let behind := (← get).rest.drop digits.length
    if behind.head? != some '<' && behind.head? != some '>' then return none
    pass digits.length
    let stream (default : Nat) : Nat :=
      if digits.isEmpty then default
      else digits.foldl (fun n c => 10 * n + (c.toNat - 48)) 0
    let signs : List (String × Nat × RedirectKind) :=
      [(">>", 1, .append), (">&", 1, .copy), (">|", 1, .overwrite), (">", 1, .write),
        ("<&", 0, .copy), ("<", 0, .read)]
    if (← peek 2) = ['<', '<'] then
      pass 2
      let stripTabs := (← peekChar) = some '-'
      if stripTabs then pass 1
      let w ← word steps
      let verbatim := w.any fun p => match p with
        | .literal quoted _ => quoted
        | _ => false
      let delimiter := w.flatMap fun p => match p with
        | .literal _ text => text
        | _ => []
      let s ← get
      let index := s.texts.length + s.announced.length
      let a : Announced := { delimiter, verbatim, stripTabs }
      set { s with announced := s.announced ++ [a] }
      return some (.mk (stream 0) (.here index) [])
    else
      let next ← peek 2
      match signs.find? fun (sign, _) => sign.toList.isPrefixOf next with
      | some (sign, default, kind) =>
        pass sign.length
        let target ← word steps
        let isStream := match target.bare? with
          | some text => text = ['-'] || (text.length = 1 && text.all Char.isDigit)
          | none => true
        if kind = .copy && !isStream then
          modify fun s => { s with line := s.line + 1 }
          fail "Syntax error: Bad fd number"
        return some (.mk (stream default) kind target)
      | none => unexpected none

/-- Reads redirections. -/
def redirects (steps : Nat) : Reader (List Redirect) :=
  match steps with
  | 0 => fail "Syntax error"
  | steps + 1 => do
    match ← redirect? steps with
    | some r => return r :: (← redirects steps)
    | none => return []

/-- Reads the words, assignments and redirections of a simple command. -/
def simple (steps : Nat) (line : Nat) (assignments : List (List Char × Word)) (words : List Word)
    (redirects : List Redirect) : Reader Command :=
  match steps with
  | 0 => fail "Syntax error"
  | steps + 1 => do
    match ← redirect? steps with
    | some r => simple steps line assignments words (redirects ++ [r])
    | none =>
      match ← peekChar with
      | none => return .simple line assignments words redirects
      | some c =>
        if c = '(' then
          match words.head?.bind Word.bare? with
          | some name =>
            if words.length = 1 && assignments.isEmpty && redirects.isEmpty then
              pass 1
              skipBlanks steps
              match ← peekChar with
              | some c =>
                if endsWord c then expectBracket
                else fail "Syntax error: word unexpected (expecting \")\")"
              | none => expectBracket
              unless isName name do fail "Syntax error: Bad function name"
              skipLines steps
              return .function name (← command steps)
            else unexpected none
          | none => unexpected none
        else if endsWord c then return .simple line assignments words redirects
        else
          let maySubstitute ← if words.isEmpty then pure !assignments.isEmpty else leavesSubstituted
          let substituted ← if maySubstitute then substitute else pure false
          if substituted then simple steps line assignments words redirects
          else
            let w ← word steps
            -- a command stands on the line on which its first word ends
            let isFirst := words.isEmpty && assignments.isEmpty && redirects.isEmpty
            let here := (← get).line
            let line := if isFirst then here else line
            match assigned? w with
            | some (name, value) =>
              if words.isEmpty then
                simple steps line (assignments ++ [(name, value.withHomes)]) words redirects
              else
                let declares :=
                  ((words.head?.bind Word.bare?).map String.ofList).any declarations.contains
                let w := if declares then
                    (Word.literalFront (name ++ ['=']) value.withHomes).whole
                  else w
                simple steps line assignments (words ++ [w]) redirects
            | none => simple steps line assignments (words ++ [w]) redirects

/-- Reads the clauses of a choice by patterns. -/
def clauses (steps : Nat) : Reader (List (List Word × Command)) :=
  match steps with
  | 0 => fail "Syntax error"
  | steps + 1 => do
    skipLines steps
    if (← keyword steps) = some "esac" then
      passWord "esac"
      return []
    if (← peekChar) = some '(' then pass 1
    let patterns ← patterns steps
    let body ← commands steps
    skipLines steps
    if (← peek 2) = [';', ';'] then
      pass 2
      return (patterns, body) :: (← clauses steps)
    else if (← keyword steps) = some "esac" then
      passWord "esac"
      return [(patterns, body)]
    else unexpected (some ";;")

/-- Reads the patterns of a clause and the bracket behind them. -/
def patterns (steps : Nat) : Reader (List Word) :=
  match steps with
  | 0 => fail "Syntax error"
  | steps + 1 => do
    skipBlanks steps
    let w ← match ← peek 2 with
      | [] | ['\n'] | '\n' :: _ => unexpected (some ")")
      | c :: rest =>
        if endsWord c then do
          -- an operator stands for the empty pattern
          pass (if rest = [c] && [';', '&', '|'].contains c then 2 else 1)
          pure []
        else word steps
    skipBlanks steps
    match ← peekChar with
    | some '|' => pass 1; return w :: (← patterns steps)
    | some ')' => pass 1; return [w]
    | _ => unexpected (some ")")

/-- Reads what follows the condition of a choice. -/
def branches (steps : Nat) (condition : Command) : Reader Command :=
  match steps with
  | 0 => fail "Syntax error"
  | steps + 1 => do
    expectWord steps "then"
    let body ← block steps
    skipLines steps
    match ← keyword steps with
    | some "elif" =>
      passWord "elif"
      let next ← block steps
      return .choice condition body (some (← branches steps next))
    | some "else" =>
      passWord "else"
      let other ← block steps
      expectWord steps "fi"
      return .choice condition body (some other)
    | _ =>
      expectWord steps "fi"
      return .choice condition body none

/-- Reads the words of a loop over words. -/
def words (steps : Nat) : Reader (List Word) :=
  match steps with
  | 0 => fail "Syntax error"
  | steps + 1 => do
    skipBlanks steps
    match ← peekChar with
    | some c => if endsWord c then return [] else return (← word steps) :: (← words steps)
    | none => return []

/-- Reads a compound command, if one follows. -/
def compound? (steps : Nat) : Reader (Option Command) :=
  match steps with
  | 0 => fail "Syntax error"
  | steps + 1 => do
    skipBlanks steps
    if (← peekChar) = some '(' then
      pass 1
      let body ← block steps
      expectBracket
      return some (.subshell body)
    let line := (← get).line
    let body : Reader Command := do
      expectWord steps "do"
      let b ← block steps
      expectWord steps "done"
      return b
    match ← keyword steps with
    | some "\x7b" =>
      passWord "\x7b"
      let b ← block steps
      expectWord steps "\x7d"
      return some b
    | some "if" =>
      passWord "if"
      let condition ← block steps
      return some (← branches steps condition)
    | some "while" =>
      passWord "while"
      let condition ← block steps
      return some (.loop true condition (← body))
    | some "until" =>
      passWord "until"
      let condition ← block steps
      return some (.loop false condition (← body))
    | some "for" =>
      passWord "for"
      match (← word steps).bare?.filter isName with
      | none => fail "Syntax error: Bad for loop variable"
      | some name =>
        skipLines steps
        if (← keyword steps) = some "in" then
          passWord "in"
          let items ← words steps
          skipBlanks steps
          if (← peekChar) = some ';' then pass 1
          return some (.each line name (some items) (← body))
        else
          if (← peekChar) = some ';' then pass 1
          return some (.each line name none (← body))
    | some "case" =>
      passWord "case"
      skipBlanks steps
      if (← peekChar).all endsWord then unexpected (some "word")
      let w ← word steps
      skipLines steps
      expectWord steps "in"
      return some (.select line w (← clauses steps))
    | _ => return none

/-- Reads a command. -/
def command (steps : Nat) : Reader Command :=
  match steps with
  | 0 => fail "Syntax error"
  | steps + 1 => do
    let line := (← get).line
    match ← compound? steps with
    | some body =>
      let rs ← redirects steps
      return if rs.isEmpty then body else .redirected line body rs
    | none =>
      match ← keyword steps with
      | some "in" | none =>
        if ← substitute then command steps
        else
          let c ← simple steps (← get).line [] [] []
          match c with
          | .simple _ [] [] [] => unexpected none
          | c => return c
      | some _ => unexpected none

/-- Reads commands with bars between them. -/
def pipes (steps : Nat) : Reader (List Command) :=
  match steps with
  | 0 => fail "Syntax error"
  | steps + 1 => do
    let first ← command steps
    skipBlanks steps
    if (← peekChar) = some '|' && (← peek 2) != ['|', '|'] then
      pass 1
      skipLines steps
      return first :: (← pipes steps)
    else return [first]

/-- Reads a pipeline. -/
def pipeline (steps : Nat) : Reader Command :=
  match steps with
  | 0 => fail "Syntax error"
  | steps + 1 => do
    if (← keyword steps) = some "!" then
      passWord "!"
      return .negation (← pipeline steps)
    else
      match ← pipes steps with
      | [c] => return c
      | cs => return .pipeline cs

/-- Reads what follows a pipeline in a chain of pipelines. -/
def chain (steps : Nat) (first : Command) : Reader Command :=
  match steps with
  | 0 => fail "Syntax error"
  | steps + 1 => do
    skipBlanks steps
    match ← peek 2 with
    | ['&', '&'] =>
      pass 2
      skipLines steps
      chain steps (.andThen first (← pipeline steps))
    | ['|', '|'] =>
      pass 2
      skipLines steps
      chain steps (.orElse first (← pipeline steps))
    | _ => return first

/-- Reads the commands of a line. -/
def line (steps : Nat) : Reader (List Command) :=
  match steps with
  | 0 => fail "Syntax error"
  | steps + 1 => do
    skipBlanks steps
    let atEnd : Reader Bool := do
      match ← peek 2 with
      | [] | '\n' :: _ | ')' :: _ | [';', ';'] => return true
      | _ => return ((← keyword steps).any closers.contains)
    if ← atEnd then return []
    let c ← chain steps (← pipeline steps)
    skipBlanks steps
    match ← peek 2 with
    | [';', ';'] => return [c]
    | ';' :: _ => pass 1; return c :: (← line steps)
    | '&' :: _ => pass 1; return .background c :: (← line steps)
    | _ => if ← atEnd then return [c] else unexpected none

/-- Reads commands of which there must be one, unless the script ends. -/
def block (steps : Nat) : Reader Command :=
  match steps with
  | 0 => fail "Syntax error"
  | steps + 1 => do
    match ← commands steps with
    | .sequence [] => if (← peekChar).isSome then unexpected none else return .sequence []
    | c => return c

/-- Reads commands up to the end of the text, a closing bracket, two semicolons, or a reserved word
that ends a list of commands. -/
def commands (steps : Nat) : Reader Command :=
  match steps with
  | 0 => fail "Syntax error"
  | steps + 1 => do
    skipLines steps
    let cs ← line steps
    if (← peekChar) = some '\n' then
      match ← commands steps with
      | .sequence more => return .sequence (cs ++ more)
      | c => return .sequence (cs ++ [c])
    else return .sequence cs

end

/-- The next line of commands of a script with what follows it, if there is one. -/
def nextLine (s : Source) : Except SyntaxProblem (Option (List Command × Source)) := do
  let replaced := (s.aliases.map fun a => 10 * a.2.length + 10).foldl (· + ·) 0
  let steps := 20 * (s.rest.length + replaced) + 20
  let ((), s) ← skipLines steps s
  if s.rest.isEmpty then return none
  let (cs, s) ← line steps s
  if s.rest.isEmpty then return some (cs, s)
  let ((), s) ← lineEnd steps s
  return some (cs, s)

end ScriptSuite.Shell
