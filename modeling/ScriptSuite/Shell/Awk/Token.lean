import ScriptSuite.Decimal.Scientific
import ScriptSuite.Shell.Bytes

/-!
# Tokens of programs that work on records

A slash starts a regular expression where a value is expected, and divides behind a value. A line
end is a token, as it may end a statement.

## Main definitions

* `Awk.Token`, `Awk.Lexeme`: the tokens, and tokens with their lines.
* `Awk.Problem`: why a text is no program.
* `Awk.tokens`: the tokens of a text.
-/

namespace ScriptSuite.Shell.Awk

/-- A token. -/
inductive Token where
  /-- A number. -/
  | number (x : Float)
  /-- A text. -/
  | text (s : List Char)
  /-- A regular expression. -/
  | regex (s : List Char)
  /-- A word. -/
  | word (s : List Char)
  /-- A name with a parenthesis directly behind it. -/
  | call (s : List Char)
  /-- A sign. -/
  | sign (s : String)
  /-- The end of a line. -/
  | lineEnd
deriving BEq

/-- A token with its line and its text. -/
structure Lexeme where
  /-- The token. -/
  token : Token
  /-- The line. -/
  line : Nat
  /-- The text. -/
  text : List Char

/-- Why a text is no program: what is said about it. -/
structure Problem where
  /-- The line. -/
  line : Nat
  /-- What is said. -/
  message : List Char

/-- The signs, the longest first. -/
def signs : List String :=
  ["&&", "||", "++", "--", "+=", "-=", "*=", "/=", "%=", "^=", "==", "!=", "<=", ">=", ">>", "!~",
    "\x7b", "\x7d", "(", ")", "[", "]", ";", ",", "+", "-", "*", "/", "%", "^", "!", ">", "<", "|",
    "?", ":", "~", "$", "="]

/-- Whether a character may stand in a name. -/
def isNameChar (c : Char) : Bool := c.isAlphanum || c = '_'

/-- Words that cannot end a value. -/
def words : List String :=
  ["BEGIN", "END", "break", "continue", "delete", "do", "else", "exit", "for", "function",
    "getline", "if", "in", "next", "nextfile", "print", "printf", "return", "while"]

/-- Whether a token may end a value, so that a slash behind it divides. -/
def Token.endsValue : Token → Bool
  | number _ | text _ | regex _ => true
  | word s => !words.contains (String.ofList s)
  | sign s => [")", "]", "$", "++", "--"].contains s
  | call _ | lineEnd => false

/-- What an escape in a text stands for, and what follows it. -/
def escaped (s : List Char) : List Char × List Char :=
  match s with
  | [] => (['\\'], [])
  | c :: rest =>
    let isOctal (c : Char) : Bool := '0' ≤ c && c ≤ '7'
    if isOctal c then
      let ds := (s.take 3).takeWhile isOctal
      ([Char.ofNat (ds.foldl (fun n d => 8 * n + (d.toNat - 48)) 0 % 256)], s.drop ds.length)
    else
      match c with
      | '"' => (['"'], rest)
      | '\\' => (['\\'], rest)
      | 'a' => (['\x07'], rest)
      | 'b' => (['\x08'], rest)
      | 'f' => (['\x0c'], rest)
      | 'n' => (['\n'], rest)
      | 'r' => (['\r'], rest)
      | 't' => (['\t'], rest)
      | 'v' => (['\x0b'], rest)
      | '\n' => ([], rest)
      | 'x' =>
        let ds := (rest.take 2).takeWhile Decimal.isHexDigit
        if ds.isEmpty then (['\\', 'x'], rest)
        else
          ([Char.ofNat (ds.foldl (fun n d => 16 * n + Decimal.hexValue d) 0 % 256)],
            rest.drop ds.length)
      | c => (['\\', c], rest)

/-- A text with its escapes replaced. -/
def unescaped (steps : Nat) (s : List Char) : List Char :=
  match steps with
  | 0 => s
  | steps + 1 =>
    match s with
    | [] => []
    | '\\' :: rest =>
      let (front, rest) := escaped rest
      front ++ unescaped steps rest
    | c :: rest => c :: unescaped steps rest

/-- The inside of a text up to its quote, as it is written, and what follows the quote. -/
def quotedText? : List Char → Option (List Char × List Char)
  | [] => none
  | '"' :: rest => some ([], rest)
  | '\\' :: c :: rest => (quotedText? rest).map fun (s, rest) => ('\\' :: c :: s, rest)
  | c :: rest =>
    if c = '\n' then none else (quotedText? rest).map fun (s, rest) => (c :: s, rest)

/-- The inside of a regular expression up to the slash that ends it, and what follows the slash.
`inside` tells whether the text stands in brackets, and `first` whether it is their start. -/
def slashedText? (inside first : Bool) : List Char → Option (List Char × List Char)
  | [] => none
  | '\\' :: '/' :: rest => (slashedText? inside false rest).map fun (s, rest) => ('/' :: s, rest)
  | '\\' :: c :: rest =>
    (slashedText? inside false rest).map fun (s, rest) => ('\\' :: c :: s, rest)
  | c :: rest =>
    if c = '\n' then none
    else if c = '/' && !inside then some ([], rest)
    else
      let (inside, first) :=
        if inside then (first || c != ']', first && c = '^') else (c = '[', c = '[')
      (slashedText? inside first rest).map fun (s, rest) => (c :: s, rest)

/-- Adds a token. -/
def lexeme (token : Token) (line : Nat) (s rest : List Char) : Lexeme :=
  { token, line, text := s.take (s.length - rest.length) }

/-- The tokens of a text. -/
def tokensFrom (steps line : Nat) (before : Option Token) (s : List Char) :
    Except Problem (List Lexeme) :=
  match steps with
  | 0 => .ok []
  | steps + 1 =>
    let add (token : Token) (rest : List Char) : Except Problem (List Lexeme) := do
      return lexeme token line s rest :: (← tokensFrom steps line (some token) rest)
    let cut (kind : String) : Except Problem (List Lexeme) :=
      .error {
        line
        message := chars kind ++ ' ' :: (s.takeWhile (· != '\n')).take 10 ++ chars " ..." }
    match s with
    | [] => .ok []
    | '\n' :: rest => do
      return lexeme .lineEnd line s rest :: (← tokensFrom steps (line + 1) (some .lineEnd) rest)
    | '\\' :: '\n' :: rest => tokensFrom steps (line + 1) before rest
    | '\\' :: '\r' :: '\n' :: rest => tokensFrom steps (line + 1) before rest
    | '#' :: rest => tokensFrom steps line before (rest.dropWhile (· != '\n'))
    | '"' :: rest =>
      match quotedText? rest with
      | some (text, rest) => add (.text (unescaped (text.length + 1) text)) rest
      | none => cut "runaway string constant"
    | c :: rest =>
      if c = ' ' || c = '\t' || c = '\r' then tokensFrom steps line before rest
      else if c.isDigit || (c = '.' && (rest.head?.any Char.isDigit)) then
        match Decimal.leadingDecimal? false s with
        | some (x, rest) => add (.number x) rest
        | none => tokensFrom steps line before rest
      else if isNameChar c then
        let name := s.takeWhile isNameChar
        let rest := s.drop name.length
        if rest.head? = some '(' && !words.contains (String.ofList name) then add (.call name) rest
        else add (.word name) rest
      else if c = '/' && !(before.any Token.endsValue) then
        match slashedText? false false rest with
        | some (text, rest) => add (.regex text) rest
        | none => cut "runaway regular expression"
      else
        match signs.find? fun sign => sign.toList.isPrefixOf s with
        | some sign => add (.sign sign) (s.drop sign.length)
        | none => .error { line, message := chars "unexpected character '" ++ [c, '\''] }

/-- The tokens of a text. -/
def tokens (s : List Char) : Except Problem (List Lexeme) :=
  tokensFrom (s.length + 1) 1 none s

end ScriptSuite.Shell.Awk
