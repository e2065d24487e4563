import ScriptSuite.Json.Basic

/-!
# TOML strings

Strings are written in two ways, with escapes between double quotes and without between single
quotes, and each of them also between three quotes, where it may run over several lines. A break
right behind the three quotes does not count. Up to two quotes may stand in front of the closing
three.

## Main definitions

* `Toml.basicFrom`, `Toml.literalFrom`: strings on one line.
* `Toml.basicLinesFrom`, `Toml.literalLinesFrom`: strings on several lines.
* `Toml.string?`: a string of any kind.
-/

namespace ScriptSuite.Toml

/-- Whether a character may stand in a string or in a comment. -/
def isText (c : Char) : Bool :=
  c = '\t' || (0x20 ≤ c.toNat && c.toNat ≠ 0x7F)

/-- Whether a character is a space or a tab. -/
def isSpacing (c : Char) : Bool :=
  c = ' ' || c = '\t'

/-- The text behind a line break. -/
def break? : List Char → Option (List Char)
  | '\n' :: s => some s
  | '\r' :: '\n' :: s => some s
  | _ => none

/-- The character that an escape of one letter stands for. -/
def escapedChar? (e : Char) : Option Char :=
  match e with
  | 'b' => some '\x08'
  | 't' => some '\t'
  | 'n' => some '\n'
  | 'f' => some '\x0c'
  | 'r' => some '\r'
  | '"' | '\\' => some e
  | _ => none

/-- The character of hexadecimal digits. -/
def hexChar? (digits : List Char) : Option Char :=
  (digits.foldlM (fun n c => (Json.hexValue? c).map (16 * n + ·)) 0).bind Json.scalar?

/-- Reads the rest of a string on one line with escapes; `read` is what was read, last first. -/
def basicFrom (read : List Char) : List Char → Option (List Char × List Char)
  | [] => none
  | '\\' :: 'u' :: a :: b :: c :: d :: s => do
    basicFrom ((← hexChar? [a, b, c, d]) :: read) s
  | '\\' :: 'U' :: a :: b :: c :: d :: e :: f :: g :: h :: s => do
    basicFrom ((← hexChar? [a, b, c, d, e, f, g, h]) :: read) s
  | '\\' :: e :: s => do
    basicFrom ((← escapedChar? e) :: read) s
  | c :: s =>
    if c = '"' then some (read.reverse, s)
    else if c = '\\' || !isText c then none
    else basicFrom (c :: read) s

/-- Reads the rest of a string on one line without escapes. -/
def literalFrom (read : List Char) : List Char → Option (List Char × List Char)
  | [] => none
  | c :: s =>
    if c = '\'' then some (read.reverse, s)
    else if isText c then literalFrom (c :: read) s
    else none

/-- Whether a backslash in front of a text ends its line. -/
def endsLine (s : List Char) : Bool :=
  (break? (s.dropWhile isSpacing)).isSome

/-- Reads the rest of a string on several lines with escapes. Behind a backslash that ends its line,
breaks and blanks are `skipping`. -/
def basicLinesFrom (skipping : Bool) (read : List Char) :
    List Char → Option (List Char × List Char)
  | [] => none
  | '"' :: '"' :: '"' :: '"' :: '"' :: s => some (('"' :: '"' :: read).reverse, s)
  | '"' :: '"' :: '"' :: '"' :: s => some (('"' :: read).reverse, s)
  | '"' :: '"' :: '"' :: s => some (read.reverse, s)
  | '\r' :: '\n' :: s => basicLinesFrom skipping (if skipping then read else '\n' :: read) s
  | '\\' :: 'u' :: a :: b :: c :: d :: s => do
    basicLinesFrom false ((← hexChar? [a, b, c, d]) :: read) s
  | '\\' :: 'U' :: a :: b :: c :: d :: e :: f :: g :: h :: s => do
    basicLinesFrom false ((← hexChar? [a, b, c, d, e, f, g, h]) :: read) s
  | '\\' :: e :: s =>
    if endsLine (e :: s) then basicLinesFrom true read (e :: s)
    else do basicLinesFrom false ((← escapedChar? e) :: read) s
  | c :: s =>
    if skipping && (isSpacing c || c = '\n') then basicLinesFrom true read s
    else if c = '\n' then basicLinesFrom false (c :: read) s
    else if c = '\\' || !isText c then none
    else basicLinesFrom false (c :: read) s

/-- Reads the rest of a string on several lines without escapes. -/
def literalLinesFrom (read : List Char) : List Char → Option (List Char × List Char)
  | [] => none
  | '\'' :: '\'' :: '\'' :: '\'' :: '\'' :: s => some (('\'' :: '\'' :: read).reverse, s)
  | '\'' :: '\'' :: '\'' :: '\'' :: s => some (('\'' :: read).reverse, s)
  | '\'' :: '\'' :: '\'' :: s => some (read.reverse, s)
  | '\r' :: '\n' :: s => literalLinesFrom ('\n' :: read) s
  | c :: s =>
    if c = '\n' || isText c then literalLinesFrom (c :: read) s
    else none

/-- Reads a string on one line. -/
def lineString? : List Char → Option (List Char × List Char)
  | '"' :: s => basicFrom [] s
  | '\'' :: s => literalFrom [] s
  | _ => none

/-- Reads a string. -/
def string? : List Char → Option (List Char × List Char)
  | '"' :: '"' :: '"' :: s => basicLinesFrom false [] ((break? s).getD s)
  | '\'' :: '\'' :: '\'' :: s => literalLinesFrom [] ((break? s).getD s)
  | s => lineString? s

end ScriptSuite.Toml
