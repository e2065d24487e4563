import ScriptSuite.Json.Basic
import ScriptSuite.Text.Word
import ScriptSuite.Yaml.Place

/-!
# YAML documents and scalars

A document is a tree of scalars, sequences and mappings. A scalar is known by its text and by
whether it was quoted, since only a scalar without quotes can stand for a number or for nothing.

A scalar may run over several lines. Blanks around a break then do not count, a single break counts
as a space, and of several breaks all but the first are kept.

## Main definitions

* `Yaml`: the documents.
* `Yaml.isNothing`, `Yaml.text?`, `Yaml.word?`: what a scalar can stand for.
* `Yaml.Gap`: the blanks and breaks between two words.
* `Yaml.plainFrom`, `Yaml.singleFrom`, `Yaml.doubleFrom`: the text of a scalar of each style, and
  the place behind it.
-/

namespace ScriptSuite

/-- A YAML document. -/
inductive Yaml where
  /-- A scalar with its text. -/
  | scalar (quoted : Bool) (text : List Char)
  /-- A sequence. -/
  | sequence (items : List Yaml)
  /-- A mapping. -/
  | mapping (entries : List (Yaml × Yaml))

namespace Yaml

/-- What stands where a node is left out. -/
def blank : Yaml := scalar false []

/-- Whether a document stands for nothing. -/
def isNothing : Yaml → Bool
  | scalar false text => [[], ['~']].contains text ||
      ["null", "Null", "NULL"].contains (String.ofList text)
  | _ => false

/-- The text of a scalar. -/
def text? : Yaml → Option String
  | scalar _ text => some (String.ofList text)
  | _ => none

/-- The value of digits to a base; there is at least one digit, and capitals are allowed. -/
def digits? (base : Nat) (s : List Char) : Option Nat :=
  if s.isEmpty then none
  else s.foldlM (fun n c =>
    (Json.hexValue? c).bind fun d => if d < base then some (base * n + d) else none) 0

/-- The number that an unsigned literal stands for. A literal of two or more decimal digits does not
start with zero. -/
def unsigned? : List Char → Option Nat
  | '0' :: 'x' :: s => digits? 16 s
  | '0' :: 'o' :: s => digits? 8 s
  | '0' :: 'b' :: s => digits? 2 s
  | ['0'] => some 0
  | '0' :: _ => none
  | s => digits? 10 s

/-- The 64-bit word that a scalar without quotes stands for; it may have a plus sign. -/
def word? : Yaml → Option UInt64
  | scalar false text => do
    let n ← unsigned? (if text.head? = some '+' then text.tail else text)
    if n < UInt64.size then return .ofNat n else none
  | _ => none

end Yaml

end ScriptSuite

namespace ScriptSuite.Yaml

/-- The blanks and breaks between two words of a scalar, last first. -/
structure Gap where
  /-- The blanks, as long as there is no break. -/
  blanks : List Char := []
  /-- The breaks. -/
  breaks : List Char := []
  /-- Whether the gap starts with a break that is escaped. -/
  escaped : Bool := false

namespace Gap

/-- The gap with one more blank. -/
def addBlank (g : Gap) (c : Char) : Gap :=
  if g.breaks.isEmpty && !g.escaped then { g with blanks := c :: g.blanks } else g

/-- The gap with one more break. -/
def addBreak (g : Gap) (c : Char) : Gap :=
  { g with blanks := [], breaks := c :: g.breaks }

/-- Whether nothing is in the gap. -/
def isEmpty (g : Gap) : Bool :=
  g.blanks.isEmpty && g.breaks.isEmpty

/-- What a gap counts as. -/
def text (g : Gap) : List Char :=
  match g.breaks.reverse with
  | [] => g.blanks.reverse
  | first :: others =>
    if g.escaped || first ≠ '\n' then first :: others
    else if others.isEmpty then [' '] else others

end Gap

/-- A text that is read, last character first, with what a gap counts as behind it. -/
def extend (read : List Char) (g : Gap) : List Char :=
  g.text.reverse ++ read

/-! ### Without quotes -/

/-- Whether a character has a meaning of its own in brackets. -/
def isBracketSign (c : Char) : Bool :=
  [',', '[', ']', '{', '}'].contains c

/-- Whether a scalar without quotes may start with `c`, with `s` behind it. -/
def startsPlain (inBrackets : Bool) (c : Char) (s : List Char) : Bool :=
  if c = '-' then !startsApart s
  else if c = '?' || c = ':' then !inBrackets && !startsApart s
  else !(isSpacing c || isBreak c || isBracketSign c ||
    ['#', '&', '*', '!', '|', '>', '\'', '"', '%', '@', '\x60'].contains c)

/-- Reads the rest of a scalar without quotes. Outside brackets, its lines but the first start at
column `margin` or behind it. -/
def plainFrom (inBrackets : Bool) (margin : Nat) (read : List Char) (gap : Gap)
    (line column : Nat) : List Char → Option (List Char × Place)
  | [] => some (read.reverse, { line, column, fresh := !gap.breaks.isEmpty, rest := [] })
  | c :: s =>
    let stop := some
      (read.reverse, { line, column, fresh := !gap.breaks.isEmpty, rest := c :: s : Place })
    if isBreak c then
      plainFrom inBrackets margin read (gap.addBreak c) (line + 1) 0 s
    else if isSpacing c then
      if c = '\t' && !gap.breaks.isEmpty && column < margin then none
      else plainFrom inBrackets margin read (gap.addBlank c) line (column + 1) s
    else if !inBrackets && !gap.breaks.isEmpty && column < margin then stop
    else if column = 0 && !gap.isEmpty && startsWithMarker (c :: s) then stop
    else if c = '#' && !gap.isEmpty then stop
    else if c = ':' && inBrackets && s.head?.any (fun d => d = '?' || isBracketSign d) then none
    else if (c = ':' && startsApart s) || (inBrackets && isBracketSign c) then stop
    else plainFrom inBrackets margin (c :: extend read gap) {} line (column + 1) s

/-! ### With quotes -/

/-- Reads the rest of a scalar in single quotes; two of them stand for one. -/
def singleFrom (read : List Char) (gap : Gap) (line column : Nat) :
    List Char → Option (List Char × Place)
  | [] => none
  | '\'' :: '\'' :: s => singleFrom ('\'' :: extend read gap) {} line (column + 2) s
  | c :: s =>
    if column = 0 && startsWithMarker (c :: s) then none
    else if c = '\'' then
      some ((extend read gap).reverse, { line, column := column + 1, fresh := false, rest := s })
    else if isBreak c then singleFrom read (gap.addBreak c) (line + 1) 0 s
    else if isSpacing c then singleFrom read (gap.addBlank c) line (column + 1) s
    else singleFrom (c :: extend read gap) {} line (column + 1) s

/-- The character that an escape of one letter stands for. -/
def escapedChar? (e : Char) : Option Char :=
  match e with
  | '0' => some '\x00'
  | 'a' => some '\x07'
  | 'b' => some '\x08'
  | 't' | '\t' => some '\t'
  | 'n' => some '\n'
  | 'v' => some '\x0b'
  | 'f' => some '\x0c'
  | 'r' => some '\r'
  | 'e' => some '\x1b'
  | ' ' | '"' | '/' | '\\' => some e
  | 'N' => some '\u0085'
  | '_' => some '\u00a0'
  | 'L' => some '\u2028'
  | 'P' => some '\u2029'
  | _ => none

/-- The character of hexadecimal digits. -/
def hexChar? (digits : List Char) : Option Char :=
  (digits? 16 digits).bind Json.scalar?

/-- Reads the rest of a scalar in double quotes. -/
def doubleFrom (read : List Char) (gap : Gap) (line column : Nat) :
    List Char → Option (List Char × Place)
  | [] => none
  | '\\' :: 'x' :: a :: b :: s => do
    let c ← hexChar? [a, b]
    doubleFrom (c :: extend read gap) {} line (column + 4) s
  | '\\' :: 'u' :: a :: b :: c :: d :: s => do
    let c ← hexChar? [a, b, c, d]
    doubleFrom (c :: extend read gap) {} line (column + 6) s
  | '\\' :: 'U' :: a :: b :: c :: d :: e :: f :: g :: h :: s => do
    let c ← hexChar? [a, b, c, d, e, f, g, h]
    doubleFrom (c :: extend read gap) {} line (column + 10) s
  | '\\' :: e :: s =>
    if isBreak e then doubleFrom (extend read gap) { escaped := true } (line + 1) 0 s
    else do
      let c ← escapedChar? e
      doubleFrom (c :: extend read gap) {} line (column + 2) s
  | c :: s =>
    if column = 0 && startsWithMarker (c :: s) then none
    else if c = '"' then
      some ((extend read gap).reverse, { line, column := column + 1, fresh := false, rest := s })
    else if isBreak c then doubleFrom read (gap.addBreak c) (line + 1) 0 s
    else if isSpacing c then doubleFrom read (gap.addBlank c) line (column + 1) s
    else if c = '\\' then none
    else doubleFrom (c :: extend read gap) {} line (column + 1) s

/-! ### Any style -/

/-- Reads a scalar from its first character on. -/
def scalarAt? (inBrackets : Bool) (margin : Nat) (p : Place) : Option (Yaml × Place) :=
  match p.rest with
  | [] => none
  | c :: s =>
    let quoted (r : List Char × Place) := (scalar true r.1, r.2)
    if c = '\'' then (singleFrom [] {} p.line (p.column + 1) s).map quoted
    else if c = '"' then (doubleFrom [] {} p.line (p.column + 1) s).map quoted
    else if startsPlain inBrackets c s then
      (plainFrom inBrackets margin [] {} p.line p.column (c :: s)).map fun r =>
        (scalar false r.1, r.2)
    else none

end ScriptSuite.Yaml
