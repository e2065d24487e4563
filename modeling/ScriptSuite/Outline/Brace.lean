import ScriptSuite.Text.Blank

/-!
# Braces over lines

Blocks are found by counting braces, wherever they stand: one inside a string or a comment counts
like any other. A block that is never closed runs to the last line.

## Main definitions

* `openingOffset?`: how many blank lines stand before a line that holds an opening brace alone.
* `closingOffset`: how many lines further the block that opens on the first line is closed.
-/

namespace ScriptSuite

open Text

/-- The depth behind a character. -/
def depthAfter (depth : Int) (c : Char) : Int :=
  if c = '{' then depth + 1 else if c = '}' then depth - 1 else depth

/-- The depth behind a line, or `none` if a closing brace on it brings the depth to zero. -/
def depthOver? (depth : Int) : List Char → Option Int
  | [] => some depth
  | c :: s =>
    if c = '}' ∧ depthAfter depth c = 0 then none else depthOver? (depthAfter depth c) s

/-- The number of lines before the first one on which a closing brace brings the depth to zero. -/
def closingOffset? (depth : Int) : List (List Char) → Option Nat
  | [] => none
  | line :: rest =>
    match depthOver? depth line with
    | none => some 0
    | some depth => (closingOffset? depth rest).map (· + 1)

/-- How many lines behind the first one the block that opens there is closed; an unclosed block
runs to the last line. -/
def closingOffset (lines : List (List Char)) : Nat :=
  (closingOffset? 0 lines).getD (lines.length - 1)

/-- How many blank lines stand before a line that is an opening brace and nothing else; any other
line ends the search. -/
def openingOffset? : List (List Char) → Option Nat
  | [] => none
  | line :: rest =>
    match trim line with
    | [] => (openingOffset? rest).map (· + 1)
    | ['{'] => some 0
    | _ => none

end ScriptSuite
