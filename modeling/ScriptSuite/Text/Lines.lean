/-!
# Lines of a text

Two notions of line are in use. A *source* is first brought to line feeds alone and then cut at
each of them, so a text of `n` line feeds has `n + 1` lines and the last one may be empty. Text
that a program printed is cut into *terminated* lines: a carriage return belongs to the line feed
behind it, and nothing follows the last line feed.

## Main definitions

* `Text.unifyBreaks`: every line break becomes one line feed.
* `Text.pieces`: the pieces between line feeds.
* `Text.lines`: the terminated lines.
-/

namespace ScriptSuite.Text

/-- Turns each carriage return, with a line feed behind it or without, into one line feed. -/
def unifyBreaks : List Char → List Char
  | [] => []
  | '\r' :: '\n' :: s => '\n' :: unifyBreaks s
  | c :: s => (if c = '\r' then '\n' else c) :: unifyBreaks s

/-- The pieces between line feeds; there is always at least one. -/
def pieces : List Char → List (List Char)
  | [] => [[]]
  | c :: s =>
    if c = '\n' then [] :: pieces s
    else
      match pieces s with
      | [] => [[c]]
      | p :: ps => (c :: p) :: ps

/-- A line without the carriage return at its end, if it has one. -/
def dropReturn (line : List Char) : List Char :=
  if line.getLast? = some '\r' then line.dropLast else line

/-- The terminated lines: no carriage return in front of a line feed is kept, and an empty piece
behind the last line feed is no line. -/
def lines (s : List Char) : List (List Char) :=
  go (pieces s)
where
  /-- All pieces but the last were ended by a line feed. -/
  go : List (List Char) → List (List Char)
    | [] => []
    | [p] => if p.isEmpty then [] else [p]
    | p :: ps => dropReturn p :: go ps

/-- The lines of a source, numbered by their place. -/
def sourceLines (source : String) : List (List Char) :=
  pieces (unifyBreaks source.toList)

end ScriptSuite.Text
