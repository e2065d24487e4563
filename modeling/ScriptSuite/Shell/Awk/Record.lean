import ScriptSuite.Shell.Regex.Parser
import ScriptSuite.Text.Find

/-!
# Records and fields

An input is cut into records, and a record into fields. What stands between them is told by a text:
one character stands for itself, and a longer text is a regular expression.

## Main definitions

* `Awk.Separator`: what stands between parts.
* `Awk.Separator.fields`: the fields of a record.
* `Awk.Separator.record?`: the first record of an input.
-/

namespace ScriptSuite.Shell.Awk

/-- What is said about a text that is no regular expression. -/
def regexComplaint (p : Regex.Problem) (s : List Char) : List Char :=
  let reason := match p with
    | .openGroup => "missing ')'"
    | .nothingToRepeat => "missing operand"
    | p => p.message
  chars s!"regular expression compile failed ({reason})\n" ++ s

/-- What stands between parts of a text. -/
inductive Separator where
  /-- Blanks, also at the start and at the end. -/
  | blanks
  /-- Nothing: every character is a part. -/
  | nothing
  /-- A character. -/
  | char (c : Char)
  /-- What a regular expression stands for. -/
  | regex (r : Regex)

namespace Separator

/-- The separator of fields that a text tells. -/
def ofFields (s : List Char) : Except Regex.Problem Separator :=
  match s with
  | [] => .ok .nothing
  | [' '] => .ok .blanks
  | [c] => .ok (.char c)
  | s => (Regex.parse .escaping true s).map .regex

/-- The separator of records that a text tells; the empty text asks for empty lines. -/
def ofRecords (s : List Char) : Except Regex.Problem Separator :=
  match s with
  | [] => .ok .nothing
  | [c] => .ok (.char c)
  | s => (Regex.parse .escaping true s).map .regex

/-- The parts of a text between matches, from a place on. -/
def between (text : Array Char) (start : Nat) : List Regex.Match → List (List Char)
  | [] => [(text.extract start text.size).toList]
  | m :: rest => (text.extract start m.start).toList :: between text m.stop rest

/-- The fields of a record. -/
def fields (sep : Separator) (s : List Char) : List (List Char) :=
  if s.isEmpty then []
  else
    match sep with
    | blanks =>
      (s.splitBy fun a b => isGap a = isGap b).filter fun part => !part.all isGap
    | nothing => s.map fun c => [c]
    | char c => Text.splitOn [c] s
    | regex r =>
      let text := s.toArray
      between text 0 ((r.matchesIn text).filter fun m => m.start < m.stop)
where
  /-- Whether a character stands between fields. -/
  isGap (c : Char) : Bool := c = ' ' || c = '\t' || c = '\n'

/-- The record in front of empty lines, and what follows them. -/
def paragraph : List Char → List Char × List Char
  | [] => ([], [])
  | ['\n'] => ([], [])
  | '\n' :: '\n' :: s => ([], s.dropWhile (· = '\n'))
  | c :: s =>
    let (record, rest) := paragraph s
    (c :: record, rest)

/-- The first record of an input, and what follows it; none at the end. -/
def record? (sep : Separator) (s : List Char) : Option (List Char × List Char) :=
  if s.isEmpty then none
  else
    match sep with
    | nothing | blanks =>
      let s := s.dropWhile (· = '\n')
      if s.isEmpty then none else some (paragraph s)
    | char c =>
      let record := s.takeWhile (· != c)
      some (record, s.drop (record.length + 1))
    | regex r =>
      let text := s.toArray
      match (r.matchesIn text).find? fun m => m.start < m.stop with
      | some m => some (s.take m.start, s.drop m.stop)
      | none => some (s, [])

end Separator

end ScriptSuite.Shell.Awk
