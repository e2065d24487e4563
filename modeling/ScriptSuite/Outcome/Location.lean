import ScriptSuite.Outcome.Basic
import ScriptSuite.Text.Blank
import ScriptSuite.Text.Lines
import ScriptSuite.Text.Word

/-!
# Places in interpreter output

The interpreter writes a place in a file as the file, a blank, and the line in parentheses, counted
from one. A file name may itself hold such a thing, so of all the ways to read a line as a place the
one with the longest file is meant.

## Main definitions

* `StackFrame.ofLine`, `StackFrame.ofStack`: the entries of a call stack.
* `Warning.ofLine?`, `Warning.ofOutput`: the warnings in an output.
-/

namespace ScriptSuite

open Text

/-- The way to cut a text with the longest front among those whose rest is understood; the front may
be empty. -/
def longestFront? {β : Type} (understand : List Char → Option β) :
    List Char → Option (List Char × β)
  | [] => (understand []).map fun b => ([], b)
  | c :: s =>
    match longestFront? understand s with
    | some (front, b) => some (c :: front, b)
    | none => (understand (c :: s)).map fun b => ([], b)

/-- Like `longestFront?`, with a front that is not empty. -/
def longestName? {β : Type} (understand : List Char → Option β) :
    List Char → Option (List Char × β)
  | [] => none
  | c :: s => (longestFront? understand s).map fun (front, b) => (c :: front, b)

/-- The line that a number counted from one stands for. A number that is no 32-bit word in ASCII
digits stands for the first line, and so does zero. -/
def lineOfNumber (digits : List Char) : UInt32 :=
  .ofNat ((decimalBelow? UInt32.size digits).getD 0 - 1)

/-- A number in parentheses, and what follows it. -/
def parenthesised? : List Char → Option (List Char × List Char)
  | '(' :: s =>
    let digits := s.takeWhile isDecimal
    match s.dropWhile isDecimal with
    | ')' :: rest => if digits.isEmpty then none else some (digits, rest)
    | _ => none
  | _ => none

namespace StackFrame

/-- The code of a frame: it follows a closing bracket and a space, and is not empty. -/
def code? : List Char → Option (List Char)
  | ']' :: ' ' :: c :: code => some (c :: code)
  | _ => none

/-- What follows the file in a frame: a blank, the line, a colon between blanks, the context in
brackets and the code. -/
def tail? : List Char → Option (UInt32 × List Char × List Char)
  | b :: s => do
    let (digits, s) ← parenthesised? s
    match s with
    | b₁ :: ':' :: b₂ :: '[' :: s =>
      if isBlank b && isBlank b₁ && isBlank b₂ then
        let (context, code) ← longestFront? code? s
        return (lineOfNumber digits, context, code)
      else none
    | _ => none
  | [] => none

/-- The entry on a line of a call stack. A line that is no place loses its first two characters. -/
def ofLine (line : List Char) : StackFrame :=
  if line.head? = some '>' then .note (String.ofList line)
  else
    match longestName? tail? line with
    | some (file, number, context, code) =>
      .located (String.ofList file) number
        (String.ofList (if context.isEmpty then code else context))
    | none => .note (String.ofList (line.drop 2))

/-- The entries of a call stack; blank lines make none. -/
def ofStack (stack : List Char) : List StackFrame :=
  ((lines stack).filter fun line => !isAllBlank line).map ofLine

end StackFrame

namespace Warning

/-- What stands between the line and the text of a warning. -/
def arrow : List Char := [' ', ':', ' ', '=', '=', '>', ' ']

/-- What follows the file in a warning: a space, the line, an arrow and the text, which is not
empty. -/
def tail? : List Char → Option (UInt32 × List Char)
  | ' ' :: s => do
    let (digits, s) ← parenthesised? s
    let message := s.drop arrow.length
    if arrow.isPrefixOf s && !message.isEmpty then return (lineOfNumber digits, message) else none
  | _ => none

/-- The warning on a line, if there is one. -/
def ofLine? (line : List Char) : Option Warning :=
  (longestName? tail? line).map fun (file, line, message) =>
    { file := String.ofList file, line, message := String.ofList message }

/-- The warnings in an output, one a line. -/
def ofOutput (output : List Char) : List Warning :=
  (lines output).filterMap ofLine?

end Warning

end ScriptSuite
