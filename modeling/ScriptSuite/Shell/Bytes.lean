import ScriptSuite.Sorted
import ScriptSuite.Text.Utf8

/-!
# Texts of a shell

A shell does not know about characters of several bytes. Each character of its texts stands for the
byte of its number, so a text is turned into such a list when it enters the shell, and back when it
leaves.
-/

namespace ScriptSuite.Shell

/-- The characters of a string. -/
def chars (s : String) : List Char := s.toList

/-- The text of a shell for bytes. -/
def ofBytes (bytes : List UInt8) : List Char :=
  bytes.map fun b => Char.ofNat b.toNat

/-- The bytes of a text of a shell. -/
def toBytes (s : List Char) : List UInt8 :=
  s.map fun c => .ofNat c.toNat

/-- The text of a shell for a string. -/
def ofString (s : String) : List Char :=
  ofBytes (Utf8.encode s.toList)

/-- The string of a text of a shell. -/
def toString (s : List Char) : String :=
  String.ofList (Utf8.decodeLenient (toBytes s))

/-- The value of decimal digits. -/
def decimal (digits : List Char) : Nat :=
  digits.foldl (fun n c => 10 * n + (c.toNat - 48)) 0

/-- The integer that a text spells, with a sign or without. -/
def integer? (s : List Char) : Option Int :=
  let (negative, digits) := match s with
    | '-' :: s => (true, s)
    | '+' :: s => (false, s)
    | s => (false, s)
  if digits.isEmpty || !digits.all Char.isDigit then none
  else some (if negative then -(decimal digits : Int) else decimal digits)

/-- The digits of an integer. -/
def digits (n : Int) : List Char :=
  (if n < 0 then ['-'] else []) ++ Nat.toDigits 10 n.natAbs

/-- The lines of a text, each with its line end; the last one may lack it. -/
def linesOf : List Char → List (List Char)
  | [] => []
  | c :: s =>
    if c = '\n' then [c] :: linesOf s
    else
      match linesOf s with
      | [] => [[c]]
      | l :: rest => (c :: l) :: rest

end ScriptSuite.Shell
