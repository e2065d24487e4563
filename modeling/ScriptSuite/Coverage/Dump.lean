import ScriptSuite.Coverage.Map
import ScriptSuite.Text.Blank
import ScriptSuite.Text.Lines
import ScriptSuite.Text.Word

/-!
# Coverage dumps

A dump lists the executed lines file by file: a header names a file, and the records behind it give
lines of that file, counted from one. The number zero marks code that stands on no line and is
passed over, like everything that is neither header nor record.

## Main definitions

* `DumpLine.ofText`: what one line of a dump says.
* `CoverageMap.ofDump`: the map that a dump describes.
-/

namespace ScriptSuite

open Text

/-- What one line of a dump says. -/
inductive DumpLine where
  /-- A note. -/
  | note
  /-- The records that follow belong to this file. -/
  | header (file : String)
  /-- The line of this number was executed, counted from one. -/
  | record (number : Nat)
  /-- Nothing. -/
  | other
deriving DecidableEq, Repr

namespace DumpLine

/-- The words in front of a file name. -/
def headerMark : List Char := ['-', '-', '-', '-', ' ']

/-- The number of a record: digits, a colon and a space, with any text behind. A number that a
64-bit word cannot hold is none, and neither is one in digits other than ASCII. -/
def number? (line : List Char) : Option Nat :=
  match line.dropWhile isDecimal with
  | ':' :: ' ' :: _ => decimalBelow? UInt64.size (line.takeWhile isDecimal)
  | _ => none

/-- What a line without blanks at its ends says. -/
def ofText (line : List Char) : DumpLine :=
  if line.head? = some '>' then .note
  else if headerMark.isPrefixOf line then .header (String.ofList (line.drop headerMark.length))
  else
    match number? line with
    | some n => .record n
    | none => .other

end DumpLine

/-- The reading of a dump so far: the map, and the file of the last header. -/
structure DumpReading where
  /-- What has been read. -/
  map : CoverageMap := ∅
  /-- The file that records belong to. -/
  file? : Option String := none

namespace DumpReading

/-- Takes one line. A record in front of all headers, or of a line that fits no 32-bit word, is
passed over. -/
def step (r : DumpReading) : DumpLine → DumpReading
  | .header file => { map := r.map.touch file, file? := some file }
  | .record 0 => r
  | .record (n + 1) =>
    match r.file? with
    | some file => if n < UInt32.size then { r with map := r.map.record file (.ofNat n) } else r
    | none => r
  | .note | .other => r

end DumpReading

/-- The map that a dump describes. -/
def CoverageMap.ofDump (dump : List Char) : CoverageMap :=
  (((lines dump).map fun line => DumpLine.ofText (trim line)).foldl DumpReading.step {}).map

end ScriptSuite
