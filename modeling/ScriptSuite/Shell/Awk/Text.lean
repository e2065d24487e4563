import ScriptSuite.Shell.Awk.Value
import ScriptSuite.Shell.Regex

/-!
# Text functions of programs that work on records

Parts of a text, where one text stands in another, and replacing matches.

## Main definitions

* `Awk.part`: a part of a text.
* `Awk.placeOf`: where a text stands in another one.
* `Awk.substitute`: replaces matches.
-/

namespace ScriptSuite.Shell.Awk

/-- The part of a text from a place on; a start below one makes the part longer. -/
def part (s : List Char) (start : Float) (length : Option Float) : List Char :=
  let first := wholePart start
  let behind := s.drop (first - 1).toNat
  match length with
  | some n => behind.take (wholePart n - min first 0).toNat
  | none => behind

/-- The number of the character at which a text first starts in another one, or zero. -/
def placeOf (needle s : List Char) : Nat :=
  match (List.range (s.length + 1)).find? fun i => needle.isPrefixOf (s.drop i) with
  | some i => i + 1
  | none => 0

/-- What is put in the place of a match: an ampersand stands for the match unless there is a
backslash in front of it. -/
def replacement (found : List Char) : List Char → List Char
  | [] => []
  | '\\' :: '\\' :: '&' :: s => '\\' :: found ++ replacement found s
  | '\\' :: '&' :: s => '&' :: replacement found s
  | '&' :: s => found ++ replacement found s
  | c :: s => c :: replacement found s

/-- A text from a place on with other texts in the places of matches. -/
def replaceMatches (text : Array Char) (value : List Char) (start : Nat) :
    List Regex.Match → List Char
  | [] => (text.extract start text.size).toList
  | m :: rest =>
    (text.extract start m.start).toList ++ replacement (text.extract m.start m.stop).toList value ++
      replaceMatches text value m.stop rest

/-- Replaces the first match, or all of them: how many there were, and the new text. -/
def substitute (all : Bool) (r : Regex) (value s : List Char) : Nat × List Char :=
  let text := s.toArray
  let matched := if all then r.matchesIn text else (r.find? text 0).toList
  (matched.length, replaceMatches text value 0 matched)

/-- A number without its part behind the point. -/
def truncated (x : Float) : Float := if x < 0 then x.ceil else x.floor

/-- The remainder of a division that goes towards zero. -/
def remainder (x y : Float) : Float :=
  if isWhole x && isWhole y && y != 0 && !x.isInf && !y.isInf then
    Float.ofInt (Int.tmod (wholePart x) (wholePart y))
  else x - y * truncated (x / y)

end ScriptSuite.Shell.Awk
