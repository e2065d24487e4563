import ScriptSuite.Outline.Basic
import ScriptSuite.Outline.Brace
import ScriptSuite.Outline.Header
import ScriptSuite.Text.Lines

/-!
# From source text to outline

The lines of a source are read from top to bottom. A class header whose brace is found makes a
class declaration, which takes all lines up to the one that closes the brace; the lines between the
two are its members. A method header inside a class makes a method declaration, which takes its
body along. All other lines are passed over, one at a time. A directive marks the next declaration
of its class as left out, however many other lines stand between them.

Reading never fails: what is not understood is passed over, so a broken file has a partial outline.

## Main definitions

* `Declaration`: what a source declares, in the order of the lines, with nothing left out.
* `Declaration.ofLines`: the declarations of a source.
* `outline`: the test classes of a source, without private methods, declarations that a directive
  leaves out and classes that hold no test.
-/

namespace ScriptSuite

/-- A declaration in a source. -/
inductive Declaration where
  /-- A method; `ignored` if a directive leaves it out. -/
  | method (name : String) (line : Nat) (ignored : Bool)
  /-- A class with its members; `ignored` if a directive leaves it out. -/
  | cls (name : String) (line : Nat) (ignored : Bool) (members : List Declaration)

/-- Where a header's block lies, counted from the line of the header. -/
structure Block where
  /-- The offset of the line with the opening brace. -/
  opening : Nat
  /-- The offset of the line that closes the brace. -/
  closing : Nat
deriving DecidableEq, Repr

/-- The block that belongs to a header on the first of the given lines. Where the header does not
open it itself, the brace must stand alone on the next line that is not blank. -/
def Block.find? (opens : Bool) : List (List Char) → Option Block
  | [] => none
  | line :: rest =>
    if opens then some { opening := 0, closing := closingOffset (line :: rest) }
    else (openingOffset? rest).map fun n =>
      { opening := n + 1, closing := n + 1 + closingOffset (rest.drop n) }

/-- What the first of the given lines declares. -/
inductive LineReading where
  /-- The line leaves the next declaration out. -/
  | directive
  /-- A class whose members stand between the braces of the block. -/
  | cls (name : String) (block : Block)
  /-- A method whose declaration ends on the line of the given offset. -/
  | method (name : String) (last : Nat)
  /-- Nothing that matters to an outline. -/
  | other
deriving DecidableEq, Repr

/-- The offset of the last line of a method with the given header. -/
def MethodHeader.lastOffset (h : MethodHeader) (lines : List (List Char)) : Nat :=
  match h.body with
  | .arrow => 0
  | .braced => ((Block.find? true lines).map Block.closing).getD 0
  | .later => ((Block.find? false lines).map Block.closing).getD 0

/-- Reads the first of the given lines. -/
def LineReading.ofLines (lines : List (List Char)) : LineReading :=
  match lines with
  | [] => .other
  | line :: _ =>
    if isIgnoreDirective line then .directive
    else
      match (ClassHeader.ofLine? line).bind fun h =>
          (Block.find? h.opens lines).map fun b => (h.name, b) with
      | some (name, block) => .cls name block
      | none =>
        match MethodHeader.ofLine? line with
        | some h => .method h.name (h.lastOffset lines)
        | none => .other

/-- The declarations on the first `count` of the given lines, which start at line `line` of the
source. Outside a class a method header is no declaration. -/
def Declaration.ofLines (inClass ignored : Bool) (line count : Nat) :
    List (List Char) → List Declaration
  | [] => []
  | first :: rest =>
    if count = 0 then []
    else
      match LineReading.ofLines (first :: rest) with
      | .directive => ofLines inClass true (line + 1) (count - 1) rest
      | .cls name block =>
        .cls name line ignored
            (ofLines true false (line + block.opening + 1) (block.closing - block.opening - 1)
              (rest.drop block.opening)) ::
          ofLines inClass false (line + block.closing + 1) (count - block.closing - 1)
            (rest.drop block.closing)
      | .method name last =>
        if inClass then
          .method name line ignored ::
            ofLines inClass false (line + last + 1) (count - last - 1) (rest.drop last)
        else ofLines inClass ignored (line + 1) (count - 1) rest
      | .other => ofLines inClass ignored (line + 1) (count - 1) rest
termination_by lines => lines.length
decreasing_by all_goals (simp only [List.length_drop, List.length_cons]; omega)

/-- The declarations of a source. -/
def Declaration.ofSource (source : String) : List Declaration :=
  let lines := Text.sourceLines source
  ofLines false false 0 lines.length lines

namespace Declaration

/-- The test method of a declaration: one that is neither left out nor private. -/
def testMethod? : Declaration → Option TestMethod
  | method name line ignored =>
    if ignored || name.toList.head? = some '_' then none
    else some { name, line := lineNumber? line }
  | cls .. => none

mutual

/-- The class of a declaration, unless it is left out. -/
def testClass? : Declaration → Option TestClass
  | method .. => none
  | cls name line ignored members =>
    if ignored then none
    else some (.mk name (lineNumber? line) (members.filterMap testMethod?) (testClasses members))

/-- The classes among declarations, without those left out. -/
def testClasses : List Declaration → List TestClass
  | [] => []
  | d :: rest => (testClass? d).toList ++ testClasses rest

end

end Declaration

/-- The test classes of a source. -/
def outline (source : String) : List TestClass :=
  TestClass.prune (Declaration.testClasses (Declaration.ofSource source))

end ScriptSuite
