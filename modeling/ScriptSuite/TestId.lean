import ScriptSuite.Path
import ScriptSuite.Text.Find

/-!
# Test ids

A test is addressed by its file, the classes around it from the outside in, and its method. Written
down, the parts stand one behind the other with `::` between them.

## Main definitions

* `TestId`: the address of a test.
* `TestId.toString`: its written form.
* `TestId.parse?`: the address that a text writes down. It must have a file, at least one class and
  a method, and none of them may be empty.
-/

namespace ScriptSuite

/-- What stands between the parts of a written id. -/
def idSeparator : String := "::"

/-- The address of a test method. -/
structure TestId where
  /-- The file, as it was registered. -/
  file : String
  /-- The classes around the method, outermost first. -/
  classes : List String
  /-- The name of the method. -/
  method : String
deriving DecidableEq, Repr

/-- Why a text is not accepted as the id of a test or of an item. -/
inductive IdProblem where
  /-- There are fewer than three parts. -/
  | tooFewParts
  /-- A part is empty. -/
  | emptyPart
  /-- Nothing has this id. -/
  | unknown
deriving DecidableEq, Repr

/-- The text for a problem. -/
def IdProblem.reason : IdProblem → String
  | tooFewParts => "expected <file>::<Class>::<Method>"
  | emptyPart => "empty segment"
  | unknown => "no such test"

namespace TestId

/-- The written form. -/
def toString (t : TestId) : String :=
  t.file ++ String.join (t.classes.map (idSeparator ++ ·)) ++ idSeparator ++ t.method

/-- The address that a text writes down. -/
def parse? (id : String) : Except IdProblem TestId :=
  let parts := (Text.splitOn idSeparator.toList id.toList).map String.ofList
  match parts with
  | file :: first :: second :: rest =>
    if parts.any (·.isEmpty) then .error .emptyPart
    else
      let inner := first :: second :: rest
      .ok { file, classes := inner.dropLast, method := inner.getLastD second }
  | _ => .error .tooFewParts

/-- The directory of the test file; empty if the file has no directory in front of it. -/
def fileDir (t : TestId) : String :=
  (Path.parent? t.file).getD ""

/-- The name without the file: classes and method with dots between them. -/
def displayName (t : TestId) : String :=
  ".".intercalate (t.classes ++ [t.method])

/-- The expression that makes an instance of the innermost class and calls the method. -/
def callChain (t : TestId) : String :=
  ".".intercalate t.classes ++ "()." ++ t.method ++ "()"

end TestId

end ScriptSuite
