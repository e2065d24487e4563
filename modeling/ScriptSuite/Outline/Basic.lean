/-!
# Outlines of test files

The *outline* of a test file is the forest of its test classes: each class has test methods and
nested classes, and every one of them knows the line of its declaration, counted from zero. A line
that does not fit a 32-bit word has no number.

## Main definitions

* `TestMethod`, `TestClass`: the nodes.
* `TestClass.testCount`: the number of test methods at and below a class.
* `prune`: the forest without the classes that have no test at or below them.
-/

namespace ScriptSuite

/-- The number of a line, if it fits a 32-bit word. -/
def lineNumber? (line : Nat) : Option UInt32 :=
  if line < UInt32.size then some (UInt32.ofNat line) else none

/-- A test method. -/
structure TestMethod where
  /-- The name of the method. -/
  name : String
  /-- The line of the declaration. -/
  line : Option UInt32
deriving DecidableEq, Repr

/-- A class of test methods and nested classes. -/
inductive TestClass where
  /-- A class with its name, the line of its declaration, its methods and its nested classes. -/
  | mk (name : String) (line : Option UInt32) (methods : List TestMethod)
      (children : List TestClass)

namespace TestClass

/-- The name of the class. -/
def name : TestClass → String
  | mk name _ _ _ => name

/-- The line of the declaration. -/
def line : TestClass → Option UInt32
  | mk _ line _ _ => line

/-- The methods of the class itself. -/
def methods : TestClass → List TestMethod
  | mk _ _ methods _ => methods

/-- The classes nested directly in the class. -/
def children : TestClass → List TestClass
  | mk _ _ _ children => children

mutual

/-- The number of test methods at and below a class. -/
def testCount : TestClass → Nat
  | mk _ _ methods children => methods.length + testCountAll children

/-- The number of test methods of a forest. -/
def testCountAll : List TestClass → Nat
  | [] => 0
  | c :: rest => c.testCount + testCountAll rest

end

mutual

/-- The class without the nested classes that hold no test. -/
def pruned : TestClass → TestClass
  | mk name line methods children => mk name line methods (prune children)

/-- The forest without the classes that hold no test, at any depth. -/
def prune : List TestClass → List TestClass
  | [] => []
  | c :: rest =>
    if c.pruned.methods.isEmpty && c.pruned.children.isEmpty then prune rest
    else c.pruned :: prune rest

end

end TestClass

end ScriptSuite
