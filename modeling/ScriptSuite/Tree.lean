import ScriptSuite.Outline.Basic
import ScriptSuite.TestId

/-!
# The test tree

The registered files with their classes and methods. The id of an item is the id of the item above
it, `::` and its own name, so the id of a method is the written id of a test. A file is registered
once: registering it again replaces what was there and keeps its place.

## Main definitions

* `TestItem`: an item of the tree.
* `TestTree`: the tree; `register`, `get?`, `leaves`, `collect`, `filter`.
-/

namespace ScriptSuite

/-- What an item of the tree stands for. -/
inductive ItemKind where
  /-- A test file. -/
  | file
  /-- A test class. -/
  | cls
  /-- A test method. -/
  | method
deriving DecidableEq, Repr

/-- An item of the tree. -/
inductive TestItem where
  /-- An item with its id, label, kind, declaration line and the items below it. -/
  | mk (id label : String) (kind : ItemKind) (line : Option UInt32) (children : List TestItem)

namespace TestItem

/-- The id. -/
def id : TestItem → String
  | mk id _ _ _ _ => id

/-- The label. -/
def label : TestItem → String
  | mk _ label _ _ _ => label

/-- What the item stands for. -/
def kind : TestItem → ItemKind
  | mk _ _ kind _ _ => kind

/-- The line of the declaration; files have none. -/
def line : TestItem → Option UInt32
  | mk _ _ _ line _ => line

/-- The items directly below. -/
def children : TestItem → List TestItem
  | mk _ _ _ _ children => children

/-- Whether the item is a single test. -/
def isLeaf (item : TestItem) : Bool := item.kind = .method

mutual

/-- The number of tests at and below an item. -/
def testCount : TestItem → Nat
  | mk _ _ kind _ children => if kind = .method then 1 else testCountAll children

/-- The number of tests at and below several items. -/
def testCountAll : List TestItem → Nat
  | [] => 0
  | item :: rest => item.testCount + testCountAll rest

end

mutual

/-- The first item with the given id at or below an item. Where the id does not start with that of
the item, nothing below can have it. -/
def find? (target : String) : TestItem → Option TestItem
  | mk id label kind line children =>
    if id = target then some (mk id label kind line children)
    else if id.toList.isPrefixOf target.toList then findIn? target children
    else none

/-- The first item with the given id at or below several items. -/
def findIn? (target : String) : List TestItem → Option TestItem
  | [] => none
  | item :: rest => (item.find? target).or (findIn? target rest)

end

mutual

/-- The tests at and below an item of the given file, with the classes above the item. -/
def leaves (file : String) (above : List String) : TestItem → List TestId
  | mk _ label kind _ children =>
    match kind with
    | .method => [{ file, classes := above, method := label }]
    | .file => leavesOf file above children
    | .cls => leavesOf file (above ++ [label]) children

/-- The tests at and below several items. -/
def leavesOf (file : String) (above : List String) : List TestItem → List TestId
  | [] => []
  | item :: rest => item.leaves file above ++ leavesOf file above rest

end

/-- The item of a method below the item of the given id. -/
def ofMethod (parent : String) (m : TestMethod) : TestItem :=
  mk (parent ++ idSeparator ++ m.name) m.name .method m.line []

mutual

/-- The item of a class below the item of the given id: first its methods, then its classes. -/
def ofClass (parent : String) : TestClass → TestItem
  | .mk name line methods children =>
    let id := parent ++ idSeparator ++ name
    mk id name .cls line (methods.map (ofMethod id) ++ ofClasses id children)

/-- The items of classes below the item of the given id. -/
def ofClasses (parent : String) : List TestClass → List TestItem
  | [] => []
  | c :: rest => ofClass parent c :: ofClasses parent rest

end

/-- The item of a file with the given classes. -/
def ofFile (file : String) (classes : List TestClass) : TestItem :=
  mk file ((Path.fileName? file).getD file) .file none (ofClasses file classes)

end TestItem

/-- All registered files. -/
structure TestTree where
  /-- The items of the files, in the order of their first registration. -/
  files : List TestItem := []

namespace TestTree

/-- The items with `item` in the place of the one of the same id, or at the end. -/
def place (item : TestItem) : List TestItem → List TestItem
  | [] => [item]
  | f :: rest => if f.id = item.id then item :: rest else f :: place item rest

/-- The tree with a file of the given classes. -/
def register (t : TestTree) (file : String) (classes : List TestClass) : TestTree :=
  { files := place (TestItem.ofFile file classes) t.files }

/-- The first item with the given id. -/
def get? (t : TestTree) (id : String) : Option TestItem :=
  TestItem.findIn? id t.files

/-- The number of tests. -/
def testCount (t : TestTree) : Nat :=
  TestItem.testCountAll t.files

/-- All tests, in the order of registration. -/
def leaves (t : TestTree) : List TestId :=
  t.files.flatMap fun f => f.leaves f.id []

/-- The classes that the id of an item names between its file and the item itself. -/
def classesAbove (file item : TestItem) : List String :=
  let path := item.id.toList.drop file.id.length
  (((Text.splitOn idSeparator.toList path).map String.ofList).filter (!·.isEmpty)).dropLast

/-- The tests at and below the first item with the given id. -/
def testsAt? (t : TestTree) (id : String) : Option (List TestId) :=
  t.files.findSome? fun f =>
    (f.find? id).map fun item => item.leaves f.id (classesAbove f item)

/-- The list without the elements that occur earlier in it. -/
def withoutRepeats (seen : List TestId) : List TestId → List TestId
  | [] => []
  | t :: rest =>
    if seen.contains t then withoutRepeats seen rest else t :: withoutRepeats (t :: seen) rest

/-- The tests at and below the items with the given ids, each test once; or the first id that no
item has. -/
def collect (t : TestTree) (ids : List String) : Except String (List TestId) := do
  let found ← ids.mapM fun id =>
    match t.testsAt? id with
    | some tests => .ok tests
    | none => .error id
  return withoutRepeats [] found.flatten

/-- The tests whose written id contains a text. -/
def filter (t : TestTree) (text : String) : List TestId :=
  t.leaves.filter fun id => Text.occursIn text id.toString

end TestTree

end ScriptSuite
