import ScriptSuite.Json.Record
import ScriptSuite.Tree

/-!
# Items of the test tree as JSON

An item is an object with its id, its label, the word for what it stands for, its line and the items
below it. A member that has nothing to tell is left out.
-/

namespace ScriptSuite

/-- The word for what an item stands for. -/
def ItemKind.name : ItemKind → String
  | file => "file"
  | cls => "class"
  | method => "method"

namespace TestItem

mutual

/-- The object of an item. -/
def toJson : TestItem → Json
  | mk id label kind line children =>
    .record <|
      [("id", .ofString id), ("label", .ofString label), ("kind", .ofString kind.name)] ++
      Json.field? "line" (line.map fun n => .ofNat n.toNat) ++
      (if children.isEmpty then [] else [("children", .arr (toJsonAll children))])

/-- The objects of items. -/
def toJsonAll : List TestItem → List Json
  | [] => []
  | item :: rest => item.toJson :: toJsonAll rest

end

end TestItem

end ScriptSuite
