import ScriptSuite.CommandLine.Project
import ScriptSuite.CommandLine.Request
import ScriptSuite.Json.Printer
import ScriptSuite.Tree.Json

/-!
# Listing tests

The test tree is printed item by item, each item below and to the right of the one above it, or as
JSON. Lines are counted from one.
-/

namespace ScriptSuite.CommandLine

mutual

/-- The lines for an item at a depth and for those below it. -/
def itemLines (ids : Bool) (depth : Nat) : TestItem → List String
  | .mk id label kind line children =>
    let indent := String.ofList (List.replicate (2 * depth) ' ')
    let name := if ids then id else label
    let suffix := match kind, line with
      | .file, _ =>
        let count := TestItem.testCountAll children
        s!" ({count} tests)"
      | .cls, _ | .method, none => ""
      | .method, some n => s!" :{n.toNat + 1}"
    (indent ++ name ++ suffix) :: itemLinesAll ids (depth + 1) children

/-- The lines for items at a depth and for those below them. -/
def itemLinesAll (ids : Bool) (depth : Nat) : List TestItem → List String
  | [] => []
  | item :: rest => itemLines ids depth item ++ itemLinesAll ids depth rest

end

/-- The list of the tests in a tree. -/
def listing (ids : Bool) (t : TestTree) : List String :=
  ["Discovered tests", ""] ++ itemLinesAll ids 0 t.files ++
    ["", s!"  Files: {t.files.length}", s!"  Tests: {t.testCount}"]

/-- Lists the tests. -/
def ListOptions.carryOut (o : ListOptions) (g : GeneralOptions) : Command Unit := do
  let config ← projectConfig
  let root := (← Command.disk).resolve o.path
  let tree ← projectTree root config.testFileGlob
  if g.format = .json then
    Command.say (String.ofList (Json.pretty (.arr (TestItem.toJsonAll tree.files))))
  else if g.quiet then return
  else if tree.files.isEmpty then Command.warn s!"No test files found in {root}"
  else (listing o.ids tree).forM Command.say

end ScriptSuite.CommandLine
