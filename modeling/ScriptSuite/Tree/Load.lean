import ScriptSuite.Disk.Basic
import ScriptSuite.Failure
import ScriptSuite.Outline.Parser
import ScriptSuite.Tree

/-!
# Test files of a disk

A test file is registered under the path that it is read from. A file that cannot be read, or that
is no text, is not registered.
-/

namespace ScriptSuite

/-- Reads a test file and registers its outline: the tree behind that, and the item of the file. If
the file cannot be read, the tree stays as it is. -/
def Disk.load (d : Disk) (t : TestTree) (path : String) : TestTree × Except Failure TestItem :=
  match d.readText path with
  | .ok source => (t.register path (outline source), .ok (TestItem.ofFile path (outline source)))
  | .error cause => (t, .error (.unreadableSource path cause))

end ScriptSuite
