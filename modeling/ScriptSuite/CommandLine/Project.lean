import ScriptSuite.CommandLine.Progress
import ScriptSuite.Config.File
import ScriptSuite.Tree.Load

/-!
# The project of a command

The settings are those of the working directory, and the test files are looked for below a path seen
from there. The path is brought into its normal form first, since every id of a test starts with it.

## Main definitions

* `Disk.resolve`: a path as seen from the root.
* `Disk.testTree`: the test tree of the files below a root.
* `projectConfig`, `projectTree`: the settings and the test tree as steps of a command.
-/

namespace ScriptSuite

namespace Disk

/-- A path seen from the root, in its normal form. -/
def resolve (d : Disk) (path : String) : String :=
  Path.normalize (Path.join d.cwdPath path)

/-- The tree with a test file of the disk; a file that cannot be read is passed over. -/
def register (d : Disk) (t : TestTree) (file : String) : TestTree :=
  (d.load t file).1

/-- The test tree of the files below a root. -/
def testTree (d : Disk) (root glob : String) : Except DiscoveryError TestTree :=
  (d.discover root glob).map fun files => files.foldl d.register {}

end Disk

namespace CommandLine

/-- The settings of the working directory. -/
def projectConfig : Command Config := do
  let d ← Command.disk
  return (← Command.ofRequest (d.configOrDefault d.cwdPath)).1

/-- The test tree of the files below a root. -/
def projectTree (root glob : String) : Command TestTree := do
  match (← Command.disk).testTree root glob with
  | .ok t => return t
  | .error e => throw (.discovery root (.ofDiscovery root glob e))

end CommandLine

end ScriptSuite
