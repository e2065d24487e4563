import ScriptSuite.Config.Basic
import ScriptSuite.Disk.Basic
import ScriptSuite.Template.Basic

/-!
# The runner script of a test

Each test is run by a script of its own, in a file of its own among the temporary files. The name of
the file tells the test; six letters in it keep it apart from other files.

## Main definitions

* `Template.script`: the text of the script of a test.
* `Disk.writeScript`: the disk with the file.
-/

namespace ScriptSuite

/-- The text of the runner script of a test. -/
def Template.script (t : Template) (warnings : WarningMode) (test : TestId) : String :=
  t.render warnings.directive test.file test.callChain

namespace TestId

/-- The letters that keep the file of a script apart from others. Scripts are removed before the
next one is written, so they need not change. -/
def scriptLetters : String := "AAAAAA"

/-- The path of the file of the script of a test. -/
def scriptPath (tempDir : String) (test : TestId) : String :=
  Path.join tempDir s!"ahkunit-{test.displayName}.{scriptLetters}.temp.ahk"

end TestId

namespace Disk

/-- The disk with the file of a script. -/
def writeScript (d : Disk) (path text : String) : Except DiskFailure Disk :=
  d.write path (Utf8.encode text.toList)

/-- The disk without the file of a script. -/
def removeScript (d : Disk) (path : String) : Disk :=
  (d.remove path).toOption.getD d

end Disk

end ScriptSuite
