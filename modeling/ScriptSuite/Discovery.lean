import ScriptSuite.Disk.Basic
import ScriptSuite.Glob
import ScriptSuite.Sorted

/-!
# Finding test files

Below the root of a project all files are test files whose path from the root matches a glob, unless
they lie in a directory that is passed over: one whose name starts with a dot, or that holds
packages or build products. The root itself is never passed over, and a root that is a file stands
for itself. Files are listed in the order of their components.

## Main definitions

* `FileTree.visibleFiles`: the ways to the files that are not passed over.
* `FileTree.testFiles`: those of them whose path fits, in order.
* `Disk.discover`: the test files below a root.
-/

namespace ScriptSuite

/-- Whether a directory of this name is passed over. -/
def isPassedOver (name : String) : Bool :=
  name.toList.head? = some '.' || name = "node_modules" || name = "target"

mutual

/-- The ways to the files in a tree, without those in directories that are passed over. -/
def FileTree.visibleFiles (way : List String) : FileTree → List (List String)
  | .file .. => [way]
  | .dir entries => visibleEntries way entries

/-- The ways to the files in the entries of a directory, without those in directories that are
passed over. -/
def FileTree.visibleEntries (way : List String) :
    List (String × FileTree) → List (List String)
  | [] => []
  | (name, t) :: rest =>
    (if t.isDir && isPassedOver name then [] else t.visibleFiles (way ++ [name])) ++
      visibleEntries way rest

end

/-- Why test files cannot be found. -/
inductive DiscoveryError where
  /-- The root does not exist. -/
  | noRoot
  /-- The glob cannot be compiled. -/
  | badGlob (e : GlobError)
deriving DecidableEq, Repr

/-- The ways from the root of a tree to its test files, sorted name by name: these are the files
that are not passed over and whose path fits. -/
def FileTree.testFiles (fits : String → Bool) (t : FileTree) : List (List String) :=
  ((t.visibleFiles []).filter fun way => fits ("/".intercalate way)).mergeSort dictionaryLe

/-- The test files below a root, seen from where the root is seen from. -/
def Disk.discover (d : Disk) (root glob : String) : Except DiscoveryError (List String) :=
  match d.get root with
  | .error _ => .error .noRoot
  | .ok (.file ..) => .ok [root]
  | .ok (.dir entries) =>
    match Glob.parse? glob with
    | .error e => .error (.badGlob e)
    | .ok g =>
      .ok (((FileTree.dir entries).testFiles g.holds).map fun way =>
        Path.join root ("/".intercalate way))

end ScriptSuite
