import ScriptSuite.Sorted

/-!
# Coverage maps

Which lines of which files were executed, lines counted from zero. A file may be listed without any
line: it was loaded and nothing in it ran.

## Main definitions

* `CoverageMap`: the executed lines of each file.
* `CoverageMap.record`, `CoverageMap.merge`: one more line, and the union of two maps.
-/

namespace ScriptSuite

/-- The executed lines of each file. -/
@[ext] structure CoverageMap where
  /-- The lines of each file, files in ascending order. -/
  files : SortedMap String (SortedSet UInt32)
deriving DecidableEq

namespace CoverageMap

instance : EmptyCollection CoverageMap := ⟨⟨∅⟩⟩

instance : Inhabited CoverageMap := ⟨∅⟩

/-- The number of files. -/
def size (m : CoverageMap) : Nat := m.files.size

/-- The executed lines of a file. -/
def lines? (m : CoverageMap) (file : String) : Option (SortedSet UInt32) := m.files.get? file

/-- Lists a file; its lines stay as they are. -/
def touch (m : CoverageMap) (file : String) : CoverageMap :=
  ⟨m.files.alter file (·.getD ∅)⟩

/-- Adds an executed line of a file. -/
def record (m : CoverageMap) (file : String) (line : UInt32) : CoverageMap :=
  ⟨m.files.alter file fun lines => (lines.getD ∅).insert line⟩

/-- Adds a set of executed lines of a file. -/
def recordAll (m : CoverageMap) (file : String) (lines : SortedSet UInt32) : CoverageMap :=
  ⟨m.files.alter file fun old => (old.getD ∅).union lines⟩

/-- The files and lines of two maps together. -/
def merge (m n : CoverageMap) : CoverageMap :=
  n.files.entries.foldl (fun m (file, lines) => m.recordAll file lines) m

/-- The files and lines of all maps together. -/
def mergeAll (maps : List CoverageMap) : CoverageMap :=
  maps.foldl merge ∅

end CoverageMap

end ScriptSuite
