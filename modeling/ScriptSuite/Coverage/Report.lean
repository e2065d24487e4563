import ScriptSuite.Coverage.Map
import ScriptSuite.Path
import ScriptSuite.Text.Blank
import ScriptSuite.Text.Find
import ScriptSuite.Text.Lines

/-!
# Coverage reports

For each file the executed lines are set against the lines that can be executed, and for all files
together the sums of the two.

## Main definitions

* `executableLineCount`: how many lines of a source can be executed.
* `isTemporary`: whether a file lies in a directory for temporary files.
* `FileCoverage`, `CoverageReport`: the report.
* `CoverageLedger`: the maps of the tests of a run, and the report on them.
-/

namespace ScriptSuite

open Text

/-! ### Lines that can be executed -/

/-- How many of the given trimmed lines can be executed: those that are not empty, start with
neither `;` nor `#`, and lie in no block comment. A comment opens on a line that starts with `/*`
and closes on a later line that ends with `*/`. -/
def executableCount (inComment : Bool) : List (List Char) → Nat
  | [] => 0
  | line :: rest =>
    if inComment then executableCount (!(['*', '/'].isSuffixOf line)) rest
    else if ['/', '*'].isPrefixOf line then executableCount true rest
    else if line.isEmpty || line.head? = some ';' || line.head? = some '#' then
      executableCount false rest
    else executableCount false rest + 1

/-- How many lines of a source can be executed. -/
def executableLineCount (source : String) : Nat :=
  executableCount false ((lines source.toList).map trim)

/-! ### Temporary files -/

/-- Whether a file lies in a directory for temporary files: one of the two customary ones, or the
given one. -/
def isTemporary (tempDir path : String) : Bool :=
  occursIn "\\Temp\\" path || occursIn "/tmp/" path || Path.startsWith path tempDir

/-! ### Reports -/

/-- The share `covered / total`, and zero if the total is zero. -/
def coverageRatio (covered total : Nat) : Float :=
  if total = 0 then 0 else covered.toUInt64.toFloat / total.toUInt64.toFloat

/-- The coverage of one file. -/
structure FileCoverage where
  /-- The file. -/
  path : String
  /-- The share of the executable lines that were executed. -/
  lineCoverage : Float
  /-- The number of executed lines. -/
  linesCovered : Nat
  /-- The number of executable lines. -/
  linesTotal : Nat
  /-- The executed lines in ascending order, counted from zero. -/
  statements : List UInt32

/-- The sum of a count over files. -/
def FileCoverage.sum (count : FileCoverage → Nat) (files : List FileCoverage) : Nat :=
  files.foldr (fun f total => count f + total) 0

/-- The coverage of a run. -/
structure CoverageReport where
  /-- The share over all files. -/
  lineCoverage : Float
  /-- The coverage of each file. -/
  files : List FileCoverage

namespace CoverageReport

/-- The number of executed lines of all files. -/
def linesCovered (r : CoverageReport) : Nat := FileCoverage.sum (·.linesCovered) r.files

/-- The number of executable lines of all files. -/
def linesTotal (r : CoverageReport) : Nat := FileCoverage.sum (·.linesTotal) r.files

/-- The report on a map, with the number of executable lines of each file given by `total`. Files in
directories for temporary files are left out. -/
def ofMap (tempDir : String) (total : String → Nat) (m : CoverageMap) : CoverageReport :=
  let files := (m.files.entries.filter fun (path, _) => !isTemporary tempDir path).map
    fun (path, lines) =>
      { path, lineCoverage := coverageRatio lines.size (total path), linesCovered := lines.size
        linesTotal := total path, statements := lines.toList : FileCoverage }
  { lineCoverage :=
      coverageRatio (FileCoverage.sum (·.linesCovered) files)
        (FileCoverage.sum (·.linesTotal) files)
    files }

end CoverageReport

/-! ### The ledger of a run -/

/-- The maps of the tests of a run, by test id. -/
structure CoverageLedger where
  /-- The map of each test. -/
  maps : SortedMap String CoverageMap

namespace CoverageLedger

instance : EmptyCollection CoverageLedger := ⟨⟨∅⟩⟩

/-- Enters the map of a test; an earlier one of the same test is replaced. -/
def record (l : CoverageLedger) (id : String) (m : CoverageMap) : CoverageLedger :=
  ⟨l.maps.insert id m⟩

/-- The number of tests. -/
def size (l : CoverageLedger) : Nat := l.maps.size

/-- The union of all maps. -/
def merged (l : CoverageLedger) : CoverageMap :=
  .mergeAll (l.maps.entries.map (·.2))

/-- The report on the union of all maps. -/
def report (l : CoverageLedger) (tempDir : String) (total : String → Nat) : CoverageReport :=
  .ofMap tempDir total l.merged

end CoverageLedger

end ScriptSuite
