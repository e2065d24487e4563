import ScriptSuite.Coverage.Report
import ScriptSuite.Proofs.Coverage.Merge
import ScriptSuite.Run.Basic

/-!
# The coverage of a run

The coverage of a run is the union of the maps of its tests, where a later map of a test takes the
place of an earlier one. A table of the maps may have its entries in any order, and each record may
change that order altogether. Still, what is reported depends on the last map of each test alone.

## Main definitions

* `CoverageLedger.ofRecords`, `CoverageLedger.last?`: the ledger behind some records, and the last
  map of a test
* `CoverageLedger.IsTable`: a table of the maps behind some records, in some order
* `CoverageLedger.mergedIn`, `CoverageLedger.reportIn`: the union of the maps of a table and the
  report on it, where the maps are taken in the order of the table
* `CoverageReport.TellsOf`: what a report says

## Main results

* `CoverageLedger.IsTable.mem_iff`: a table holds the last map of each test
* `CoverageLedger.isTable_entries`: a ledger is such a table
* `CoverageLedger.tellsOf_reportIn`: what is reported
* `CoverageLedger.reportIn_eq_of_last?_eq`: it depends on the last map of each test alone
-/

namespace ScriptSuite

variable {path tempDir : String} {total : String → Nat} {line : UInt32} {m : CoverageMap}
  {f : FileCoverage}

/-! ### Reports on a map -/

namespace CoverageReport

/-- The files of a report are those of the map that are not temporary, in their order. -/
theorem map_path_files_ofMap : (ofMap tempDir total m).files.map FileCoverage.path =
    m.files.keys.filter fun path => !isTemporary tempDir path := by
  rw [ofMap, List.map_map, SortedMap.keys, List.filter_map]
  rfl

/-- A file of a report has the executed lines of the map. -/
theorem exists_of_mem_files_ofMap (hf : f ∈ (ofMap tempDir total m).files) :
    ∃ lines, m.lines? f.path = some lines ∧ f.statements = lines.toList ∧
      f.linesCovered = lines.size := by
  obtain ⟨⟨path, lines⟩, he, rfl⟩ := List.mem_map.1 hf
  exact ⟨lines, SortedMap.mem_entries_iff.1 (List.mem_filter.1 he).1, rfl, rfl⟩

/-- The report has the files of a map that are not temporary, and the lines of them that one of the
given maps has as executed. -/
structure TellsOf (r : CoverageReport) (tempDir : String) (m : CoverageMap)
    (last? : String → Option CoverageMap) : Prop where
  /-- Its files are those of the map that are not temporary. -/
  files (path : String) :
    (∃ f ∈ r.files, f.path = path) ↔ m.Lists path ∧ isTemporary tempDir path = false
  /-- The files are in ascending order, and there is one of each path. -/
  ascending : r.files.Pairwise (·.path < ·.path)
  /-- So are the lines of each file. -/
  statements : ∀ f ∈ r.files, f.statements.Pairwise (· < ·)
  /-- The lines of a file are those that the map of some test has as executed. -/
  executed : ∀ f ∈ r.files, ∀ line,
    line ∈ f.statements ↔ ∃ id m, last? id = some m ∧ m.Executes f.path line
  /-- They are counted. -/
  covered : ∀ f ∈ r.files, f.linesCovered = f.statements.length

end CoverageReport

/-! ### Records -/

namespace CoverageLedger

variable {records records' table table' : List (String × CoverageMap)} {id id' : String}

/-- The ledger behind some records, made one after the other. -/
def ofRecords (records : List (String × CoverageMap)) : CoverageLedger :=
  records.foldl (fun l e => l.record e.1 e.2) ∅

/-- The map that was recorded last for a test. -/
def last? (records : List (String × CoverageMap)) (id : String) : Option CoverageMap :=
  (records.reverse.find? fun e => e.1 = id).map (·.2)

theorem last?_concat :
    last? (records ++ [(id', m)]) id = if id' = id then some m else last? records id := by
  rw [last?, List.reverse_append, List.reverse_singleton, List.singleton_append, List.find?_cons]
  by_cases h : id' = id <;> simp [h, last?]

theorem ofRecords_concat : ofRecords (records ++ [(id, m)]) = (ofRecords records).record id m := by
  rw [ofRecords, List.foldl_append]
  rfl

/-- The ledger of a run records the coverage of the results that have one, in their order. -/
theorem ofResults_eq_ofRecords (results : List TestResult) : (ofResults results).2 =
    ofRecords (results.filterMap fun r => r.outcome.coverage.map fun m => (r.id, m)) := by
  rw [ofRecords, List.foldl_filterMap]
  refine congrArg (fun step => results.foldl step ∅) (funext fun l => funext fun r => ?_)
  cases r.outcome.coverage <;> rfl

/-! ### Tables -/

/-- A table of maps behind some records. A record drops the entry that the test had and adds a new
one, and then the entries may stand in any order. -/
inductive IsTable : List (String × CoverageMap) → List (String × CoverageMap) → Prop
  /-- At first there is nothing in it. -/
  | empty : IsTable [] []
  /-- A map is recorded. -/
  | record {records table table' : List (String × CoverageMap)} {id : String} {m : CoverageMap}
      (h : IsTable records table)
      (hperm : table'.Perm ((id, m) :: table.filter fun e => e.1 ≠ id)) :
      IsTable (records ++ [(id, m)]) table'

/-- **A table holds the last map of each test**, in whatever order it has come to stand. -/
theorem IsTable.mem_iff (h : IsTable records table) :
    (id, m) ∈ table ↔ last? records id = some m := by
  induction h with
  | empty => simp [last?]
  | @record records table table' id' m' h hperm ih =>
    rw [hperm.mem_iff, List.mem_cons, List.mem_filter, last?_concat, ih]
    by_cases hid : id' = id
    · simp [hid, eq_comm]
    · simp [hid, Ne.symm hid]

/-- **A ledger is such a table**, with the tests in ascending order. -/
theorem isTable_entries (records : List (String × CoverageMap)) :
    IsTable records (ofRecords records).maps.entries := by
  induction records using List.reverseRecOn with
  | nil => exact .empty
  | append_singleton records e ih =>
    rw [ofRecords_concat]
    exact .record ih (SortedMap.perm_insert _ _ _)

/-- The union of the maps of a table, which are taken in its order. -/
def mergedIn (table : List (String × CoverageMap)) : CoverageMap :=
  .mergeAll (table.map (·.2))

/-- The report on the union of the maps of a table. -/
def reportIn (table : List (String × CoverageMap)) (tempDir : String) (total : String → Nat) :
    CoverageReport :=
  .ofMap tempDir total (mergedIn table)

theorem IsTable.mem_map_iff (h : IsTable records table) :
    m ∈ table.map (·.2) ↔ ∃ id, last? records id = some m := by
  rw [List.mem_map]
  constructor
  · rintro ⟨⟨id, m⟩, he, rfl⟩
    exact ⟨id, h.mem_iff.1 he⟩
  · rintro ⟨id, hlast⟩
    exact ⟨(id, m), h.mem_iff.2 hlast, rfl⟩

/-- Tables with the same last maps have the same union. -/
theorem IsTable.mergedIn_eq (h : IsTable records table) (h' : IsTable records' table')
    (hlast : ∀ id, last? records id = last? records' id) : mergedIn table = mergedIn table' := by
  refine CoverageMap.mergeAll_congr fun m => ?_
  rw [h.mem_map_iff, h'.mem_map_iff]
  simp only [hlast]

/-- **What is reported**: the files that are not temporary, in ascending order, and of each of them
the lines that the last map of some test has as executed. -/
theorem tellsOf_reportIn (h : IsTable records table) :
    (reportIn table tempDir total).TellsOf tempDir (mergedIn table) (last? records) where
  files path := by
    rw [← List.mem_map, reportIn, CoverageReport.map_path_files_ofMap, List.mem_filter,
      Bool.not_eq_true', CoverageMap.Lists]
  ascending := by
    rw [← List.pairwise_map, reportIn, CoverageReport.map_path_files_ofMap]
    exact (List.pairwise_map.2 (mergedIn table).files.sorted).filter _
  statements f hf := by
    obtain ⟨lines, -, hstatements, -⟩ := CoverageReport.exists_of_mem_files_ofMap hf
    rw [hstatements]
    exact lines.sorted
  executed f hf line := by
    obtain ⟨lines, hlines, hstatements, -⟩ := CoverageReport.exists_of_mem_files_ofMap hf
    have hexecutes : line ∈ f.statements ↔ (mergedIn table).Executes f.path line := by
      rw [← CoverageMap.mem_getD_lines?_iff, hlines, hstatements]
      rfl
    rw [hexecutes, mergedIn, CoverageMap.executes_mergeAll]
    constructor
    · rintro ⟨m, hm, hline⟩
      obtain ⟨id, hlast⟩ := h.mem_map_iff.1 hm
      exact ⟨id, m, hlast, hline⟩
    · rintro ⟨id, m, hlast, hline⟩
      exact ⟨m, h.mem_map_iff.2 ⟨id, hlast⟩, hline⟩
  covered f hf := by
    obtain ⟨lines, -, hstatements, hcovered⟩ := CoverageReport.exists_of_mem_files_ofMap hf
    rw [hcovered, hstatements, SortedSet.size]

/-- **The coverage of a run depends on the last map of each test alone**, and neither on the order
of the records nor on the order in which a table of the maps is gone through. -/
theorem reportIn_eq_of_last?_eq (h : IsTable records table) (h' : IsTable records' table')
    (hlast : ∀ id, last? records id = last? records' id) (tempDir : String)
    (total : String → Nat) :
    mergedIn table = mergedIn table' ∧
      reportIn table tempDir total = reportIn table' tempDir total ∧
      (reportIn table tempDir total).TellsOf tempDir (mergedIn table) (last? records) ∧
      (ofRecords records).merged = mergedIn table ∧
      (ofRecords records).report tempDir total = reportIn table tempDir total := by
  have hledger : (ofRecords records).merged = mergedIn table :=
    (isTable_entries records).mergedIn_eq h fun _ => rfl
  refine ⟨h.mergedIn_eq h' hlast, ?_, tellsOf_reportIn h, hledger, ?_⟩
  · rw [reportIn, reportIn, h.mergedIn_eq h' hlast]
  · rw [report, reportIn, hledger]

/-- The map of a test that executed one line. -/
def oneLine (line : UInt32) : CoverageMap := (∅ : CoverageMap).record "a.ahk" line

/-- The records of a run in which a test was run again after another one. -/
def repeatedRecords : List (String × CoverageMap) :=
  [("t.ahk::A.M", oneLine 0), ("t.ahk::A.N", oneLine 1), ("t.ahk::A.M", oneLine 2)]

theorem reportIn_eq_of_last?_eq_repeatedRecords :
    IsTable repeatedRecords [("t.ahk::A.M", oneLine 2), ("t.ahk::A.N", oneLine 1)] ∧
      IsTable repeatedRecords.tail [("t.ahk::A.N", oneLine 1), ("t.ahk::A.M", oneLine 2)] ∧
      (∀ id, last? repeatedRecords id = last? repeatedRecords.tail id) ∧
      reportIn [("t.ahk::A.M", oneLine 2), ("t.ahk::A.N", oneLine 1)] "/tmp" (fun _ => 4) =
        reportIn [("t.ahk::A.N", oneLine 1), ("t.ahk::A.M", oneLine 2)] "/tmp" (fun _ => 4) := by
  have htable : IsTable repeatedRecords
      [("t.ahk::A.M", oneLine 2), ("t.ahk::A.N", oneLine 1)] :=
    .record (.record (.record .empty (.refl _)) (.refl _)) (.refl _)
  have htable' : IsTable repeatedRecords.tail
      [("t.ahk::A.N", oneLine 1), ("t.ahk::A.M", oneLine 2)] :=
    .record (.record .empty (.refl _)) (.swap _ _ _)
  have hlast (id : String) : last? repeatedRecords id = last? repeatedRecords.tail id := by
    show last? ([("t.ahk::A.M", oneLine 0)] ++ [("t.ahk::A.N", oneLine 1)] ++
      [("t.ahk::A.M", oneLine 2)]) id =
        last? ([] ++ [("t.ahk::A.N", oneLine 1)] ++ [("t.ahk::A.M", oneLine 2)]) id
    rw [last?_concat, last?_concat, last?_concat, last?_concat]
    by_cases hid : "t.ahk::A.M" = id
    · rw [if_pos hid, if_pos hid]
    · simp [last?, hid]
  obtain ⟨-, hreport, -⟩ :=
    reportIn_eq_of_last?_eq htable htable' hlast "/tmp" fun _ => 4
  exact ⟨htable, htable', hlast, hreport⟩

end CoverageLedger

end ScriptSuite
