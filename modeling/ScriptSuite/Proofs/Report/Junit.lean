import Mathlib.Data.List.Forall2
import ScriptSuite.Proofs.Distinct
import ScriptSuite.Proofs.Xml.RoundTrip
import ScriptSuite.Report.Junit
import ScriptSuite.Run.Basic

/-!
# What JUnit reports tell

The suites of a report are built one result at a time. What comes out can be said without the order
of building: there is one suite for each file that has a result, in the order in which the files
occur first, and it holds the results of that file in their order.

A report is an XML document whatever the files, the names, the messages and the outputs in it are,
and the document tells how every test went: one element per file, in it one per result of the file,
and in that nothing, or the message under the name of the status and what was printed.

## Main definitions

* `Suite.files`: the files of some results, in the order in which they occur first
* `Suite.ofFile`: the suite of a file
* `Junit.IsOutput`, `Junit.IsMessage`, `Junit.IsDetails`, `Junit.IsCase`, `Junit.IsSuite`: what
  elements tell

## Main results

* `Suite.add_map_ofFile`: one more result
* `Suite.ofResults_eq_map_ofFile`: the suites of some results
* `Junit.isTagged_document`: the names in a report are names
* `Junit.read?_report`: a report is a document that tells how every test went
-/

namespace ScriptSuite.Suite

variable {r : TestResult} {names : List String} {results : List TestResult}

/-- The files of some results, in the order in which they occur first. -/
def files (results : List TestResult) : List String := (results.map TestResult.file).eraseDups

/-- The suite of a file: its results in their order. -/
def ofFile (results : List TestResult) (file : String) : Suite where
  name := file
  tests := results.filter fun r => r.file = file

theorem mem_files {file : String} : file ∈ files results ↔ ∃ r ∈ results, r.file = file := by
  rw [files, List.mem_eraseDups, List.mem_map]

theorem files_append_of_mem (h : r.file ∈ files results) :
    files (results ++ [r]) = files results :=
  eraseDups_map_concat_of_mem h

theorem files_append_of_not_mem (h : r.file ∉ files results) :
    files (results ++ [r]) = files results ++ [r.file] :=
  eraseDups_map_concat_of_not_mem h

theorem nodup_files (results : List TestResult) : (files results).Nodup :=
  nodup_eraseDups _

/-- A result does not matter for the suites of other files. -/
theorem ofFile_append_singleton_of_ne {file : String} (h : r.file ≠ file) :
    ofFile (results ++ [r]) file = ofFile results file := by
  simp [ofFile, h]

theorem ofFile_append_singleton_self :
    ofFile (results ++ [r]) r.file =
      { ofFile results r.file with tests := (ofFile results r.file).tests ++ [r] } := by
  simp [ofFile]

/-- A result of a new file makes a new suite. -/
theorem add_map_of_not_mem (h : r.file ∉ names) :
    add r (names.map (ofFile results)) = names.map (ofFile results) ++ [⟨r.file, [r]⟩] := by
  induction names with
  | nil => rfl
  | cons n names ih =>
    rw [List.mem_cons, not_or] at h
    have hne : (ofFile results n).name ≠ r.file := Ne.symm h.1
    rw [List.map_cons, add, if_neg hne, ih h.2, List.cons_append]

/-- A result of a file that has a suite joins it. -/
theorem add_map_of_mem (hnodup : names.Nodup) (h : r.file ∈ names) :
    add r (names.map (ofFile results)) = names.map (ofFile (results ++ [r])) := by
  induction names with
  | nil => exact absurd h List.not_mem_nil
  | cons n names ih =>
    rw [List.nodup_cons] at hnodup
    rw [List.map_cons, add, List.map_cons]
    split
    · rename_i hn
      obtain rfl : n = r.file := hn
      have hrest : ∀ n ∈ names, ofFile results n = ofFile (results ++ [r]) n := fun n hn =>
        (ofFile_append_singleton_of_ne fun heq => hnodup.1 (heq ▸ hn)).symm
      rw [ofFile_append_singleton_self, List.map_congr_left hrest]
    · rename_i hn
      have hne : n ≠ r.file := hn
      rw [ofFile_append_singleton_of_ne hne.symm,
        ih hnodup.2 ((List.mem_cons.1 h).resolve_left hne.symm)]

/-- **One more result** goes to the suite of its file, which is made if need be. -/
theorem add_map_ofFile (results : List TestResult) (r : TestResult) :
    add r ((files results).map (ofFile results)) =
      (files (results ++ [r])).map (ofFile (results ++ [r])) := by
  by_cases h : r.file ∈ files results
  · rw [add_map_of_mem (nodup_files results) h, files_append_of_mem h]
  · have hold : ∀ n ∈ files results, ofFile results n = ofFile (results ++ [r]) n := fun n hn =>
      (ofFile_append_singleton_of_ne fun heq => h (heq ▸ hn)).symm
    have hnew : results.filter (fun s => s.file = r.file) = [] := by
      simpa using fun s hs heq => h (mem_files.2 ⟨s, hs, heq⟩)
    rw [add_map_of_not_mem h, files_append_of_not_mem h, List.map_append, List.map_congr_left hold]
    simp [ofFile, hnew]

/-- **There is one suite for each file**, in the order in which the files occur first, with the
results of that file in their order. -/
theorem ofResults_eq_map_ofFile (results : List TestResult) :
    ofResults results = (files results).map (ofFile results) := by
  have hfold (done rest : List TestResult) :
      rest.foldl (fun suites r => add r suites) ((files done).map (ofFile done)) =
        (files (done ++ rest)).map (ofFile (done ++ rest)) := by
    induction rest generalizing done with
    | nil => rw [List.append_nil, List.foldl_nil]
    | cons r rest ih => rw [List.foldl_cons, add_map_ofFile, ih, List.append_assoc]; rfl
  exact hfold [] results

end ScriptSuite.Suite

namespace ScriptSuite.Junit

open Xml

variable {e : Element} {es : List Element} {o : Outcome} {r : TestResult}

/-! ### What elements tell -/

/-- The elements are those of an output: one with all of it, if there is any. -/
def IsOutput (output : String) (es : List Element) : Prop :=
  if output = "" then es = []
  else ∃ e, es = [e] ∧ e.name = "system-out" ∧ e.elements = [] ∧ e.text = legibleText output

/-- The elements are those of a test that did not succeed: one with all of the message, and behind
it what was printed. -/
def IsMessage (name : String) (o : Outcome) (es : List Element) : Prop :=
  ∃ e rest, es = e :: rest ∧ e.name = name ∧ e.elements = [] ∧ e.text = legibleText o.message ∧
    IsOutput (o.rawOutput.getD "") rest

/-- The elements are those of an outcome. -/
def IsDetails (o : Outcome) (es : List Element) : Prop :=
  match o.status with
  | .passed => es = []
  | .failed => IsMessage "failure" o es
  | .errored => IsMessage "error" o es
  | .skipped => ∃ e, es = [e] ∧ e.name = "skipped" ∧ e.elements = [] ∧
      e.attribute? "message" = some (legibleText o.message)

/-- The element is that of a result. -/
structure IsCase (r : TestResult) (e : Element) : Prop where
  /-- Its name. -/
  name : e.name = "testcase"
  /-- The method of the test. -/
  method : e.attribute? "name" = some (legibleText (classAndMethod r.name).2)
  /-- The class of the test. -/
  cls : e.attribute? "classname" = some (legibleText (classAndMethod r.name).1)
  /-- What is in it. -/
  details : IsDetails r.outcome e.elements

/-- The element is that of a file with the given results. -/
structure IsSuite (file : String) (results : List TestResult) (e : Element) : Prop where
  /-- Its name. -/
  name : e.name = "testsuite"
  /-- The file. -/
  file : e.attribute? "name" = some (legibleText file)
  /-- The results in it, in their order. -/
  cases : List.Forall₂ IsCase results e.elements

/-! ### The names in a report -/

theorem isTagged_of_mem_systemOut {x : Xml} (hx : x ∈ systemOut o) : x.IsTagged := by
  unfold systemOut at hx
  split at hx
  · split at hx
    · exact absurd hx List.not_mem_nil
    · obtain rfl := List.mem_singleton.1 hx
      exact .text (by decide) _
  · exact absurd hx List.not_mem_nil

theorem isTagged_of_mem_details {x : Xml} (hx : x ∈ details o) : x.IsTagged := by
  unfold details at hx
  split at hx
  · exact absurd hx List.not_mem_nil
  · rcases List.mem_cons.1 hx with rfl | hx
    · exact .text (show isTag "failure" ["message", "type"] = true by decide) _
    · exact isTagged_of_mem_systemOut hx
  · rcases List.mem_cons.1 hx with rfl | hx
    · exact .text (show isTag "error" ["message"] = true by decide) _
    · exact isTagged_of_mem_systemOut hx
  · obtain rfl := List.mem_singleton.1 hx
    exact .empty (show isTag "skipped" ["message"] = true by decide)

theorem isTagged_testCase (r : TestResult) : (testCase r).IsTagged := by
  unfold testCase
  cases hes : details r.outcome with
  | nil => exact .empty (show isTag "testcase" ["name", "classname", "time"] = true by decide)
  | cons x xs =>
    exact .branch (show isTag "testcase" ["name", "classname", "time"] = true by decide)
      fun y hy => isTagged_of_mem_details (hes ▸ hy)

theorem isTagged_testSuite (s : Suite) : (testSuite s).IsTagged := by
  refine .branch (show isTag "testsuite"
    ["name", "tests", "failures", "errors", "skipped", "time"] = true by decide) fun x hx => ?_
  obtain ⟨r, -, rfl⟩ := List.mem_map.1 hx
  exact isTagged_testCase r

/-- The names in a report are names, so nothing else that it holds can end a tag. -/
theorem isTagged_document (timestamp : String) (r : RunReport) :
    (document timestamp r).IsTagged := by
  refine .branch (show isTag "testsuites"
    ["name", "tests", "failures", "errors", "skipped", "time", "timestamp"] = true by decide)
    fun x hx => ?_
  obtain ⟨s, -, rfl⟩ := List.mem_map.1 hx
  exact isTagged_testSuite s

/-! ### What is read of a report -/

theorem isOutput_systemOut (o : Outcome) (depth : Nat) :
    IsOutput (o.rawOutput.getD "") ((systemOut o).map (elementAt depth)) := by
  unfold systemOut IsOutput
  cases o.rawOutput with
  | none => rfl
  | some s =>
    simp only [Option.getD_some, String.isEmpty_iff]
    split
    · rfl
    · exact ⟨_, rfl, rfl, elements_elementAt_text .., text_elementAt_text ..⟩

theorem isDetails_details (o : Outcome) (depth : Nat) :
    IsDetails o ((details o).map (elementAt depth)) := by
  unfold details IsDetails
  cases o.status with
  | passed => rfl
  | failed =>
    exact ⟨_, _, rfl, rfl, elements_elementAt_text .., text_elementAt_text ..,
      isOutput_systemOut o depth⟩
  | errored =>
    exact ⟨_, _, rfl, rfl, elements_elementAt_text .., text_elementAt_text ..,
      isOutput_systemOut o depth⟩
  | skipped => exact ⟨_, rfl, rfl, rfl, rfl⟩

theorem isCase_testCase (r : TestResult) (depth : Nat) :
    IsCase r ((testCase r).elementAt depth) := by
  have hdetails := isDetails_details r.outcome (depth + 1)
  unfold testCase
  cases hes : details r.outcome with
  | nil =>
    rw [hes] at hdetails
    exact ⟨rfl, rfl, rfl, hdetails⟩
  | cons x xs =>
    rw [hes, ← elements_elementAt_branch] at hdetails
    refine ⟨rfl, rfl, rfl, hdetails⟩

theorem isSuite_testSuite (s : Suite) (depth : Nat) :
    IsSuite s.name s.tests ((testSuite s).elementAt depth) := by
  refine ⟨rfl, rfl, ?_⟩
  rw [testSuite, elements_elementAt_branch, List.map_map, List.forall₂_map_right_iff,
    List.forall₂_same]
  exact fun r _ => isCase_testCase r (depth + 1)

/-- **A report is a document that tells how every test went.** -/
theorem read?_report (timestamp : String) (r : RunReport) :
    (∀ c ∈ (report timestamp r).toList, isChar c = true) ∧
      ∃ root, Element.read? (report timestamp r) = some root ∧ root.name = "testsuites" ∧
        List.Forall₂ (fun file => IsSuite file (r.results.filter fun s => s.file = file))
          (Suite.files r.results) root.elements := by
  have htagged := isTagged_document timestamp r
  refine ⟨htagged.isChar_of_mem_render, _, htagged.read?_render, rfl, ?_⟩
  rw [document, elements_elementAt_branch, Suite.ofResults_eq_map_ofFile, List.map_map,
    List.map_map, List.forall₂_map_right_iff, List.forall₂_same]
  exact fun file _ => isSuite_testSuite (Suite.ofFile r.results file) 1

end ScriptSuite.Junit
