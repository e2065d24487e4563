import ScriptSuite.Proofs.Outcome.Json
import ScriptSuite.Report.Json

/-!
# Reading back reports

The JSON text of a report holds all of it. The text is strict JSON; the results are read back from
it as they were, with what is not known apart from what is empty, and so are the flags and the
tally. Coverage of the run is not looked at here: its ratios are floats.

## Main definitions

* `RunSummary.FitsWords`: the numbers of a tally fit the words that they are kept in

## Main results

* `TestResult.isCodec`: a result
* `RunReport.readBack_jsonText`: a report
-/

namespace ScriptSuite

open Json

/-! ### Results -/

namespace TestResult

/-- The slots of a result: the names in front of the slots of the outcome. -/
def slots (r : TestResult) : List (String × Option Json) :=
  [("id", some (.ofString r.id)), ("file", some (.ofString r.file)),
    ("name", some (.ofString r.name))] ++ r.outcome.slots

/-- The names of a result are none of the names of its outcome. -/
theorem isOf_outcome {r : TestResult} {fs : Fields}
    (hfs : fs.IsOf (["id", "file", "name"] ++ Outcome.fieldNames) r.slots) :
    fs.IsOf Outcome.fieldNames r.outcome.slots where
  positional_eq := hfs.positional_eq
  get?_eq name hname := by
    have key : ∀ name ∈ Outcome.fieldNames, name ∉ ["id", "file", "name"] := by decide
    rw [hfs.get?_eq name (List.mem_append_right _ hname), slots]
    exact slot?_append_of_not_mem (key name hname)

/-- **A result is read back**, with the outcome beside its names. -/
theorem isCodec : IsCodec toJson ofJson? := by
  have hwrite : toJson = fun r => .record (ofSlots r.slots) := by
    funext r
    rw [toJson, r.outcome.members_eq]
    rfl
  rw [hwrite]
  refine IsCodec.record slots (["id", "file", "name"] ++ Outcome.fieldNames) (by decide)
    (fun _ => rfl) (fun r => ?_) fun r fs hfs => ?_
  · rw [slots, List.forall_mem_append]
    refine ⟨?_, r.outcome.proper_of_mem_slots⟩
    simp only [List.forall_mem_cons]
    exact ⟨isCodec_text.proper_of_mem (some r.id), isCodec_text.proper_of_mem (some r.file),
      isCodec_text.proper_of_mem (some r.name), fun _ h => absurd h List.not_mem_nil⟩
  · rw [hfs.positional_eq, if_neg Bool.false_ne_true,
      isCodec_text.required?_eq hfs "id" r.id (by decide) rfl,
      isCodec_text.required?_eq hfs "file" r.file (by decide) rfl,
      isCodec_text.required?_eq hfs "name" r.name (by decide) rfl,
      Outcome.ofFields?_of_isOf (isOf_outcome hfs)]
    rfl

end TestResult

/-! ### Reports -/

/-- The numbers fit 64-bit words. -/
structure RunSummary.FitsWords (s : RunSummary) : Prop where
  /-- The number of results. -/
  total : s.total < UInt64.size
  /-- How many tests passed. -/
  passed : s.passed < UInt64.size
  /-- How many tests failed. -/
  failed : s.failed < UInt64.size
  /-- How many tests errored. -/
  errored : s.errored < UInt64.size
  /-- How many tests were skipped. -/
  skipped : s.skipped < UInt64.size
  /-- How long the run took. -/
  duration : s.duration < UInt64.size

namespace RunReport

variable {r : RunReport}

/-- The slots of a report without coverage of the run. -/
def slots (r : RunReport) : List (String × Option Json) :=
  [("success", some (.bool r.isSuccess)), ("cancelled", some (.bool r.cancelled)),
    ("total", some (.ofNat r.summary.total)), ("passed", some (.ofNat r.summary.passed)),
    ("failed", some (.ofNat r.summary.failed)), ("errored", some (.ofNat r.summary.errored)),
    ("skipped", some (.ofNat r.summary.skipped)),
    ("duration_ms", some (.ofNat r.summary.duration)),
    ("results", some (.arr (r.results.map TestResult.toJson)))]

theorem toJson_eq (h : r.coverage = none) : r.toJson = .record (ofSlots r.slots) := by
  rw [toJson, h]
  rfl

theorem nodup_slots (r : RunReport) : (r.slots.map (·.1)).Nodup := by
  have hnames : r.slots.map (·.1) = ["success", "cancelled", "total", "passed", "failed", "errored",
    "skipped", "duration_ms", "results"] := rfl
  rw [hnames]
  decide

theorem proper_toJson (h : r.coverage = none) : r.toJson.Proper := by
  rw [toJson_eq h]
  refine proper_record_ofSlots ?_
  simp only [slots, List.forall_mem_cons]
  have hresults := TestResult.isCodec.list.proper_of_mem (some r.results)
  simpa [proper_ofNat, Proper.bool] using hresults

theorem ofJson?_toJson (h : r.coverage = none) (hwords : r.summary.FitsWords) :
    RunSummary.ofJson? r.toJson = some r.summary := by
  obtain ⟨fs, hfs, hof⟩ := exists_fields?_record r.slots
    ["total", "passed", "failed", "errored", "skipped", "duration_ms"] r.nodup_slots
  rw [RunSummary.ofJson?, toJson_eq h, hfs, Option.bind_eq_bind, Option.bind_some]
  dsimp only
  rw [hof.required?_eq "total" (by decide) rfl (nat?_ofNat hwords.total),
    hof.required?_eq "passed" (by decide) rfl (nat?_ofNat hwords.passed),
    hof.required?_eq "failed" (by decide) rfl (nat?_ofNat hwords.failed),
    hof.required?_eq "errored" (by decide) rfl (nat?_ofNat hwords.errored),
    hof.required?_eq "skipped" (by decide) rfl (nat?_ofNat hwords.skipped),
    hof.required?_eq "duration_ms" (by decide) rfl (nat?_ofNat hwords.duration)]
  rfl

/-- **The JSON text of a report loses nothing.** Without coverage of the run, the text is strict
JSON for a document that it is read as, and the flags, the results in their order and the tally are
read back from the document as they were. -/
theorem readBack_jsonText (r : RunReport) (h : r.coverage = none) :
    ∃ (document : Json) (fs : Fields),
      Spells (.element document) r.jsonText.toList ∧
      parse? r.jsonText.toList = some document ∧
      document.fields? ["success", "cancelled", "results"] = some fs ∧
      fs.required? "success" bool? = some r.isSuccess ∧
      fs.required? "cancelled" bool? = some r.cancelled ∧
      fs.required? "results" (listOf? TestResult.ofJson?) = some r.results ∧
      (r.summary.FitsWords → RunSummary.ofJson? document = some r.summary) := by
  obtain ⟨fs, hfs, hof⟩ := exists_fields?_record r.slots ["success", "cancelled", "results"]
    r.nodup_slots
  have htext : Spells (.element r.toJson) r.jsonText.toList := by
    rw [jsonText, String.toList_ofList]
    exact (proper_toJson h).spells_pretty
  refine ⟨r.toJson, fs, htext, htext.parse?_eq, ?_, ?_, ?_, ?_, ofJson?_toJson h⟩
  · rw [toJson_eq h]
    exact hfs
  · exact hof.required?_eq "success" (by decide) rfl rfl
  · exact hof.required?_eq "cancelled" (by decide) rfl rfl
  · exact TestResult.isCodec.list.required?_eq hof "results" r.results (by decide) rfl

/-- A result with all that there is to know, empty or full of control characters, and one with
nothing besides. -/
def crampedReport : RunReport where
  results :=
    [{ id := "a\x00::C::M", file := "a\x00", name := "C.M"
       outcome :=
        { status := .failed, message := "\"\\\x1f\x08\x0c\r\n\t", duration := some 0
          error := some ⟨"", "", none, [.note "", .located "b" 4294967295 ""]⟩
          rawOutput := some "", coverage := some ∅, warnings := [⟨"", 0, "\x7f"⟩] } },
     { id := "", file := "", name := "", outcome := { status := .passed } }]
  summary := ⟨2, 1, 1, 0, 0, 18446744073709551615⟩
  coverage := none
  cancelled := true

theorem readBack_jsonText_crampedReport :
    ∃ (document : Json) (results : List TestResult),
      parse? crampedReport.jsonText.toList = some document ∧
      ((document.fields? ["success", "cancelled", "results"]).bind fun fs =>
        fs.required? "results" (listOf? TestResult.ofJson?)) = some results ∧
      results.map (·.outcome.rawOutput) = [some "", none] ∧
      results.map (·.outcome.coverage) = [some ∅, none] ∧
      RunSummary.ofJson? document = some ⟨2, 1, 1, 0, 0, 18446744073709551615⟩ := by
  obtain ⟨document, fs, -, hparse, hfs, -, -, hresults, hsummary⟩ :=
    readBack_jsonText crampedReport rfl
  refine ⟨document, crampedReport.results, hparse, ?_, rfl, rfl, hsummary ?_⟩
  · rw [hfs]
    exact hresults
  · exact ⟨by decide, by decide, by decide, by decide, by decide, by decide⟩

end RunReport

end ScriptSuite
