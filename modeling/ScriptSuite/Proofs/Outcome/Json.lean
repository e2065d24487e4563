import ScriptSuite.Outcome.Json
import ScriptSuite.Proofs.Json.Record
import ScriptSuite.Proofs.Sorted

/-!
# Reading back outcomes

Every part of an outcome is read back as it was written: statuses, stack frames, errors, warnings
and coverage maps. What is not known is left out, and so is an empty list of warnings; what is known
is written even if it is an empty text or a map without files.

## Main results

* `StackFrame.isCodec`, `ThrownError.isCodec`, `Warning.isCodec`, `CoverageMap.isCodec`: the parts
* `Outcome.ofFields?_of_isOf`: an outcome from the fields of a record that holds its slots
-/

namespace ScriptSuite

open Json

/-! ### Statuses and stack frames -/

theorem Status.isCodec : IsCodec (fun s : Status => .ofString s.name) Status.ofJson? where
  proper s := proper_ofString s.name
  ne_null _ := Json.noConfusion
  read_write s := by
    rw [Status.ofJson?, tag?_ofString, Option.bind_some]
    cases s <;> decide

namespace StackFrame

/-- The slots of a located entry. -/
def slots (file : String) (line : UInt32) (label : String) : List (String × Option Json) :=
  [("file", some (.ofString file)), ("line", some (.ofNat line.toNat)),
    ("label", some (.ofString label))]

theorem ofPlace?_record (file : String) (line : UInt32) (label : String) :
    ofPlace? (.record (ofSlots (slots file line label))) = some (.located file line label) := by
  have hnames : (slots file line label).map (·.1) = ["file", "line", "label"] := rfl
  obtain ⟨fs, hfs, hof⟩ := exists_fields?_record (slots file line label) ["file", "line", "label"]
    (by rw [hnames]; decide)
  rw [ofPlace?, hfs, Option.bind_eq_bind, Option.bind_some,
    isCodec_text.required?_eq hof "file" file (by decide) rfl,
    isCodec_word32.required?_eq hof "line" line (by decide) rfl,
    isCodec_text.required?_eq hof "label" label (by decide) rfl]
  rfl

theorem isCodec : IsCodec toJson ofJson? where
  proper f := by
    cases f with
    | note text => exact proper_record (by simpa using proper_ofString text)
    | located file line label =>
      refine proper_record (List.forall_mem_singleton.2 (proper_record ?_))
      simp [proper_ofString, proper_ofNat]
  ne_null f := by cases f <;> exact Json.noConfusion
  read_write f := by
    cases f with
    | note text =>
      rw [toJson, ofJson?, variant?_record]
      exact congrArg (Option.map note) (text?_ofString text)
    | located file line label =>
      rw [toJson, ofJson?, variant?_record]
      exact ofPlace?_record file line label

end StackFrame

/-! ### Errors and warnings -/

/-- The slots of a thrown error. -/
def ThrownError.slots (e : ThrownError) : List (String × Option Json) :=
  [("summary", some (.ofString e.summary)), ("file", some (.ofString e.file)),
    ("line", e.line.map fun n => .ofNat n.toNat),
    ("stack_frames", some (.arr (e.frames.map StackFrame.toJson)))]

theorem ThrownError.isCodec : IsCodec ThrownError.toJson ThrownError.ofJson? := by
  have hwrite : ThrownError.toJson = fun e => .record (ofSlots e.slots) := by
    funext e
    simp [toJson, slots, ofSlots, field?]
  have hframes := StackFrame.isCodec.list
  rw [hwrite]
  refine IsCodec.record slots ["summary", "file", "line", "stack_frames"] (by decide)
    (fun _ => rfl) (fun e => ?_) fun e fs hfs => ?_
  · simp only [slots, List.forall_mem_cons]
    exact ⟨isCodec_text.proper_of_mem (some e.summary), isCodec_text.proper_of_mem (some e.file),
      isCodec_word32.proper_of_mem e.line, hframes.proper_of_mem (some e.frames),
      fun _ h => absurd h List.not_mem_nil⟩
  · rw [isCodec_text.required?_eq hfs "summary" e.summary (by decide) rfl,
      isCodec_text.required?_eq hfs "file" e.file (by decide) rfl,
      isCodec_word32.defaultedOptional?_eq hfs "line" e.line (by decide) rfl,
      hframes.required?_eq hfs "stack_frames" e.frames (by decide) rfl]
    rfl

/-- The slots of a warning. -/
def Warning.slots (w : Warning) : List (String × Option Json) :=
  [("file", some (.ofString w.file)), ("line", some (.ofNat w.line.toNat)),
    ("message", some (.ofString w.message))]

theorem Warning.isCodec : IsCodec Warning.toJson Warning.ofJson? := by
  refine IsCodec.record slots ["file", "line", "message"] (by decide) (fun _ => rfl)
    (fun w => ?_) fun w fs hfs => ?_
  · simp only [slots, List.forall_mem_cons]
    exact ⟨isCodec_text.proper_of_mem (some w.file), isCodec_word32.proper_of_mem (some w.line),
      isCodec_text.proper_of_mem (some w.message), fun _ h => absurd h List.not_mem_nil⟩
  · rw [isCodec_text.required?_eq hfs "file" w.file (by decide) rfl,
      isCodec_word32.required?_eq hfs "line" w.line (by decide) rfl,
      isCodec_text.required?_eq hfs "message" w.message (by decide) rfl]
    rfl

/-! ### Coverage maps -/

theorem CoverageMap.isCodec : IsCodec CoverageMap.toJson CoverageMap.ofJson? where
  proper m := proper_record (List.forall_mem_map.2 fun e _ => isCodec_word32.list.proper e.2.toList)
  ne_null _ := Json.noConfusion
  read_write m := by
    have hentry (e : String × SortedSet UInt32) :
        ((listOf? word32? (.arr (e.2.toList.map fun n => .ofNat n.toNat))).map fun ns =>
          (e.1, SortedSet.ofList ns)) = some e := by
      rw [isCodec_word32.list.read_write, Option.map_some, SortedSet.ofList_toList]
    rw [toJson, ofJson?, members?_record, Option.bind_eq_bind, Option.bind_some,
      mapM_map_eq_some hentry]
    exact congrArg some (CoverageMap.ext (SortedMap.foldl_insert_entries m.files))

/-! ### Outcomes -/

namespace Outcome

/-- The slots of an outcome. -/
def slots (o : Outcome) : List (String × Option Json) :=
  [("status", some (.ofString o.status.name)), ("message", some (.ofString o.message)),
    ("duration_ms", o.duration.map fun n => .ofNat n.toNat),
    ("error", o.error.map ThrownError.toJson), ("raw_output", o.rawOutput.map .ofString),
    ("coverage", o.coverage.map CoverageMap.toJson),
    ("warnings", if o.warnings.isEmpty then none else some (.arr (o.warnings.map Warning.toJson)))]

theorem members_eq (o : Outcome) : o.members = ofSlots o.slots := by
  simp [members, slots, ofSlots, field?]

theorem proper_of_mem_slots (o : Outcome) : ∀ s ∈ o.slots, ∀ v ∈ s.2, v.Proper := by
  simp only [slots, List.forall_mem_cons]
  refine ⟨Status.isCodec.proper_of_mem (some o.status), isCodec_text.proper_of_mem (some o.message),
    isCodec_word64.proper_of_mem o.duration, ThrownError.isCodec.proper_of_mem o.error,
    isCodec_text.proper_of_mem o.rawOutput, CoverageMap.isCodec.proper_of_mem o.coverage, ?_,
    fun _ h => absurd h List.not_mem_nil⟩
  split
  · exact fun _ h => absurd h (by simp)
  · exact Warning.isCodec.list.proper_of_mem (some o.warnings)

/-- Warnings are left out if there are none, and then nothing is read as none. -/
theorem defaulted?_warnings {o : Outcome} {fs : Fields} (hfs : fs.IsOf fieldNames o.slots) :
    fs.defaulted? "warnings" (listOf? Warning.ofJson?) [] = some o.warnings := by
  have hslot : slot? o.slots "warnings" =
      if o.warnings.isEmpty then none else some (.arr (o.warnings.map Warning.toJson)) := rfl
  rw [Fields.defaulted?, hfs.get?_eq "warnings" (by decide), hslot]
  cases h : o.warnings with
  | nil => rfl
  | cons w rest => exact Warning.isCodec.list.read_write (w :: rest)

/-- **An outcome is read back from its slots.** -/
theorem ofFields?_of_isOf {o : Outcome} {fs : Fields} (hfs : fs.IsOf fieldNames o.slots) :
    ofFields? fs = some o := by
  rw [ofFields?, Status.isCodec.required?_eq hfs "status" o.status (by decide) rfl,
    isCodec_text.required?_eq hfs "message" o.message (by decide) rfl,
    isCodec_word64.optional?_eq hfs "duration_ms" o.duration (by decide) rfl,
    ThrownError.isCodec.optional?_eq hfs "error" o.error (by decide) rfl,
    isCodec_text.optional?_eq hfs "raw_output" o.rawOutput (by decide) rfl,
    CoverageMap.isCodec.optional?_eq hfs "coverage" o.coverage (by decide) rfl,
    defaulted?_warnings hfs]
  rfl

end Outcome

end ScriptSuite
