import ScriptSuite.Json.Record
import ScriptSuite.Outcome.Basic

/-!
# Outcomes as JSON records

The written form of an outcome leaves out what is not known and empty lists of warnings. Reading a
written outcome back therefore takes an absent field for "not known".

## Main definitions

* `Outcome.members`: the members of the record of an outcome, in order.
* `Outcome.ofFields?`: the outcome that a record describes.
-/

namespace ScriptSuite

/-! ### Writing -/

namespace StackFrame

/-- The record of an entry of a call stack. -/
def toJson : StackFrame → Json
  | note text => Json.record [("annotation", .ofString text)]
  | located file line label =>
    Json.record [("located", Json.record
      [("file", .ofString file), ("line", .ofNat line.toNat), ("label", .ofString label)])]

end StackFrame

/-- The record of a thrown error. -/
def ThrownError.toJson (e : ThrownError) : Json :=
  Json.record <|
    [("summary", .ofString e.summary), ("file", .ofString e.file)] ++
    Json.field? "line" (e.line.map fun n => .ofNat n.toNat) ++
    [("stack_frames", .arr (e.frames.map StackFrame.toJson))]

/-- The record of a warning. -/
def Warning.toJson (w : Warning) : Json :=
  Json.record
    [("file", .ofString w.file), ("line", .ofNat w.line.toNat), ("message", .ofString w.message)]

/-- The record of a coverage map: the lines of each file, files in ascending order. -/
def CoverageMap.toJson (m : CoverageMap) : Json :=
  Json.record (m.files.entries.map fun (file, lines) =>
    (file, .arr (lines.toList.map fun n => .ofNat n.toNat)))

/-- The members of the record of an outcome. -/
def Outcome.members (o : Outcome) : List (String × Json) :=
  [("status", .ofString o.status.name), ("message", .ofString o.message)] ++
  Json.field? "duration_ms" (o.duration.map fun n => .ofNat n.toNat) ++
  Json.field? "error" (o.error.map ThrownError.toJson) ++
  Json.field? "raw_output" (o.rawOutput.map .ofString) ++
  Json.field? "coverage" (o.coverage.map CoverageMap.toJson) ++
  Json.field? "warnings"
    (if o.warnings.isEmpty then none else some (.arr (o.warnings.map Warning.toJson)))

/-! ### Reading -/

/-- The status of a tag without content. -/
def Status.ofJson? (j : Json) : Option Status :=
  j.tag?.bind Status.ofName?

namespace StackFrame

/-- Reads the place of a located entry. -/
def ofPlace? (j : Json) : Option StackFrame := do
  let fs ← j.fields? ["file", "line", "label"]
  return .located (← fs.required? "file" Json.text?) (← fs.required? "line" Json.word32?)
    (← fs.required? "label" Json.text?)

/-- Reads an entry of a call stack. -/
def ofJson? (j : Json) : Option StackFrame :=
  match j.variant? with
  | some ("annotation", some text) => text.text?.map note
  | some ("located", some place) => ofPlace? place
  | _ => none

end StackFrame

/-- Reads a thrown error. -/
def ThrownError.ofJson? (j : Json) : Option ThrownError := do
  let fs ← j.fields? ["summary", "file", "line", "stack_frames"]
  return {
    summary := (← fs.required? "summary" Json.text?)
    file := (← fs.required? "file" Json.text?)
    line := (← fs.defaultedOptional? "line" Json.word32?)
    frames := (← fs.required? "stack_frames" (Json.listOf? StackFrame.ofJson?)) }

/-- Reads a warning. -/
def Warning.ofJson? (j : Json) : Option Warning := do
  let fs ← j.fields? ["file", "line", "message"]
  return {
    file := (← fs.required? "file" Json.text?)
    line := (← fs.required? "line" Json.word32?)
    message := (← fs.required? "message" Json.text?) }

/-- Reads a coverage map; the lines of a file may come in any order, and of two entries for one file
the later counts. -/
def CoverageMap.ofJson? (j : Json) : Option CoverageMap := do
  let entries ← (← j.members?).mapM fun (file, lines) =>
    (Json.listOf? Json.word32? lines).map fun ns => (file, SortedSet.ofList ns)
  return ⟨entries.foldl (fun m (file, lines) => m.insert file lines) ∅⟩

/-- The names of the fields of an outcome, in order. -/
def Outcome.fieldNames : List String :=
  ["status", "message", "duration_ms", "error", "raw_output", "coverage", "warnings"]

/-- The outcome that the fields of a record describe. -/
def Outcome.ofFields? (fs : Json.Fields) : Option Outcome := do
  return {
    status := (← fs.required? "status" Status.ofJson?)
    message := (← fs.required? "message" Json.text?)
    duration := (← fs.optional? "duration_ms" Json.word64?)
    error := (← fs.optional? "error" ThrownError.ofJson?)
    rawOutput := (← fs.optional? "raw_output" Json.text?)
    coverage := (← fs.optional? "coverage" CoverageMap.ofJson?)
    warnings := (← fs.defaulted? "warnings" (Json.listOf? Warning.ofJson?) []) }

/-- Reads an outcome. -/
def Outcome.ofJson? (j : Json) : Option Outcome :=
  (j.fields? fieldNames).bind ofFields?

end ScriptSuite
