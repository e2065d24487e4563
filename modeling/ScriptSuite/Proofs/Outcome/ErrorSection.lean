import ScriptSuite.Proofs.Outcome.ErrorReport
import ScriptSuite.Proofs.Outcome.OutOfBand
import ScriptSuite.Proofs.Text.Blank

/-!
# The error section and what stands around it

A program that did not succeed may have reported an error between two markers. Anything may stand
around the section: output of the test, the pass word, end markers without a start, a second
section. None of it counts for the error. If the body of the first section spells a payload, the
test failed with the error of this payload, and what stands around the section is told as the output
of the test; if it does not, the test is in error, and all that was printed is told.

## Main definitions

* `Outcome.errorOutput`: an output with an error section in it
* `ErrorPayload.parts`: the parts of the message for the user
* `Outcome.Tells`: an outcome tells the error of a payload

## Main results

* `Outcome.ofOutput_errorOutput`: the outcome of such an output, and what it depends on
-/

namespace ScriptSuite

open Text

/-! ### The message of a payload -/

namespace ErrorPayload

/-- The parts of the message for the user: type and message, the extra information if there is any,
and the call stack if there is one. -/
def parts (p : ErrorPayload) : List String :=
  (p.kind ++ ": " ++ p.message) ::
    ((p.extra.toList.filter (· ≠ "")).map ("\n    Specifically: " ++ ·) ++
      p.stack.toList.map ("\n\n" ++ ·))

theorem summary_eq_join (p : ErrorPayload) : p.summary = String.join p.parts := by
  have hextra : String.join ((p.extra.toList.filter (· ≠ "")).map ("\n    Specifically: " ++ ·)) =
      if (p.extra.getD "").isEmpty then "" else "\n    Specifically: " ++ p.extra.getD "" := by
    cases p.extra with
    | none => rfl
    | some extra =>
      by_cases h : extra = ""
      · subst h
        rfl
      · simp [h]
  rw [summary, parts, String.join_cons, String.join_append, hextra]
  cases p.stack with
  | none => simp
  | some stack => simp [String.append_assoc]

end ErrorPayload

namespace Outcome

/-- An outcome tells the error of a payload: the test failed, the message is that of the payload,
and the error has its place counted from zero. -/
structure Tells (o : Outcome) (p : ErrorPayload) : Prop where
  /-- The test failed. -/
  status : o.status = .failed
  /-- The message for the user. -/
  message : o.message = String.join p.parts
  /-- The error. A line of zero stands for no place. -/
  error : ∃ e, o.error = some e ∧ e.summary = o.message ∧ e.file = p.file ∧
    (∀ n, e.line = some n ↔ p.line.toNat = n.toNat + 1) ∧
    e.frames = (p.stack.map fun stack => StackFrame.ofStack stack.toList).getD []

variable {exit : ExitCode} {failOnWarning : Bool}

/-- An output with an error section in it. -/
def errorOutput (x body y : String) : String :=
  x ++ Section.error.start ++ body ++ Section.error.stop ++ y

/-- What makes the section the first one, and all of the output count. -/
structure IsErrorOutput (x body y : String) : Prop where
  /-- The texts are without carriage returns. -/
  breaks : '\r' ∉ x.toList ∧ '\r' ∉ body.toList ∧ '\r' ∉ y.toList
  /-- There is no dump to take out. -/
  dump : occursIn Section.dump.start (errorOutput x body y) = false
  /-- No section starts in front. -/
  start : occursIn Section.error.start x = false
  /-- The section does not end early. -/
  stop : occursIn Section.error.stop body = false

variable {x body y : String}

theorem toList_errorOutput (x body y : String) : (errorOutput x body y).toList =
    x.toList ++ (Section.error.start.toList ++ (body.toList ++ Section.error.stop.toList) ++
      y.toList) := by
  simp [errorOutput]

theorem tight_errorSection (s : List Char) :
    Tight (Section.error.start.toList ++ (s ++ Section.error.stop.toList)) := by
  have hhead : Section.error.start.toList.head? = some '<' := by decide
  have hlast : Section.error.stop.toList.getLast? = some '>' := by decide
  refine ⟨fun c hc => ?_, fun c hc => ?_⟩
  · obtain rfl : c = '<' := by simpa [hhead] using hc.symm
    decide
  · obtain rfl : c = '>' := by simpa [List.getLast?_append, hlast] using hc.symm
    decide

theorem errorSection_ne_nil (s : List Char) :
    Section.error.start.toList ++ (s ++ Section.error.stop.toList) ≠ [] := by
  simp [Section.error]

/-- Trimming does not reach into the section. -/
theorem trim_errorOutput (x body y : String) : trim (errorOutput x body y).toList =
    trimStart x.toList ++ (Section.error.start.toList ++ (body.toList ++
      (Section.error.stop.toList ++ trimEnd y.toList))) := by
  rw [toList_errorOutput, (tight_errorSection body.toList).trim_append (errorSection_ne_nil _)]
  simp only [List.append_assoc]

namespace IsErrorOutput

variable (h : IsErrorOutput x body y)
include h

theorem take_trim : Section.error.take (trim (errorOutput x body y).toList) =
    (some body.toList, trimStart x.toList ++ trimEnd y.toList) := by
  have hstart : ¬ Section.error.start.toList <:+: trimStart x.toList := fun hin =>
    not_infix_iff_occursIn.2 h.start (hin.trans (List.dropWhile_suffix _).isInfix)
  rw [trim_errorOutput, Section.marked_error.take_append hstart (not_infix_iff_occursIn.2 h.stop)]

theorem ofOutput_eq (hexit : exit ≠ some 0) :
    ofOutput (errorOutput x body y) exit failOnWarning =
      { ofFailure (trim (errorOutput x body y).toList) exit with
        coverage := none
        warnings := Warning.ofOutput (trim (errorOutput x body y).toList) } := by
  have hcr : '\r' ∉ (errorOutput x body y).toList := by
    have h₁ : '\r' ∉ Section.error.start.toList := by decide
    have h₂ : '\r' ∉ Section.error.stop.toList := by decide
    simp [toList_errorOutput, h.breaks, h₁, h₂]
  have hpass : isPass (trim (errorOutput x body y).toList) exit failOnWarning = false := by
    simp [isPass, hexit]
  rw [ofOutput_of_no_dump hcr (not_infix_iff_occursIn.2 h.dump), ofText, hpass,
    if_neg Bool.false_ne_true]

theorem ofFailure_of_parse?_eq_some {p : ErrorPayload}
    (hp : ErrorPayload.parse? (trim body.toList) = some p) :
    ofFailure (trim (errorOutput x body y).toList) exit =
      { status := .failed, message := p.summary, error := p.thrown
        rawOutput := trimmed (x ++ y) } := by
  rw [ofFailure, h.take_trim]
  simp only [hp, trim_trimStart_append_trimEnd, trimmed, String.toList_append]

theorem ofFailure_of_parse?_eq_none (hp : ErrorPayload.parse? (trim body.toList) = none) :
    ofFailure (trim (errorOutput x body y).toList) exit =
      { status := .errored, message := trimmed (errorOutput x body y)
        rawOutput := trimmed (errorOutput x body y) } := by
  have hne : (trim (errorOutput x body y).toList).isEmpty = false := by
    simp [trim_errorOutput, Section.error]
  rw [ofFailure, h.take_trim]
  simp only [hp, hne, Bool.false_eq_true, if_false, trimmed]

/-- The section alone is such an output, too. -/
theorem alone : IsErrorOutput "" body "" := by
  refine ⟨⟨by simp, h.breaks.2.1, by simp⟩, ?_, by decide, h.stop⟩
  rw [← not_infix_iff_occursIn]
  refine fun hin => not_infix_iff_occursIn.2 h.dump (hin.trans ⟨x.toList, y.toList, ?_⟩)
  simp [toList_errorOutput]

end IsErrorOutput

/-- A line counted from one, as it is counted from zero. -/
theorem line_thrown_eq_some_iff {p : ErrorPayload} {n : UInt32} :
    p.thrown.line = some n ↔ p.line.toNat = n.toNat + 1 := by
  have hlt := n.toNat_lt
  rw [ErrorPayload.thrown]
  by_cases h : p.line = 0
  · simp [h]
  · have hpos : 1 ≤ p.line.toNat := by
      have hne : p.line.toNat ≠ 0 := fun h0 => h (UInt32.toNat_inj.1 h0)
      omega
    have hsub : (p.line - 1).toNat = p.line.toNat - 1 :=
      UInt32.toNat_sub_of_le _ _ (UInt32.le_iff_toNat_le.2 hpos)
    rw [if_neg h, Option.some_inj, ← UInt32.toNat_inj, hsub]
    omega

theorem tells_of_thrown {o : Outcome} {p : ErrorPayload} (hstatus : o.status = .failed)
    (hmessage : o.message = p.summary) (herror : o.error = some p.thrown) : o.Tells p := by
  refine ⟨hstatus, hmessage.trans p.summary_eq_join, p.thrown, herror, hmessage.symm, rfl,
    fun n => line_thrown_eq_some_iff, ?_⟩
  rw [ErrorPayload.thrown]
  cases p.stack <;> rfl

/-- **The error section counts by its body alone.** If the body spells a payload, a program that did
not succeed failed with the error of this payload, whatever stands around the section, and the
output of the test is what stands around it. If it does not, the test is in error, without an error
to tell, and all that was printed is told. -/
theorem ofOutput_errorOutput (x body y : String) (exit : ExitCode) (failOnWarning : Bool)
    (h : IsErrorOutput x body y) (hexit : exit ≠ some 0) :
    (∀ p, ErrorPayload.parse? (trim body.toList) = some p →
      (ofOutput (errorOutput x body y) exit failOnWarning).Tells p ∧
      (ofOutput (errorOutput x body y) exit failOnWarning).rawOutput = some (trimmed (x ++ y)) ∧
      (ofOutput (errorOutput x body y) exit failOnWarning).message =
        (ofOutput (errorOutput "" body "") exit failOnWarning).message ∧
      (ofOutput (errorOutput x body y) exit failOnWarning).error =
        (ofOutput (errorOutput "" body "") exit failOnWarning).error) ∧
    (ErrorPayload.parse? (trim body.toList) = none →
      (ofOutput (errorOutput x body y) exit failOnWarning).status = .errored ∧
      (ofOutput (errorOutput x body y) exit failOnWarning).error = none ∧
      (ofOutput (errorOutput x body y) exit failOnWarning).message =
        trimmed (errorOutput x body y) ∧
      (ofOutput (errorOutput x body y) exit failOnWarning).rawOutput =
        some (trimmed (errorOutput x body y))) := by
  rw [h.ofOutput_eq hexit, h.alone.ofOutput_eq hexit]
  refine ⟨fun p hp => ?_, fun hp => ?_⟩
  · rw [h.ofFailure_of_parse?_eq_some hp, h.alone.ofFailure_of_parse?_eq_some hp]
    exact ⟨tells_of_thrown rfl rfl rfl, rfl, rfl, rfl⟩
  · rw [h.ofFailure_of_parse?_eq_none hp]
    exact ⟨rfl, rfl, rfl, rfl⟩

/-- A report of an error without a place. -/
def placelessReport : ErrorReport where
  kind := "E"
  message := "m"
  extra := "k"
  stack := "> a"
  file := "f"
  line := 0

/-- The pass word and a stray end marker stand in front, a second section behind. -/
theorem ofOutput_errorOutput_crowded :
    IsErrorOutput " PASS<<<AHK_ERROR_END>>>" (String.ofList placelessReport.body)
        "<<<AHK_ERROR_START>>>\x7b<<<AHK_ERROR_END>>>\n" ∧
      (none : ExitCode) ≠ some 0 ∧
      ErrorPayload.parse? (trim (String.ofList placelessReport.body).toList) =
        some placelessReport.payload ∧
      (ofOutput (errorOutput " PASS<<<AHK_ERROR_END>>>" (String.ofList placelessReport.body)
        "<<<AHK_ERROR_START>>>\x7b<<<AHK_ERROR_END>>>\n") none true).Tells
          placelessReport.payload := by
  have h : IsErrorOutput " PASS<<<AHK_ERROR_END>>>" (String.ofList placelessReport.body)
      "<<<AHK_ERROR_START>>>\x7b<<<AHK_ERROR_END>>>\n" :=
    ⟨by decide, by rw [occursIn, toList_errorOutput]; decide +kernel, by decide, by decide +kernel⟩
  have hexit : (none : ExitCode) ≠ some 0 := by decide
  have hp : ErrorPayload.parse? (trim (String.ofList placelessReport.body).toList) =
      some placelessReport.payload := by
    rw [String.toList_ofList, placelessReport.trim_body]
    exact ErrorReport.parse?_json (by decide)
  exact ⟨h, hexit, hp, ((ofOutput_errorOutput _ _ _ none true h hexit).1 _ hp).1⟩

end Outcome

end ScriptSuite
