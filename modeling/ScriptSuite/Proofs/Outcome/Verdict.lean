import ScriptSuite.Proofs.Outcome.OutOfBand
import ScriptSuite.Proofs.Text.Blank

/-!
# Verdicts on outputs

Whatever a program printed and however it ended, the outcome that is drawn from its output is of one
of three kinds: a pass without a message, a failure with the message of its error or with what was
printed, or an error with what was printed. Reports and exit codes rely on this.

Letting warnings fail a test can only take a pass away. Nothing else that is told of a test depends
on that setting.

## Main definitions

* `Outcome.IsVerdict`: what holds of every outcome that is drawn from an output

## Main results

* `Outcome.ofFailure_cases`: the outcomes of a test that did not pass
* `Outcome.ofOutput_ne_iff`: outcomes are verdicts, and what letting warnings fail a test changes
-/

namespace ScriptSuite

open Text

namespace Outcome

/-- An outcome that is drawn from the output of a program that ended. -/
structure IsVerdict (exit : ExitCode) (o : Outcome) : Prop where
  /-- The test was run. -/
  status_ne_skipped : o.status ≠ .skipped
  /-- A pass has no message, and all else has one. -/
  message_eq_iff : o.message = "" ↔ o.status = .passed
  /-- What the test printed is told without blanks at its ends. -/
  rawOutput : ∃ printed, o.rawOutput = some printed ∧ trimmed printed = printed
  /-- Only a failure has an error, and then it is the message. -/
  error : ∀ e, o.error = some e → o.status = .failed ∧ o.message = e.summary
  /-- What could not be understood has no error to tell of, but a message. -/
  errored : o.status = .errored → o.error = none ∧ o.message ≠ ""
  /-- Only a program that ended with zero passes. -/
  exit : o.status = .passed → exit = some 0

variable {exit : ExitCode} {failOnWarning : Bool} {s output : List Char}

theorem trimmed_ofList_trim (s : List Char) :
    trimmed (String.ofList (trim s)) = String.ofList (trim s) := by
  rw [trimmed, String.toList_ofList, (tight_trim s).trim_eq]

/-! ### Tests that did not pass -/

/-- What is told of a failure without an error: what was printed, or how the program ended. -/
def fallback (output : List Char) (exit : ExitCode) : String :=
  if output.isEmpty then exitMessage exit else String.ofList output

theorem exitMessage_ne (exit : ExitCode) : exitMessage exit ≠ "" := by
  cases exit with
  | none => decide
  | some code => simp [exitMessage]

theorem fallback_ne (output : List Char) (exit : ExitCode) : fallback output exit ≠ "" := by
  rw [fallback]
  split
  · exact exitMessage_ne exit
  · next h => simpa [List.isEmpty_iff] using h

theorem summary_ne (p : ErrorPayload) : p.summary ≠ "" := by
  simp [ErrorPayload.summary]

/-- **The outcomes of a test that did not pass**: a failure with the error of a payload, or without
one, or a payload that could not be read. -/
theorem ofFailure_cases (output : List Char) (exit : ExitCode) :
    (∃ (p : ErrorPayload) (rest : List Char), ofFailure output exit =
      { status := .failed, message := p.summary, error := p.thrown
        rawOutput := String.ofList (trim rest) }) ∨
    (∃ status, (status = .failed ∨ status = .errored) ∧ ofFailure output exit =
      { status, message := fallback output exit, rawOutput := String.ofList output }) := by
  rw [ofFailure]
  rcases Section.error.take output with ⟨_ | payload, rest⟩
  · exact Or.inr ⟨.failed, Or.inl rfl, rfl⟩
  · dsimp only
    cases ErrorPayload.parse? (trim payload) with
    | none => exact Or.inr ⟨.errored, Or.inr rfl, rfl⟩
    | some p => exact Or.inl ⟨p, rest, rfl⟩

theorem status_ofFailure (output : List Char) (exit : ExitCode) :
    (ofFailure output exit).status = .failed ∨ (ofFailure output exit).status = .errored := by
  rcases ofFailure_cases output exit with ⟨p, rest, h⟩ | ⟨status, hstatus, h⟩
  · exact Or.inl (by rw [h])
  · rwa [h]

theorem isVerdict_ofFailure (s : List Char) (exit : ExitCode) :
    (ofFailure (trim s) exit).IsVerdict exit := by
  rcases ofFailure_cases (trim s) exit with ⟨p, rest, h⟩ | ⟨status, hstatus, h⟩
  · rw [h]
    exact {
      status_ne_skipped := nofun
      message_eq_iff := iff_of_false (summary_ne p) nofun
      rawOutput := ⟨_, rfl, trimmed_ofList_trim rest⟩
      error := fun e he => ⟨rfl, congrArg ThrownError.summary (Option.some.inj he)⟩
      errored := nofun
      exit := nofun }
  · have hskipped : status ≠ .skipped := by rcases hstatus with rfl | rfl <;> decide
    have hpassed : status ≠ .passed := by rcases hstatus with rfl | rfl <;> decide
    rw [h]
    exact {
      status_ne_skipped := hskipped
      message_eq_iff := iff_of_false (fallback_ne _ exit) hpassed
      rawOutput := ⟨_, rfl, trimmed_ofList_trim s⟩
      error := nofun
      errored := fun _ => ⟨rfl, fallback_ne _ exit⟩
      exit := fun he => absurd he hpassed }

/-! ### All outputs -/

/-- The verdict does not depend on what else is told. -/
theorem IsVerdict.congr {o : Outcome} (h : o.IsVerdict exit) (coverage : Option CoverageMap)
    (warnings : List Warning) : { o with coverage, warnings : Outcome }.IsVerdict exit :=
  ⟨h.1, h.2, h.3, h.4, h.5, h.6⟩

theorem isVerdict_ofText (s : List Char) (exit : ExitCode) (failOnWarning : Bool) :
    (ofText s exit failOnWarning).IsVerdict exit := by
  rw [ofText]
  refine IsVerdict.congr ?_ none _
  split
  · next hpass =>
    rw [isPass, Bool.and_eq_true, Bool.and_eq_true, beq_iff_eq] at hpass
    exact {
      status_ne_skipped := nofun
      message_eq_iff := iff_of_true rfl rfl
      rawOutput := ⟨_, rfl, trimmed_ofList_trim _⟩
      error := nofun
      errored := nofun
      exit := fun _ => hpass.1.1 }
  · exact isVerdict_ofFailure s exit

theorem isVerdict_ofOutput (printed : String) (exit : ExitCode) (failOnWarning : Bool) :
    (ofOutput printed exit failOnWarning).IsVerdict exit := by
  rw [ofOutput_eq_ofText rfl]
  exact (isVerdict_ofText _ exit failOnWarning).congr _ _

theorem isPass_true (output : List Char) (exit : ExitCode) :
    isPass output exit true =
      (isPass output exit false && (Warning.ofOutput output).isEmpty) := by
  simp [isPass]

theorem status_ofText_eq_passed_iff :
    (ofText s exit failOnWarning).status = .passed ↔ isPass (trim s) exit failOnWarning = true := by
  rw [ofText]
  split
  · next h => exact iff_of_true rfl h
  · next h =>
    refine iff_of_false (fun hstatus => ?_) h
    have hstatus : (ofFailure (trim s) exit).status = .passed := hstatus
    rcases status_ofFailure (trim s) exit with hf | hf <;> rw [hf] at hstatus <;> cases hstatus

/-- A test that passes although warnings fail tests has none. -/
theorem warnings_eq_nil_of_status_ofText (h : (ofText s exit true).status = .passed) :
    (ofText s exit true).warnings = [] := by
  rw [status_ofText_eq_passed_iff, isPass_true, Bool.and_eq_true, List.isEmpty_iff] at h
  exact h.2

/-- Letting warnings fail a test changes the outcome of a test that passed with warnings, and of no
other. -/
theorem ofText_true_ne_iff (s : List Char) (exit : ExitCode) :
    ofText s exit true ≠ ofText s exit false ↔
      (ofText s exit false).status = .passed ∧ (ofText s exit false).warnings ≠ [] := by
  have hwarnings : (ofText s exit false).warnings = Warning.ofOutput (trim s) := rfl
  rw [status_ofText_eq_passed_iff, hwarnings]
  constructor
  · intro hne
    rw [← Bool.not_eq_false, ne_eq, ← List.isEmpty_iff, ← not_or]
    -- In either case both settings judge alike.
    rintro (hpass | hempty)
    · exact hne (by rw [ofText, ofText, isPass_true, hpass, Bool.false_and])
    · exact hne (by rw [ofText, ofText, isPass_true, hempty, Bool.and_true])
  · rintro ⟨hpass, hne⟩ heq
    have hstrict := status_ofText_eq_passed_iff.2 hpass
    rw [← heq] at hstrict
    exact hne (warnings_eq_nil_of_status_ofText hstrict)

theorem withCoverage_inj {a b : Outcome} (h : a.coverage = b.coverage)
    (coverage : Option CoverageMap) :
    { a with coverage } = { b with coverage : Outcome } ↔ a = b := by
  refine ⟨fun heq => ?_, fun heq => by rw [heq]⟩
  cases a
  cases b
  simp_all

theorem IsVerdict.status_of_ne_passed {o : Outcome} (h : o.IsVerdict exit)
    (hne : o.status ≠ .passed) : o.status = .failed ∨ o.status = .errored := by
  cases hs : o.status with
  | passed => exact absurd hs hne
  | failed => exact Or.inl rfl
  | errored => exact Or.inr rfl
  | skipped => exact absurd hs h.status_ne_skipped

/-- **What letting warnings fail a test changes**: it takes a pass with warnings away, and nothing
else. Under both settings the outcome is a verdict, and dump and warnings are the same. -/
theorem ofOutput_ne_iff (printed : String) (exit : ExitCode) :
    (ofOutput printed exit false).IsVerdict exit ∧ (ofOutput printed exit true).IsVerdict exit ∧
      (ofOutput printed exit true).coverage = (ofOutput printed exit false).coverage ∧
      (ofOutput printed exit true).warnings = (ofOutput printed exit false).warnings ∧
      (ofOutput printed exit true ≠ ofOutput printed exit false ↔
        (ofOutput printed exit false).status = .passed ∧
          (ofOutput printed exit false).warnings ≠ []) ∧
      (ofOutput printed exit true ≠ ofOutput printed exit false →
        (ofOutput printed exit true).status = .failed ∨
          (ofOutput printed exit true).status = .errored) := by
  have hloose := isVerdict_ofOutput printed exit false
  have hstrict := isVerdict_ofOutput printed exit true
  obtain ⟨dump, rest, htake⟩ :
      ∃ dump rest, Section.dump.take (unifyBreaks printed.toList) = (dump, rest) := ⟨_, _, rfl⟩
  rw [ofOutput_eq_ofText htake] at hloose hstrict
  rw [ofOutput_eq_ofText htake, ofOutput_eq_ofText htake]
  have hiff := (not_congr (withCoverage_inj (a := ofText rest exit true)
    (b := ofText rest exit false) rfl (dump.map CoverageMap.ofDump))).trans
      (ofText_true_ne_iff rest exit)
  refine ⟨hloose, hstrict, rfl, rfl, hiff, fun hne => hstrict.status_of_ne_passed fun hpassed => ?_⟩
  exact (hiff.1 hne).2 (warnings_eq_nil_of_status_ofText hpassed)

end Outcome

end ScriptSuite
