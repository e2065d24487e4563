import ScriptSuite.Outcome.Output
import ScriptSuite.Proofs.Text.Find
import ScriptSuite.Proofs.Text.Lines

/-!
# The coverage dump is out of band

A program may print a coverage dump anywhere in its output. The dump is told from the rest by its
markers, and the verdict is a function of the rest alone: the dump may hold the pass word, lines
that read as warnings, or a whole error section, and none of it counts.

The four markers of sections are unbordered, so a section is found where it stands and nowhere else,
even if the text around it holds parts of the markers.

## Main definitions

* `Section.Marked`: both markers of a section are unbordered texts
* `Outcome.ofText`: the outcome of a text from which the dump has been taken, without coverage

## Main results

* `Section.Marked.take_append`: the body of a section, and the text around it
* `Section.take_eq_self`: a text without the front marker has no section
* `Outcome.ofOutput_append_dump`: with a dump and without it, outcomes differ in coverage only
-/

namespace ScriptSuite

open Text

/-! ### Sections of an output -/

namespace Section

variable {sec : Section} {x body y s : List Char}

/-- The markers are unbordered and not empty. -/
structure Marked (sec : Section) : Prop where
  /-- The front marker is not empty. -/
  start_ne : sec.start.toList ≠ []
  /-- The end marker is not empty. -/
  stop_ne : sec.stop.toList ≠ []
  /-- The front marker is unbordered. -/
  start : Unbordered sec.start.toList
  /-- The end marker is unbordered. -/
  stop : Unbordered sec.stop.toList

theorem marked_dump : dump.Marked := ⟨by decide, by decide, by decide, by decide⟩

theorem marked_error : error.Marked := ⟨by decide, by decide, by decide, by decide⟩

theorem take_eq_self (h : ¬ sec.start.toList <:+: s) : sec.take s = (none, s) := by
  rw [take, cut_eq_none_iff.2 h]

/-- **A section is taken out where it stands**, whatever the parts of markers around it. -/
theorem Marked.take_append (hs : sec.Marked) (hx : ¬ sec.start.toList <:+: x)
    (hbody : ¬ sec.stop.toList <:+: body) :
    sec.take (x ++ (sec.start.toList ++ (body ++ (sec.stop.toList ++ y)))) =
      (some body, x ++ y) := by
  rw [take, cut_append_append hs.start_ne hs.start hx]
  dsimp only
  rw [cut_append_append hs.stop_ne hs.stop hbody]

end Section

namespace Outcome

variable {exit : ExitCode} {failOnWarning : Bool}

/-! ### What the verdict depends on -/

/-- The outcome that is drawn from a text without a dump, without coverage. -/
def ofText (s : List Char) (exit : ExitCode) (failOnWarning : Bool) : Outcome :=
  { (if isPass (trim s) exit failOnWarning then
      { status := .passed, rawOutput := String.ofList (trim (replaceFirst passWord [] (trim s))) }
    else ofFailure (trim s) exit : Outcome) with
    coverage := none, warnings := Warning.ofOutput (trim s) }

/-- An output counts through its dump, for coverage, and through the text around the dump, for all
else. -/
theorem ofOutput_eq_ofText {printed : String} {dump : Option (List Char)} {rest : List Char}
    (h : Section.dump.take (unifyBreaks printed.toList) = (dump, rest)) :
    ofOutput printed exit failOnWarning =
      { ofText rest exit failOnWarning with coverage := dump.map CoverageMap.ofDump } := by
  rw [ofOutput, h]
  rfl

theorem ofOutput_of_dump {x body y : String} (hx : '\r' ∉ x.toList) (hbody : '\r' ∉ body.toList)
    (hy : '\r' ∉ y.toList) (hstart : ¬ Section.dump.start.toList <:+: x.toList)
    (hstop : ¬ Section.dump.stop.toList <:+: body.toList) :
    ofOutput (x ++ Section.dump.start ++ body ++ Section.dump.stop ++ y) exit failOnWarning =
      { ofText (x.toList ++ y.toList) exit failOnWarning with
        coverage := some (CoverageMap.ofDump body.toList) } := by
  have hcr : '\r' ∉ (x ++ Section.dump.start ++ body ++ Section.dump.stop ++ y).toList := by
    have h₁ : '\r' ∉ Section.dump.start.toList := by decide
    have h₂ : '\r' ∉ Section.dump.stop.toList := by decide
    simp [hx, hbody, hy, h₁, h₂]
  have htake : Section.dump.take
      (x ++ Section.dump.start ++ body ++ Section.dump.stop ++ y).toList =
        (some body.toList, x.toList ++ y.toList) := by
    simpa using Section.marked_dump.take_append (y := y.toList) hstart hstop
  rw [ofOutput_eq_ofText (by rw [unifyBreaks_of_not_mem hcr, htake])]
  rfl

theorem ofOutput_of_no_dump {s : String} (hs : '\r' ∉ s.toList)
    (hstart : ¬ Section.dump.start.toList <:+: s.toList) :
    ofOutput s exit failOnWarning = ofText s.toList exit failOnWarning := by
  rw [ofOutput_eq_ofText (by rw [unifyBreaks_of_not_mem hs, Section.take_eq_self hstart])]
  rfl

/-! ### With a dump and without it -/

/-- **The coverage dump is out of band.** An output with a dump in it has the outcome of the output
without the dump, but for the coverage, which is read off the dump and off nothing else. -/
theorem ofOutput_append_dump (x body y : String) (exit : ExitCode) (failOnWarning : Bool)
    (hx : '\r' ∉ x.toList) (hbody : '\r' ∉ body.toList) (hy : '\r' ∉ y.toList)
    (hstart : occursIn Section.dump.start (x ++ y) = false)
    (hstop : occursIn Section.dump.stop body = false) :
    ofOutput (x ++ Section.dump.start ++ body ++ Section.dump.stop ++ y) exit failOnWarning =
        { ofOutput (x ++ y) exit failOnWarning with
          coverage := some (CoverageMap.ofDump body.toList) } ∧
      (ofOutput (x ++ y) exit failOnWarning).coverage = none := by
  have hxy : ¬ Section.dump.start.toList <:+: (x ++ y).toList := by
    rw [← contains_iff_infix, Bool.not_eq_true]
    exact hstart
  have hxs : ¬ Section.dump.start.toList <:+: x.toList := fun h =>
    hxy (by simpa using List.infix_append_of_infix_left h)
  have hbs : ¬ Section.dump.stop.toList <:+: body.toList := by
    rw [← contains_iff_infix, Bool.not_eq_true]
    exact hstop
  have hcr : '\r' ∉ (x ++ y).toList := by simp [hx, hy]
  rw [ofOutput_of_dump hx hbody hy hxs hbs, ofOutput_of_no_dump hcr hxy, String.toList_append]
  exact ⟨rfl, rfl⟩

/-- A failing test whose dump holds the pass word, a warning and an error section: it fails with
what it printed outside the dump. -/
theorem ofOutput_append_dump_hostile :
    ofOutput ("oops\n" ++ Section.dump.start ++
          "\nPASS\na.ahk (1) : ==> odd\n<<<AHK_ERROR_START>>>\x7b\x7d<<<AHK_ERROR_END>>>\n" ++
          Section.dump.stop ++ "\n") (some 1) true =
        { ofOutput ("oops\n" ++ "\n") (some 1) true with
          coverage := some (CoverageMap.ofDump (String.toList
            "\nPASS\na.ahk (1) : ==> odd\n<<<AHK_ERROR_START>>>\x7b\x7d<<<AHK_ERROR_END>>>\n")) } ∧
      (ofOutput ("oops\n" ++ "\n") (some 1) true).coverage = none :=
  ofOutput_append_dump "oops\n"
    "\nPASS\na.ahk (1) : ==> odd\n<<<AHK_ERROR_START>>>\x7b\x7d<<<AHK_ERROR_END>>>\n"
    "\n" (some 1) true (by decide) (by decide) (by decide) (by decide) (by decide)

end Outcome

end ScriptSuite
