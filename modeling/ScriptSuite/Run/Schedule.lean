import ScriptSuite.Run.Basic
import ScriptSuite.Run.Test

/-!
# Running tests

Tests are taken in the order of the request. A test starts when one of the permits is free, or at
once if there is no limit on how many tests run at once. A run may be cancelled: tests that wait are
not started any more, and those that run are stopped. In the end there is one result for each test,
in the order of the request, and everything that happened is told in the order of time.

## Main definitions

* `Permits`: when the permits of a run become free.
* `RunPlan.run`: runs tests.
* `Finished`: what is left of a run.
-/

namespace ScriptSuite

/-- When each permit becomes free, in milliseconds since the start of the run; none if there is no
limit. -/
abbrev Permits := Option (List Nat)

namespace Permits

/-- The permits of a run that has just started; at least one. -/
def start (jobs : Option Nat) : Permits :=
  jobs.map fun n => List.replicate (max n 1) 0

/-- When a permit becomes free. -/
def next : Permits → Nat
  | none => 0
  | some times => times.min?.getD 0

/-- The permits when the one that becomes free first is taken up to a time. -/
def take (time : Nat) : Permits → Permits
  | none => none
  | some times => some (time :: times.erase (times.min?.getD 0))

end Permits

/-- An event and when it happened. -/
structure TimedEvent where
  /-- When it happened, in milliseconds since the start of the run. -/
  time : Nat
  /-- What happened. -/
  event : RunEvent

/-- A run in progress. -/
structure RunState where
  /-- The disk. -/
  disk : Disk
  /-- The permits. -/
  permits : Permits
  /-- The results so far, last first. -/
  results : List TestResult := []
  /-- The events so far, last first. -/
  events : List TimedEvent := []
  /-- When the last test so far ended. -/
  time : Nat := 0

/-- What is left of a run. -/
structure Finished where
  /-- The report. -/
  report : RunReport
  /-- What happened, in order. -/
  events : List RunEvent
  /-- The disk. -/
  disk : Disk

namespace RunPlan

/-- Takes the next test. `cancel` is when the run is cancelled. -/
def step (p : RunPlan) (launch : Launcher) (cancel : Option Nat) (s : RunState) (test : TestId) :
    RunState :=
  let start := s.permits.next
  if cancel.any (· ≤ start) then
    let time := cancel.getD start
    let result := TestResult.ofTest test .cancelled
    { s with
      results := result :: s.results
      events := ⟨time, .finished result⟩ :: s.events
      time := max s.time time }
  else
    let (done, disk) := p.perform launch test (cancel.map (· - start)) s.disk
    let outcome := { done.outcome with duration := some (.ofNat done.time) }
    let result := TestResult.ofTest test outcome
    let stop := start + done.time
    { disk
      permits := s.permits.take stop
      results := result :: s.results
      events := ⟨stop, .finished result⟩ :: ⟨start, .started test⟩ :: s.events
      time := max s.time stop }

/-- The number of executable lines of a file on a disk; zero if it cannot be read. -/
def linesOnDisk (d : Disk) (path : String) : Nat :=
  match d.readText path with
  | .ok source => executableLineCount source
  | .error _ => 0

/-- Runs tests. The run is cancelled after `cancel` milliseconds, if at all. -/
def run (p : RunPlan) (launch : Launcher) (d : Disk) (tests : List TestId)
    (cancel : Option Nat) : Finished :=
  let start : RunState := { disk := d, permits := .start p.jobs }
  let s := tests.foldl (p.step launch cancel) start
  let (results, coverage) :=
    if p.coverage then
      let (results, ledger) := CoverageLedger.ofResults s.results.reverse
      (results, some (ledger.report p.environment.tempDir (linesOnDisk s.disk)))
    else (s.results.reverse, none)
  let summary := RunSummary.ofResults results s.time
  let events := (s.events.reverse.mergeSort fun a b => a.time ≤ b.time).map (·.event)
  { report := { results, summary, coverage, cancelled := cancel.any (· ≤ s.time) }
    events := .collected tests.length :: events ++ [.completed summary]
    disk := s.disk }

end RunPlan

end ScriptSuite
