import ScriptSuite.Run.Schedule

/-!
# Runs as interleavings

Tests run at the same time, one task each, and one more task that starts them all, waits for them in
the order of the request and tells the result. Which of them makes the next step is up to nobody. A
run is therefore a list of actions, each of which is one step of one task or the cancellation of the
run, which can happen at any time and is never taken back. An action says what cannot be known: how
long things took, and what came of a test.

The steps are as small as what the tasks share: the permits, the mark that the run is cancelled, and
the events that are told. The mark is read in several places, and it may have been set between any
two of them.

## Main definitions

* `Concurrent.Task.step`: a step of the task of a test
* `Concurrent.step`: a step of a run
* `Concurrent.run`: the state that a list of actions leads to, if all of them are possible

## Main results

* `Concurrent.Task.step_cases`: what a step of a task can do
* `Concurrent.step_cases`: what a step of a run can do
-/

namespace ScriptSuite.Concurrent

/-! ### Tasks of tests -/

/-- How far the task of a test has come. -/
inductive Stage where
  /-- It waits for a permit. -/
  | waiting
  /-- It does not wait any more. -/
  | permitted
  /-- It saw that the run is not cancelled, and is about to tell that the test starts. -/
  | announcing
  /-- It is about to run the test. -/
  | entering
  /-- It saw again that the run is not cancelled, and prepares the script. -/
  | preparing
  /-- The interpreter is running. -/
  | running
  /-- The test is over. -/
  | ended (outcome : Outcome)
  /-- The result is told. -/
  | leaving (result : TestResult)
  /-- The task is over. -/
  | done (result : TestResult)
  /-- The task came to a sudden end. -/
  | panicked (message : String)

/-- The task of a test. -/
structure Task where
  /-- The test. -/
  test : TestId
  /-- How far it has come. -/
  stage : Stage := .waiting
  /-- Whether it holds a permit. -/
  holds : Bool := false

/-- Whether a task at a stage may still come to a sudden end. Nothing can go wrong any more once the
result is told. -/
def Stage.isOpen : Stage → Bool
  | leaving _ | done _ | panicked _ => false
  | _ => true

/-- What the task of a test can do. -/
inductive TaskAction where
  /-- The wait for a permit is over, because there is one or no limit. -/
  | acquire
  /-- The wait for a permit is over, because the run is cancelled. -/
  | abandon
  /-- Looks whether the test may still start. -/
  | look
  /-- Tells that the test starts. -/
  | announce
  /-- Looks again, first thing in running the test. -/
  | check
  /-- The script cannot be written, or the interpreter cannot be started. -/
  | refuse (outcome : Outcome)
  /-- Starts the interpreter. -/
  | launch
  /-- The interpreter has ended or was stopped. -/
  | stop (outcome : Outcome)
  /-- Tells the result. -/
  | finish
  /-- Ends the task. -/
  | leave
  /-- Ends the task for some other reason. An interpreter that is running is stopped. -/
  | panic (message : String)

namespace Task

/-- The result of the test with an outcome. -/
def result (t : Task) (outcome : Outcome) : TestResult := .ofTest t.test outcome

/-- The free permits when the task gives its own back. -/
def release (t : Task) (permits : Option Nat) : Option Nat :=
  permits.map fun free => if t.holds then free + 1 else free

/-- A step of the task of a test: the task behind it, the free permits behind it, which are `none`
if there is no limit, and the events that it tells. -/
def step (cancelled : Bool) (t : Task) (permits : Option Nat) (a : TaskAction) :
    Option (Task × Option Nat × List RunEvent) :=
  let enter (stage : Stage) := some ({ t with stage }, permits, [])
  match t.stage, a with
  | .waiting, .acquire =>
    match permits with
    | none => enter .permitted
    | some 0 => none
    | some (free + 1) => some ({ t with stage := .permitted, holds := true }, some free, [])
  | .waiting, .abandon => if permits.isSome && cancelled then enter .permitted else none
  | .permitted, .look => enter (if cancelled then .entering else .announcing)
  | .announcing, .announce =>
    some ({ t with stage := .entering }, permits, [.started t.test])
  | .entering, .check => enter (if cancelled then .ended .cancelled else .preparing)
  | .preparing, .refuse outcome => enter (.ended outcome)
  | .preparing, .launch => enter .running
  | .running, .stop outcome => enter (.ended outcome)
  | .ended outcome, .finish =>
    some ({ t with stage := .leaving (t.result outcome) }, permits, [.finished (t.result outcome)])
  | .leaving r, .leave => some ({ t with stage := .done r, holds := false }, t.release permits, [])
  | stage, .panic message =>
    if stage.isOpen then
      some ({ t with stage := .panicked message, holds := false }, t.release permits, [])
    else none
  | _, _ => none

/-- What a step of the task of a test can do. -/
inductive Step (cancelled : Bool) :
    Task → Option Nat → TaskAction → Task → Option Nat → List RunEvent → Prop where
  | pass {test holds} : Step cancelled ⟨test, .waiting, holds⟩ none .acquire
      ⟨test, .permitted, holds⟩ none []
  | acquire {test holds} (free) : Step cancelled ⟨test, .waiting, holds⟩ (some (free + 1)) .acquire
      ⟨test, .permitted, true⟩ (some free) []
  | abandon {test holds permits} (h : cancelled = true) : Step cancelled
      ⟨test, .waiting, holds⟩ permits .abandon ⟨test, .permitted, holds⟩ permits []
  | look {test holds permits} : Step cancelled ⟨test, .permitted, holds⟩ permits .look
      ⟨test, if cancelled then .entering else .announcing, holds⟩ permits []
  | announce {test holds permits} : Step cancelled ⟨test, .announcing, holds⟩ permits .announce
      ⟨test, .entering, holds⟩ permits [.started test]
  | check {test holds permits} : Step cancelled ⟨test, .entering, holds⟩ permits .check
      ⟨test, if cancelled then .ended .cancelled else .preparing, holds⟩ permits []
  | refuse {test holds permits} (outcome) : Step cancelled ⟨test, .preparing, holds⟩ permits
      (.refuse outcome) ⟨test, .ended outcome, holds⟩ permits []
  | launch {test holds permits} : Step cancelled ⟨test, .preparing, holds⟩ permits .launch
      ⟨test, .running, holds⟩ permits []
  | stop {test holds permits} (outcome) : Step cancelled ⟨test, .running, holds⟩ permits
      (.stop outcome) ⟨test, .ended outcome, holds⟩ permits []
  | finish {test outcome holds permits} : Step cancelled ⟨test, .ended outcome, holds⟩ permits
      .finish ⟨test, .leaving (.ofTest test outcome), holds⟩ permits
      [.finished (.ofTest test outcome)]
  | leave {test r holds permits} : Step cancelled ⟨test, .leaving r, holds⟩ permits .leave
      ⟨test, .done r, false⟩ (release ⟨test, .leaving r, holds⟩ permits) []
  | panic {test stage holds permits} (message) (h : stage.isOpen = true) : Step cancelled
      ⟨test, stage, holds⟩ permits (.panic message) ⟨test, .panicked message, false⟩
      (release ⟨test, stage, holds⟩ permits) []

variable {cancelled : Bool} {t t' : Task} {permits permits' : Option Nat} {a : TaskAction}
  {events : List RunEvent}

/-- **What a step of the task of a test can do.** -/
theorem step_cases (h : t.step cancelled permits a = some (t', permits', events)) :
    Step cancelled t permits a t' permits' events := by
  obtain ⟨test, stage, holds⟩ := t
  unfold step at h
  split at h
  case h_1 hstage =>
    subst hstage
    cases permits with
    | none => cases h; exact .pass
    | some free =>
      cases free with
      | zero => cases h
      | succ free => cases h; exact .acquire free
  case h_2 hstage =>
    subst hstage
    dsimp only at h
    split at h
    · rename_i hc
      rw [Bool.and_eq_true] at hc
      cases h; exact .abandon hc.2
    · cases h
  case h_3 hstage => subst hstage; cases h; exact .look
  case h_4 hstage => subst hstage; cases h; exact .announce
  case h_5 hstage => subst hstage; cases h; exact .check
  case h_6 hstage => subst hstage; cases h; exact .refuse _
  case h_7 hstage => subst hstage; cases h; exact .launch
  case h_8 hstage => subst hstage; cases h; exact .stop _
  case h_9 hstage => subst hstage; cases h; exact .finish
  case h_10 hstage => subst hstage; cases h; exact .leave
  case h_11 =>
    dsimp only at h
    split at h
    · rename_i hopen
      cases h; exact .panic _ hopen
    · cases h
  case h_12 => cases h

end Task

/-! ### Runs -/

/-- An event, with the place in the request of the test that it is about, if it is about one. -/
structure Entry where
  /-- The place in the request. -/
  task : Option Nat
  /-- The event. -/
  event : RunEvent

/-- How far the task that waits for all others has come. -/
inductive Phase where
  /-- Nothing has happened. -/
  | starting
  /-- The tests are started and waited for. -/
  | running
  /-- The end of the run is told. -/
  | closing (report : RunReport)
  /-- The run is over. -/
  | over (report : RunReport)

/-- The state of a run. -/
structure State where
  /-- How far the task that waits for all others has come. -/
  phase : Phase := .starting
  /-- The tasks of the tests that were started, in the order of the request. -/
  tasks : List Task := []
  /-- How many permits are free, if there is a limit. -/
  permits : Option Nat
  /-- Whether the run is cancelled. -/
  cancelled : Bool := false
  /-- The results of the tasks that were waited for, in the order of the request. -/
  results : List TestResult := []
  /-- The events that were told, in order. -/
  log : List Entry := []

/-- What can happen in a run. -/
inductive Action where
  /-- The run is cancelled. -/
  | cancel
  /-- The number of tests is told. -/
  | collect
  /-- The next test gets its task. -/
  | spawn
  /-- The next task has been waited for. -/
  | join
  /-- All tasks have been waited for, and the end of the run is told. -/
  | complete (time : Nat) (disk : Disk)
  /-- The report is handed out. -/
  | close
  /-- The task of a test makes a step. -/
  | task (i : Nat) (action : TaskAction)

/-- The report of a run that takes some time and leaves a disk. -/
def conclude (p : RunPlan) (results : List TestResult) (time : Nat) (disk : Disk) : RunReport :=
  let kept := if p.coverage then (CoverageLedger.ofResults results).1 else results
  let coverage := (CoverageLedger.ofResults results).2.report p.environment.tempDir
    (RunPlan.linesOnDisk disk)
  { results := kept, summary := .ofResults kept time,
    coverage := if p.coverage then some coverage else none, cancelled := false }

/-- The outcome of a test whose task came to a sudden end. -/
def lost (message : String) : Outcome := .errored s!"Test task panicked: {message}"

/-- What waiting for a task gives: the result and the events that are told then. -/
def Task.joined? (t : Task) : Option (TestResult × List RunEvent) :=
  match t.stage with
  | .done r => some (r, [])
  | .panicked message => some (t.result (lost message), [.finished (t.result (lost message))])
  | _ => none

/-- The state at the start of a run. -/
def start (p : RunPlan) : State := { permits := p.jobs.map (max · 1) }

/-- A step of a run. -/
def step (p : RunPlan) (tests : List TestId) (s : State) : Action → Option State
  | .cancel => some { s with cancelled := true }
  | .collect =>
    match s.phase with
    | .starting =>
      some { s with phase := .running, log := s.log ++ [⟨none, .collected tests.length⟩] }
    | _ => none
  | .spawn =>
    match s.phase, tests[s.tasks.length]? with
    | .running, some test => some { s with tasks := s.tasks ++ [{ test }] }
    | _, _ => none
  | .join =>
    if s.tasks.length = tests.length then do
      let t ← s.tasks[s.results.length]?
      let (r, events) ← t.joined?
      some { s with
        results := s.results ++ [r]
        log := s.log ++ events.map (⟨some s.results.length, ·⟩) }
    else none
  | .complete time disk =>
    match s.phase with
    | .running =>
      if s.results.length = tests.length then
        let report := conclude p s.results time disk
        some { s with
          phase := .closing report
          log := s.log ++ [⟨none, .completed report.summary⟩] }
      else none
    | _ => none
  | .close =>
    match s.phase with
    | .closing report => some { s with phase := .over { report with cancelled := s.cancelled } }
    | _ => none
  | .task i a => do
    let t ← s.tasks[i]?
    let (t, permits, events) ← t.step s.cancelled s.permits a
    some { s with
      tasks := s.tasks.set i t, permits, log := s.log ++ events.map (⟨some i, ·⟩) }

/-- The state that a list of actions leads to, if all of them are possible. -/
def run (p : RunPlan) (tests : List TestId) (s : State) : List Action → Option State
  | [] => some s
  | a :: rest => (step p tests s a).bind fun s => run p tests s rest

/-- What a step of a run can do. -/
inductive Step (p : RunPlan) (tests : List TestId) (s : State) : Action → State → Prop where
  | cancel : Step p tests s .cancel { s with cancelled := true }
  | collect (h : s.phase = .starting) : Step p tests s .collect
      { s with phase := .running, log := s.log ++ [⟨none, .collected tests.length⟩] }
  | spawn {test} (h : s.phase = .running) (htest : tests[s.tasks.length]? = some test) :
      Step p tests s .spawn { s with tasks := s.tasks ++ [{ test }] }
  | join {t r events} (hall : s.tasks.length = tests.length)
      (ht : s.tasks[s.results.length]? = some t) (hjoined : t.joined? = some (r, events)) :
      Step p tests s .join { s with
        results := s.results ++ [r]
        log := s.log ++ events.map (⟨some s.results.length, ·⟩) }
  | complete {time disk} (h : s.phase = .running) (hall : s.results.length = tests.length) :
      Step p tests s (.complete time disk) { s with
        phase := .closing (conclude p s.results time disk)
        log := s.log ++ [⟨none, .completed (conclude p s.results time disk).summary⟩] }
  | close {report} (h : s.phase = .closing report) : Step p tests s .close
      { s with phase := .over { report with cancelled := s.cancelled } }
  | task {i a t t' permits events} (ht : s.tasks[i]? = some t)
      (h : t.Step s.cancelled s.permits a t' permits events) : Step p tests s (.task i a) { s with
        tasks := s.tasks.set i t', permits, log := s.log ++ events.map (⟨some i, ·⟩) }

variable {p : RunPlan} {tests : List TestId} {s s' : State} {a : Action} {acts : List Action}

/-- **What a step of a run can do.** -/
theorem step_cases (h : step p tests s a = some s') : Step p tests s a s' := by
  cases a with
  | cancel => cases h; exact .cancel
  | collect =>
    unfold step at h
    dsimp only at h
    split at h
    · rename_i hphase
      cases h; exact .collect hphase
    · cases h
  | spawn =>
    unfold step at h
    dsimp only at h
    split at h
    · rename_i hphase htest
      cases h; exact .spawn hphase htest
    · cases h
  | join =>
    unfold step at h
    dsimp only at h
    split at h
    · rename_i hall
      obtain ⟨t, ht, h⟩ := Option.bind_eq_some_iff.1 h
      obtain ⟨⟨r, events⟩, hjoined, h⟩ := Option.bind_eq_some_iff.1 h
      cases h; exact .join hall ht hjoined
    · cases h
  | complete time disk =>
    unfold step at h
    dsimp only at h
    split at h
    · rename_i hphase
      split at h
      · rename_i hall
        cases h; exact .complete hphase hall
      · cases h
    · cases h
  | close =>
    unfold step at h
    dsimp only at h
    split at h
    · rename_i hphase
      cases h; exact .close hphase
    · cases h
  | task i a =>
    obtain ⟨t, ht, h⟩ := Option.bind_eq_some_iff.1 h
    obtain ⟨⟨t', permits, events⟩, hstep, h⟩ := Option.bind_eq_some_iff.1 h
    cases h; exact .task ht (Task.step_cases hstep)

theorem run_append (acts rest : List Action) :
    run p tests s (acts ++ rest) = (run p tests s acts).bind fun s => run p tests s rest := by
  induction acts generalizing s with
  | nil => rfl
  | cons a acts ih =>
    rw [List.cons_append, run, run, Option.bind_assoc]
    simp only [ih]

/-- What every step preserves holds after a run. -/
theorem run_induction {P : State → Prop} (hs : P s) (h : run p tests s acts = some s')
    (hstep : ∀ s a s', Step p tests s a s' → P s → P s') : P s' := by
  induction acts generalizing s with
  | nil => cases h; exact hs
  | cons a acts ih =>
    obtain ⟨s₁, h₁, h⟩ := Option.bind_eq_some_iff.1 h
    exact ih (hstep s a s₁ (step_cases h₁) hs) h

end ScriptSuite.Concurrent
