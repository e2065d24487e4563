import ScriptSuite.Proofs.Run.Interleaving

/-!
# What is told of a run

What has been told of a test is known from how far its task has come, whatever the other tasks did
in the meantime. What is told of the run as a whole is told in front of all that and behind it.

## Main definitions

* `Concurrent.eventsAt`: the events about one test
* `Concurrent.Task.IsTold`: what has been told of a test, by the stage of its task
* `Concurrent.State.IsTold`: what has been told of a run

## Main results

* `Concurrent.Task.Step.isTold`: a step of a task goes on with the story of its test
* `Concurrent.Step.isTold`: a step of a run goes on with the story of the run
-/

namespace ScriptSuite.Concurrent

variable {p : RunPlan} {tests : List TestId} {s s' : State} {a : Action} {acts : List Action}

/-! ### The events about a test -/

/-- The events about the test at a place in the request. -/
def eventsAt (i : Nat) (log : List Entry) : List RunEvent :=
  log.filterMap fun e => if e.task = some i then some e.event else none

theorem eventsAt_append (i : Nat) (log log' : List Entry) :
    eventsAt i (log ++ log') = eventsAt i log ++ eventsAt i log' :=
  List.filterMap_append

theorem eventsAt_eq_nil {i : Nat} {log : List Entry} (h : ∀ e ∈ log, e.task ≠ some i) :
    eventsAt i log = [] :=
  List.filterMap_eq_nil_iff.2 fun e he => if_neg (h e he)

theorem eventsAt_none (i : Nat) (event : RunEvent) : eventsAt i [⟨none, event⟩] = [] := rfl

theorem eventsAt_cons_self (i : Nat) (event : RunEvent) (log : List Entry) :
    eventsAt i (⟨some i, event⟩ :: log) = event :: eventsAt i log :=
  List.filterMap_cons_some (if_pos rfl)

theorem eventsAt_map_self (i : Nat) (events : List RunEvent) :
    eventsAt i (events.map (⟨some i, ·⟩)) = events := by
  induction events with
  | nil => rfl
  | cons event events ih =>
    rw [List.map_cons, eventsAt_cons_self, ih]

theorem eventsAt_map_of_ne {i j : Nat} (h : j ≠ i) (events : List RunEvent) :
    eventsAt i (events.map (⟨some j, ·⟩)) = [] := by
  refine eventsAt_eq_nil fun e he => ?_
  obtain ⟨event, -, rfl⟩ := List.mem_map.1 he
  exact fun heq => h (Option.some_inj.1 heq)

/-- The event is about a test. -/
def Entry.IsOfTest (e : Entry) : Prop :=
  e.task.isSome = true ∧
    match e.event with
    | .started _ | .finished _ => True
    | .collected _ | .completed _ => False

/-! ### The story of a test -/

namespace Task

variable {cancelled : Bool} {t t' : Task} {permits permits' : Option Nat} {a : TaskAction}
  {events told : List RunEvent}

/-- What has been told of a test whose task has come so far, and has been waited for or not. A test
of which no start is told was cancelled. -/
def IsTold (cancelled joined : Bool) (t : Task) (told : List RunEvent) : Prop :=
  match t.stage with
  | .waiting | .permitted | .announcing => told = []
  | .entering => told = [.started t.test] ∨ told = [] ∧ cancelled = true
  | .preparing | .running => told = [.started t.test]
  | .ended outcome => told = [.started t.test] ∨ told = [] ∧ outcome = .cancelled
  | .leaving r | .done r => ∃ outcome, r = t.result outcome ∧
      (told = [.started t.test, .finished r] ∨ told = [.finished r] ∧ outcome = .cancelled)
  | .panicked message => ∃ front, (front = [] ∨ front = [.started t.test]) ∧
      told = front ++ if joined then [.finished (t.result (lost message))] else []

theorem IsTold.cancel {joined : Bool} (h : t.IsTold cancelled joined told) :
    t.IsTold true joined told := by
  obtain ⟨test, stage, holds⟩ := t
  cases stage with
  | entering => exact h.imp_right fun h => ⟨h.1, rfl⟩
  | _ => exact h

/-- As long as its task may come to a sudden end, at most the start of a test is told. -/
theorem IsTold.of_isOpen {joined : Bool} (h : t.IsTold cancelled joined told)
    (hopen : t.stage.isOpen = true) : told = [] ∨ told = [.started t.test] := by
  obtain ⟨test, stage, holds⟩ := t
  cases stage with
  | waiting | permitted | announcing => exact .inl h
  | entering | ended => exact h.symm.imp_left And.left
  | preparing | running => exact .inr h
  | leaving | done | panicked => cases hopen

theorem Step.joined?_eq_none (h : t.Step cancelled permits a t' permits' events) :
    t.joined? = none := by
  cases h with
  | @panic test stage holds permits message h =>
    cases stage with
    | leaving | done | panicked => cases h
    | _ => rfl
  | _ => rfl

theorem Step.test_eq (h : t.Step cancelled permits a t' permits' events) : t'.test = t.test := by
  cases h <;> rfl

theorem Step.isOfTest (h : t.Step cancelled permits a t' permits' events) (i : Nat) :
    ∀ e ∈ events.map (Entry.mk (some i)), e.IsOfTest := by
  cases h <;> simp [Entry.IsOfTest]

/-- **A step goes on with the story of the test.** -/
theorem Step.isTold (h : t.Step cancelled permits a t' permits' events)
    (ht : t.IsTold cancelled false told) : t'.IsTold cancelled false (told ++ events) := by
  cases h with
  | pass | acquire | abandon => rwa [List.append_nil]
  | look =>
    rw [List.append_nil]
    cases cancelled with
    | false => exact ht
    | true => exact .inr ⟨ht, rfl⟩
  | announce =>
    obtain rfl : told = [] := ht
    exact .inl rfl
  | check =>
    rw [List.append_nil]
    cases cancelled with
    | false => exact ht.resolve_right fun h => Bool.false_ne_true h.2
    | true => exact ht.imp_right fun h => ⟨h.1, rfl⟩
  | refuse | stop =>
    rw [List.append_nil]
    exact .inl ht
  | launch => rwa [List.append_nil]
  | @finish test outcome holds permits =>
    refine ⟨outcome, rfl, ?_⟩
    rcases ht with rfl | ⟨rfl, rfl⟩
    · exact .inl rfl
    · exact .inr ⟨rfl, rfl⟩
  | leave => rwa [List.append_nil]
  | panic message h => exact ⟨told, ht.of_isOpen h, rfl⟩

/-- Waiting for a task ends the story of its test. -/
theorem IsTold.joined {r : TestResult} (ht : t.IsTold cancelled false told)
    (h : t.joined? = some (r, events)) : t.IsTold cancelled true (told ++ events) := by
  obtain ⟨test, stage, holds⟩ := t
  cases stage with
  | done =>
    obtain ⟨-, rfl⟩ := Prod.mk.inj (Option.some.inj h)
    rw [List.append_nil]
    exact ht
  | panicked message =>
    obtain ⟨-, rfl⟩ := Prod.mk.inj (Option.some.inj h)
    obtain ⟨front, hfront, rfl⟩ := ht
    exact ⟨front, hfront, by simp⟩
  | _ => cases h

theorem isOfTest_of_joined? {r : TestResult} (h : t.joined? = some (r, events)) (i : Nat) :
    ∀ e ∈ events.map (Entry.mk (some i)), e.IsOfTest := by
  obtain ⟨test, stage, holds⟩ := t
  cases stage with
  | done | panicked =>
    obtain ⟨-, rfl⟩ := Prod.mk.inj (Option.some.inj h)
    simp [Entry.IsOfTest]
  | _ => cases h

end Task

/-! ### The story of a run -/

/-- What is told in front of the tests and behind them, and what is reported. -/
def State.IsFramed (p : RunPlan) (tests : List TestId) (s : State) : Prop :=
  match s.phase with
  | .starting => s.log = [] ∧ s.tasks = []
  | .running => ∃ told, s.log = ⟨none, .collected tests.length⟩ :: told ∧ ∀ e ∈ told, e.IsOfTest
  | .closing report | .over report => s.results.length = tests.length ∧
      (∃ told,
        s.log = ⟨none, .collected tests.length⟩ :: (told ++ [⟨none, .completed report.summary⟩]) ∧
        ∀ e ∈ told, e.IsOfTest) ∧
      ∃ time disk cancelled, report = { conclude p s.results time disk with cancelled }

/-- What has been told of a run: the stories of the tests, with something in front and behind. -/
structure State.IsTold (p : RunPlan) (tests : List TestId) (s : State) : Prop where
  /-- The tasks are for the tests of the request, in order. -/
  order : s.tasks.map Task.test <+: tests
  /-- Nothing is told of tests without a task. -/
  task : ∀ e ∈ s.log, ∀ i, e.task = some i → i < s.tasks.length
  /-- Every test has its story. -/
  told : ∀ (i : Nat) (t : Task), s.tasks[i]? = some t →
    t.IsTold s.cancelled (decide (i < s.results.length)) (eventsAt i s.log)
  /-- The results are those of the tasks. -/
  result : ∀ (i : Nat) (r : TestResult), s.results[i]? = some r →
    ∃ (t : Task) (events : List RunEvent), s.tasks[i]? = some t ∧ t.joined? = some (r, events)
  /-- What is told in front of the stories and behind them. -/
  frame : s.IsFramed p tests

namespace State.IsTold

variable (h : s.IsTold p tests)

include h

theorem length_tasks_le : s.tasks.length ≤ tests.length := by
  simpa using h.order.length_le

/-- A task that can still do something has not been waited for. -/
theorem length_results_le_of_joined? {i : Nat} {t : Task} (ht : s.tasks[i]? = some t)
    (hjoined : t.joined? = none) : s.results.length ≤ i := by
  refine Nat.le_of_not_lt fun hlt => ?_
  obtain ⟨t', events, ht', hjoined'⟩ := h.result _ _ (List.getElem?_eq_getElem hlt)
  obtain rfl : t = t' := Option.some.inj (ht.symm.trans ht')
  exact absurd (hjoined.symm.trans hjoined') (by simp)

/-- The tests are running as long as a task has not been waited for. -/
theorem phase_eq_running (hlt : s.results.length < s.tasks.length) : s.phase = .running := by
  have hle := h.length_tasks_le
  have hframe := h.frame
  unfold IsFramed at hframe
  split at hframe
  · rw [hframe.2] at hlt
    exact absurd hlt (Nat.not_lt_zero _)
  · assumption
  · omega
  · omega

/-- Something told of a test does not matter for the frame as long as the tests are running. -/
theorem isFramed_append (hphase : s.phase = .running) {told : List Entry}
    (htold : ∀ e ∈ told, e.IsOfTest) (hs' : s'.phase = s.phase) (hlog : s'.log = s.log ++ told) :
    s'.IsFramed p tests := by
  have hframe := h.frame
  rw [IsFramed, hphase] at hframe
  rw [IsFramed, hs', hphase]
  obtain ⟨before, hbefore, htests⟩ := hframe
  refine ⟨before ++ told, ?_, ?_⟩
  · rw [hlog, hbefore, List.cons_append]
  · exact List.forall_mem_append.2 ⟨htests, htold⟩

theorem collect (hphase : s.phase = .starting) :
    State.IsTold p tests
      { s with phase := .running, log := s.log ++ [⟨none, .collected tests.length⟩] } := by
  have hframe := h.frame
  rw [IsFramed, hphase] at hframe
  refine ⟨h.order, fun e he i hi => ?_, fun i t ht => ?_, h.result, [], ?_, ?_⟩
  · rw [hframe.1, List.nil_append, List.mem_singleton] at he
    rw [he] at hi
    cases hi
  · rw [hframe.2] at ht
    cases ht
  · rw [hframe.1, List.nil_append]
  · exact fun _ he => absurd he List.not_mem_nil

theorem spawn {test : TestId} (hphase : s.phase = .running)
    (htest : tests[s.tasks.length]? = some test) :
    State.IsTold p tests { s with tasks := s.tasks ++ [{ test }] } := by
  have hlength : (s.tasks ++ [({ test } : Task)]).length = s.tasks.length + 1 := by simp
  refine ⟨?_, fun e he i hi => ?_, fun i t ht => ?_, fun i r hr => ?_, ?_⟩
  · obtain ⟨rest, hrest⟩ := h.order
    rw [← hrest, List.getElem?_append_right (by simp), List.length_map, Nat.sub_self] at htest
    obtain ⟨rest, rfl⟩ : ∃ rest', rest = test :: rest' := by
      cases rest with
      | nil => cases htest
      | cons x rest => exact ⟨rest, by rw [Option.some.inj htest]⟩
    exact ⟨rest, by simpa using hrest⟩
  · exact hlength ▸ Nat.lt_succ_of_lt (h.task e he i hi)
  · rcases Nat.lt_or_ge i s.tasks.length with hlt | hge
    · rw [List.getElem?_append_left hlt] at ht
      exact h.told i t ht
    · have hi : i < s.tasks.length + 1 := hlength ▸ (List.getElem?_eq_some_iff.1 ht).1
      obtain rfl : i = s.tasks.length := by omega
      rw [List.getElem?_concat_length] at ht
      obtain rfl := Option.some.inj ht
      exact eventsAt_eq_nil fun e he hi => Nat.lt_irrefl _ (h.task e he _ hi)
  · obtain ⟨t, events, ht, hjoined⟩ := h.result i r hr
    refine ⟨t, events, ?_, hjoined⟩
    rw [List.getElem?_append_left (List.getElem?_eq_some_iff.1 ht).1, ht]
  · have hframe := h.frame
    rw [IsFramed, hphase] at hframe ⊢
    exact hframe

theorem join {t : Task} {r : TestResult} {events : List RunEvent}
    (ht : s.tasks[s.results.length]? = some t) (hjoined : t.joined? = some (r, events)) :
    State.IsTold p tests { s with
      results := s.results ++ [r]
      log := s.log ++ events.map (⟨some s.results.length, ·⟩) } := by
  have hlt := (List.getElem?_eq_some_iff.1 ht).1
  refine ⟨h.order, fun e he i hi => ?_, fun i u hu => ?_, fun i r' hr => ?_, ?_⟩
  · rcases List.mem_append.1 he with he | he
    · exact h.task e he i hi
    · obtain ⟨event, -, rfl⟩ := List.mem_map.1 he
      obtain rfl := Option.some.inj hi
      exact hlt
  · rw [eventsAt_append]
    by_cases hi : s.results.length = i
    · subst hi
      obtain rfl : t = u := Option.some.inj (ht.symm.trans hu)
      have htold := h.told _ t ht
      rw [decide_eq_false (Nat.lt_irrefl _)] at htold
      rw [eventsAt_map_self, decide_eq_true (by simp)]
      exact htold.joined hjoined
    · have hiff : (i < (s.results ++ [r]).length) ↔ i < s.results.length := by simp; omega
      rw [eventsAt_map_of_ne hi, List.append_nil, decide_eq_decide.2 hiff]
      exact h.told i u hu
  · rcases Nat.lt_or_ge i s.results.length with hi | hge
    · rw [List.getElem?_append_left hi] at hr
      exact h.result i r' hr
    · have hi := (List.getElem?_eq_some_iff.1 hr).1
      rw [List.length_append, List.length_singleton] at hi
      obtain rfl : i = s.results.length := by omega
      rw [List.getElem?_concat_length] at hr
      obtain rfl := Option.some.inj hr
      exact ⟨t, events, ht, hjoined⟩
  · exact h.isFramed_append (h.phase_eq_running hlt) (Task.isOfTest_of_joined? hjoined _) rfl rfl

theorem complete {time : Nat} {disk : Disk} (hphase : s.phase = .running)
    (hall : s.results.length = tests.length) :
    State.IsTold p tests { s with
      phase := .closing (conclude p s.results time disk)
      log := s.log ++ [⟨none, .completed (conclude p s.results time disk).summary⟩] } := by
  have hframe := h.frame
  rw [IsFramed, hphase] at hframe
  obtain ⟨told, hlog, htold⟩ := hframe
  refine ⟨h.order, fun e he i hi => ?_, fun i t ht => ?_, h.result, hall, ⟨told, ?_, htold⟩,
    time, disk, false, rfl⟩
  · rcases List.mem_append.1 he with he | he
    · exact h.task e he i hi
    · rw [List.mem_singleton.1 he] at hi
      cases hi
  · rw [eventsAt_append, eventsAt_none, List.append_nil]
    exact h.told i t ht
  · rw [hlog, List.cons_append]

theorem close {report : RunReport} (hphase : s.phase = .closing report) :
    State.IsTold p tests
      { s with phase := .over { report with cancelled := s.cancelled } } := by
  have hframe := h.frame
  rw [IsFramed, hphase] at hframe
  obtain ⟨hall, htold, time, disk, cancelled, rfl⟩ := hframe
  exact ⟨h.order, h.task, h.told, h.result, hall, htold, time, disk, s.cancelled, rfl⟩

theorem taskStep {i : Nat} {a : TaskAction} {t t' : Task} {permits : Option Nat}
    {events : List RunEvent} (ht : s.tasks[i]? = some t)
    (hstep : t.Step s.cancelled s.permits a t' permits events) :
    State.IsTold p tests { s with
      tasks := s.tasks.set i t', permits, log := s.log ++ events.map (⟨some i, ·⟩) } := by
  have hlt := (List.getElem?_eq_some_iff.1 ht).1
  have hle := h.length_results_le_of_joined? ht hstep.joined?_eq_none
  refine ⟨?_, fun e he j hj => ?_, fun j u hu => ?_, fun j r hr => ?_, ?_⟩
  · have htest : (s.tasks.map Task.test)[i]? = some t'.test := by
      rw [List.getElem?_map, ht, Option.map_some, hstep.test_eq]
    obtain ⟨hi, htest⟩ := List.getElem?_eq_some_iff.1 htest
    rw [List.map_set, ← htest, List.set_getElem_self]
    exact h.order
  · rw [List.length_set]
    rcases List.mem_append.1 he with he | he
    · exact h.task e he j hj
    · obtain ⟨event, -, rfl⟩ := List.mem_map.1 he
      obtain rfl := Option.some.inj hj
      exact hlt
  · rw [eventsAt_append]
    by_cases hij : i = j
    · subst hij
      rw [List.getElem?_set_self hlt] at hu
      obtain rfl := Option.some.inj hu
      have htold := h.told i t ht
      rw [decide_eq_false (Nat.not_lt.2 hle)] at htold ⊢
      rw [eventsAt_map_self]
      exact hstep.isTold htold
    · rw [List.getElem?_set_ne hij] at hu
      rw [eventsAt_map_of_ne hij, List.append_nil]
      exact h.told j u hu
  · have hj : j < s.results.length := (List.getElem?_eq_some_iff.1 hr).1
    rw [List.getElem?_set_ne (by omega)]
    exact h.result j r hr
  · exact h.isFramed_append (h.phase_eq_running (Nat.lt_of_le_of_lt hle hlt)) (hstep.isOfTest i)
      rfl rfl

end State.IsTold

/-- **A step of a run goes on with the story of the run.** -/
theorem Step.isTold (h : Step p tests s a s') (hs : s.IsTold p tests) : s'.IsTold p tests := by
  cases h with
  | cancel =>
    exact ⟨hs.order, hs.task, fun i t ht => (hs.told i t ht).cancel, hs.result, hs.frame⟩
  | collect h => exact hs.collect h
  | spawn h htest => exact hs.spawn h htest
  | join hall ht hjoined => exact hs.join ht hjoined
  | complete h hall => exact hs.complete h hall
  | close h => exact hs.close h
  | task ht h => exact hs.taskStep ht h

end ScriptSuite.Concurrent
