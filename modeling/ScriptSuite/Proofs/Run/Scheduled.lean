import ScriptSuite.Proofs.Run.Permits
import ScriptSuite.Proofs.Run.Timeline

/-!
# Scheduled runs are interleavings

A run that takes one test after the other and works out the times is one of the interleavings of the
tasks: the one that goes through the events in the order in which they are told. When a test starts,
its task takes a permit and starts the interpreter; when it is over, the interpreter stops and the
task ends. A test that does not start is over when the run is cancelled, and its task goes through
all of its stages then.

What the tasks have done is known from the events that have been told so far. That a permit is free
when a test starts is where the courses have to be fair.

## Main definitions

* `Concurrent.Task.steps`: several steps of a task
* `Concurrent.Reached`: a state that can be reached from the start
* `Concurrent.taskAfter`: the task of a test behind some events
* `Concurrent.State.IsAfter`: the state of a run behind some events

## Main results

* `Concurrent.exists_isAfter_append`: the next event can be gone through
* `Concurrent.exists_isAfter_timeline`: all events can be gone through
* `RunPlan.run_isInterleaving`: a scheduled run is an interleaving
-/

namespace ScriptSuite

namespace Concurrent

variable {p : RunPlan} {tests : List TestId} {s s' : State} {acts : List Action}

/-! ### Several steps of one task -/

/-- Several steps of the task of a test. -/
def Task.steps (cancelled : Bool) (t : Task) (permits : Option Nat) :
    List TaskAction → Option (Task × Option Nat × List RunEvent)
  | [] => some (t, permits, [])
  | a :: rest =>
    (t.step cancelled permits a).bind fun (t, permits, events) =>
      (t.steps cancelled permits rest).map fun (t, permits, later) => (t, permits, events ++ later)

theorem run_map_task {i : Nat} {t t' : Task} {permits : Option Nat} {events : List RunEvent}
    {acts : List TaskAction} (ht : s.tasks[i]? = some t)
    (h : t.steps s.cancelled s.permits acts = some (t', permits, events)) :
    run p tests s (acts.map (.task i)) = some { s with
      tasks := s.tasks.set i t', permits, log := s.log ++ events.map (⟨some i, ·⟩) } := by
  induction acts generalizing s t events with
  | nil =>
    obtain ⟨rfl, rfl, rfl⟩ : t = t' ∧ s.permits = permits ∧ [] = events := by
      simpa [Task.steps] using h
    obtain ⟨hi, hget⟩ := List.getElem?_eq_some_iff.1 ht
    have hset : s.tasks.set i t = s.tasks := by rw [← hget, List.set_getElem_self]
    rw [List.map_nil, List.map_nil, run, hset, List.append_nil]
  | cons a acts ih =>
    obtain ⟨⟨t₁, permits₁, events₁⟩, hstep, h⟩ := Option.bind_eq_some_iff.1 h
    obtain ⟨⟨t₂, permits₂, events₂⟩, hsteps, h⟩ := Option.map_eq_some_iff.1 h
    cases h
    have hlt := (List.getElem?_eq_some_iff.1 ht).1
    have hfirst : step p tests s (.task i a) = some { s with
        tasks := s.tasks.set i t₁, permits := permits₁,
        log := s.log ++ events₁.map (⟨some i, ·⟩) } := by
      simp [step, ht, hstep]
    rw [List.map_cons, run, hfirst, Option.bind_some, ih (List.getElem?_set_self hlt) hsteps]
    simp

/-- The state can be reached from the start. -/
def Reached (p : RunPlan) (tests : List TestId) (s : State) : Prop :=
  ∃ acts, run p tests (start p) acts = some s

theorem Reached.run (hs : Reached p tests s) (h : run p tests s acts = some s') :
    Reached p tests s' := by
  obtain ⟨before, hbefore⟩ := hs
  refine ⟨before ++ acts, ?_⟩
  rw [run_append, hbefore, Option.bind_some, h]

/-! ### The first and the last steps -/

/-- Every test gets its task. -/
theorem run_spawn (hphase : s.phase = .running) {done rest : List TestId}
    (htests : tests = done ++ rest) (htasks : s.tasks = done.map fun test => ({ test } : Task)) :
    run p tests s (List.replicate rest.length .spawn) =
      some { s with tasks := tests.map fun test => ({ test } : Task) } := by
  induction rest generalizing s done with
  | nil =>
    rw [htests, List.append_nil, ← htasks]
    rfl
  | cons test rest ih =>
    have hfirst : step p tests s .spawn = some { s with tasks := s.tasks ++ [{ test }] } := by
      simp [step, hphase, htasks, htests]
    have hdone : tests = (done ++ [test]) ++ rest := by simp [htests]
    have htasks : s.tasks ++ [({ test } : Task)] =
        (done ++ [test]).map fun test => ({ test } : Task) := by
      simp [htasks]
    rw [List.length_cons, List.replicate_succ, run, hfirst, Option.bind_some]
    exact ih (s := { s with tasks := s.tasks ++ [{ test }] }) hphase hdone htasks

/-- Every task is waited for when all of them are over. -/
theorem run_join (hlength : s.tasks.length = tests.length) {done rest : List TestResult}
    (htasks : ∀ (i : Nat) (r : TestResult), (done ++ rest)[i]? = some r → ∃ t : Task,
      s.tasks[i]? = some t ∧ t.stage = .done r)
    (hresults : s.results = done) :
    run p tests s (List.replicate rest.length .join) =
      some { s with results := done ++ rest } := by
  induction rest generalizing s done with
  | nil =>
    rw [List.append_nil, ← hresults]
    rfl
  | cons r rest ih =>
    obtain ⟨t, ht, hstage⟩ := htasks done.length r (by simp)
    have hfirst : step p tests s .join = some { s with results := s.results ++ [r] } := by
      simp [step, hlength, hresults, ht, Task.joined?, hstage]
    have hdone : done ++ r :: rest = (done ++ [r]) ++ rest := by simp
    have hresults : s.results ++ [r] = done ++ [r] := by rw [hresults]
    rw [hdone] at htasks ⊢
    rw [List.length_cons, List.replicate_succ, run, hfirst, Option.bind_some]
    exact ih (s := { s with results := s.results ++ [r] }) hlength htasks hresults

/-! ### Going through the events -/

/-- The entry of the log for a mark. -/
def entry (m : Mark) : Entry := ⟨some m.index, m.event⟩

/-- The task of a test of which some events have been told. -/
def taskAfter (limited : Bool) (front : List Mark) (i : Nat) (c : Course) : Task :=
  if ⟨i, c, false⟩ ∈ front then ⟨c.test, .done c.result, false⟩
  else if ⟨i, c, true⟩ ∈ front then ⟨c.test, .running, limited⟩
  else ⟨c.test, .waiting, false⟩

theorem taskAfter_append_of_ne (limited : Bool) (front : List Mark) {m : Mark} {i : Nat}
    (h : m.index ≠ i) (c : Course) :
    taskAfter limited (front ++ [m]) i c = taskAfter limited front i c := by
  have hne (opens : Bool) : (⟨i, c, opens⟩ : Mark) ∈ front ++ [m] ↔ ⟨i, c, opens⟩ ∈ front := by
    rw [List.mem_append, List.mem_singleton, or_iff_left]
    rintro rfl
    exact h rfl
  simp only [taskAfter, hne]

/-- The state of a run of which some events have been told. -/
structure State.IsAfter (p : RunPlan) (cs : List Course) (front : List Mark) (s : State) :
    Prop where
  /-- The tests are running. -/
  phase : s.phase = .running
  /-- No task has been waited for. -/
  results : s.results = []
  /-- Every test has its task. -/
  length : s.tasks.length = cs.length
  /-- The tasks are where the events say. -/
  task : ∀ (i : Nat) (c : Course), cs[i]? = some c →
    s.tasks[i]? = some (taskAfter p.jobs.isSome front i c)
  /-- The run is only cancelled to skip a test. -/
  cancelled : s.cancelled = true → ∃ m ∈ front, m.opens = false ∧ m.course.start = none
  /-- The events have been told. -/
  log : s.log = ⟨none, .collected cs.length⟩ :: front.map entry

/-- What counts in a list has something at its place that counts in another list. -/
theorem countP_le_countP_of_getElem? {α β : Type} {f : α → Bool} {q : β → Bool} {l : List α}
    {l' : List β} (h : ∀ (j : Nat) (x : α), l[j]? = some x → f x = true →
      ∃ y, l'[j]? = some y ∧ q y = true) : l.countP f ≤ l'.countP q := by
  induction l generalizing l' with
  | nil => exact Nat.zero_le _
  | cons x l ih =>
    cases l' with
    | nil =>
      have hnone : (x :: l).countP f = 0 := List.countP_eq_zero.2 fun z hz hf => by
        obtain ⟨j, hj⟩ := List.mem_iff_getElem?.1 hz
        obtain ⟨y, hy, -⟩ := h j z hj hf
        cases hy
      exact Nat.le_of_eq hnone
    | cons y l' =>
      have hrest : l.countP f ≤ l'.countP q := ih fun j z hz hf => h (j + 1) z hz hf
      have hfirst : f x = true → q y = true := fun hf => by
        obtain ⟨w, hw, hq⟩ := h 0 x rfl hf
        exact Option.some.inj hw ▸ hq
      rw [List.countP_cons, List.countP_cons]
      by_cases hf : f x = true
      · rw [if_pos hf, if_pos (hfirst hf)]
        exact Nat.add_le_add_right hrest 1
      · rw [if_neg hf]
        exact Nat.le_trans hrest (Nat.le_add_right ..)

/-! ### One event -/

section Mark

variable {cs : List Course} {cancel : Option Nat} {front behind : List Mark} {m : Mark}

/-- A task that holds a permit is between the start and the end of its test. -/
theorem mem_of_holds_taskAfter {limited : Bool} {i : Nat} {c : Course}
    (h : (taskAfter limited front i c).holds = true) :
    ⟨i, c, true⟩ ∈ front ∧ ⟨i, c, false⟩ ∉ front := by
  unfold taskAfter at h
  split at h
  · cases h
  · rename_i hend
    split at h
    · rename_i hstart
      exact ⟨hstart, hend⟩
    · cases h

/-- When a test starts, fewer tasks hold a permit than there are permits. -/
theorem State.IsAfter.countP_holds_lt (hfair : IsFair (p.jobs.map (max · 1)) cancel cs)
    (hsplit : timeline cs = front ++ m :: behind) (hs : s.IsAfter p cs front)
    (hm : m.opens = true) {n : Nat} (hn : p.jobs = some n) :
    s.tasks.countP Task.holds < max n 1 := by
  have hle : s.tasks.countP Task.holds ≤ (cs.take m.index).countP (Course.goesOn m.time) := by
    refine countP_le_countP_of_getElem? fun j t ht hholds => ?_
    have hj : j < cs.length := hs.length ▸ (List.getElem?_eq_some_iff.1 ht).1
    have hc : cs[j]? = some cs[j] := List.getElem?_eq_getElem hj
    obtain rfl : t = taskAfter p.jobs.isSome front j cs[j] :=
      Option.some.inj (ht.symm.trans (hs.task j _ hc))
    obtain ⟨hstart, hend⟩ := mem_of_holds_taskAfter hholds
    obtain ⟨hlt, htime⟩ := hfair.lt_of_start_mem_front hsplit hm hstart hend
    have hsome := ((timeline.mem_front_iff hsplit _).1 (.inl hstart)).2 rfl
    refine ⟨cs[j], ?_, Bool.and_eq_true_iff.2 ⟨hsome, decide_eq_true htime⟩⟩
    rw [List.getElem?_take_of_lt hlt, hc]
  have hi := timeline.getElem?_index hsplit
  obtain ⟨hlt, hget⟩ := List.getElem?_eq_some_iff.1 hi
  have hcs : cs = cs.take m.index ++ m.course :: cs.drop (m.index + 1) := by
    rw [← hget, List.getElem_cons_drop, List.take_append_drop]
  have hlimit : p.jobs.map (max · 1) = some (max n 1) := by rw [hn, Option.map_some]
  exact Nat.lt_of_le_of_lt hle (hfair.limit _ hlimit _ _ _ _ hcs (timeline.start_eq hsplit hm))

/-- When a test starts, a permit is free. -/
theorem State.IsAfter.permits_ne_zero (hfair : IsFair (p.jobs.map (max · 1)) cancel cs)
    (hsplit : timeline cs = front ++ m :: behind) (hs : s.IsAfter p cs front)
    (hm : m.opens = true) (hcovered : s.IsCovered p) :
    s.permits ≠ some 0 ∧ s.permits.isSome = p.jobs.isSome := by
  have hpermits := hcovered.permits
  cases hn : p.jobs with
  | none =>
    rw [hn, Option.map_none, Option.map_eq_none_iff] at hpermits
    rw [hpermits]
    exact ⟨by simp, rfl⟩
  | some n =>
    rw [hn, Option.map_some, Option.map_eq_some_iff] at hpermits
    obtain ⟨free, hfree, hall⟩ := hpermits
    have hlt := hs.countP_holds_lt hfair hsplit hm hn
    rw [hfree]
    refine ⟨fun hzero => ?_, rfl⟩
    cases hzero
    omega

/-- The task of a test goes on to where the next event says. -/
theorem State.IsAfter.taskStep {t' : Task} {permits : Option Nat} {cancelled : Bool}
    (hsplit : timeline cs = front ++ m :: behind) (hs : s.IsAfter p cs front)
    (ht' : t' = taskAfter p.jobs.isSome (front ++ [m]) m.index m.course)
    (hc : cancelled = true → ∃ a ∈ front ++ [m], a.opens = false ∧ a.course.start = none) :
    State.IsAfter p cs (front ++ [m]) { s with
      tasks := s.tasks.set m.index t', permits, cancelled, log := s.log ++ [entry m] } := by
  have hi := timeline.getElem?_index hsplit
  refine ⟨hs.phase, hs.results, ?_, fun i c hic => ?_, hc, ?_⟩
  · rw [List.length_set, hs.length]
  · by_cases hmi : m.index = i
    · subst hmi
      obtain rfl : m.course = c := Option.some.inj (hi.symm.trans hic)
      have hlt : m.index < s.tasks.length := hs.length ▸ (List.getElem?_eq_some_iff.1 hi).1
      rw [List.getElem?_set_self hlt, ht']
    · rw [List.getElem?_set_ne hmi, hs.task i c hic, taskAfter_append_of_ne _ _ hmi]
  · rw [hs.log, List.map_append, List.cons_append, List.map_singleton]

/-- A test starts: its task goes through all stages up to the interpreter. -/
theorem Task.steps_launch (test : TestId) {cancelled : Bool} {permits : Option Nat}
    (hc : cancelled = false) (h : permits ≠ some 0) :
    ∃ permits', Task.steps cancelled ⟨test, .waiting, false⟩ permits
      [.acquire, .look, .announce, .check, .launch] =
        some (⟨test, .running, permits.isSome⟩, permits', [.started test]) := by
  subst hc
  match permits, h with
  | none, _ => exact ⟨_, rfl⟩
  | some (free + 1), _ => exact ⟨_, rfl⟩

/-- A test that has started is over. -/
theorem Task.steps_stop (test : TestId) (outcome : Outcome) (cancelled holds : Bool)
    (permits : Option Nat) : ∃ permits', Task.steps cancelled ⟨test, .running, holds⟩ permits
      [.stop outcome, .finish, .leave] =
        some (⟨test, .done (.ofTest test outcome), false⟩, permits',
          [.finished (.ofTest test outcome)]) :=
  ⟨_, rfl⟩

/-- A test is skipped because the run is cancelled. -/
theorem Task.steps_skip (test : TestId) {outcome : Outcome} (h : outcome = .cancelled)
    (permits : Option Nat) : ∃ acts permits', Task.steps true ⟨test, .waiting, false⟩ permits acts =
      some (⟨test, .done (.ofTest test outcome), false⟩, permits',
        [.finished (.ofTest test outcome)]) := by
  subst h
  cases permits with
  | none => exact ⟨[.acquire, .look, .check, .finish, .leave], _, rfl⟩
  | some free => exact ⟨[.abandon, .look, .check, .finish, .leave], _, rfl⟩

theorem exists_isAfter_launch (hfair : IsFair (p.jobs.map (max · 1)) cancel cs)
    (hsplit : timeline cs = front ++ m :: behind) (hs : s.IsAfter p cs front)
    (hreached : Reached p tests s) (hm : m.opens = true) :
    ∃ s', s'.IsAfter p cs (front ++ [m]) ∧ Reached p tests s' := by
  obtain ⟨i, c, opens⟩ := m
  obtain rfl : opens = true := hm
  have hstart : ⟨i, c, true⟩ ∉ front := timeline.not_mem_front hsplit
  have hend : ⟨i, c, false⟩ ∉ front := hfair.end_not_mem_front hsplit rfl
  have ht := hs.task i c (timeline.getElem?_index hsplit)
  rw [taskAfter, if_neg hend, if_neg hstart] at ht
  have hcancelled : s.cancelled = false := by
    refine Bool.eq_false_iff.2 fun hc => ?_
    obtain ⟨a, ha, hopens, hnone⟩ := hs.cancelled hc
    have hsome := hfair.isSome_of_end_mem_front hsplit rfl ha hopens
    rw [hnone] at hsome
    cases hsome
  obtain ⟨acts, hacts⟩ := hreached
  obtain ⟨hpermits, hlimited⟩ := hs.permits_ne_zero hfair hsplit rfl (isCovered_of_run hacts)
  obtain ⟨permits', hsteps⟩ := Task.steps_launch c.test hcancelled hpermits
  refine ⟨_, hs.taskStep hsplit ?_ fun hc => ?_, Reached.run ⟨acts, hacts⟩ (run_map_task ht hsteps)⟩
  · rw [hlimited, taskAfter, if_neg (by simp [hend]), if_pos (by simp)]
  · exact absurd (hcancelled.symm.trans hc) Bool.false_ne_true

theorem exists_isAfter_stop (hfair : IsFair (p.jobs.map (max · 1)) cancel cs)
    (hsplit : timeline cs = front ++ m :: behind) (hs : s.IsAfter p cs front)
    (hreached : Reached p tests s) (hm : m.opens = false) (hstart : m.course.start.isSome = true) :
    ∃ s', s'.IsAfter p cs (front ++ [m]) ∧ Reached p tests s' := by
  obtain ⟨i, c, opens⟩ := m
  obtain rfl : opens = false := hm
  have hstart : ⟨i, c, true⟩ ∈ front := hfair.start_mem_front hsplit rfl hstart
  have hend : ⟨i, c, false⟩ ∉ front := timeline.not_mem_front hsplit
  have ht := hs.task i c (timeline.getElem?_index hsplit)
  rw [taskAfter, if_neg hend, if_pos hstart] at ht
  obtain ⟨permits', hsteps⟩ := Task.steps_stop c.test c.outcome s.cancelled _ s.permits
  refine ⟨_, hs.taskStep hsplit ?_ fun hc => ?_, hreached.run (run_map_task ht hsteps)⟩
  · rw [taskAfter, if_pos (by simp)]
    rfl
  · obtain ⟨a, ha, h⟩ := hs.cancelled hc
    exact ⟨a, List.mem_append_left _ ha, h⟩

theorem exists_isAfter_skip (hfair : IsFair (p.jobs.map (max · 1)) cancel cs)
    (hsplit : timeline cs = front ++ m :: behind) (hs : s.IsAfter p cs front)
    (hreached : Reached p tests s) (hm : m.opens = false) (hstart : m.course.start = none) :
    ∃ s', s'.IsAfter p cs (front ++ [m]) ∧ Reached p tests s' := by
  obtain ⟨i, c, opens⟩ := m
  obtain rfl : opens = false := hm
  have hi := timeline.getElem?_index hsplit
  have hend : ⟨i, c, false⟩ ∉ front := timeline.not_mem_front hsplit
  have hnot : ⟨i, c, true⟩ ∉ front := fun hmem => by
    have hsome := ((timeline.mem_front_iff hsplit _).1 (.inl hmem)).2 rfl
    rw [hstart] at hsome
    cases hsome
  have ht := hs.task i c hi
  rw [taskAfter, if_neg hend, if_neg hnot] at ht
  have houtcome : c.outcome = .cancelled := (hfair.skipped c (List.mem_of_getElem? hi) hstart).2
  obtain ⟨acts, permits', hsteps⟩ := Task.steps_skip c.test houtcome s.permits
  have hcancelled : Reached p tests { s with cancelled := true } :=
    hreached.run (show run p tests s [.cancel] = _ from rfl)
  have hskip := hcancelled.run (run_map_task ht hsteps)
  refine ⟨_, hs.taskStep hsplit ?_ fun _ => ⟨_, by simp, rfl, hstart⟩, hskip⟩
  rw [taskAfter, if_pos (by simp)]
  rfl

/-- **The next event can be gone through.** -/
theorem exists_isAfter_append (hfair : IsFair (p.jobs.map (max · 1)) cancel cs)
    (hsplit : timeline cs = front ++ m :: behind) (hs : s.IsAfter p cs front)
    (hreached : Reached p tests s) : ∃ s', s'.IsAfter p cs (front ++ [m]) ∧ Reached p tests s' := by
  cases hm : m.opens with
  | true => exact exists_isAfter_launch hfair hsplit hs hreached hm
  | false =>
    cases hstart : m.course.start with
    | some time => exact exists_isAfter_stop hfair hsplit hs hreached hm (by simp [hstart])
    | none => exact exists_isAfter_skip hfair hsplit hs hreached hm hstart

end Mark

/-- All events can be gone through. -/
theorem exists_isAfter_timeline {cs : List Course} {cancel : Option Nat} {front behind : List Mark}
    (hfair : IsFair (p.jobs.map (max · 1)) cancel cs) (hsplit : timeline cs = front ++ behind)
    (hs : s.IsAfter p cs front) (hreached : Reached p tests s) :
    ∃ s', s'.IsAfter p cs (timeline cs) ∧ Reached p tests s' := by
  induction behind generalizing s front with
  | nil =>
    rw [List.append_nil] at hsplit
    exact ⟨s, hsplit ▸ hs, hreached⟩
  | cons m behind ih =>
    obtain ⟨s', hs', hreached'⟩ := exists_isAfter_append hfair hsplit hs hreached
    exact ih (by rw [hsplit, List.append_cons]) hs' hreached'

/-! ### The whole run -/

/-- All tests have their tasks, and nothing has been told of them. -/
theorem exists_isAfter_nil {cs : List Course} (htests : cs.map Course.test = tests) :
    ∃ s, s.IsAfter p cs [] ∧ Reached p tests s := by
  have hlength : cs.length = tests.length := htests ▸ (List.length_map _).symm
  let collected : State :=
    { start p with phase := .running, log := [⟨none, .collected tests.length⟩] }
  have hcollect : Reached p tests collected := ⟨[.collect], rfl⟩
  have hspawn : run p tests collected _ = _ := @run_spawn _ _ _ rfl [] tests rfl rfl
  refine ⟨_, ⟨rfl, rfl, ?_, fun i c hc => ?_, Bool.noConfusion, ?_⟩, hcollect.run hspawn⟩
  · exact (List.length_map _).trans hlength.symm
  · have htest : tests[i]? = some c.test := by rw [← htests, List.getElem?_map, hc, Option.map_some]
    simp [taskAfter, htest]
  · rw [hlength]
    rfl

/-- When all events have been told, all tests are over. -/
theorem State.IsAfter.stage_eq {cs : List Course} (hs : s.IsAfter p cs (timeline cs)) {i : Nat}
    {r : TestResult} (hr : (cs.map Course.result)[i]? = some r) :
    ∃ t : Task, s.tasks[i]? = some t ∧ t.stage = .done r := by
  rw [List.getElem?_map, Option.map_eq_some_iff] at hr
  obtain ⟨c, hc, rfl⟩ := hr
  have hend : ⟨i, c, false⟩ ∈ timeline cs := mem_timeline_iff.2 ⟨hc, Bool.noConfusion⟩
  refine ⟨_, hs.task i c hc, ?_⟩
  rw [taskAfter, if_pos hend]

/-- A run that is not cancelled yet can still be. -/
theorem Reached.cancel {c : Bool} (hs : Reached p tests s) (h : s.cancelled = true → c = true) :
    Reached p tests { s with cancelled := c } := by
  cases c with
  | true => exact hs.run (show Concurrent.run p tests s [.cancel] = _ from rfl)
  | false =>
    have hfalse : s.cancelled = false := Bool.eq_false_iff.2 fun hc => Bool.false_ne_true (h hc)
    rwa [← hfalse]

/-- When all events have been told, the run can be brought to its end. -/
theorem State.IsAfter.exists_over {cs : List Course} (hs : s.IsAfter p cs (timeline cs))
    (hreached : Reached p tests s) (htests : cs.map Course.test = tests) {cancelled : Bool}
    (hc : s.cancelled = true → cancelled = true) (time : Nat) (disk : Disk) :
    let report := conclude p (cs.map Course.result) time disk
    ∃ s', Reached p tests s' ∧ s'.phase = .over { report with cancelled } ∧
      s'.log = s.log ++ [⟨none, .completed report.summary⟩] := by
  have hlength : s.tasks.length = tests.length := by rw [hs.length, ← htests, List.length_map]
  have hjoin := @run_join p tests s hlength [] (cs.map Course.result) (fun _ _ => hs.stage_eq)
    hs.results
  have hjoined := hreached.run hjoin
  rw [List.nil_append] at hjoined
  have hall : (cs.map Course.result).length = tests.length := by
    rw [← htests, List.length_map, List.length_map]
  let report := conclude p (cs.map Course.result) time disk
  have hcomplete : run p tests { s with results := cs.map Course.result } [.complete time disk] =
      some { s with
        results := cs.map Course.result
        phase := .closing report
        log := s.log ++ [⟨none, .completed report.summary⟩] } := by
    simp [run, step, hs.phase, hall, report]
  have hcompleted := (hjoined.run hcomplete).cancel hc
  exact ⟨_, hcompleted.run (show run p tests _ [.close] = some _ from rfl), rfl, rfl⟩

end Concurrent

namespace RunPlan

open Concurrent

theorem report_run (p : RunPlan) (launch : Launcher) (d : Disk) (tests : List TestId)
    (cancel : Option Nat) :
    let s := tests.foldl (p.step launch cancel) { disk := d, permits := .start p.jobs }
    (p.run launch d tests cancel).report =
      { conclude p s.results.reverse s.time s.disk with cancelled := cancel.any (· ≤ s.time) } := by
  unfold run conclude
  cases p.coverage <;> rfl

theorem events_run (p : RunPlan) (launch : Launcher) (d : Disk) (tests : List TestId)
    (cancel : Option Nat) :
    let s := tests.foldl (p.step launch cancel) { disk := d, permits := .start p.jobs }
    (p.run launch d tests cancel).events = .collected tests.length ::
      ((s.events.reverse.mergeSort fun a b => a.time ≤ b.time).map TimedEvent.event ++
        [.completed (p.run launch d tests cancel).report.summary]) :=
  rfl

/-- **A scheduled run is an interleaving**: some order of the steps tells the same events and gives
the same report. -/
theorem run_isInterleaving (p : RunPlan) (launch : Launcher) (d : Disk) (tests : List TestId)
    (cancel : Option Nat) : ∃ (acts : List Action) (s : State),
      Concurrent.run p tests (start p) acts = some s ∧
        s.phase = .over (p.run launch d tests cancel).report ∧
        s.log.map Entry.event = (p.run launch d tests cancel).events := by
  rw [events_run, report_run]
  have hfair := p.isFair_courses launch cancel d tests
  have hsum := p.foldl_step launch cancel { disk := d, permits := .start p.jobs } tests
  have htests := @map_test_courses p launch cancel { disk := d, permits := .start p.jobs } tests
  generalize tests.foldl (p.step launch cancel) { disk := d, permits := .start p.jobs } = sum at *
  generalize p.courses launch cancel { disk := d, permits := .start p.jobs } tests = cs at *
  obtain ⟨hresults, hevents, -, hstop⟩ := hsum
  obtain ⟨s₁, hs₁, hreached₁⟩ := @exists_isAfter_nil p tests cs htests
  obtain ⟨s₂, hs₂, hreached₂⟩ := exists_isAfter_timeline hfair rfl hs₁ hreached₁
  have hc : s₂.cancelled = true → cancel.any (· ≤ sum.time) = true := fun hc => by
    obtain ⟨m, hm, -, hnone⟩ := hs₂.cancelled hc
    have hmem := List.mem_of_getElem? (mem_timeline_iff.1 hm).1
    rw [(hfair.skipped _ hmem hnone).1]
    exact decide_eq_true (hstop _ hmem)
  obtain ⟨s, ⟨acts, hacts⟩, hover, hlog⟩ := hs₂.exists_over hreached₂ htests hc sum.time sum.disk
  have hresults : sum.results.reverse = cs.map Course.result := hresults
  have hevents : sum.events.reverse = cs.flatMap Course.events := hevents
  refine ⟨acts, s, hacts, hresults ▸ hover, ?_⟩
  have htold : (timeline cs).map (Entry.event ∘ entry) = (timeline cs).map Mark.event := rfl
  rw [hlog, hs₂.log, List.map_append, List.map_cons, List.map_map, htold, hevents, hresults,
    map_event_timeline, ← htests, List.length_map]
  rfl

end RunPlan

end ScriptSuite
