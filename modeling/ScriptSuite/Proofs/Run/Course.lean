import ScriptSuite.Run.Schedule

/-!
# The times of a run

A run takes one test after the other and works out when it starts and when it is over. What comes
out for the tests together is fair: they start in the order of the request, never more of them at
once than there are permits, and none when the run is cancelled.

That there are enough permits is seen from the times at which they become free. From the time on at
which the next one does, there are never more tests that go on than permits that are taken.

## Main definitions

* `Course`: when a test starts and ends
* `RunPlan.courses`: the courses of the tests of a run
* `IsFair`: how the courses of the tests go together

## Main results

* `RunPlan.foldl_step`: a run adds up the courses of its tests
* `RunPlan.isFair_courses`: the courses of a run are fair
-/

namespace ScriptSuite

/-- The course of a test. -/
structure Course where
  /-- The test. -/
  test : TestId
  /-- When it starts, if it does. -/
  start : Option Nat
  /-- When it is over. -/
  stop : Nat
  /-- Its outcome. -/
  outcome : Outcome
deriving DecidableEq

namespace Course

/-- The result. -/
def result (c : Course) : TestResult := .ofTest c.test c.outcome

/-- What is told of the test. -/
def events (c : Course) : List TimedEvent :=
  (c.start.map fun time => ⟨time, .started c.test⟩).toList ++ [⟨c.stop, .finished c.result⟩]

/-- Whether the test has started and is not over at a time. -/
def goesOn (time : Nat) (c : Course) : Bool := c.start.isSome && decide (time < c.stop)

end Course

/-! ### The courses of a run -/

namespace RunPlan

variable (p : RunPlan) (launch : Launcher) (cancel : Option Nat)

/-- The course of the next test. -/
def course (s : RunState) (test : TestId) : Course :=
  let start := s.permits.next
  if cancel.any (· ≤ start) then
    { test, start := none, stop := cancel.getD start, outcome := .cancelled }
  else
    let done := (p.perform launch test (cancel.map (· - start)) s.disk).1
    { test, start := some start, stop := start + done.time,
      outcome := { done.outcome with duration := some (.ofNat done.time) } }

/-- The courses of tests that are taken one after the other. -/
def courses (s : RunState) : List TestId → List Course
  | [] => []
  | test :: rest => p.course launch cancel s test :: courses (p.step launch cancel s test) rest

/-- What the next test adds to a run. -/
theorem step_eq (s : RunState) (test : TestId) :
    let s' := p.step launch cancel s test
    let c := p.course launch cancel s test
    s'.results = c.result :: s.results ∧ s'.events = c.events.reverse ++ s.events ∧
      s'.time = max s.time c.stop ∧
      s'.permits = if c.start.isSome then s.permits.take c.stop else s.permits := by
  unfold step course
  dsimp only
  split <;> simp [Course.result, Course.events]

/-- **A run adds up the courses of its tests.** -/
theorem foldl_step (s : RunState) (tests : List TestId) :
    let s' := tests.foldl (p.step launch cancel) s
    let cs := p.courses launch cancel s tests
    s'.results.reverse = s.results.reverse ++ cs.map Course.result ∧
      s'.events.reverse = s.events.reverse ++ cs.flatMap Course.events ∧
      s.time ≤ s'.time ∧ ∀ c ∈ cs, c.stop ≤ s'.time := by
  induction tests generalizing s with
  | nil => simp [courses]
  | cons test rest ih =>
    obtain ⟨hresults, hevents, htime, -⟩ := p.step_eq launch cancel s test
    obtain ⟨ihresults, ihevents, ihtime, ihstop⟩ := ih (p.step launch cancel s test)
    rw [hresults] at ihresults
    rw [hevents] at ihevents
    rw [htime] at ihtime
    refine ⟨?_, ?_, Nat.le_trans (Nat.le_max_left ..) ihtime, List.forall_mem_cons.2 ⟨?_, ihstop⟩⟩
    · simpa [courses] using ihresults
    · simpa [courses] using ihevents
    · exact Nat.le_trans (Nat.le_max_right ..) ihtime

end RunPlan

/-! ### Permits -/

namespace Permits

variable {times : List Nat} {stop : Nat}

theorem next_mem (h : times ≠ []) :
    next (some times) ∈ times ∧ ∀ time ∈ times, next (some times) ≤ time := by
  obtain ⟨m, hm⟩ := Option.ne_none_iff_exists'.1 (mt List.min?_eq_none_iff.1 h)
  rw [next, hm, Option.getD_some]
  exact List.min?_eq_some_iff.1 hm

/-- The next permit does not become free any earlier because one is taken. -/
theorem next_le_take {permits : Permits} (hne : ∀ times, permits = some times → times ≠ [])
    (h : permits.next ≤ stop) : permits.next ≤ (permits.take stop).next := by
  cases permits with
  | none => exact Nat.zero_le _
  | some times =>
    have hmem := (next_mem (List.cons_ne_nil stop (times.erase (times.min?.getD 0)))).1
    rcases List.mem_cons.1 hmem with heq | hmem
    · exact Nat.le_trans h (Nat.le_of_eq heq.symm)
    · exact (next_mem (hne times rfl)).2 _ (List.mem_of_mem_erase hmem)

theorem length_take {permits : Permits} (hne : ∀ times, permits = some times → times ≠ [])
    (stop : Nat) : (permits.take stop).map List.length = permits.map List.length := by
  cases permits with
  | none => rfl
  | some times =>
    have hmem : times.min?.getD 0 ∈ times := (next_mem (hne times rfl)).1
    rw [take, Option.map_some, Option.map_some, List.length_cons, List.length_erase_of_mem hmem,
      Nat.sub_add_cancel (List.length_pos_iff.2 (hne times rfl))]

theorem ne_nil_of_take_eq {permits : Permits} (h : permits.take stop = some times) :
    times ≠ [] := by
  cases permits with
  | none => cases h
  | some => cases h; exact List.cons_ne_nil _ _

/-- A permit that is free at a time does not count among the taken ones. -/
theorem countP_take (hne : times ≠ []) {time : Nat} (h : next (some times) ≤ time) (stop : Nat) :
    (stop :: times.erase (times.min?.getD 0)).countP (fun t => decide (time < t)) =
      times.countP (fun t => decide (time < t)) + (decide (time < stop)).toNat := by
  have hperm := List.perm_cons_erase (next_mem hne).1
  have hfree : decide (time < next (some times)) = false := decide_eq_false (Nat.not_lt.2 h)
  have hcount := hperm.countP_eq (fun t => decide (time < t))
  rw [List.countP_cons, hfree] at hcount
  rw [List.countP_cons, hcount, next]
  cases decide (time < stop) <;> rfl

end Permits

/-! ### Fairness -/

/-- How the courses of the tests of a run go together. -/
structure IsFair (limit cancel : Option Nat) (cs : List Course) : Prop where
  /-- No test is over before it starts. -/
  stop : ∀ c ∈ cs, ∀ time, c.start = some time → time ≤ c.stop
  /-- No test starts when the run is cancelled. -/
  started : ∀ c ∈ cs, ∀ time, c.start = some time → ∀ k, cancel = some k → time < k
  /-- A test that does not start is over when the run is cancelled. -/
  skipped : ∀ c ∈ cs, c.start = none → cancel = some c.stop ∧ c.outcome = .cancelled
  /-- The tests start in the order of the request. -/
  order : cs.Pairwise fun c c' =>
    ∀ time time', c.start = some time → c'.start = some time' → time ≤ time'
  /-- Whenever a test starts, there is a permit for it. -/
  limit : ∀ n, limit = some n → ∀ front c behind time, cs = front ++ c :: behind →
    c.start = some time → front.countP (Course.goesOn time) < n

/-- The permits of a run are taken at least for the tests that go on. -/
structure RunState.Covers (limit : Option Nat) (s : RunState) (earlier : List Course) : Prop where
  /-- There are as many permits as there should be. -/
  limit : s.permits.map List.length = limit
  /-- There is one at least. -/
  nonempty : ∀ times, s.permits = some times → times ≠ []
  /-- They are taken for the tests that go on. -/
  taken : ∀ times, s.permits = some times → ∀ time, s.permits.next ≤ time →
    earlier.countP (Course.goesOn time) ≤ times.countP fun t => decide (time < t)

/-- When the next permit becomes free, fewer tests go on than there are permits. -/
theorem RunState.Covers.countP_goesOn_lt {limit : Option Nat} {s : RunState}
    {earlier : List Course} (h : s.Covers limit earlier) {n : Nat} (hn : limit = some n) :
    earlier.countP (Course.goesOn s.permits.next) < n := by
  obtain ⟨times, htimes, rfl⟩ := Option.map_eq_some_iff.1 (h.limit.trans hn)
  have hmem := (Permits.next_mem (h.nonempty times htimes)).1
  refine Nat.lt_of_le_of_lt (h.taken times htimes _ (Nat.le_refl _)) ?_
  rw [htimes]
  refine Nat.lt_of_le_of_ne List.countP_le_length fun hall => ?_
  exact Nat.lt_irrefl _ (of_decide_eq_true (List.countP_eq_length.1 hall _ hmem))

/-- A test that does not start takes no permit. -/
theorem RunState.Covers.skip {limit : Option Nat} {s s' : RunState} {earlier : List Course}
    {c : Course} (h : s.Covers limit earlier) (hstart : c.start = none)
    (hpermits : s'.permits = s.permits) : s'.Covers limit (earlier ++ [c]) := by
  refine ⟨hpermits ▸ h.limit, hpermits ▸ h.nonempty, ?_⟩
  rw [hpermits]
  intro times htimes time htime
  rw [List.countP_append, List.countP_singleton, Course.goesOn, hstart]
  exact h.taken times htimes time htime

/-- A test that starts when a permit becomes free takes it until it is over. -/
theorem RunState.Covers.take {limit : Option Nat} {s s' : RunState} {earlier : List Course}
    {c : Course} (h : s.Covers limit earlier) (hstart : c.start = some s.permits.next)
    (hstop : s.permits.next ≤ c.stop) (hpermits : s'.permits = s.permits.take c.stop) :
    s'.Covers limit (earlier ++ [c]) := by
  have hnext := Permits.next_le_take h.nonempty hstop
  refine ⟨?_, fun times htimes => ?_, fun times htimes time htime => ?_⟩
  · rw [hpermits, Permits.length_take h.nonempty, h.limit]
  · exact Permits.ne_nil_of_take_eq (hpermits ▸ htimes)
  · rw [hpermits] at htimes htime
    have hfirst := Nat.le_trans hnext htime
    cases hfree : s.permits with
    | none =>
      rw [hfree] at htimes
      cases htimes
    | some before =>
      have htaken := h.taken before hfree time hfirst
      rw [hfree] at htimes hfirst
      cases htimes
      have hlast : [c].countP (Course.goesOn time) = (decide (time < c.stop)).toNat := by
        rw [List.countP_singleton, Course.goesOn, hstart]
        cases decide (time < c.stop) <;> rfl
      rw [Permits.countP_take (h.nonempty before hfree) hfirst, List.countP_append, hlast]
      exact Nat.add_le_add_right htaken _

namespace RunPlan

variable {p : RunPlan} {launch : Launcher} {cancel limit : Option Nat} {s : RunState}
  {earlier : List Course}

/-- A test starts when the next permit becomes free, or not at all if the run is cancelled then. -/
theorem course_cases (p : RunPlan) (launch : Launcher) (cancel : Option Nat) (s : RunState)
    (test : TestId) : let c := p.course launch cancel s test
    c.test = test ∧ ((c.start = none ∧ cancel = some c.stop ∧ c.outcome = .cancelled) ∨
      (c.start = some s.permits.next ∧ s.permits.next ≤ c.stop ∧
        ∀ k, cancel = some k → s.permits.next < k)) := by
  unfold course
  dsimp only
  split
  · rename_i h
    cases cancel with
    | none => cases h
    | some k => exact ⟨rfl, .inl ⟨rfl, rfl, rfl⟩⟩
  · rename_i h
    refine ⟨rfl, .inr ⟨rfl, Nat.le_add_right .., ?_⟩⟩
    rintro k rfl
    simpa using h

theorem covers_step (h : s.Covers limit earlier) (test : TestId) :
    (p.step launch cancel s test).Covers limit (earlier ++ [p.course launch cancel s test]) ∧
      s.permits.next ≤ (p.step launch cancel s test).permits.next := by
  obtain ⟨-, -, -, hpermits⟩ := p.step_eq launch cancel s test
  obtain ⟨-, ⟨hstart, -⟩ | ⟨hstart, hstop, -⟩⟩ := p.course_cases launch cancel s test
  · rw [hstart, Option.isSome_none, if_neg Bool.false_ne_true] at hpermits
    exact ⟨h.skip hstart hpermits, Nat.le_of_eq (congrArg Permits.next hpermits.symm)⟩
  · rw [hstart, Option.isSome_some, if_pos rfl] at hpermits
    refine ⟨h.take hstart hstop hpermits, ?_⟩
    rw [hpermits]
    exact Permits.next_le_take h.nonempty hstop

/-- The tests of a run start in order, and whenever one does, there is a permit for it. -/
theorem order_courses (h : s.Covers limit earlier) (tests : List TestId) :
    let cs := p.courses launch cancel s tests
    (∀ c ∈ cs, ∀ time, c.start = some time → s.permits.next ≤ time) ∧
      (cs.Pairwise fun c c' =>
        ∀ time time', c.start = some time → c'.start = some time' → time ≤ time') ∧
      ∀ n, limit = some n → ∀ front c behind time, cs = front ++ c :: behind →
        c.start = some time → (earlier ++ front).countP (Course.goesOn time) < n := by
  induction tests generalizing s earlier with
  | nil => simp [courses]
  | cons test rest ih =>
    obtain ⟨hcovers, hnext⟩ := @covers_step p launch cancel _ _ _ h test
    obtain ⟨ihnext, ihorder, ihlimit⟩ := ih hcovers
    obtain ⟨-, hcourse⟩ := p.course_cases launch cancel s test
    have hstart : ∀ time, (p.course launch cancel s test).start = some time →
        time = s.permits.next := by
      rintro time htime
      rcases hcourse with ⟨hnone, -⟩ | ⟨hsome, -⟩
      · rw [hnone] at htime
        cases htime
      · exact Option.some.inj (htime.symm.trans hsome)
    have hlater : ∀ c ∈ p.courses launch cancel (p.step launch cancel s test) rest, ∀ time,
        c.start = some time → s.permits.next ≤ time :=
      fun c hc time htime => Nat.le_trans hnext (ihnext c hc time htime)
    refine ⟨?_, List.pairwise_cons.2 ⟨?_, ihorder⟩, ?_⟩
    · refine List.forall_mem_cons.2 ⟨fun time htime => ?_, hlater⟩
      exact Nat.le_of_eq (hstart time htime).symm
    · exact fun c hc time time' htime htime' => hstart time htime ▸ hlater c hc time' htime'
    · rintro n hn (- | ⟨c₀, front⟩) c behind time heq htime
      · obtain ⟨rfl, -⟩ := List.cons.inj heq
        rw [hstart time htime, List.append_nil]
        exact h.countP_goesOn_lt hn
      · obtain ⟨rfl, hrest⟩ := List.cons.inj heq
        simpa using ihlimit n hn front c behind time hrest htime

theorem map_test_courses (s : RunState) (tests : List TestId) :
    (p.courses launch cancel s tests).map Course.test = tests := by
  induction tests generalizing s with
  | nil => rfl
  | cons test rest ih =>
    rw [courses, List.map_cons, ih, (p.course_cases launch cancel s test).1]

/-- Every test starts in time, or not at all. -/
theorem start_of_mem_courses {c : Course} {tests : List TestId}
    (hc : c ∈ p.courses launch cancel s tests) :
    (c.start = none ∧ cancel = some c.stop ∧ c.outcome = .cancelled) ∨
      ∃ time, c.start = some time ∧ time ≤ c.stop ∧ ∀ k, cancel = some k → time < k := by
  induction tests generalizing s with
  | nil => exact absurd hc List.not_mem_nil
  | cons test rest ih =>
    rcases List.mem_cons.1 hc with rfl | hc
    · exact (p.course_cases launch cancel s test).2.imp_right fun h => ⟨_, h⟩
    · exact ih hc

theorem covers_start (p : RunPlan) (d : Disk) : RunState.Covers (p.jobs.map (max · 1))
    { disk := d, permits := .start p.jobs } [] where
  limit := by cases p.jobs <;> simp [Permits.start]
  nonempty := by
    rintro _ htimes rfl
    cases hjobs : p.jobs with
    | none => simp [Permits.start, hjobs] at htimes
    | some n =>
      rw [hjobs] at htimes
      have hlength := congrArg List.length (Option.some.inj htimes)
      rw [List.length_replicate, List.length_nil] at hlength
      omega
  taken := fun _ _ _ _ => Nat.zero_le _

/-- **The courses of a run are fair.** -/
theorem isFair_courses (p : RunPlan) (launch : Launcher) (cancel : Option Nat) (d : Disk)
    (tests : List TestId) : IsFair (p.jobs.map (max · 1)) cancel
      (p.courses launch cancel { disk := d, permits := .start p.jobs } tests) := by
  obtain ⟨-, horder, hlimit⟩ := @order_courses p launch cancel _ _ _ (covers_start p d) tests
  refine ⟨fun c hc time htime => ?_, fun c hc time htime => ?_, fun c hc hnone => ?_, horder,
    hlimit⟩
  · rcases start_of_mem_courses hc with ⟨hstart, -⟩ | ⟨time', hstart, hstop, -⟩
    · exact absurd (htime.symm.trans hstart) (by simp)
    · exact Option.some.inj (htime.symm.trans hstart) ▸ hstop
  · rcases start_of_mem_courses hc with ⟨hstart, -⟩ | ⟨time', hstart, -, hcancel⟩
    · exact absurd (htime.symm.trans hstart) (by simp)
    · exact Option.some.inj (htime.symm.trans hstart) ▸ hcancel
  · rcases start_of_mem_courses hc with ⟨-, hskipped⟩ | ⟨time', hstart, -⟩
    · exact hskipped
    · exact absurd (hnone.symm.trans hstart) (by simp)

end RunPlan

end ScriptSuite
