import ScriptSuite.Proofs.Run.Course

/-!
# The order of events

The events of a run are told in the order of time, and those of one time in the order in which the
run worked them out: the tests in the order of the request, and the start of a test in front of its
end. An event is marked here with the place of its test in the request, so that all of them differ
even if a test was requested twice.

## Main definitions

* `Mark`: the start or the end of a test
* `marks`: the marks of courses, test by test
* `timeline`: the same in the order of time

## Main results

* `pairwise_timeline`: the order of time decides, and otherwise the tests
* `map_event_timeline`: the events of a run are those of the timeline
* `IsFair.start_mem_front`, `IsFair.lt_of_start_mem_front`: what has happened in front of a mark
-/

namespace ScriptSuite

/-- The start or the end of a test. -/
structure Mark where
  /-- The place of the test in the request. -/
  index : Nat
  /-- Its course. -/
  course : Course
  /-- Whether it is the start. -/
  opens : Bool
deriving DecidableEq

namespace Mark

/-- When it happens. -/
def time (m : Mark) : Nat := if m.opens then m.course.start.getD 0 else m.course.stop

/-- What is told. -/
def event (m : Mark) : RunEvent :=
  if m.opens then .started m.course.test else .finished m.course.result

/-- What is told and when. -/
def timed (m : Mark) : TimedEvent := ⟨m.time, m.event⟩

theorem time_of_closes {m : Mark} (hm : m.opens = false) : m.time = m.course.stop := by
  rw [time, hm, if_neg Bool.false_ne_true]

/-- The mark is worked out before the other one. -/
def Before (a b : Mark) : Prop :=
  a.index < b.index ∨ a.index = b.index ∧ a.opens = true ∧ b.opens = false

end Mark

/-! ### Test by test -/

/-- The marks of a course. -/
def Course.marks (i : Nat) (c : Course) : List Mark :=
  (if c.start.isSome then [⟨i, c, true⟩] else []) ++ [⟨i, c, false⟩]

/-- The marks of courses, the first of which is at some place in the request. -/
def marks (i : Nat) : List Course → List Mark
  | [] => []
  | c :: cs => c.marks i ++ marks (i + 1) cs

theorem map_timed_marks (i : Nat) (cs : List Course) :
    (marks i cs).map Mark.timed = cs.flatMap Course.events := by
  induction cs generalizing i with
  | nil => rfl
  | cons c cs ih =>
    rw [marks, List.map_append, ih, List.flatMap_cons]
    cases hc : c.start <;> simp [Course.marks, Course.events, Mark.timed, Mark.time, Mark.event, hc]

theorem Course.mem_marks_iff {i : Nat} {c : Course} {m : Mark} :
    m ∈ c.marks i ↔
      m.index = i ∧ m.course = c ∧ (m.opens = true → m.course.start.isSome = true) := by
  obtain ⟨j, d, opens⟩ := m
  constructor
  · intro h
    unfold Course.marks at h
    rcases List.mem_append.1 h with h | h
    · split at h
      · rename_i hstart
        cases List.mem_singleton.1 h
        exact ⟨rfl, rfl, fun _ => hstart⟩
      · exact absurd h List.not_mem_nil
    · cases List.mem_singleton.1 h
      exact ⟨rfl, rfl, Bool.noConfusion⟩
  · rintro ⟨rfl, rfl, h⟩
    cases opens with
    | false => exact List.mem_append_right _ List.mem_cons_self
    | true => simp [Course.marks, show d.start.isSome = true from h rfl]

theorem mem_marks_iff {i : Nat} {cs : List Course} {m : Mark} :
    m ∈ marks i cs ↔ i ≤ m.index ∧ cs[m.index - i]? = some m.course ∧
      (m.opens = true → m.course.start.isSome = true) := by
  induction cs generalizing i with
  | nil => simp [marks]
  | cons c cs ih =>
    rw [marks, List.mem_append, ih, Course.mem_marks_iff]
    rcases Nat.lt_trichotomy m.index i with h | h | h
    · have hne : m.index ≠ i := by omega
      have hlt : ¬ i + 1 ≤ m.index ∧ ¬ i ≤ m.index := by omega
      simp [hne, hlt]
    · have hhead : c = m.course ↔ m.course = c := eq_comm
      have hlt : ¬ i + 1 ≤ i := Nat.not_succ_le_self i
      simp [h, hhead, hlt]
    · have hne : m.index ≠ i := by omega
      have hle : i + 1 ≤ m.index ∧ i ≤ m.index := by omega
      obtain ⟨k, hk⟩ : ∃ k, m.index - i = k + 1 := ⟨m.index - i - 1, by omega⟩
      have hk' : m.index - (i + 1) = k := by omega
      simp [hne, hle, hk, hk']

theorem pairwise_marks (i : Nat) (cs : List Course) : (marks i cs).Pairwise Mark.Before := by
  induction cs generalizing i with
  | nil => exact .nil
  | cons c cs ih =>
    refine List.pairwise_append.2 ⟨?_, ih (i + 1), fun a ha b hb => ?_⟩
    · cases hc : c.start <;> simp [Course.marks, hc, Mark.Before]
    · have hindex := (Course.mem_marks_iff.1 ha).1
      have hle := (mem_marks_iff.1 hb).1
      exact .inl (by omega)

/-! ### In the order of time -/

theorem Mark.Before.asymm {a b : Mark} (h : a.Before b) : ¬ b.Before a := by
  rintro (h' | ⟨hindex, h', -⟩)
  · rcases h with h | ⟨h, -⟩ <;> omega
  · rcases h with h | ⟨-, -, h⟩
    · omega
    · rw [h] at h'
      cases h'

/-- What is to be in front of something in a list that is in order is in front of it. -/
theorem pair_sublist_of_pairwise {α : Type} {R : α → α → Prop} {l : List α} {a b : α}
    (h : l.Pairwise R) (hR : ∀ {a b}, R a b → ¬ R b a) (ha : a ∈ l) (hb : b ∈ l) (hab : R a b) :
    [a, b].Sublist l := by
  obtain ⟨front, behind, rfl⟩ := List.append_of_mem ha
  obtain ⟨-, hbehind, hfront⟩ := List.pairwise_append.1 h
  rcases List.mem_append.1 hb with hb | hb
  · exact absurd (hfront b hb a List.mem_cons_self) (hR hab)
  · rcases List.mem_cons.1 hb with rfl | hb
    · exact absurd hab (hR hab)
    · exact ((List.singleton_sublist.2 hb).cons_cons a).trans (List.sublist_append_right ..)

theorem not_pair_sublist_swap {α : Type} {l : List α} {a b : α} (hl : l.Nodup)
    (h : [a, b].Sublist l) : ¬ [b, a].Sublist l := by
  induction l with
  | nil => cases h
  | cons x l ih =>
    rw [List.nodup_cons] at hl
    intro h'
    rcases List.sublist_cons_iff.1 h with hab | ⟨r, hr, hb⟩ <;>
      rcases List.sublist_cons_iff.1 h' with hba | ⟨r', hr', ha⟩
    · exact ih hl.2 hab hba
    · obtain ⟨rfl, -⟩ := List.cons.inj hr'
      exact hl.1 (hab.subset (List.mem_cons_of_mem a List.mem_cons_self))
    · obtain ⟨rfl, -⟩ := List.cons.inj hr
      exact hl.1 (hba.subset (List.mem_cons_of_mem b List.mem_cons_self))
    · obtain ⟨rfl, rfl⟩ := List.cons.inj hr
      exact hl.1 ((List.cons.inj hr').1 ▸ hb.subset List.mem_cons_self)

/-- The marks of the courses of a run in the order of time. -/
def timeline (cs : List Course) : List Mark :=
  (marks 0 cs).mergeSort fun a b => a.time ≤ b.time

theorem mem_timeline_iff {cs : List Course} {m : Mark} :
    m ∈ timeline cs ↔ cs[m.index]? = some m.course ∧
      (m.opens = true → m.course.start.isSome = true) := by
  rw [timeline, (List.mergeSort_perm ..).mem_iff, mem_marks_iff]
  simp

theorem nodup_timeline (cs : List Course) : (timeline cs).Nodup := by
  refine (List.mergeSort_perm ..).nodup_iff.2 ((pairwise_marks 0 cs).imp ?_)
  rintro a _ h rfl
  exact h.asymm h

/-- **The order of time decides, and otherwise the order of the tests.** -/
theorem pairwise_timeline (cs : List Course) :
    (timeline cs).Pairwise fun a b => a.time ≤ b.time ∧ (b.Before a → a.time < b.time) := by
  have htrans : ∀ a b c : Mark, decide (a.time ≤ b.time) = true → decide (b.time ≤ c.time) = true →
      decide (a.time ≤ c.time) = true := by
    simp only [decide_eq_true_eq]
    exact fun a b c => Nat.le_trans
  have htotal : ∀ a b : Mark, (decide (a.time ≤ b.time) || decide (b.time ≤ a.time)) = true := by
    intro a b
    simpa using Nat.le_total a.time b.time
  refine List.pairwise_iff_forall_sublist.2 fun {a b} hab => ⟨?_, fun hbefore => ?_⟩
  · have hsorted := List.pairwise_mergeSort htrans htotal (marks 0 cs)
    exact of_decide_eq_true (List.pairwise_iff_forall_sublist.1 hsorted hab)
  · refine Nat.lt_of_not_le fun hle => ?_
    have hmem {m : Mark} (hm : m ∈ timeline cs) : m ∈ marks 0 cs :=
      (List.mergeSort_perm ..).mem_iff.1 hm
    have hmarks := pair_sublist_of_pairwise (pairwise_marks 0 cs) Mark.Before.asymm
      (hmem (hab.subset (by simp))) (hmem (hab.subset (by simp))) hbefore
    have hswap := List.pair_sublist_mergeSort htrans htotal (decide_eq_true hle) hmarks
    exact not_pair_sublist_swap (nodup_timeline cs) hab hswap

/-- **The events of a run are those of the timeline.** -/
theorem map_event_timeline (cs : List Course) :
    ((cs.flatMap Course.events).mergeSort fun a b => a.time ≤ b.time).map TimedEvent.event =
      (timeline cs).map Mark.event := by
  have hsort : (timeline cs).map Mark.timed =
      (cs.flatMap Course.events).mergeSort fun a b => a.time ≤ b.time := by
    rw [← map_timed_marks 0 cs]
    exact List.map_mergeSort fun a _ b _ => rfl
  rw [← hsort, List.map_map]
  rfl

/-! ### What has happened in front of a mark -/

section

variable {limit cancel : Option Nat} {cs : List Course} {front behind : List Mark} {m : Mark}

namespace timeline

variable (hsplit : timeline cs = front ++ m :: behind)

include hsplit

theorem le_of_mem_front : ∀ a ∈ front, a.time ≤ m.time ∧ (m.Before a → a.time < m.time) := by
  have h := pairwise_timeline cs
  rw [hsplit, List.pairwise_append] at h
  exact fun a ha => h.2.2 a ha m List.mem_cons_self

theorem le_of_mem_behind : ∀ b ∈ behind, m.time ≤ b.time ∧ (b.Before m → m.time < b.time) := by
  have h := pairwise_timeline cs
  rw [hsplit, List.pairwise_append] at h
  exact (List.pairwise_cons.1 h.2.1).1

theorem not_mem_front : m ∉ front := by
  have h := nodup_timeline cs
  rw [hsplit, List.nodup_append] at h
  exact fun hm => h.2.2 m hm m List.mem_cons_self rfl

theorem mem_front_iff : ∀ a, a ∈ front ∨ a = m ∨ a ∈ behind ↔
    cs[a.index]? = some a.course ∧ (a.opens = true → a.course.start.isSome = true) := by
  intro a
  rw [← mem_timeline_iff, hsplit, List.mem_append, List.mem_cons]

theorem getElem?_index : cs[m.index]? = some m.course :=
  ((mem_front_iff hsplit m).1 (.inr (.inl rfl))).1

/-- A test that starts has a time for it. -/
theorem start_eq (hm : m.opens = true) : m.course.start = some m.time := by
  obtain ⟨time, htime⟩ := Option.isSome_iff_exists.1
    (((mem_front_iff hsplit m).1 (.inr (.inl rfl))).2 hm)
  rw [Mark.time, hm, htime]
  rfl

end timeline

namespace IsFair

open timeline

variable (h : IsFair limit cancel cs) (hsplit : timeline cs = front ++ m :: behind)

include h hsplit

/-- When a test starts, it is not over. -/
theorem end_not_mem_front (hm : m.opens = true) : ⟨m.index, m.course, false⟩ ∉ front := by
  intro hmem
  have hlt : m.course.stop < m.time := (le_of_mem_front hsplit _ hmem).2 (.inr ⟨rfl, hm, rfl⟩)
  have hle := h.stop _ (List.mem_of_getElem? (getElem?_index hsplit)) _ (start_eq hsplit hm)
  exact Nat.not_lt.2 hle hlt

/-- When a test that has started is over, its start is in front. -/
theorem start_mem_front (hm : m.opens = false) (hstart : m.course.start.isSome = true) :
    ⟨m.index, m.course, true⟩ ∈ front := by
  have hi := getElem?_index hsplit
  obtain ⟨time, htime⟩ := Option.isSome_iff_exists.1 hstart
  rcases (mem_front_iff hsplit ⟨m.index, m.course, true⟩).2 ⟨hi, fun _ => hstart⟩
    with hmem | heq | hmem
  · exact hmem
  · rw [← heq] at hm
    cases hm
  · have hlt := (le_of_mem_behind hsplit _ hmem).2 (.inr ⟨rfl, rfl, hm⟩)
    have htime' : Mark.time ⟨m.index, m.course, true⟩ = time := by simp [Mark.time, htime]
    rw [htime', Mark.time_of_closes hm] at hlt
    exact absurd hlt (Nat.not_lt.2 (h.stop _ (List.mem_of_getElem? hi) _ htime))

/-- When a test starts, those that go on were requested before. -/
theorem lt_of_start_mem_front {j : Nat} {c : Course} (hm : m.opens = true)
    (hstart : ⟨j, c, true⟩ ∈ front) (hend : ⟨j, c, false⟩ ∉ front) :
    j < m.index ∧ m.time < c.stop := by
  have hi := getElem?_index hsplit
  have hmstart := start_eq hsplit hm
  obtain ⟨hj, hsome⟩ := (mem_front_iff hsplit ⟨j, c, true⟩).1 (.inl hstart)
  obtain ⟨time, htime⟩ := Option.isSome_iff_exists.1 (hsome rfl)
  have htime : c.start = some time := htime
  have hlt : j < m.index := by
    rcases Nat.lt_trichotomy j m.index with hlt | heq | hgt
    · exact hlt
    · have hc : c = m.course := Option.some.inj (hj.symm.trans (heq ▸ hi))
      have hmark : m = ⟨j, c, true⟩ := by
        rw [heq, hc, ← hm]
      exact absurd (hmark ▸ hstart) (not_mem_front hsplit)
    · have hearlier := (le_of_mem_front hsplit _ hstart).2 (.inl hgt)
      have htime' : Mark.time ⟨j, c, true⟩ = time := by simp [Mark.time, htime]
      obtain ⟨hilt, higet⟩ := List.getElem?_eq_some_iff.1 hi
      obtain ⟨hjlt, hjget⟩ := List.getElem?_eq_some_iff.1 hj
      have horder := List.pairwise_iff_getElem.1 h.order _ _ hilt hjlt hgt
      rw [higet, hjget] at horder
      have hle := horder _ _ hmstart htime
      omega
  refine ⟨hlt, ?_⟩
  rcases (mem_front_iff hsplit ⟨j, c, false⟩).2 ⟨hj, Bool.noConfusion⟩ with hmem | heq | hmem
  · exact absurd hmem hend
  · rw [← heq] at hm
    cases hm
  · exact (le_of_mem_behind hsplit _ hmem).2 (.inl hlt)

/-- When a test starts, nothing has been skipped yet. -/
theorem isSome_of_end_mem_front {a : Mark} (hm : m.opens = true) (ha : a ∈ front)
    (hopens : a.opens = false) : a.course.start.isSome = true := by
  cases hstart : a.course.start with
  | some => rfl
  | none =>
    have hacs := List.mem_of_getElem? ((mem_front_iff hsplit a).1 (.inl ha)).1
    have hmcs := List.mem_of_getElem? (getElem?_index hsplit)
    have hlt := h.started _ hmcs _ (start_eq hsplit hm) _ (h.skipped _ hacs hstart).1
    have hle := (le_of_mem_front hsplit a ha).1
    rw [Mark.time_of_closes hopens] at hle
    omega

end IsFair

end

end ScriptSuite
