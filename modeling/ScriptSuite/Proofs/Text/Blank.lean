import ScriptSuite.Text.Blank

/-!
# Trimming

A text is *tight* when it neither starts nor ends with a blank. Trimming takes the blanks around a
tight text away and nothing else.

## Main definitions

* `Text.Tight`: no blank at either end

## Main results

* `Text.trim_append_append`: a tight text between blanks is what trimming leaves
* `Text.Tight.trim_append`: what trimming leaves of a text around a tight one
-/

namespace ScriptSuite.Text

variable {a b s : List Char} {c : Char}

/-- What holds of each character of a given text can be computed. -/
theorem forall_mem_of_all {α : Type} {l : List α} {p : α → Prop} [DecidablePred p]
    (h : l.all (fun x => p x) = true) : ∀ x ∈ l, p x :=
  fun x hx => of_decide_eq_true (List.all_eq_true.1 h x hx)

/-! ### The two ends -/

theorem isAllBlank_iff : isAllBlank s = true ↔ ∀ c ∈ s, isBlank c = true := by
  simp [isAllBlank]

theorem isAllBlank_cons_iff :
    isAllBlank (c :: s) = true ↔ isBlank c = true ∧ isAllBlank s = true := by
  rw [isAllBlank, List.all_cons, Bool.and_eq_true, isAllBlank]

theorem isAllBlank_append : isAllBlank (a ++ b) = (isAllBlank a && isAllBlank b) :=
  List.all_append

theorem trimStart_cons_of_not_blank (h : isBlank c = false) : trimStart (c :: s) = c :: s := by
  rw [trimStart, List.dropWhile_cons_of_neg (by simp [h])]

theorem trimStart_append (ha : isAllBlank a = true) : trimStart (a ++ s) = trimStart s :=
  List.dropWhile_append_of_pos (isAllBlank_iff.1 ha)

theorem trimStart_of_isAllBlank (hs : isAllBlank s = true) : trimStart s = [] := by
  simpa [trimStart] using trimStart_append (s := []) hs

theorem trimEnd_append (hb : isAllBlank b = true) : trimEnd (s ++ b) = trimEnd s := by
  rw [trimEnd, trimEnd, List.reverse_append, List.dropWhile_append_of_pos]
  exact fun c hc => isAllBlank_iff.1 hb c (List.mem_reverse.1 hc)

theorem trimEnd_cons_of_not_blank (h : isBlank c = false) : trimEnd (c :: s) = c :: trimEnd s := by
  rw [trimEnd, trimEnd, List.reverse_cons, List.dropWhile_append]
  split
  · next hs =>
    rw [List.isEmpty_iff.1 hs, List.dropWhile_cons_of_neg (by simp [h])]
    rfl
  · rw [List.reverse_append]
    rfl

/-- What trimming takes away in front. -/
theorem exists_append_trimStart (s : List Char) :
    ∃ x, isAllBlank x = true ∧ s = x ++ trimStart s :=
  ⟨s.takeWhile isBlank, List.all_takeWhile, List.takeWhile_append_dropWhile.symm⟩

/-- What trimming takes away at the end. -/
theorem exists_trimEnd_append (s : List Char) :
    ∃ y, isAllBlank y = true ∧ s = trimEnd s ++ y := by
  refine ⟨(s.reverse.takeWhile isBlank).reverse, ?_, ?_⟩
  · rw [isAllBlank, List.all_reverse]
    exact List.all_takeWhile
  · rw [trimEnd, ← List.reverse_append, List.takeWhile_append_dropWhile, List.reverse_reverse]

theorem isBlank_eq_false_of_head?_trimStart (h : (trimStart s).head? = some c) :
    isBlank c = false := by
  have hnot := List.head?_dropWhile_not isBlank s
  rw [trimStart] at h
  rw [h] at hnot
  simpa using hnot

/-! ### Tight texts -/

/-- A text that neither starts nor ends with a blank. -/
structure Tight (s : List Char) : Prop where
  /-- The first character is no blank. -/
  head : ∀ c, s.head? = some c → isBlank c = false
  /-- The last character is no blank. -/
  last : ∀ c, s.getLast? = some c → isBlank c = false

theorem Tight.trimStart_append (hs : Tight s) (hne : s ≠ []) : trimStart (s ++ b) = s ++ b := by
  obtain ⟨c, s, rfl⟩ := List.exists_cons_of_ne_nil hne
  exact trimStart_cons_of_not_blank (hs.head c rfl)

theorem Tight.append_trimStart (hs : Tight s) : trimStart (a ++ s) = trimStart a ++ s := by
  rw [trimStart, List.dropWhile_append]
  split
  · next ha =>
    rw [trimStart, List.isEmpty_iff.1 ha, List.nil_append]
    cases s with
    | nil => rfl
    | cons c s => exact trimStart_cons_of_not_blank (hs.head c rfl)
  · rfl

theorem trimEnd_of_getLast? (h : ∀ c, s.getLast? = some c → isBlank c = false) :
    trimEnd s = s := by
  rcases List.eq_nil_or_concat s with rfl | ⟨t, c, rfl⟩
  · rfl
  · have hc : isBlank c = false := h c (by simp)
    rw [List.concat_eq_append, trimEnd, List.reverse_append, List.reverse_singleton,
      List.singleton_append, List.dropWhile_cons_of_neg (by simp [hc])]
    simp

theorem Tight.trimEnd_eq (hs : Tight s) : trimEnd s = s := trimEnd_of_getLast? hs.last

theorem Tight.trimEnd_append (hs : Tight s) (hne : s ≠ []) : trimEnd (a ++ s) = a ++ s := by
  refine trimEnd_of_getLast? fun c hc => hs.last c ?_
  rwa [List.getLast?_append, Option.or_of_isSome (by simpa using hne)] at hc

/-- **A tight text between blanks** is what trimming leaves. -/
theorem trim_append_append (ha : isAllBlank a = true) (hs : Tight s) (hb : isAllBlank b = true) :
    trim (a ++ (s ++ b)) = s := by
  rw [trim, Text.trimStart_append ha]
  cases s with
  | nil => rw [List.nil_append, trimStart_of_isAllBlank hb]; rfl
  | cons c s => rw [hs.trimStart_append (List.cons_ne_nil c s), trimEnd_append hb, hs.trimEnd_eq]

theorem Tight.trim_eq (hs : Tight s) : trim s = s := by
  simpa using trim_append_append (a := []) (b := []) rfl hs rfl

/-- Around a tight text in the middle, only the blanks at the far ends go. -/
theorem Tight.trim_append (hs : Tight s) (hne : s ≠ []) :
    trim (a ++ (s ++ b)) = trimStart a ++ (s ++ trimEnd b) := by
  have hstart : Text.trimStart (a ++ (s ++ b)) = Text.trimStart a ++ (s ++ b) := by
    rw [Text.trimStart, List.dropWhile_append]
    split
    · next ha =>
      rw [Text.trimStart, List.isEmpty_iff.1 ha, List.nil_append]
      exact hs.trimStart_append hne
    · rfl
  have hend : Text.trimEnd (Text.trimStart a ++ s ++ b) =
      Text.trimStart a ++ s ++ Text.trimEnd b := by
    rw [Text.trimEnd, List.reverse_append, List.dropWhile_append]
    split
    · next hb =>
      have hb : Text.trimEnd b = [] := by rw [Text.trimEnd, List.isEmpty_iff.1 hb, List.reverse_nil]
      rw [hb, List.append_nil]
      exact hs.trimEnd_append hne
    · rw [List.reverse_append, List.reverse_reverse, Text.trimEnd]
  rw [trim, hstart, ← List.append_assoc, hend, List.append_assoc]

theorem tight_singleton (h : isBlank c = false) : Tight [c] :=
  ⟨fun d hd => by simp_all, fun d hd => by simp_all⟩

theorem trim_append (hb : isAllBlank b = true) : trim (s ++ b) = trim s := by
  rw [trim, trimStart, List.dropWhile_append]
  split
  · next hs =>
    rw [trim, trimStart, List.isEmpty_iff.1 hs]
    exact congrArg trimEnd (trimStart_of_isAllBlank hb)
  · exact trimEnd_append hb

theorem append_trim (ha : isAllBlank a = true) : trim (a ++ s) = trim s := by
  rw [trim, trimStart_append ha, trim]

theorem trim_trimStart (s : List Char) : trim (trimStart s) = trim s := by
  obtain ⟨x, hx, hs⟩ := exists_append_trimStart s
  rw [← append_trim hx, ← hs]

/-- What trimming takes away at the two ends. -/
theorem exists_append_trim_append (s : List Char) :
    ∃ x y, isAllBlank x = true ∧ isAllBlank y = true ∧ s = x ++ (trim s ++ y) := by
  obtain ⟨x, hx, hs⟩ := exists_append_trimStart s
  obtain ⟨y, hy, htrim⟩ := exists_trimEnd_append (trimStart s)
  exact ⟨x, y, hx, hy, hs.trans (congrArg (x ++ ·) htrim)⟩

theorem trim_trimStart_append_trimEnd (a b : List Char) :
    trim (trimStart a ++ trimEnd b) = trim (a ++ b) := by
  obtain ⟨x, hx, ha⟩ := exists_append_trimStart a
  obtain ⟨y, hy, hb⟩ := exists_trimEnd_append b
  calc trim (trimStart a ++ trimEnd b)
      = trim (x ++ (trimStart a ++ trimEnd b ++ y)) := by rw [append_trim hx, trim_append hy]
    _ = trim (a ++ b) := by rw [List.append_assoc, ← hb, ← List.append_assoc, ← ha]

theorem isBlank_eq_false_of_getLast?_trimEnd (h : (trimEnd s).getLast? = some c) :
    isBlank c = false := by
  rw [trimEnd, List.getLast?_reverse] at h
  exact isBlank_eq_false_of_head?_trimStart h

theorem tight_trim (s : List Char) : Tight (trim s) := by
  refine ⟨fun c hc => ?_, fun c hc => isBlank_eq_false_of_getLast?_trimEnd hc⟩
  obtain ⟨y, -, htrim⟩ := exists_trimEnd_append (trimStart s)
  have hhead : (trimStart s).head? = some c := by
    rw [htrim, List.head?_append, Option.or_of_isSome (by rw [← trim, hc]; rfl)]
    exact hc
  exact isBlank_eq_false_of_head?_trimStart hhead

theorem trim_of_isAllBlank (hs : isAllBlank s = true) : trim s = [] := by
  rw [trim, trimStart_of_isAllBlank hs]
  rfl

theorem isAllBlank_of_trim (h : trim s = []) : isAllBlank s = true := by
  obtain ⟨x, y, hx, hy, hs⟩ := exists_append_trim_append s
  rw [hs, h, List.nil_append, isAllBlank_append, hx, hy, Bool.and_self]

end ScriptSuite.Text
