import ScriptSuite.Proofs.Text.Find

/-!
# Splitting and joining

`Text.splitOn` cuts a text at the first occurrence of a separator, and so on behind it. Joining the
parts again gives the text back, always. The other way round it is not enough that no part holds the
separator: a part whose end completes the separator early moves the cut to the left.

## Main results

* `Text.splitOn_of_cut_eq_some`: one cut at a time
* `Text.join_splitOn`: joining undoes splitting
* `Text.splitOn_join_iff`, `Text.splitOn_eq_append_singleton_iff`: when splitting undoes joining
-/

namespace ScriptSuite.Text

variable {sep s x y last : List Char} {parts : List (List Char)}

/-! ### Joining -/

@[simp] theorem join_singleton : join sep [x] = x := List.intercalate_singleton

theorem join_cons (h : parts ≠ []) : join sep (x :: parts) = x ++ (sep ++ join sep parts) := by
  obtain ⟨p, ps, rfl⟩ := List.exists_cons_of_ne_nil h
  rw [join, List.intercalate_cons_cons, List.append_assoc]
  rfl

theorem join_cons_eq_append : join sep (x :: parts) = x ++ parts.flatMap (sep ++ ·) := by
  induction parts generalizing x with
  | nil => simp
  | cons p ps ih => rw [join_cons (List.cons_ne_nil p ps), ih, List.flatMap_cons, List.append_assoc]

theorem join_concat (h : parts ≠ []) : join sep (parts ++ [x]) = join sep parts ++ (sep ++ x) := by
  obtain ⟨p, ps, rfl⟩ := List.exists_cons_of_ne_nil h
  simp [join_cons_eq_append]

/-! ### One cut at a time -/

theorem splitOn_of_cut_eq_some (hs : sep ≠ []) (h : cut sep s = some (x, y)) :
    splitOn sep s = x :: splitOn sep y := by
  induction s generalizing x with
  | nil => simp [cut, hs] at h
  | cons c s ih =>
    rw [cut] at h
    rw [splitOn]
    split at h
    · rename_i hpre
      obtain ⟨rfl, rfl⟩ : [] = x ∧ (c :: s).drop sep.length = y := by simpa using h
      obtain ⟨d, sep, rfl⟩ := List.exists_cons_of_ne_nil hs
      rw [if_pos hpre]
      simp
    · rename_i hpre
      obtain ⟨⟨before, behind⟩, hcut, h⟩ := Option.map_eq_some_iff.1 h
      obtain ⟨rfl, rfl⟩ : c :: before = x ∧ behind = y := by simpa using h
      rw [if_neg hpre, ih hcut]

theorem splitOn_eq_singleton (h : ¬ sep <:+: s) : splitOn sep s = [s] := by
  induction s with
  | nil => rw [splitOn]
  | cons c s ih =>
    rw [List.infix_cons_iff, not_or] at h
    rw [splitOn, if_neg (by rw [List.isPrefixOf_iff_prefix]; exact h.1), ih h.2]

@[simp] theorem splitOn_ne_nil : splitOn sep s ≠ [] := by
  fun_cases splitOn sep s <;> simp_all

/-! ### Splitting and joining -/

/-- **Joining undoes splitting.** -/
theorem join_splitOn (hs : sep ≠ []) (s : List Char) : join sep (splitOn sep s) = s := by
  -- A cut shortens what is left to split, so the induction is on the length.
  induction hn : s.length using Nat.strongRecOn generalizing s with
  | ind n ih =>
    cases hcut : cut sep s with
    | none => rw [splitOn_eq_singleton (cut_eq_none_iff.1 hcut), join_singleton]
    | some cuts =>
      obtain ⟨x, y⟩ := cuts
      have happ := eq_append_of_cut hcut
      have hlen : y.length < n := by
        have hpos : 0 < sep.length := List.length_pos_iff.2 hs
        simp only [← hn, happ, List.length_append]
        omega
      rw [splitOn_of_cut_eq_some hs hcut, join_cons splitOn_ne_nil, ih y.length hlen y rfl, ← happ]

theorem splitOn_append_eq_cons_iff (hs : sep ≠ []) :
    splitOn sep (x ++ (sep ++ y)) = x :: parts ↔
      ¬ sep <:+: x ++ sep.dropLast ∧ splitOn sep y = parts := by
  rw [← cut_append_append_iff (y := y) hs]
  constructor
  · intro h
    have hsome : (cut sep (x ++ (sep ++ y))).isSome := cut_isSome_iff_infix.2
      ⟨x, y, List.append_assoc x sep y⟩
    obtain ⟨⟨before, behind⟩, hcut⟩ := Option.isSome_iff_exists.1 hsome
    have hsplit := splitOn_of_cut_eq_some hs hcut
    rw [h] at hsplit
    obtain ⟨rfl, hparts⟩ := List.cons.inj hsplit
    obtain rfl : y = behind :=
      List.append_cancel_left (List.append_cancel_left (eq_append_of_cut hcut))
    exact ⟨hcut, hparts.symm⟩
  · rintro ⟨hcut, rfl⟩
    exact splitOn_of_cut_eq_some hs hcut

/-- **When splitting undoes joining.** No part may hold the separator, and no part but the last one
may end with a front of it that the separator behind completes. -/
theorem splitOn_join_iff (hs : sep ≠ []) :
    splitOn sep (join sep (parts ++ [last])) = parts ++ [last] ↔
      (∀ p ∈ parts, ¬ sep <:+: p ++ sep.dropLast) ∧ ¬ sep <:+: last := by
  induction parts with
  | nil =>
    rw [List.nil_append, join_singleton]
    refine ⟨fun h => ⟨by simp, fun hin => ?_⟩, fun h => splitOn_eq_singleton h.2⟩
    have hsome : (cut sep last).isSome := cut_isSome_iff_infix.2 hin
    obtain ⟨⟨x, y⟩, hcut⟩ := Option.isSome_iff_exists.1 hsome
    rw [splitOn_of_cut_eq_some hs hcut] at h
    exact splitOn_ne_nil (List.cons.inj h).2
  | cons p parts ih =>
    rw [List.cons_append, join_cons (by simp), splitOn_append_eq_cons_iff hs, ih,
      List.forall_mem_cons, and_assoc]

/-- The texts that split into given parts: only what joining makes of them, and that only if no cut
moves. -/
theorem splitOn_eq_append_singleton_iff (hs : sep ≠ []) :
    splitOn sep s = parts ++ [last] ↔
      join sep (parts ++ [last]) = s ∧
        (∀ p ∈ parts, ¬ sep <:+: p ++ sep.dropLast) ∧ ¬ sep <:+: last := by
  rw [← splitOn_join_iff hs]
  constructor
  · intro h
    rw [← h, join_splitOn hs]
    exact ⟨rfl, rfl⟩
  · rintro ⟨rfl, h⟩
    exact h

end ScriptSuite.Text
