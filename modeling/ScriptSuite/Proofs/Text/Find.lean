import ScriptSuite.Text.Find

/-!
# Occurrences and first cuts

`Text.cut` finds the first occurrence of a text. Whether there is one is the infix relation of
core. Where it lies is easy to tell for a text that cannot overlap itself: behind any front that
does not hold it, the first occurrence is the one that was put there.

## Main definitions

* `Text.Unbordered`: no proper front of a text is also an end of it

## Main results

* `Text.contains_iff_infix`: the search agrees with the infix relation
* `Text.cut_append_append`: where an unbordered text is put, there it is found
* `Text.cut_append_append_iff`: which fronts any text may be put behind to be found there
* `Text.infix_append_cons_iff`: a character that a text lacks separates its occurrences
-/

namespace ScriptSuite.Text

variable {needle s x y : List Char} {c : Char}

/-! ### Occurrence -/

theorem cut_isSome_iff_infix : (cut needle s).isSome = true ↔ needle <:+: s := by
  induction s with
  | nil => cases needle <;> simp [cut]
  | cons c s ih =>
    rw [cut, List.infix_cons_iff]
    split
    · rename_i h
      simp [List.isPrefixOf_iff_prefix.1 h]
    · rename_i h
      rw [List.isPrefixOf_iff_prefix] at h
      simp only [Option.isSome_map, ih, h, false_or]

theorem contains_iff_infix : contains needle s = true ↔ needle <:+: s :=
  cut_isSome_iff_infix

theorem not_infix_iff_occursIn {needle s : String} :
    ¬ needle.toList <:+: s.toList ↔ occursIn needle s = false := by
  rw [occursIn, ← Bool.not_eq_true, contains_iff_infix]

theorem cut_eq_none_iff : cut needle s = none ↔ ¬ needle <:+: s := by
  rw [← cut_isSome_iff_infix, Option.isSome_iff_ne_none, ne_eq, Decidable.not_not]

theorem eq_append_of_cut (h : cut needle s = some (x, y)) : s = x ++ (needle ++ y) := by
  induction s generalizing x with
  | nil =>
    cases needle with
    | nil => simp_all [cut]
    | cons => simp [cut] at h
  | cons c s ih =>
    rw [cut] at h
    split at h
    · rename_i hpre
      obtain ⟨t, ht⟩ := List.isPrefixOf_iff_prefix.1 hpre
      obtain ⟨rfl, rfl⟩ : [] = x ∧ (c :: s).drop needle.length = y := by simpa using h
      rw [← ht, List.drop_left, List.nil_append]
    · obtain ⟨⟨before, behind⟩, hs, h⟩ := Option.map_eq_some_iff.1 h
      obtain ⟨rfl, rfl⟩ : c :: before = x ∧ behind = y := by simpa using h
      rw [ih hs, List.cons_append]

/-- What stands behind a text does not matter for its first occurrence. -/
theorem cut_append {r : List Char} (h : cut needle s = some (x, y)) :
    cut needle (s ++ r) = some (x, y ++ r) := by
  induction s generalizing x with
  | nil =>
    cases needle with
    | nil =>
      obtain ⟨rfl, rfl⟩ : [] = x ∧ [] = y := by simpa [cut] using h
      cases r <;> simp [cut]
    | cons => exact absurd h (by simp [cut])
  | cons c s ih =>
    rw [cut] at h
    split at h
    · next hpre =>
      obtain ⟨t, ht⟩ := List.isPrefixOf_iff_prefix.1 hpre
      obtain ⟨rfl, rfl⟩ : [] = x ∧ (c :: s).drop needle.length = y := by simpa using h
      have hpre' : needle.isPrefixOf (c :: (s ++ r)) = true :=
        List.isPrefixOf_iff_prefix.2 ⟨t ++ r, by rw [← List.append_assoc, ht]; rfl⟩
      rw [List.cons_append, cut, if_pos hpre', ← List.cons_append, ← ht, List.append_assoc,
        List.drop_left, List.drop_left]
    · next hpre =>
      obtain ⟨⟨before, behind⟩, hs, h⟩ := Option.map_eq_some_iff.1 h
      obtain ⟨rfl, rfl⟩ : c :: before = x ∧ behind = y := by simpa using h
      -- The text occurs in `s`, so it is too short to reach beyond it.
      have hlen : needle.length ≤ (c :: s).length := by
        rw [eq_append_of_cut hs]
        simp only [List.length_cons, List.length_append]
        omega
      have hpre' : ¬ needle.isPrefixOf (c :: (s ++ r)) = true := by
        rw [List.isPrefixOf_iff_prefix] at hpre ⊢
        exact fun hp => hpre (List.prefix_of_prefix_length_le hp ⟨r, rfl⟩ hlen)
      rw [List.cons_append, cut, if_neg hpre', ih hs]
      rfl

theorem prefix_append_cons_iff (hc : c ∉ needle) : needle <+: x ++ c :: y ↔ needle <+: x := by
  refine ⟨fun h => ?_, List.prefix_append_of_prefix⟩
  rcases List.prefix_or_prefix_of_prefix h (List.prefix_append x (c :: y)) with hx | ⟨t, rfl⟩
  · exact hx
  · rcases List.prefix_cons_iff.1 ((List.prefix_append_right_inj x).1 h) with rfl | ⟨t, rfl, -⟩
    · simp
    · exact absurd (List.mem_append_right x List.mem_cons_self) hc

/-- A character that does not occur in a text separates its occurrences: none reaches across. -/
theorem infix_append_cons_iff (hc : c ∉ needle) :
    needle <:+: x ++ c :: y ↔ needle <:+: x ∨ needle <:+: y := by
  constructor
  · rw [List.infix_append_iff, List.infix_cons_iff]
    rintro (h | (h | h) | ⟨l₁, l₂, rfl, h₁, h₂⟩)
    · exact Or.inl h
    · rcases List.prefix_cons_iff.1 h with rfl | ⟨t, rfl, -⟩
      · exact Or.inl List.nil_infix
      · exact absurd List.mem_cons_self hc
    · exact Or.inr h
    · rcases List.prefix_cons_iff.1 h₂ with rfl | ⟨t, rfl, -⟩
      · exact Or.inl (by simpa using h₁.isInfix)
      · exact absurd (List.mem_append_right _ List.mem_cons_self) hc
  · rintro (h | h)
    · exact List.infix_append_of_infix_left h
    · exact List.infix_append_of_infix_right (List.infix_cons h)

/-- A text without the first character of another one does not matter in front. -/
theorem infix_append_iff_of_not_mem (hc : c ∉ x) :
    c :: needle <:+: x ++ y ↔ c :: needle <:+: y := by
  induction x with
  | nil => rfl
  | cons d x ih =>
    have hd : c ≠ d := fun h => hc (h ▸ List.mem_cons_self)
    rw [List.cons_append, List.infix_cons_iff, List.cons_prefix_cons,
      ih fun h => hc (List.mem_cons_of_mem _ h)]
    simp [hd]

/-! ### The place of the first occurrence -/

/-- No proper front of the text is also an end of it, so two occurrences never overlap. -/
def Unbordered (needle : List Char) : Prop :=
  ∀ k < needle.length, 0 < k → needle.take k ≠ needle.drop (needle.length - k)

instance (needle : List Char) : Decidable (Unbordered needle) :=
  inferInstanceAs (Decidable (∀ k < needle.length, _))

/-- No end of an unbordered text is also in front. -/
theorem Unbordered.eq_nil (hu : Unbordered (x ++ y)) (hx : x ≠ []) (h : y <+: x ++ y) : y = [] := by
  have hpos : 0 < x.length := List.length_pos_iff.2 hx
  rcases Nat.eq_zero_or_pos y.length with hy | hy
  · exact List.length_eq_zero_iff.1 hy
  · refine absurd ?_ (hu y.length (by rw [List.length_append]; omega) hy)
    rw [← List.prefix_iff_eq_take.1 h, List.length_append, Nat.add_sub_cancel, List.drop_left]

/-- An occurrence that starts in front of a copy of the text and reaches into it would make a
border, so it must end in front of the copy. -/
theorem Unbordered.prefix_of_prefix_append (hu : Unbordered needle) (hx : x ≠ [])
    (h : needle <+: x ++ (needle ++ y)) : needle <+: x := by
  obtain ⟨t, ht⟩ := h
  rcases List.append_eq_append_iff.1 ht with ⟨a, ha, -⟩ | ⟨b, hb, hbt⟩
  · exact ⟨a, ha.symm⟩
  · have hlen : needle.length = x.length + b.length := by
      simpa using congrArg List.length hb
    have hpos : 0 < x.length := List.length_pos_iff.2 hx
    rcases Nat.eq_zero_or_pos b.length with hb0 | hb0
    · have hbn : b = [] := List.length_eq_zero_iff.1 hb0
      exact ⟨[], by simpa [hbn] using hb⟩
    · have hfront : needle.take b.length = b := by
        have : (needle ++ y).take b.length = (b ++ t).take b.length := by rw [hbt]
        rwa [List.take_append_of_le_length (by omega), List.take_left] at this
      have hend : needle.drop (needle.length - b.length) = b := by
        rw [hlen, Nat.add_sub_cancel, hb, List.drop_left]
      exact absurd (hfront.trans hend.symm) (hu b.length (by omega) hb0)

theorem cut_append_self (hn : needle ≠ []) : cut needle (needle ++ y) = some ([], y) := by
  obtain ⟨c, n, rfl⟩ := List.exists_cons_of_ne_nil hn
  have h : (c :: n).isPrefixOf (c :: (n ++ y)) = true := by simp
  rw [List.cons_append, cut, if_pos h]
  simp

/-- Where a text is put, there it is found first, unless it occurs already in what stands in front
of its last character. -/
theorem cut_append_append_iff (hn : needle ≠ []) :
    cut needle (x ++ (needle ++ y)) = some (x, y) ↔ ¬ needle <:+: x ++ needle.dropLast := by
  have hpos : 0 < needle.length := List.length_pos_iff.2 hn
  induction x with
  | nil =>
    have hlong : ¬ needle <:+: needle.dropLast := fun h => by
      have := h.length_le
      rw [List.length_dropLast] at this
      omega
    simpa [hlong] using cut_append_self hn
  | cons c x ih =>
    -- An occurrence at the very front ends before the last character of the copy.
    have hcopy : needle.dropLast ++ needle.getLast hn :: y = needle ++ y := by
      rw [← List.singleton_append, ← List.append_assoc, List.dropLast_concat_getLast]
    have hfront :
        needle <+: c :: (x ++ (needle ++ y)) ↔ needle <+: c :: (x ++ needle.dropLast) := by
      rw [← hcopy, ← List.append_assoc, ← List.cons_append]
      refine ⟨fun h => List.prefix_of_prefix_length_le h (List.prefix_append _ _) ?_,
        List.prefix_append_of_prefix⟩
      simp only [List.length_cons, List.length_append, List.length_dropLast]
      omega
    rw [List.cons_append, cut, List.cons_append, List.infix_cons_iff, ← hfront,
      ← List.isPrefixOf_iff_prefix]
    split
    · rename_i hpre
      simp [hpre]
    · rename_i hpre
      rw [or_iff_right hpre]
      refine Iff.trans ?_ ih
      rw [Option.map_eq_some_iff]
      constructor
      · rintro ⟨⟨before, behind⟩, hs, h⟩
        obtain ⟨rfl, rfl⟩ : before = x ∧ behind = y := by simpa using h
        exact hs
      · exact fun hs => ⟨_, hs, rfl⟩

/-- **The first occurrence of an unbordered text** behind a front that does not hold it is the one
that stands there. -/
theorem cut_append_append (hn : needle ≠ []) (hu : Unbordered needle) (hx : ¬ needle <:+: x) :
    cut needle (x ++ (needle ++ y)) = some (x, y) := by
  induction x with
  | nil => exact cut_append_self hn
  | cons c x ih =>
    have hpre : ¬ needle.isPrefixOf (c :: (x ++ (needle ++ y))) = true := by
      rw [List.isPrefixOf_iff_prefix]
      exact fun h => hx (hu.prefix_of_prefix_append (by simp) h).isInfix
    rw [List.cons_append, cut, if_neg hpre, ih fun h => hx (List.infix_cons h)]
    rfl

end ScriptSuite.Text
