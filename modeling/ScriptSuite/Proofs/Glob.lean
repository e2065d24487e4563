import Mathlib
import ScriptSuite.Glob

/-!
# Globs and the case of letters

A text is matched by a glob as the same text in small letters is, as far as ASCII goes. So
`Foo.Test.ahk` is found wherever `foo.test.ahk` is. The one exception are globs with a range whose
ends are not letters of one case: such a range may take in letters of one case and not those of the
other, as `[0-Z]` and `[B-y]` do.

## Main definitions

* `GlobRange.IsCaseBlind`, `GlobPart.IsCaseBlind`: the case of a letter does not matter

## Main results

* `Glob.isCaseBlind_single`, `Glob.isCaseBlind_span`: what ignores case
* `Glob.holds_toLower`: what a glob with such parts matches
-/

namespace ScriptSuite

/-! ### Small and capital letters -/

section Letters

variable {c : Char}

theorem isUpper_iff : c.isUpper = true ↔ 65 ≤ c.toNat ∧ c.toNat ≤ 90 := by
  simp [Char.isUpper, UInt32.le_iff_toNat_le, ← Char.toNat_val]

theorem isLower_iff : c.isLower = true ↔ 97 ≤ c.toNat ∧ c.toNat ≤ 122 := by
  simp [Char.isLower, UInt32.le_iff_toNat_le, ← Char.toNat_val]

theorem toNat_toLower_cases (c : Char) :
    (65 ≤ c.toNat ∧ c.toNat ≤ 90) ∧ c.toLower.toNat = c.toNat + 32 ∨
      ¬ (65 ≤ c.toNat ∧ c.toNat ≤ 90) ∧ c.toLower.toNat = c.toNat := by
  by_cases hc : c.isUpper = true
  · have hrange := isUpper_iff.1 hc
    have hvalid : (c.toNat + 32).isValidChar := Or.inl (by omega)
    refine Or.inl ⟨hrange, ?_⟩
    rw [Char.toLower_eq_of_isUpper hc, Char.toNat_ofNat, if_pos hvalid]
  · exact Or.inr ⟨mt isUpper_iff.2 hc, by rw [Char.toLower_eq_of_not_isUpper hc]⟩

theorem char_le_iff {d : Char} : c ≤ d ↔ c.toNat ≤ d.toNat :=
  Char.le_def.trans UInt32.le_iff_toNat_le

/-- No letter becomes a slash or a backslash. -/
theorem toLower_eq_iff {d : Char} (hd : d.toNat < 65 ∨ 90 < d.toNat ∧ d.toNat < 97) :
    c.toLower = d ↔ c = d := by
  have hc := toNat_toLower_cases c
  rw [← Char.toNat_inj, ← Char.toNat_inj]
  omega

end Letters

/-! ### Parts of a glob -/

/-- The case of a letter does not matter to a range. -/
def GlobRange.IsCaseBlind (r : GlobRange) : Prop :=
  ∀ c, Glob.GlobRange.holds c.toLower r = Glob.GlobRange.holds c r

/-- The case of a letter does not matter to the ranges of a part. -/
def GlobPart.IsCaseBlind : GlobPart → Prop
  | .oneOf ranges | .noneOf ranges => ∀ r ∈ ranges, r.IsCaseBlind
  | .char _ | .anyChar | .anyChars | .anyComponents => True

namespace Glob

variable {parts : List GlobPart} {part : GlobPart} {a b c low high : Char} {s : List Char}

/-- Characters are taken for one if their small letters are one. -/
theorem sameChar_iff : sameChar a b = true ↔ a.toLower = b.toLower := by
  have ha := toNat_toLower_cases a
  have hb := toNat_toLower_cases b
  rw [sameChar, Bool.or_eq_true, Bool.and_eq_true, Bool.and_eq_true, decide_eq_true_iff,
    decide_eq_true_iff, decide_eq_true_iff, decide_eq_true_iff, ← Char.toNat_inj, ← Char.toNat_inj]
  omega

theorem sameChar_toLower : sameChar a.toLower b = sameChar a b := by
  rw [Bool.eq_iff_iff, sameChar_iff, sameChar_iff, Char.toLower_toLower_eq_toLower]

theorem isCaseBlind_single : (GlobRange.single a).IsCaseBlind := by
  intro c
  exact sameChar_toLower

/-- **A range between two small letters ignores case, and so does one between two capitals.** -/
theorem isCaseBlind_span (h : low.isLower = true ∧ high.isLower = true ∨
    low.isUpper = true ∧ high.isUpper = true) : (GlobRange.span low high).IsCaseBlind := by
  intro c
  have halpha : low.isAlpha = true ∧ high.isAlpha = true := by
    rw [Char.isAlpha, Char.isAlpha, Bool.or_eq_true, Bool.or_eq_true]
    exact h.elim (fun h => ⟨Or.inr h.1, Or.inr h.2⟩) fun h => ⟨Or.inl h.1, Or.inl h.2⟩
  rw [isLower_iff, isLower_iff, isUpper_iff, isUpper_iff] at h
  have hc := toNat_toLower_cases c
  have hlow := toNat_toLower_cases low
  have hhigh := toNat_toLower_cases high
  rw [Bool.eq_iff_iff]
  simp only [GlobRange.holds, halpha, Char.toLower_toLower_eq_toLower, Bool.or_eq_true,
    Bool.and_eq_true, decide_eq_true_iff, char_le_iff, Bool.true_and]
  omega

/-- Between letters of different case the capital `Z` is taken in, and the small one is not. -/
example : ¬ (GlobRange.span 'B' 'y').IsCaseBlind :=
  fun h => absurd (h 'Z') (by decide)

/-! ### Matching -/

theorem standsFor_toLower (h : part.IsCaseBlind) : standsFor c.toLower part = standsFor c part := by
  have hany {ranges : List GlobRange} (hranges : ∀ r ∈ ranges, r.IsCaseBlind) :
      ranges.any (GlobRange.holds c.toLower) = ranges.any (GlobRange.holds c) := by
    rw [Bool.eq_iff_iff, List.any_eq_true, List.any_eq_true]
    exact exists_congr fun r => and_congr_right fun hr => by rw [hranges r hr c]
  cases part with
  | char d => exact sameChar_toLower
  | oneOf ranges => exact hany h
  | noneOf ranges => exact congrArg not (hany h)
  | anyChar | anyChars | anyComponents => rfl

theorem attemptAll_map_toLower {attempt : List Char → Attempt} {onlyComponents atStart : Bool}
    (h : ∀ s, attempt (s.map Char.toLower) = attempt s) :
    attemptAll attempt onlyComponents atStart (s.map Char.toLower) =
      attemptAll attempt onlyComponents atStart s := by
  induction s generalizing atStart with
  | nil => rfl
  | cons c s ih =>
    have hslash : decide (c.toLower = '/') = decide (c = '/') :=
      decide_eq_decide.2 (toLower_eq_iff (by decide))
    have hhere := h (c :: s)
    rw [List.map_cons] at hhere ⊢
    rw [attemptAll, attemptAll, hhere, hslash, ih]

/-- **What is matched in small letters.** -/
theorem attempt_map_toLower (h : ∀ part ∈ parts, part.IsCaseBlind) :
    attempt parts (s.map Char.toLower) = attempt parts s := by
  induction parts generalizing s with
  | nil => cases s <;> rfl
  | cons part parts ih =>
    rw [List.forall_mem_cons] at h
    cases part with
    | anyChars => exact attemptAll_map_toLower fun s => ih h.2
    | anyComponents => exact attemptAll_map_toLower fun s => ih h.2
    | char | anyChar | oneOf | noneOf =>
      -- One character of the text is used up.
      cases s with
      | nil => rfl
      | cons c s =>
        rw [List.map_cons, attempt, attempt, standsFor_toLower h.1, ih h.2]
        all_goals exact fun heq => GlobPart.noConfusion heq

/-- **A glob matches a text as it matches the text in small letters.** -/
theorem holds_toLower {g : Glob} {path : String} (h : ∀ part ∈ g.parts, part.IsCaseBlind) :
    g.holds path.toLower = g.holds path := by
  have hslashes : Text.forwardSlashes (path.toList.map Char.toLower) =
      (Text.forwardSlashes path.toList).map Char.toLower := by
    rw [Text.forwardSlashes, Text.forwardSlashes, List.map_map, List.map_map]
    refine List.map_congr_left fun c _ => ?_
    by_cases hc : c = '\\'
    · subst hc
      rfl
    · have hlower : c.toLower ≠ '\\' := mt (toLower_eq_iff (by decide)).1 hc
      rw [Function.comp_apply, Function.comp_apply, if_neg hc, if_neg hlower]
  rw [holds, holds, String.toLower, String.toList_map, hslashes, attempt_map_toLower h]

end Glob

end ScriptSuite
