import ScriptSuite.Text.Blank
import ScriptSuite.Text.Word

/-!
# Word characters and blanks

No character can stand in a name and divide names. The other characters of a declaration are
neither.

## Main definitions

* `Text.IsName`, `Text.EndsWord`: a name, and what may stand behind one

## Main results

* `Text.isWord_eq_false_of_isBlank`: no blank is a word character
* `Text.takeWhile_isWord_append`, `Text.dropWhile_isWord_append`: where a word ends
-/

namespace ScriptSuite.Text

variable {c : Char} {w s : List Char}

/-! ### Two classes without a common character -/

/-- The code points of the blanks. -/
def blankCodes : List Nat :=
  [0x09, 0x0A, 0x0B, 0x0C, 0x0D, 0x20, 0x85, 0xA0, 0x1680, 0x2000, 0x2001, 0x2002, 0x2003, 0x2004,
    0x2005, 0x2006, 0x2007, 0x2008, 0x2009, 0x200A, 0x2028, 0x2029, 0x202F, 0x205F, 0x3000]

theorem toNat_mem_blankCodes (h : isBlank c = true) : c.toNat ∈ blankCodes := by
  simp only [isBlank, Bool.or_eq_true, Bool.and_eq_true, decide_eq_true_eq, beq_iff_eq] at h
  simp only [blankCodes, List.mem_cons, List.not_mem_nil]
  omega

theorem inRanges_eq_false_of_mem_blankCodes :
    ∀ n ∈ blankCodes, inRanges n wordRanges = false := by decide +kernel

/-- **No blank is a word character.** -/
theorem isWord_eq_false_of_isBlank (h : isBlank c = true) : isWord c = false :=
  inRanges_eq_false_of_mem_blankCodes _ (toNat_mem_blankCodes h)

theorem isBlank_eq_false_of_isWord (h : isWord c = true) : isBlank c = false := by
  rw [← Bool.not_eq_true]
  intro hb
  rw [isWord_eq_false_of_isBlank hb] at h
  exact Bool.false_ne_true h

theorem not_mem_of_isWord_eq_false (hw : ∀ d ∈ w, isWord d = true) (hc : isWord c = false) :
    c ∉ w := by
  intro h
  rw [hw c h] at hc
  exact Bool.false_ne_true hc.symm

theorem not_mem_of_isBlank_eq_false (hs : isAllBlank s = true) (hc : isBlank c = false) :
    c ∉ s := by
  intro h
  rw [List.all_eq_true.1 hs c h] at hc
  exact Bool.false_ne_true hc.symm

/-! ### Where a name ends -/

/-- A text of one or more word characters. -/
structure IsName (w : List Char) : Prop where
  /-- There is a character. -/
  nonempty : w ≠ []
  /-- All of them are word characters. -/
  word : ∀ c ∈ w, isWord c = true

instance : Decidable (IsName w) :=
  decidable_of_iff (w ≠ [] ∧ w.all isWord = true)
    ⟨fun h => ⟨h.1, List.all_eq_true.1 h.2⟩, fun h => ⟨h.1, List.all_eq_true.2 h.2⟩⟩

theorem IsName.trimStart_append (hw : IsName w) : trimStart (w ++ s) = w ++ s := by
  cases w with
  | nil => exact absurd rfl hw.nonempty
  | cons c w =>
    exact List.dropWhile_cons_of_neg
      (by simp [isBlank_eq_false_of_isWord (hw.word c List.mem_cons_self)])

/-- The text does not go on with a word character. -/
def EndsWord (s : List Char) : Prop := ∀ c, s.head? = some c → isWord c = false

theorem endsWord_cons (h : isWord c = false) : EndsWord (c :: s) := by
  intro d hd
  obtain rfl : c = d := Option.some.inj hd
  exact h

/-- Blanks end a word, and where there are none, what stands behind them has to. -/
theorem endsWord_append (hw : isAllBlank w = true) (hs : EndsWord s) : EndsWord (w ++ s) := by
  cases w with
  | nil => exact hs
  | cons c w => exact endsWord_cons (isWord_eq_false_of_isBlank (List.all_eq_true.1 hw c (by simp)))

theorem endsWord_of_isAllBlank (hs : isAllBlank s = true) : EndsWord s := by
  rw [← List.append_nil s]
  exact endsWord_append hs fun _ h => absurd h (by simp)

theorem takeWhile_isWord_append (hw : ∀ c ∈ w, isWord c = true) (hs : EndsWord s) :
    (w ++ s).takeWhile isWord = w := by
  rw [List.takeWhile_append_of_pos hw]
  cases s with
  | nil => rw [List.takeWhile_nil, List.append_nil]
  | cons c s => rw [List.takeWhile_cons_of_neg (by simp [hs c rfl]), List.append_nil]

theorem dropWhile_isWord_append (hw : ∀ c ∈ w, isWord c = true) (hs : EndsWord s) :
    (w ++ s).dropWhile isWord = s := by
  rw [List.dropWhile_append_of_pos hw]
  cases s with
  | nil => rfl
  | cons c s => rw [List.dropWhile_cons_of_neg (by simp [hs c rfl])]

end ScriptSuite.Text
