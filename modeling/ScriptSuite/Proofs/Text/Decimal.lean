import ScriptSuite.Text.Word

/-!
# Decimal digits of a number

Reading the decimal digits of a number gives the number back, within the bound of the reader. The
digits do not start with a zero unless they are a lone zero.

## Main results

* `Text.decimalBelow?_eq_some_iff`: which texts denote a number
* `Text.decimalBelow?_toDigits`: the digits of a number denote it
* `Text.head?_toDigits_ne`: no leading zero
-/

namespace ScriptSuite.Text

variable {n bound : Nat}

theorem isDigit_of_mem_toDigits {c : Char} (h : c ∈ Nat.toDigits 10 n) : c.isDigit = true :=
  Nat.isDigit_of_mem_toDigits (by decide) (by decide) h

theorem not_mem_toDigits {c : Char} (hc : c.isDigit = false) : c ∉ Nat.toDigits 10 n :=
  fun h => Bool.false_ne_true (hc.symm.trans (isDigit_of_mem_toDigits h))

theorem isDecimal_of_isDigit {c : Char} (h : c.isDigit = true) : isDecimal c = true := by
  simp only [Char.isDigit, Bool.and_eq_true, decide_eq_true_eq] at h
  have hlo : 0x30 ≤ c.toNat := h.1
  have hhi : c.toNat ≤ 0x39 := h.2
  have hlt : c.toNat < 0x30 + 10 := by omega
  simp [isDecimal, decimalZeros, hlo, hlt]

theorem decimalFrom?_eq {acc : Nat} {s : List Char} (h : ∀ c ∈ s, c.isDigit = true) :
    decimalFrom? acc s = some (Nat.ofDigitChars 10 s acc) := by
  induction s generalizing acc with
  | nil => simp [decimalFrom?]
  | cons c s ih =>
    have hc : digit? c = some (c.toNat - '0'.toNat) := by
      rw [digit?, if_pos (h c List.mem_cons_self)]
    rw [decimalFrom?, hc, Option.bind_some, ih fun d hd => h d (List.mem_cons_of_mem _ hd),
      Nat.ofDigitChars_cons]

theorem decimalFrom?_eq_some_iff {acc value : Nat} {s : List Char} :
    decimalFrom? acc s = some value ↔
      (∀ c ∈ s, c.isDigit = true) ∧ Nat.ofDigitChars 10 s acc = value := by
  refine ⟨fun h => ?_, fun ⟨hs, hvalue⟩ => by rw [decimalFrom?_eq hs, hvalue]⟩
  have hs : ∀ c ∈ s, c.isDigit = true := by
    induction s generalizing acc with
    | nil => exact fun c hc => absurd hc List.not_mem_nil
    | cons c s ih =>
      obtain ⟨d, hd, h⟩ := Option.bind_eq_some_iff.1 h
      rw [digit?, Option.ite_none_right_eq_some] at hd
      exact List.forall_mem_cons.2 ⟨hd.1, ih h⟩
  rw [decimalFrom?_eq hs] at h
  exact ⟨hs, Option.some.inj h⟩

/-- A text denotes a number if it is made of digits, and these denote the number. -/
theorem decimalBelow?_eq_some_iff {value : Nat} {s : List Char} :
    decimalBelow? bound s = some value ↔
      s ≠ [] ∧ (∀ c ∈ s, c.isDigit = true) ∧ Nat.ofDigitChars 10 s 0 = value ∧ value < bound := by
  rw [decimalBelow?]
  split
  · next hs => simp [List.isEmpty_iff.1 hs]
  · next hs =>
    rw [Option.filter_eq_some_iff, decimalFrom?_eq_some_iff, decide_eq_true_iff, and_assoc,
      and_iff_right fun hnil => hs (List.isEmpty_iff.2 hnil)]

/-- The digits of a number denote it. -/
theorem decimalBelow?_toDigits (h : n < bound) :
    decimalBelow? bound (Nat.toDigits 10 n) = some n := by
  have hne : (Nat.toDigits 10 n).isEmpty = false := by
    rw [List.isEmpty_eq_false_iff]
    exact Nat.toDigits_ne_nil
  rw [decimalBelow?, hne, if_neg Bool.false_ne_true,
    decimalFrom?_eq fun c hc => isDigit_of_mem_toDigits hc, Nat.ofDigitChars_ten_toDigits]
  simpa using h

/-- A positive number is written without a leading zero. -/
theorem head?_toDigits_ne (h : 0 < n) : (Nat.toDigits 10 n).head? ≠ some '0' := by
  induction n using Nat.strongRecOn with
  | ind n ih =>
    rcases Nat.lt_or_ge n 10 with hlt | hge
    · rw [Nat.toDigits_of_lt_base hlt]
      have key : ∀ m < 10, 0 < m → [m.digitChar].head? ≠ some '0' := by decide
      exact key n hlt h
    · have hfront := ih (n / 10) (by omega) (by omega)
      obtain ⟨d, ds, hd⟩ := List.exists_cons_of_ne_nil (Nat.toDigits_ne_nil (n := n / 10) (b := 10))
      rw [Nat.toDigits_of_base_le (by decide) hge, hd]
      rw [hd] at hfront
      simpa using hfront

end ScriptSuite.Text
