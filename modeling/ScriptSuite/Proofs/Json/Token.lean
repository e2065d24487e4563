import ScriptSuite.Json.Token
import ScriptSuite.Proofs.Text.Blank
import ScriptSuite.Proofs.Text.Decimal

/-!
# Tokens, one at a time

The tokens of a text, as one equation for each token in front: punctuation, literals, strings and
numbers. A text is cut by rewriting with these equations from left to right.

## Main definitions

* `Json.IsNumber`: the numbers of JSON
* `Json.EndsNumber`: the texts that cannot make a number in front of them longer

## Main results

* `Json.tokens?_of_next?`: a token in front of a text
* `Json.tokens?_quote`: a string in front of a text
* `Json.IsNumber.tokens?_append`, `Json.tokens?_toDigits`: a number in front of a text
-/

namespace ScriptSuite.Json

variable {c : Char} {s rest : List Char} {t : Token}

/-! ### One token -/

theorem tokens?_of_next? (hc : isSpace c = false) (h : Token.next? (c :: s) = some (t, rest)) :
    tokens? (c :: s) = (tokens? rest).map (t :: ·) := by
  rw [tokens?, hc, if_neg Bool.false_ne_true]
  split
  · rename_i hn
    rw [h] at hn
    exact absurd hn (by simp)
  · rename_i t' rest' hn
    rw [h, Option.some.injEq, Prod.mk.injEq] at hn
    rw [hn.1, hn.2]

theorem tokens?_of_next?_eq_none (hc : isSpace c = false) (h : Token.next? (c :: s) = none) :
    tokens? (c :: s) = none := by
  rw [tokens?, hc, if_neg Bool.false_ne_true]
  split
  · rfl
  · rename_i hn
    rw [h] at hn
    exact absurd hn (by simp)

@[simp] theorem tokens?_nil : tokens? [] = some [] := by
  rw [tokens?]

@[simp] theorem tokens?_openArr : tokens? ('[' :: s) = (tokens? s).map (.openArr :: ·) :=
  tokens?_of_next? (by decide) rfl

@[simp] theorem tokens?_closeArr : tokens? (']' :: s) = (tokens? s).map (.closeArr :: ·) :=
  tokens?_of_next? (by decide) rfl

@[simp] theorem tokens?_openObj : tokens? ('{' :: s) = (tokens? s).map (.openObj :: ·) :=
  tokens?_of_next? (by decide) rfl

@[simp] theorem tokens?_closeObj : tokens? ('}' :: s) = (tokens? s).map (.closeObj :: ·) :=
  tokens?_of_next? (by decide) rfl

@[simp] theorem tokens?_comma : tokens? (',' :: s) = (tokens? s).map (.comma :: ·) :=
  tokens?_of_next? (by decide) rfl

@[simp] theorem tokens?_colon : tokens? (':' :: s) = (tokens? s).map (.colon :: ·) :=
  tokens?_of_next? (by decide) rfl

theorem tokens?_null : tokens? ('n' :: 'u' :: 'l' :: 'l' :: s) = (tokens? s).map (.null :: ·) :=
  tokens?_of_next? (by decide) rfl

theorem tokens?_true :
    tokens? ('t' :: 'r' :: 'u' :: 'e' :: s) = (tokens? s).map (.bool true :: ·) :=
  tokens?_of_next? (by decide) rfl

theorem tokens?_false :
    tokens? ('f' :: 'a' :: 'l' :: 's' :: 'e' :: s) = (tokens? s).map (.bool false :: ·) :=
  tokens?_of_next? (by decide) rfl

/-- A string in front of a text is what `stringTail?` makes of what follows the quote. -/
theorem tokens?_quote : tokens? ('"' :: s) =
    (stringTail? s).bind fun (body, rest) => (tokens? rest).map (.str body :: ·) := by
  have hn : Token.next? ('"' :: s) = (stringTail? s).map fun (body, rest) => (.str body, rest) := by
    rw [Token.next?]
  cases h : stringTail? s with
  | none => rw [tokens?_of_next?_eq_none (by decide) (by rw [hn, h]; rfl), Option.bind_none]
  | some p => rw [tokens?_of_next? (by decide) (by rw [hn, h]; rfl), Option.bind_some]

/-! ### The numbers of JSON -/

/-- Digits, at least one. -/
structure IsDigits (s : List Char) : Prop where
  /-- There is one. -/
  ne_nil : s ≠ []
  /-- There is nothing else. -/
  isDigit : ∀ c ∈ s, c.isDigit = true

/-- The integer part of a number: a lone zero, or digits that do not start with zero. -/
def IsWhole (s : List Char) : Prop := s = ['0'] ∨ IsDigits s ∧ s.head? ≠ some '0'

/-- The fractional part of a number, which may be absent. -/
def IsFraction (s : List Char) : Prop := s = [] ∨ ∃ ds, IsDigits ds ∧ s = '.' :: ds

/-- The exponent of a number, which may be absent. -/
def IsExponent (s : List Char) : Prop :=
  s = [] ∨ ∃ e ∈ ['e', 'E'], ∃ sign ∈ [[], ['+'], ['-']], ∃ ds, IsDigits ds ∧ s = e :: (sign ++ ds)

/-- A number: perhaps a sign, the integer part, the fractional part and the exponent. -/
inductive IsNumber : List Char → Prop
  /-- A number without sign. -/
  | unsigned {whole part power : List Char} (hwhole : IsWhole whole) (hpart : IsFraction part)
      (hpower : IsExponent power) : IsNumber (whole ++ part ++ power)
  /-- A number with a minus sign. -/
  | negative {whole part power : List Char} (hwhole : IsWhole whole) (hpart : IsFraction part)
      (hpower : IsExponent power) : IsNumber ('-' :: (whole ++ part ++ power))

theorem isWhole_toDigits (n : Nat) : IsWhole (Nat.toDigits 10 n) := by
  rcases Nat.eq_zero_or_pos n with rfl | hn
  · exact .inl (Nat.toDigits_zero 10)
  · exact .inr ⟨⟨Nat.toDigits_ne_nil, fun c hc => Text.isDigit_of_mem_toDigits hc⟩,
      Text.head?_toDigits_ne hn⟩

/-- The digits of a natural number are a number. -/
theorem isNumber_toDigits (n : Nat) : IsNumber (Nat.toDigits 10 n) := by
  have h := IsNumber.unsigned (isWhole_toDigits n) (.inl rfl) (.inl rfl)
  rwa [List.append_nil, List.append_nil] at h

/-! ### Numbers in front of a text -/

/-- What may follow digits: nothing that would make them more. -/
def EndsDigits (s : List Char) : Prop := ∀ c, s.head? = some c → c.isDigit = false

/-- What may follow a number: nothing that would make the number longer. -/
def EndsNumber (s : List Char) : Prop :=
  ∀ c, s.head? = some c → c.isDigit = false ∧ c ≠ '.' ∧ c ≠ 'e' ∧ c ≠ 'E'

theorem EndsNumber.endsDigits (h : EndsNumber s) : EndsDigits s := fun c hc => (h c hc).1

theorem endsDigits_cons (h : c.isDigit = false) : EndsDigits (c :: s) := fun d hd => by
  obtain rfl : c = d := by simpa using hd
  exact h

theorem IsDigits.digits1?_append {ds : List Char} (h : IsDigits ds) (hs : EndsDigits s) :
    digits1? (ds ++ s) = some (ds, s) := by
  have htake : (ds ++ s).takeWhile Char.isDigit = ds := by
    rw [List.takeWhile_append_of_pos h.isDigit]
    cases s with
    | nil => simp
    | cons c s => simp [hs c rfl]
  have hdrop : (ds ++ s).dropWhile Char.isDigit = s := by
    rw [List.dropWhile_append_of_pos h.isDigit]
    cases s with
    | nil => simp
    | cons c s => simp [hs c rfl]
  simp only [digits1?, htake, hdrop, List.isEmpty_eq_false_iff.2 h.ne_nil, Bool.false_eq_true,
    if_false]

theorem IsWhole.integer?_append {whole : List Char} (h : IsWhole whole) (hs : EndsDigits s) :
    integer? (whole ++ s) = some (whole, s) := by
  rcases h with rfl | ⟨hds, hhead⟩
  · rfl
  · rw [integer?]
    · exact hds.digits1?_append hs
    · intro rest heq
      obtain ⟨d, ds, rfl⟩ := List.exists_cons_of_ne_nil hds.ne_nil
      obtain ⟨rfl, -⟩ := List.cons.inj heq
      exact hhead rfl

theorem IsExponent.endsDigits_append {power : List Char} (h : IsExponent power)
    (hs : EndsNumber s) : EndsDigits (power ++ s) := by
  rcases h with rfl | ⟨e, he, sign, -, ds, -, rfl⟩
  · exact hs.endsDigits
  · have key : ∀ e ∈ ['e', 'E'], e.isDigit = false := Text.forall_mem_of_all (by decide)
    exact endsDigits_cons (key e he)

theorem IsFraction.endsDigits_append {part : List Char} (h : IsFraction part)
    (hs : EndsDigits s) : EndsDigits (part ++ s) := by
  rcases h with rfl | ⟨ds, -, rfl⟩
  · exact hs
  · exact endsDigits_cons (by decide)

theorem IsFraction.fraction?_append {part : List Char} (h : IsFraction part) (hs : EndsDigits s)
    (hdot : s.head? ≠ some '.') : fraction? (part ++ s) = some (part, s) := by
  rcases h with rfl | ⟨ds, hds, rfl⟩
  · rw [List.nil_append, fraction?]
    rintro rest rfl
    exact hdot rfl
  · rw [List.cons_append, fraction?, hds.digits1?_append hs]
    rfl

theorem signedDigits?_append {sign ds : List Char} (hsign : sign ∈ [[], ['+'], ['-']])
    (hds : IsDigits ds) (hs : EndsDigits s) :
    signedDigits? (sign ++ ds ++ s) = some (sign ++ ds, s) := by
  obtain ⟨d, ds', rfl⟩ := List.exists_cons_of_ne_nil hds.ne_nil
  have hd : d.isDigit = true := hds.isDigit d List.mem_cons_self
  have hplain : ¬ (d = '+' ∨ d = '-') := by
    rintro (rfl | rfl) <;> exact absurd hd (by decide)
  simp only [List.mem_cons, List.not_mem_nil, or_false] at hsign
  rcases hsign with rfl | rfl | rfl
  · rw [List.nil_append, List.cons_append, signedDigits?, if_neg hplain, ← List.cons_append,
      hds.digits1?_append hs]
  · rw [List.singleton_append, List.cons_append, signedDigits?, if_pos (by decide),
      hds.digits1?_append hs]
    rfl
  · rw [List.singleton_append, List.cons_append, signedDigits?, if_pos (by decide),
      hds.digits1?_append hs]
    rfl

theorem IsExponent.exponent?_append {power : List Char} (h : IsExponent power)
    (hs : EndsNumber s) : exponent? (power ++ s) = some (power, s) := by
  rcases h with rfl | ⟨e, he, sign, hsign, ds, hds, rfl⟩
  · cases s with
    | nil => rfl
    | cons c s => rw [List.nil_append, exponent?, if_neg (by simp [(hs c rfl).2.2])]
  · rw [List.cons_append, exponent?, if_pos (by simpa using he),
      signedDigits?_append hsign hds hs.endsDigits]
    rfl

theorem unsigned?_append {whole part power : List Char} (hwhole : IsWhole whole)
    (hpart : IsFraction part) (hpower : IsExponent power) (hs : EndsNumber s) :
    unsigned? (whole ++ part ++ power ++ s) = some (whole ++ part ++ power, s) := by
  have hdigits := hpower.endsDigits_append hs
  have hdot : (power ++ s).head? ≠ some '.' := by
    rcases hpower with rfl | ⟨e, he, sign, -, ds, -, rfl⟩
    · exact fun h => (hs '.' h).2.1 rfl
    · have key : ∀ e ∈ ['e', 'E'], e ≠ '.' := Text.forall_mem_of_all (by decide)
      exact fun h => key e he (Option.some.inj h)
  rw [List.append_assoc, List.append_assoc, unsigned?,
    hwhole.integer?_append (hpart.endsDigits_append hdigits)]
  simp only [Option.bind_eq_bind, Option.bind_some, hpart.fraction?_append hdigits hdot,
    hpower.exponent?_append hs, Option.pure_def]

theorem IsWhole.exists_eq_cons {whole : List Char} (h : IsWhole whole) :
    ∃ d ds, whole = d :: ds ∧ d.isDigit = true := by
  rcases h with rfl | ⟨hds, -⟩
  · exact ⟨'0', [], rfl, by decide⟩
  · obtain ⟨d, ds, rfl⟩ := List.exists_cons_of_ne_nil hds.ne_nil
    exact ⟨d, ds, rfl, hds.isDigit d List.mem_cons_self⟩

/-- A number starts with a digit or a minus sign. -/
theorem IsNumber.exists_eq_cons {literal : List Char} (h : IsNumber literal) :
    ∃ c s, literal = c :: s ∧ (c.isDigit = true ∨ c = '-') := by
  cases h with
  | unsigned hwhole =>
    obtain ⟨d, ds, rfl, hd⟩ := hwhole.exists_eq_cons
    exact ⟨d, _, rfl, .inl hd⟩
  | negative => exact ⟨'-', _, rfl, .inr rfl⟩

theorem IsNumber.number?_append {literal : List Char} (h : IsNumber literal) (hs : EndsNumber s) :
    number? (literal ++ s) = some (literal, s) := by
  cases h with
  | unsigned hwhole hpart hpower =>
    have hunsigned := unsigned?_append hwhole hpart hpower hs
    obtain ⟨d, ds, rfl, hd⟩ := hwhole.exists_eq_cons
    rw [number?]
    · exact hunsigned
    · rintro rest heq
      obtain ⟨rfl, -⟩ := List.cons.inj heq
      exact absurd hd (by decide)
  | negative hwhole hpart hpower =>
    rw [List.cons_append, number?, unsigned?_append hwhole hpart hpower hs]
    rfl

theorem next?_number (hc : c.isDigit = true ∨ c = '-') :
    Token.next? (c :: s) = (number? (c :: s)).map fun (literal, rest) => (.num literal, rest) := by
  have key : ∀ d : Char, d.isDigit = false → d ≠ '-' → c ≠ d := by
    rintro d hd hne rfl
    exact hc.elim (fun h => Bool.false_ne_true (hd.symm.trans h)) hne
  rw [Token.next?]
  all_goals exact fun _ h => absurd (List.cons.inj h).1 (key _ (by decide) (by decide))

/-- **A number in front of a text.** -/
theorem IsNumber.tokens?_append {literal : List Char} (h : IsNumber literal) (hs : EndsNumber s) :
    tokens? (literal ++ s) = (tokens? s).map (.num literal :: ·) := by
  obtain ⟨c, s', rfl, hc⟩ := h.exists_eq_cons
  have hspace : isSpace c = false := by
    rcases hsp : isSpace c with - | -
    · rfl
    · simp only [isSpace, Bool.or_eq_true, decide_eq_true_eq] at hsp
      rcases hsp with ((rfl | rfl) | rfl) | rfl <;> exact absurd hc (by decide)
  have hnumber := h.number?_append hs
  rw [List.cons_append] at hnumber ⊢
  have hnext : Token.next? (c :: (s' ++ s)) = some (.num (c :: s'), s) := by
    rw [next?_number hc, hnumber]
    rfl
  exact tokens?_of_next? hspace hnext

/-- A natural number in front of a text. -/
theorem tokens?_toDigits {n : Nat} (hs : EndsNumber s) :
    tokens? (Nat.toDigits 10 n ++ s) = (tokens? s).map (.num (Nat.toDigits 10 n) :: ·) :=
  (isNumber_toDigits n).tokens?_append hs

end ScriptSuite.Json
