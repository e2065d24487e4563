import ScriptSuite.Proofs.Json.Text
import ScriptSuite.Proofs.Json.Token
import ScriptSuite.Proofs.Text.Blank
import ScriptSuite.Proofs.Text.Find

/-!
# Quotation by the runner script

The runner script quotes a text by five replacements, one after the other: the backslash first, then
the double quote, the carriage return, the line feed and the tab. That is enough for JSON as long as
the text holds no other control character. A control character without a replacement stays as it is,
and no reader of JSON accepts it inside a string.

## Main definitions

* `quoteBody`, `quote`: the five replacements, and the quotes around them
* `IsPlain`: the texts without other control characters

## Main results

* `Json.tokens?_quote_append`: a quoted text is one string token if it is plain, and no token if not
* `Json.unescape?_quoteBody`: a quoted text denotes the text
* `infix_append_quote`: quotation makes no new occurrence of a text without escape letters
-/

namespace ScriptSuite

open Text

variable {c e : Char} {m s x y : List Char}

/-! ### The replacements -/

/-- The text with every occurrence of a character replaced. -/
def replaceChar (c : Char) (value s : List Char) : List Char :=
  s.flatMap fun d => if d = c then value else [d]

/-- The five replacements, in the order of the script. -/
def quoteBody (s : List Char) : List Char :=
  replaceChar '\t' ['\\', 't'] <| replaceChar '\n' ['\\', 'n'] <| replaceChar '\r' ['\\', 'r'] <|
    replaceChar '"' ['\\', '"'] <| replaceChar '\\' ['\\', '\\'] s

/-- A text as the runner script quotes it. -/
def quote (s : List Char) : List Char :=
  '"' :: (quoteBody s ++ ['"'])

/-- What the five replacements make of one character. -/
def quoteChar (c : Char) : List Char :=
  if c = '\\' then ['\\', '\\']
  else if c = '"' then ['\\', '"']
  else if c = '\r' then ['\\', 'r']
  else if c = '\n' then ['\\', 'n']
  else if c = '\t' then ['\\', 't']
  else [c]

/-- The backslash comes first, so the replacements do not meet each other's backslashes: together
they act on each character alone. -/
theorem quoteBody_eq_flatMap (s : List Char) : quoteBody s = s.flatMap quoteChar := by
  simp only [quoteBody, replaceChar, List.flatMap_assoc]
  congr 1
  funext c
  rw [quoteChar]
  split
  · rfl
  split
  · rename_i h
    subst h
    rfl
  split
  · rename_i h
    subst h
    rfl
  split
  · rename_i h
    subst h
    rfl
  split
  · rename_i h
    subst h
    rfl
  · simp [*]

@[simp] theorem quoteBody_nil : quoteBody [] = [] := rfl

theorem quoteBody_cons (c : Char) (s : List Char) :
    quoteBody (c :: s) = quoteChar c ++ quoteBody s := by
  rw [quoteBody_eq_flatMap, quoteBody_eq_flatMap, List.flatMap_cons]

/-- The letters that stand behind a backslash in a quoted text. -/
def escapeLetters : List Char := ['\\', '"', 'r', 'n', 't']

/-- A character is kept, and then it is none of the five, or it becomes a backslash and a letter. -/
theorem quoteChar_cases (c : Char) :
    (quoteChar c = [c] ∧ c ≠ '\\' ∧ c ≠ '"' ∧ c ≠ '\r' ∧ c ≠ '\n' ∧ c ≠ '\t') ∨
      ∃ e ∈ escapeLetters, quoteChar c = ['\\', e] ∧ Json.escapedChar? e = some c := by
  rw [quoteChar]
  split
  · rename_i h
    exact Or.inr ⟨'\\', by decide, rfl, by rw [h]; rfl⟩
  split
  · rename_i h
    exact Or.inr ⟨'"', by decide, rfl, by rw [h]; rfl⟩
  split
  · rename_i h
    exact Or.inr ⟨'r', by decide, rfl, by rw [h]; rfl⟩
  split
  · rename_i h
    exact Or.inr ⟨'n', by decide, rfl, by rw [h]; rfl⟩
  split
  · rename_i h
    exact Or.inr ⟨'t', by decide, rfl, by rw [h]; rfl⟩
  · rename_i h₁ h₂ h₃ h₄ h₅
    exact Or.inl ⟨rfl, h₁, h₂, h₃, h₄, h₅⟩

/-! ### Reading a quoted text -/

/-- A text without control characters, but for tabs, line feeds and carriage returns. -/
def IsPlain (s : List Char) : Prop :=
  ∀ c ∈ s, 0x20 ≤ c.toNat ∨ c = '\t' ∨ c = '\n' ∨ c = '\r'

instance (s : List Char) : Decidable (IsPlain s) :=
  show Decidable (∀ c ∈ s, _) from List.decidableBAll _ s

theorem isPlain_cons : IsPlain (c :: s) ↔
    (0x20 ≤ c.toNat ∨ c = '\t' ∨ c = '\n' ∨ c = '\r') ∧ IsPlain s := by
  simp [IsPlain]

namespace Json

/-- The string ends at the quote that was put there, unless a control character comes first. -/
theorem stringTail?_quoteBody (s rest : List Char) :
    stringTail? (quoteBody s ++ '"' :: rest) =
      if IsPlain s then some (quoteBody s, rest) else none := by
  induction s with
  | nil => simp [stringTail?, IsPlain]
  | cons c s ih =>
    rw [quoteBody_cons]
    rcases quoteChar_cases c with ⟨hq, h⟩ | ⟨e, he, hq, hc⟩
    · rw [hq, List.singleton_append, List.cons_append, stringTail?_cons_of_ne h.2.1 h.1, ih]
      rcases Nat.lt_or_ge c.toNat 0x20 with hlt | hge
      · have hn : ¬ IsPlain (c :: s) := by
          rw [isPlain_cons]
          rintro ⟨h20 | rfl | rfl | rfl, -⟩
          · omega
          · exact h.2.2.2.2 rfl
          · exact h.2.2.2.1 rfl
          · exact h.2.2.1 rfl
        rw [if_pos hlt, if_neg hn]
      · rw [if_neg (by omega)]
        simp only [isPlain_cons, hge, true_or, true_and]
        split <;> rfl
    · have hplain : 0x20 ≤ c.toNat ∨ c = '\t' ∨ c = '\n' ∨ c = '\r' := by
        have key : ∀ e ∈ escapeLetters, (escapedChar? e).all (fun d =>
            0x20 ≤ d.toNat ∨ d = '\t' ∨ d = '\n' ∨ d = '\r') = true :=
          forall_mem_of_all (by decide)
        have hd := key e he
        rw [hc] at hd
        exact of_decide_eq_true hd
      simp only [hq, List.cons_append, List.nil_append]
      rw [stringTail?_letter (by rw [hc]; rfl), ih]
      simp only [isPlain_cons, hplain, true_and]
      split <;> rfl

/-- **A quoted text in front of a text** is one string token if it is plain, and no token if it is
not. -/
theorem tokens?_quote_append (s rest : List Char) :
    tokens? (quote s ++ rest) =
      if IsPlain s then (tokens? rest).map (.str (quoteBody s) :: ·) else none := by
  rw [quote, List.cons_append, List.append_assoc, List.singleton_append, tokens?_quote,
    stringTail?_quoteBody]
  split <;> rfl

/-- A quoted text denotes the text. -/
theorem unescape?_quoteBody (s : List Char) : unescape? (quoteBody s) = some s := by
  induction s with
  | nil => rfl
  | cons c s ih =>
    rw [quoteBody_cons]
    rcases quoteChar_cases c with ⟨hq, h⟩ | ⟨e, -, hq, hc⟩
    · rw [hq, List.singleton_append, unescape?_cons_of_ne h.1, ih]
      rfl
    · rw [hq, List.cons_append, List.cons_append, List.nil_append, unescape?_letter hc, ih]
      rfl

end Json

/-! ### Occurrences in a quoted text -/

theorem not_mem_quoteBody (h : c = '\r' ∨ c = '\n') : c ∉ quoteBody s := by
  rw [quoteBody_eq_flatMap, List.mem_flatMap]
  rintro ⟨d, -, hd⟩
  rcases quoteChar_cases d with ⟨hq, hne⟩ | ⟨e, he, hq, -⟩
  · rw [hq, List.mem_singleton] at hd
    subst hd
    rcases h with rfl | rfl
    · exact hne.2.2.1 rfl
    · exact hne.2.2.2.1 rfl
  · rw [hq] at hd
    have key : ∀ e ∈ escapeLetters, '\r' ∉ ['\\', e] ∧ '\n' ∉ ['\\', e] :=
      forall_mem_of_all (by decide)
    rcases h with rfl | rfl
    · exact (key e he).1 hd
    · exact (key e he).2 hd

/-- An occurrence of a text without escape letters keeps clear of every escape, so it stands in the
text that was quoted. -/
theorem infix_append_of_infix_append_quoteBody (hm : ∀ e ∈ escapeLetters, e ∉ m)
    (h : m <:+: x ++ quoteBody s) : m <:+: x ++ s := by
  induction s generalizing x with
  | nil => simpa using h
  | cons c s ih =>
    rw [quoteBody_cons] at h
    rcases quoteChar_cases c with ⟨hq, -⟩ | ⟨e, he, hq, -⟩
    · rw [hq, ← List.append_assoc] at h
      simpa using ih h
    · rw [hq, List.cons_append, List.cons_append, List.nil_append,
        infix_append_cons_iff (hm '\\' (by decide))] at h
      rcases h with h | h
      · exact List.infix_append_of_infix_left h
      · rcases (infix_append_cons_iff (x := []) (hm e he)).1 h with h | h
        · exact List.infix_append_of_infix_left (List.infix_nil.1 h ▸ List.nil_infix)
        · have hs : m <:+: s := by simpa using ih (x := []) (by simpa using h)
          exact List.infix_append_of_infix_right (List.infix_cons hs)

theorem infix_of_infix_quoteBody (hm : ∀ e ∈ escapeLetters, e ∉ m) (h : m <:+: quoteBody s) :
    m <:+: s := by
  simpa using infix_append_of_infix_append_quoteBody (x := []) hm (by simpa using h)

/-- Quotation makes no new occurrence of a text without escape letters: it stands in front of the
quoted text, in it, or behind it. -/
theorem infix_append_quote (hm : ∀ e ∈ escapeLetters, e ∉ m)
    (h : m <:+: x ++ (quote s ++ y)) : m <:+: x ∨ m <:+: s ∨ m <:+: y := by
  have hq : '"' ∉ m := hm '"' (by decide)
  rw [quote, List.cons_append, List.append_assoc, List.singleton_append,
    infix_append_cons_iff hq, infix_append_cons_iff hq] at h
  exact h.imp_right fun h => h.imp_left (infix_of_infix_quoteBody hm)

end ScriptSuite
