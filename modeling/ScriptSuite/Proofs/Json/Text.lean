import ScriptSuite.Json.Token
import ScriptSuite.Proofs.Text.Blank

/-!
# Strings of a JSON text

What JSON lets stand between the quotes of a string, and the spelling of a text by `Json.escape`.
Every text is spelled by something that may stand there, control characters included, and the
spelling denotes the text.

## Main definitions

* `Json.IsBody`: what may stand between the quotes of a string

## Main results

* `Json.IsBody.stringTail?_append`: a string ends at the quote that is put behind it
* `Json.isBody_escape`, `Json.unescape?_escape`: the spelling of a text
-/

namespace ScriptSuite.Json

variable {a b c d e x : Char} {s : List Char} {n : Nat}

/-! ### What may stand between quotes -/

/-- A hexadecimal digit, of either case. -/
def IsHexDigit (c : Char) : Prop :=
  ('0' ≤ c ∧ c ≤ '9') ∨ ('a' ≤ c ∧ c ≤ 'f') ∨ ('A' ≤ c ∧ c ≤ 'F')

instance : Decidable (IsHexDigit c) :=
  inferInstanceAs (Decidable (_ ∨ _))

/-- The letters that stand behind a backslash alone. -/
def bodyLetters : List Char := ['"', '\\', '/', 'b', 'f', 'n', 'r', 't']

/-- What may stand between the quotes of a string. -/
inductive IsBody : List Char → Prop
  /-- Nothing. -/
  | nil : IsBody []
  /-- A character that stands for itself. -/
  | char {c : Char} {s : List Char} (hquote : c ≠ '"') (hbackslash : c ≠ '\\')
      (hcontrol : 0x20 ≤ c.toNat) (h : IsBody s) : IsBody (c :: s)
  /-- An escape of one letter. -/
  | letter {e : Char} {s : List Char} (he : e ∈ bodyLetters) (h : IsBody s) :
      IsBody ('\\' :: e :: s)
  /-- A numeric escape. -/
  | code {a b c d : Char} {s : List Char} (ha : IsHexDigit a) (hb : IsHexDigit b)
      (hc : IsHexDigit c) (hd : IsHexDigit d) (h : IsBody s) :
      IsBody ('\\' :: 'u' :: a :: b :: c :: d :: s)

theorem exists_hexValue?_eq_some (h : IsHexDigit c) : ∃ n, hexValue? c = some n := by
  rw [hexValue?]
  split
  · exact ⟨_, rfl⟩
  · rename_i h09
    split
    · exact ⟨_, rfl⟩
    · rename_i haf
      exact ⟨_, if_pos ((h.resolve_left h09).resolve_left haf)⟩

theorem isSome_hexValue4? (ha : IsHexDigit a) (hb : IsHexDigit b) (hc : IsHexDigit c)
    (hd : IsHexDigit d) : (hexValue4? a b c d).isSome = true := by
  obtain ⟨i, hi⟩ := exists_hexValue?_eq_some ha
  obtain ⟨j, hj⟩ := exists_hexValue?_eq_some hb
  obtain ⟨k, hk⟩ := exists_hexValue?_eq_some hc
  obtain ⟨l, hl⟩ := exists_hexValue?_eq_some hd
  rw [hexValue4?, hi, hj, hk, hl]
  rfl

theorem isSome_escapedChar? (he : e ∈ bodyLetters) : (escapedChar? e).isSome = true := by
  have key : ∀ e ∈ bodyLetters, (escapedChar? e).isSome = true :=
    Text.forall_mem_of_all (by decide)
  exact key e he

/-! ### Strings, one character at a time -/

theorem stringTail?_cons_of_ne (hq : c ≠ '"') (hb : c ≠ '\\') :
    stringTail? (c :: s) =
      if c.toNat < 0x20 then none
      else (stringTail? s).map fun (body, rest) => (c :: body, rest) := by
  rw [stringTail?]
  · simp [hb]
  · exact fun e => hq e
  · exact fun _ _ _ _ _ e => absurd e hb
  · exact fun _ _ e => absurd e hb

theorem stringTail?_letter (he : (escapedChar? e).isSome = true) :
    stringTail? ('\\' :: e :: s) =
      (stringTail? s).map fun (body, rest) => ('\\' :: e :: body, rest) := by
  have hu : e ≠ 'u' := fun h => absurd (h ▸ he) (by decide)
  rw [stringTail?, if_pos he]
  exact fun _ _ _ _ _ h => absurd h hu

theorem stringTail?_code (h : (hexValue4? a b c d).isSome = true) :
    stringTail? ('\\' :: 'u' :: a :: b :: c :: d :: s) =
      (stringTail? s).map fun (body, rest) => ('\\' :: 'u' :: a :: b :: c :: d :: body, rest) := by
  rw [stringTail?, if_pos h]

/-- **A string ends at the quote that is put behind it.** -/
theorem IsBody.stringTail?_append (h : IsBody s) (rest : List Char) :
    stringTail? (s ++ '"' :: rest) = some (s, rest) := by
  induction h with
  | nil => rw [List.nil_append, stringTail?]
  | char hquote hbackslash hcontrol _ ih =>
    rw [List.cons_append, stringTail?_cons_of_ne hquote hbackslash, if_neg (Nat.not_lt.2 hcontrol),
      ih]
    rfl
  | letter he _ ih =>
    rw [List.cons_append, List.cons_append, stringTail?_letter (isSome_escapedChar? he), ih]
    rfl
  | code ha hb hc hd _ ih =>
    simp only [List.cons_append]
    rw [stringTail?_code (isSome_hexValue4? ha hb hc hd), ih]
    rfl

/-! ### What a spelling denotes, one character at a time -/

theorem unescape?_cons_of_ne (h : c ≠ '\\') : unescape? (c :: s) = (unescape? s).map (c :: ·) := by
  rw [unescape?]
  · simp [h]
  · exact fun _ _ _ _ _ _ _ _ _ e => absurd e h
  · exact fun _ _ _ _ _ e => absurd e h
  · exact fun _ _ e => absurd e h

theorem unescape?_letter (he : escapedChar? e = some c) :
    unescape? ('\\' :: e :: s) = (unescape? s).map (c :: ·) := by
  have hu : e ≠ 'u' := fun h => absurd (h ▸ he) (by simp [escapedChar?])
  rw [unescape?, he]
  · cases unescape? s <;> rfl
  · exact fun _ _ _ _ _ _ _ _ _ h => absurd h hu
  · exact fun _ _ _ _ _ h => absurd h hu

/-- The numeric escape of a character that is no surrogate, whatever stands behind it. -/
theorem unescape?_code (h : hexValue4? a b c d = some n) (hlow : n < 0xD800)
    (hx : scalar? n = some x) :
    unescape? ('\\' :: 'u' :: a :: b :: c :: d :: s) = (unescape? s).map (x :: ·) := by
  by_cases hnext : ∃ a' b' c' d' s', s = '\\' :: 'u' :: a' :: b' :: c' :: d' :: s'
  · obtain ⟨a', b', c', d', s', rfl⟩ := hnext
    have hlead : ¬ (0xD800 ≤ n ∧ n < 0xDC00) := fun hn => Nat.not_lt.2 hn.1 hlow
    rw [unescape?, h, Option.bind_eq_bind, Option.bind_some, if_neg hlead, hx]
    cases unescape? ('\\' :: 'u' :: a' :: b' :: c' :: d' :: s') <;> rfl
  · rw [unescape?, h, Option.bind_some, hx]
    · cases unescape? s <;> rfl
    · exact fun a' b' c' d' s' hs => hnext ⟨a', b', c', d', s', hs⟩

/-! ### The spelling of a text -/

theorem scalar?_toNat (c : Char) : scalar? c.toNat = some c := by
  have hvalid : c.toNat.isValidChar := c.valid
  rw [scalar?, dif_pos hvalid]
  rfl

/-- A character is kept, or becomes a backslash and a letter, or a numeric escape. -/
theorem escapeChar_cases (c : Char) :
    (escapeChar c = [c] ∧ c ≠ '"' ∧ c ≠ '\\' ∧ 0x20 ≤ c.toNat) ∨
      (∃ e ∈ bodyLetters, escapeChar c = ['\\', e] ∧ escapedChar? e = some c) ∨
      c.toNat < 0x20 ∧ escapeChar c =
        ['\\', 'u', '0', '0', hexDigit (c.toNat / 16), hexDigit (c.toNat % 16)] := by
  rw [escapeChar]
  split
  · rename_i h
    exact .inr (.inl ⟨'"', by decide, rfl, by rw [h]; rfl⟩)
  rename_i hquote
  split
  · rename_i h
    exact .inr (.inl ⟨'\\', by decide, rfl, by rw [h]; rfl⟩)
  rename_i hbackslash
  split
  · rename_i h
    exact .inr (.inl ⟨'n', by decide, rfl, by rw [h]; rfl⟩)
  split
  · rename_i h
    exact .inr (.inl ⟨'r', by decide, rfl, by rw [h]; rfl⟩)
  split
  · rename_i h
    exact .inr (.inl ⟨'t', by decide, rfl, by rw [h]; rfl⟩)
  split
  · rename_i h
    exact .inr (.inl ⟨'b', by decide, rfl, by rw [h]; rfl⟩)
  split
  · rename_i h
    exact .inr (.inl ⟨'f', by decide, rfl, by rw [h]; rfl⟩)
  split
  · rename_i h
    exact .inr (.inr ⟨h, rfl⟩)
  · rename_i h
    exact .inl ⟨rfl, hquote, hbackslash, Nat.not_lt.1 h⟩

theorem hexDigit_spec (h : n < 16) : IsHexDigit (hexDigit n) ∧ hexValue? (hexDigit n) = some n := by
  have key : ∀ n < 16, IsHexDigit (hexDigit n) ∧ hexValue? (hexDigit n) = some n := by decide
  exact key n h

theorem escape_cons (c : Char) (s : List Char) : escape (c :: s) = escapeChar c ++ escape s :=
  List.flatMap_cons ..

/-- **The spelling of a text may stand between quotes.** -/
theorem isBody_escape (s : List Char) : IsBody (escape s) := by
  induction s with
  | nil => exact .nil
  | cons c s ih =>
    rw [escape_cons]
    rcases escapeChar_cases c with ⟨h, hquote, hbackslash, hcontrol⟩ | ⟨e, he, h, -⟩ | ⟨hlt, h⟩
    · rw [h]
      exact .char hquote hbackslash hcontrol ih
    · rw [h]
      exact .letter he ih
    · rw [h]
      exact .code (by decide) (by decide) (hexDigit_spec (by omega)).1
        (hexDigit_spec (Nat.mod_lt _ (by decide))).1 ih

/-- **The spelling of a text denotes the text.** -/
theorem unescape?_escape (s : List Char) : unescape? (escape s) = some s := by
  induction s with
  | nil => rw [escape, List.flatMap_nil, unescape?]
  | cons c s ih =>
    rw [escape_cons]
    rcases escapeChar_cases c with ⟨h, -, hbackslash, -⟩ | ⟨e, -, h, he⟩ | ⟨hlt, h⟩
    · rw [h, List.singleton_append, unescape?_cons_of_ne hbackslash, ih]
      rfl
    · rw [h, List.cons_append, List.cons_append, List.nil_append, unescape?_letter he, ih]
      rfl
    · have hvalue : hexValue4? '0' '0' (hexDigit (c.toNat / 16)) (hexDigit (c.toNat % 16)) =
          some c.toNat := by
        have hzero : hexValue? '0' = some 0 := by decide
        rw [hexValue4?, hzero, (hexDigit_spec (by omega)).2,
          (hexDigit_spec (Nat.mod_lt _ (by decide))).2]
        exact congrArg some (by omega)
      rw [h]
      simp only [List.cons_append, List.nil_append]
      rw [unescape?_code hvalue (by omega) (scalar?_toNat c), ih]
      rfl

end ScriptSuite.Json
