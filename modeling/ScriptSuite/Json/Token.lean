import ScriptSuite.Json.Basic

/-!
# Tokens of a JSON text

A text is cut into punctuation, literals, numbers and strings; only spaces, tabs, line feeds and
carriage returns may stand between them. A string ends at the first quote that is not escaped and
holds no raw control character, and a numeric escape has four hexadecimal digits. No more is asked
of a string here: whether its escapes denote a text is for the reader of the value to find out.

## Main statements

* `Token.next?_lt`: every token takes at least one character, so cutting a text comes to an end.
-/

namespace ScriptSuite.Json

/-- A token of a JSON text. -/
inductive Token where
  /-- `[` -/
  | openArr
  /-- `]` -/
  | closeArr
  /-- An opening brace. -/
  | openObj
  /-- A closing brace. -/
  | closeObj
  /-- `,` -/
  | comma
  /-- `:` -/
  | colon
  /-- `null` -/
  | null
  /-- `true` or `false` -/
  | bool (b : Bool)
  /-- A number, by its literal. -/
  | num (literal : List Char)
  /-- A string, by what stands between the quotes. -/
  | str (spelling : List Char)
deriving DecidableEq, Repr

/-- Whether a character may stand between tokens. -/
def isSpace (c : Char) : Bool :=
  c = ' ' || c = '\t' || c = '\n' || c = '\r'

/-- The rest of a string whose opening quote has been read: its spelling, and what follows the
closing quote. -/
def stringTail? : List Char → Option (List Char × List Char)
  | [] => none
  | '"' :: s => some ([], s)
  | '\\' :: 'u' :: a :: b :: c :: d :: s =>
    if (hexValue4? a b c d).isSome then
      (stringTail? s).map fun (body, rest) => ('\\' :: 'u' :: a :: b :: c :: d :: body, rest)
    else none
  | '\\' :: e :: s =>
    if (escapedChar? e).isSome then
      (stringTail? s).map fun (body, rest) => ('\\' :: e :: body, rest)
    else none
  | c :: s =>
    if c = '\\' ∨ c.toNat < 0x20 then none
    else (stringTail? s).map fun (body, rest) => (c :: body, rest)

theorem stringTail?_lt {s body rest : List Char} (h : stringTail? s = some (body, rest)) :
    rest.length < s.length := by
  fun_induction stringTail? s generalizing body rest with
  | case1 => simp at h
  | case2 s => simp only [Option.some.injEq, Prod.mk.injEq] at h; simp [h.2]
  | case3 a b c d s _ ih =>
    obtain ⟨⟨body', rest'⟩, h', e⟩ := Option.map_eq_some_iff.1 h
    have := ih h'
    simp only [Prod.mk.injEq] at e
    simp only [List.length_cons, ← e.2]; omega
  | case4 => simp at h
  | case5 e s _ _ ih =>
    obtain ⟨⟨body', rest'⟩, h', e⟩ := Option.map_eq_some_iff.1 h
    have := ih h'
    simp only [Prod.mk.injEq] at e
    simp only [List.length_cons, ← e.2]; omega
  | case6 => simp at h
  | case7 => simp at h
  | case8 c s _ _ _ _ ih =>
    obtain ⟨⟨body', rest'⟩, h', e⟩ := Option.map_eq_some_iff.1 h
    have := ih h'
    simp only [Prod.mk.injEq] at e
    simp only [List.length_cons, ← e.2]; omega

/-! ### Numbers -/

/-- The digits in front of a text; there must be one. -/
def digits1? (s : List Char) : Option (List Char × List Char) :=
  let ds := s.takeWhile Char.isDigit
  if ds.isEmpty then none else some (ds, s.dropWhile Char.isDigit)

/-- The integer part of a number: a lone zero, or digits that do not start with zero. -/
def integer? : List Char → Option (List Char × List Char)
  | '0' :: s => some (['0'], s)
  | s => digits1? s

/-- The fractional part of a number, which may be absent. -/
def fraction? : List Char → Option (List Char × List Char)
  | '.' :: s => (digits1? s).map fun (ds, rest) => ('.' :: ds, rest)
  | s => some ([], s)

/-- The digits of an exponent with the sign in front of them, which may be absent. -/
def signedDigits? : List Char → Option (List Char × List Char)
  | c :: s =>
    if c = '+' ∨ c = '-' then (digits1? s).map fun (ds, rest) => (c :: ds, rest)
    else digits1? (c :: s)
  | [] => none

/-- The exponent of a number, which may be absent. -/
def exponent? : List Char → Option (List Char × List Char)
  | c :: s =>
    if c = 'e' ∨ c = 'E' then (signedDigits? s).map fun (ds, rest) => (c :: ds, rest)
    else some ([], c :: s)
  | [] => some ([], [])

/-- An unsigned number in front of a text: its literal, and what follows. -/
def unsigned? (s : List Char) : Option (List Char × List Char) := do
  let (whole, s) ← integer? s
  let (part, s) ← fraction? s
  let (power, s) ← exponent? s
  return (whole ++ part ++ power, s)

/-- A number in front of a text: its literal, and what follows. -/
def number? : List Char → Option (List Char × List Char)
  | '-' :: s => (unsigned? s).map fun (body, rest) => ('-' :: body, rest)
  | s => unsigned? s

theorem digits1?_lt {s ds rest : List Char} (h : digits1? s = some (ds, rest)) :
    rest.length < s.length := by
  simp only [digits1?] at h
  split at h
  · simp at h
  · rename_i hne
    simp only [Option.some.injEq, Prod.mk.injEq] at h
    have hlen := congrArg List.length (List.takeWhile_append_dropWhile (p := Char.isDigit) (l := s))
    have : 0 < (s.takeWhile Char.isDigit).length := by
      rw [List.isEmpty_iff] at hne; exact List.length_pos_iff.2 hne
    simp only [List.length_append] at hlen
    simp only [← h.2]; omega

theorem integer?_lt {s ds rest : List Char} (h : integer? s = some (ds, rest)) :
    rest.length < s.length := by
  unfold integer? at h
  split at h
  · simp only [Option.some.injEq, Prod.mk.injEq] at h; simp [← h.2]
  · exact digits1?_lt h

theorem fraction?_le {s ds rest : List Char} (h : fraction? s = some (ds, rest)) :
    rest.length ≤ s.length := by
  unfold fraction? at h
  split at h
  · obtain ⟨⟨ds', rest'⟩, h', e⟩ := Option.map_eq_some_iff.1 h
    have := digits1?_lt h'
    simp only [Prod.mk.injEq] at e
    simp only [List.length_cons, ← e.2]; omega
  · simp only [Option.some.injEq, Prod.mk.injEq] at h; simp [← h.2]

theorem signedDigits?_lt {s ds rest : List Char} (h : signedDigits? s = some (ds, rest)) :
    rest.length < s.length := by
  unfold signedDigits? at h
  split at h
  · split at h
    · obtain ⟨⟨ds', rest'⟩, h', e⟩ := Option.map_eq_some_iff.1 h
      have := digits1?_lt h'
      simp only [Prod.mk.injEq] at e
      simp only [List.length_cons, ← e.2]; omega
    · exact digits1?_lt h
  · simp at h

theorem exponent?_le {s ds rest : List Char} (h : exponent? s = some (ds, rest)) :
    rest.length ≤ s.length := by
  unfold exponent? at h
  split at h
  · split at h
    · obtain ⟨⟨ds', rest'⟩, h', e⟩ := Option.map_eq_some_iff.1 h
      have := signedDigits?_lt h'
      simp only [Prod.mk.injEq] at e
      simp only [List.length_cons, ← e.2]; omega
    · simp only [Option.some.injEq, Prod.mk.injEq] at h; simp [← h.2]
  · simp only [Option.some.injEq, Prod.mk.injEq] at h; simp [← h.2]

theorem unsigned?_lt {s ds rest : List Char} (h : unsigned? s = some (ds, rest)) :
    rest.length < s.length := by
  simp only [unsigned?, Option.bind_eq_bind, Option.bind_eq_some_iff, Prod.exists] at h
  obtain ⟨_, s₁, h₁, _, s₂, h₂, _, s₃, h₃, h₄⟩ := h
  have := integer?_lt h₁
  have := fraction?_le h₂
  have := exponent?_le h₃
  simp only [Option.pure_def, Option.some.injEq, Prod.mk.injEq] at h₄
  rw [← h₄.2]; omega

theorem number?_lt {s ds rest : List Char} (h : number? s = some (ds, rest)) :
    rest.length < s.length := by
  unfold number? at h
  split at h
  · obtain ⟨⟨ds', rest'⟩, h', e⟩ := Option.map_eq_some_iff.1 h
    have := unsigned?_lt h'
    simp only [Prod.mk.injEq] at e
    simp only [List.length_cons, ← e.2]; omega
  · exact unsigned?_lt h

/-! ### Cutting a text -/

/-- The token in front of a text that does not start with a space, and what follows it. -/
def Token.next? : List Char → Option (Token × List Char)
  | '[' :: s => some (.openArr, s)
  | ']' :: s => some (.closeArr, s)
  | '{' :: s => some (.openObj, s)
  | '}' :: s => some (.closeObj, s)
  | ',' :: s => some (.comma, s)
  | ':' :: s => some (.colon, s)
  | 'n' :: 'u' :: 'l' :: 'l' :: s => some (.null, s)
  | 't' :: 'r' :: 'u' :: 'e' :: s => some (.bool true, s)
  | 'f' :: 'a' :: 'l' :: 's' :: 'e' :: s => some (.bool false, s)
  | '"' :: s => (stringTail? s).map fun (body, rest) => (.str body, rest)
  | s => (number? s).map fun (literal, rest) => (.num literal, rest)

theorem Token.next?_lt {s rest : List Char} {t : Token} (h : Token.next? s = some (t, rest)) :
    rest.length < s.length := by
  unfold Token.next? at h
  split at h
  case h_10 s =>
    obtain ⟨⟨x, rest'⟩, h', e⟩ := Option.map_eq_some_iff.1 h
    have := stringTail?_lt h'
    simp only [Prod.mk.injEq] at e
    simp only [List.length_cons, ← e.2]; omega
  case h_11 =>
    obtain ⟨⟨x, rest'⟩, h', e⟩ := Option.map_eq_some_iff.1 h
    have := number?_lt h'
    simp only [Prod.mk.injEq] at e
    simp only [← e.2]; omega
  all_goals
    simp only [Option.some.injEq, Prod.mk.injEq] at h
    simp only [← h.2, List.length_cons]; omega

/-- The tokens of a text, or `none` where something else than a token stands. -/
def tokens? (s : List Char) : Option (List Token) :=
  match s with
  | [] => some []
  | c :: s' =>
    if isSpace c then tokens? s'
    else
      match _h : Token.next? (c :: s') with
      | none => none
      | some (t, rest) => (tokens? rest).map (t :: ·)
termination_by s.length
decreasing_by
  · simp
  · have := Token.next?_lt _h; simpa using this

end ScriptSuite.Json
