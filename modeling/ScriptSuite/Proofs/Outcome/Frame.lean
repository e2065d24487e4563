import Mathlib.Data.List.Basic
import ScriptSuite.Outcome.Location
import ScriptSuite.Proofs.Text.Decimal
import ScriptSuite.Proofs.Text.Lines
import ScriptSuite.Proofs.Text.Word

/-!
# Frames of a call stack

The interpreter writes a frame as `file (number) : [context] code`. The reader takes the longest
file and, behind it, the longest context, since it cannot know where either ends. A file does no
harm, whatever it holds. The code can: where a closing bracket and a space stand in it with more
behind them, the context is taken to reach up to there.

## Main definitions

* `FrameLine`: what a frame is written from
* `FrameLine.IsAmbiguous`: its code has a place that looks like the end of the context

## Main results

* `longestFront?_eq_some_iff`, `longestName?_eq_some_iff`: which way to cut a text is taken
* `FrameLine.ofStack_text_iff`: a frame is read back exactly if it is not ambiguous
-/

namespace ScriptSuite

open Text

/-! ### The longest front -/

section LongestFront

variable {β : Type} {understand : List Char → Option β} {s x v : List Char} {b : β}

theorem longestFront?_eq_none_iff :
    longestFront? understand s = none ↔ ∀ v, v <:+ s → understand v = none := by
  induction s with
  | nil => simp [longestFront?]
  | cons c s ih =>
    simp only [longestFront?, List.suffix_cons_iff, forall_eq_or_imp, ← ih]
    cases longestFront? understand s <;> simp

/-- **The longest front** leaves a rest that is understood, and no shorter rest is. -/
theorem longestFront?_eq_some_iff :
    longestFront? understand s = some (x, b) ↔
      ∃ y, s = x ++ y ∧ understand y = some b ∧ ∀ v, v <:+ y → v ≠ y → understand v = none := by
  induction s generalizing x b with
  | nil =>
    cases h : understand [] <;> simp [longestFront?, h, and_comm, eq_comm]
  | cons c s ih =>
    rw [longestFront?]
    cases hfront : longestFront? understand s with
    | some p =>
      obtain ⟨front, b'⟩ := p
      constructor
      · intro h
        obtain ⟨rfl, rfl⟩ := Prod.mk.inj (Option.some.inj h)
        obtain ⟨y, rfl, hy⟩ := ih.1 hfront
        exact ⟨y, rfl, hy⟩
      · rintro ⟨y, hs, hy, hshort⟩
        cases x with
        | nil =>
          -- The rest of the longest front of `s` is understood and shorter than `c :: s`.
          obtain ⟨y', rfl, hy', -⟩ := ih.1 hfront
          obtain rfl : c :: (front ++ y') = y := hs
          have hne : y' ≠ c :: (front ++ y') := fun h => by
            have := congrArg List.length h
            simp only [List.length_cons, List.length_append] at this
            omega
          rw [hshort y' ⟨c :: front, rfl⟩ hne] at hy'
          exact absurd hy' (by simp)
        | cons d x =>
          obtain ⟨rfl, htail⟩ := List.cons.inj hs
          rw [ih.2 ⟨y, htail, hy, hshort⟩] at hfront
          obtain ⟨rfl, rfl⟩ := Prod.mk.inj (Option.some.inj hfront)
          rfl
    | none =>
      have hnone := longestFront?_eq_none_iff.1 hfront
      constructor
      · intro h
        obtain ⟨b', hb, hpair⟩ := Option.map_eq_some_iff.1 h
        obtain ⟨rfl, rfl⟩ := Prod.mk.inj hpair
        refine ⟨c :: s, rfl, hb, fun v hv hne => hnone v ?_⟩
        exact (List.suffix_cons_iff.1 hv).resolve_left hne
      · rintro ⟨y, hs, hy, -⟩
        cases x with
        | nil =>
          obtain rfl : c :: s = y := hs
          simp [hy]
        | cons d x =>
          obtain ⟨rfl, rfl⟩ := List.cons.inj hs
          rw [hnone y ⟨x, rfl⟩] at hy
          exact absurd hy (by simp)

theorem longestName?_eq_some_iff :
    longestName? understand s = some (x, b) ↔ x ≠ [] ∧
      ∃ y, s = x ++ y ∧ understand y = some b ∧ ∀ v, v <:+ y → v ≠ y → understand v = none := by
  cases s with
  | nil => simp +contextual [longestName?, eq_comm]
  | cons c s =>
    rw [longestName?, Option.map_eq_some_iff]
    constructor
    · rintro ⟨⟨front, b'⟩, hfront, hpair⟩
      obtain ⟨rfl, rfl⟩ := Prod.mk.inj hpair
      obtain ⟨y, rfl, hy⟩ := longestFront?_eq_some_iff.1 hfront
      exact ⟨List.cons_ne_nil _ _, y, rfl, hy⟩
    · rintro ⟨hne, y, hs, hy⟩
      obtain ⟨d, front, rfl⟩ := List.exists_cons_of_ne_nil hne
      obtain ⟨rfl, htail⟩ := List.cons.inj hs
      exact ⟨(front, b), longestFront?_eq_some_iff.2 ⟨y, htail, hy⟩, rfl⟩

end LongestFront

/-! ### What stands behind the file -/

theorem parenthesised?_append {digits s : List Char} (hne : digits ≠ [])
    (h : ∀ c ∈ digits, isDecimal c = true) :
    parenthesised? ('(' :: (digits ++ ')' :: s)) = some (digits, s) := by
  have hclose : isDecimal ')' = false := by decide
  have htake : (digits ++ ')' :: s).takeWhile isDecimal = digits := by
    rw [List.takeWhile_append_of_pos h, List.takeWhile_cons_of_neg (by simp [hclose]),
      List.append_nil]
  have hdrop : (digits ++ ')' :: s).dropWhile isDecimal = ')' :: s := by
    rw [List.dropWhile_append_of_pos h, List.dropWhile_cons_of_neg (by simp [hclose])]
  simp [parenthesised?, htake, hdrop, hne]

theorem exists_of_parenthesised? {digits s rest : List Char}
    (h : parenthesised? s = some (digits, rest)) : s = '(' :: (digits ++ ')' :: rest) := by
  rw [parenthesised?.eq_def] at h
  split at h
  · next s =>
    split at h
    · next rest' hrest =>
      dsimp only at h
      split at h
      · exact absurd h (by simp)
      · obtain ⟨rfl, rfl⟩ := Prod.mk.inj (Option.some.inj h)
        rw [← hrest, List.takeWhile_append_dropWhile]
    · exact absurd h (by simp)
  · exact absurd h (by simp)

theorem lineOfNumber_toDigits {n : UInt32} (h : 0 < n) :
    lineOfNumber (Nat.toDigits 10 n.toNat) = n - 1 := by
  have hpos : 1 ≤ n.toNat := UInt32.lt_iff_toNat_lt.1 h
  rw [lineOfNumber, decimalBelow?_toDigits n.toNat_lt, Option.getD_some, UInt32.ofNat_sub hpos,
    UInt32.ofNat_toNat]
  rfl

namespace StackFrame

variable {s context code : List Char} {number : UInt32}

theorem code?_eq_some_iff : code? s = some code ↔ s = ']' :: ' ' :: code ∧ code ≠ [] := by
  rw [code?.eq_def]
  split
  · next c rest =>
    constructor
    · intro h
      obtain rfl := Option.some.inj h
      exact ⟨rfl, List.cons_ne_nil _ _⟩
    · rintro ⟨h, -⟩
      simpa using h
  · next hs =>
    simp only [reduceCtorEq, false_iff, not_and, ne_eq, not_not]
    rintro rfl
    cases code with
    | nil => rfl
    | cons c code => exact absurd rfl (hs c code)

theorem exists_of_tail? (h : tail? s = some (number, context, code)) :
    ∃ b digits b₁ b₂ rest, s = b :: '(' :: (digits ++ ')' :: b₁ :: ':' :: b₂ :: '[' :: rest) ∧
      longestFront? code? rest = some (context, code) := by
  cases s with
  | nil => exact absurd h (by simp [tail?])
  | cons b s =>
    rw [tail?] at h
    obtain ⟨⟨digits, rest⟩, hdigits, hrest⟩ := Option.bind_eq_some_iff.1 h
    rw [exists_of_parenthesised? hdigits]
    dsimp only at hrest
    split at hrest
    · next b₁ b₂ rest =>
      split at hrest
      · obtain ⟨⟨context', code'⟩, hfront, hpair⟩ := Option.bind_eq_some_iff.1 hrest
        obtain ⟨-, rfl, rfl⟩ : _ ∧ context' = context ∧ code' = code := by simpa using hpair
        exact ⟨b, digits, b₁, b₂, rest, rfl, hfront⟩
      · exact absurd hrest (by simp)
    · exact absurd hrest (by simp)

end StackFrame

/-! ### Frames as they are written -/

/-- What a frame is written from: the place of a line, the context that it belongs to, if any, and
the line itself. -/
structure FrameLine where
  /-- The file. -/
  file : String
  /-- The number of the line, counted from one. -/
  number : UInt32
  /-- The name of what the line belongs to; empty outside of everything. -/
  context : String
  /-- The text of the line. -/
  code : String
  /-- The file has a name. -/
  file_ne : file ≠ ""
  /-- A frame is told from a note by its first character. -/
  file_head : file.toList.head? ≠ some '>'
  /-- There is no line zero. -/
  number_pos : 0 < number
  /-- No bracket stands in a context. -/
  context_plain : '[' ∉ context.toList ∧ ']' ∉ context.toList
  /-- The line is not empty. -/
  code_ne : code ≠ ""
  /-- Nothing of it holds a line feed. -/
  unbroken : '\n' ∉ file.toList ∧ '\n' ∉ context.toList ∧ '\n' ∉ code.toList

namespace FrameLine

open StackFrame

variable {q : FrameLine}

/-- The frame as the interpreter writes it. -/
def text (q : FrameLine) : String :=
  q.file ++ " (" ++ toString q.number ++ ") : [" ++ q.context ++ "] " ++ q.code

/-- The frame that is meant. -/
def frame (q : FrameLine) : StackFrame :=
  .located q.file (q.number - 1) (if q.context = "" then q.code else q.context)

/-- The code goes on behind a closing bracket and a space. -/
def IsAmbiguous (q : FrameLine) : Prop :=
  ∃ u v, v ≠ [] ∧ q.code.toList = u ++ ']' :: ' ' :: v

/-- What stands between the file and the opening bracket. -/
def place (q : FrameLine) : List Char :=
  ' ' :: '(' :: (Nat.toDigits 10 q.number.toNat ++ [')', ' ', ':', ' '])

/-- What stands behind the file. -/
def behind (q : FrameLine) : List Char :=
  q.place ++ '[' :: (q.context.toList ++ ']' :: ' ' :: q.code.toList)

theorem toList_text (q : FrameLine) : q.text.toList = q.file.toList ++ q.behind := by
  have hnumber : (toString q.number).toList = Nat.toDigits 10 q.number.toNat := Nat.toList_repr
  simp [text, behind, place, hnumber]

/-! ### The end of the context -/

section Bracket

variable {front code : List Char}

/-- Behind a front without closing brackets, a closing bracket and a space with more behind them are
those in front of the code, or the code is ambiguous. -/
theorem eq_code_of_suffix (h : ¬ q.IsAmbiguous) (hfront : ']' ∉ front) (hcode : code ≠ [])
    (hs : ']' :: ' ' :: code <:+ front ++ ']' :: ' ' :: q.code.toList) :
    code = q.code.toList := by
  obtain ⟨p, hp⟩ := hs
  rcases List.append_eq_append_iff.1 hp with ⟨e, rfl, he⟩ | ⟨e, rfl, he⟩
  · cases e with
    | nil => simpa using he
    | cons c e =>
      obtain ⟨rfl, -⟩ := List.cons.inj he
      exact absurd (by simp) hfront
  · -- The front ends before the bracket, so the bracket stands in the code if not right behind.
    match e, he with
    | [], he => simpa using he.symm
    | [_], he => exact absurd he (by simp)
    | _ :: _ :: e, he =>
      obtain ⟨-, -, he⟩ : _ ∧ _ ∧ q.code.toList = e ++ ']' :: ' ' :: code := by simpa using he
      exact absurd ⟨e, code, hcode, he⟩ h

theorem longestFront?_code (h : ¬ q.IsAmbiguous) :
    longestFront? code? (q.context.toList ++ ']' :: ' ' :: q.code.toList) =
      some (q.context.toList, q.code.toList) := by
  have hne : q.code.toList ≠ [] := by simpa using q.code_ne
  refine longestFront?_eq_some_iff.2 ⟨_, rfl, code?_eq_some_iff.2 ⟨rfl, hne⟩, fun v hv hvne => ?_⟩
  cases hcode : code? v with
  | none => rfl
  | some code =>
    obtain ⟨rfl, hnonempty⟩ := code?_eq_some_iff.1 hcode
    have heq : code = q.code.toList := eq_code_of_suffix h List.not_mem_nil hnonempty hv
    exact absurd (by rw [heq]) hvne

/-- The longest context takes in what looks like the end of one, and the code is what is left. -/
theorem length_le_of_isAmbiguous {context : List Char} {u v : List Char} (hv : v ≠ [])
    (hcode : q.code.toList = u ++ ']' :: ' ' :: v)
    (h : longestFront? code? (q.context.toList ++ ']' :: ' ' :: q.code.toList) =
      some (context, code)) : code.length ≤ v.length := by
  obtain ⟨y, hy, hread, hshort⟩ := longestFront?_eq_some_iff.1 h
  obtain ⟨rfl, -⟩ := code?_eq_some_iff.1 hread
  have hsuffix : ']' :: ' ' :: v <:+ q.context.toList ++ ']' :: ' ' :: q.code.toList :=
    ⟨q.context.toList ++ ']' :: ' ' :: u, by simp [hcode]⟩
  have hread' : code? (']' :: ' ' :: v) = some v := code?_eq_some_iff.2 ⟨rfl, hv⟩
  rcases List.suffix_or_suffix_of_suffix hsuffix ⟨context, hy.symm⟩ with hv' | hv'
  · have heq : ']' :: ' ' :: v = ']' :: ' ' :: code := by
      by_contra hne
      rw [hshort _ hv' hne] at hread'
      exact absurd hread' (by simp)
    obtain rfl : v = code := by simpa using heq
    exact Nat.le_refl _
  · simpa using hv'.length_le

end Bracket

/-! ### The end of the file -/

theorem tail?_behind (q : FrameLine) : tail? q.behind =
    (longestFront? code? (q.context.toList ++ ']' :: ' ' :: q.code.toList)).map
      fun (context, code) => (q.number - 1, context, code) := by
  have hdigits : parenthesised? ('(' :: (Nat.toDigits 10 q.number.toNat ++ ')' :: ' ' :: ':' ::
      ' ' :: '[' :: (q.context.toList ++ ']' :: ' ' :: q.code.toList))) = some (_, _) :=
    parenthesised?_append Nat.toDigits_ne_nil fun c hc =>
      isDecimal_of_isDigit (isDigit_of_mem_toDigits hc)
  have hbehind : q.behind = ' ' :: '(' :: (Nat.toDigits 10 q.number.toNat ++ ')' :: ' ' :: ':' ::
      ' ' :: '[' :: (q.context.toList ++ ']' :: ' ' :: q.code.toList)) := by
    simp [behind, place]
  have hblank : isBlank ' ' = true := by decide
  rw [hbehind, tail?, hdigits]
  simp only [Option.bind_eq_bind, Option.bind_some, hblank, Bool.and_self, if_true,
    lineOfNumber_toDigits q.number_pos]
  cases longestFront? code? (q.context.toList ++ ']' :: ' ' :: q.code.toList) <;> rfl

theorem not_mem_place {c : Char} (hc : c.isDigit = false) (h : c ∉ [' ', '(', ')', ':']) :
    c ∉ q.place := by
  have hdigits : c ∉ Nat.toDigits 10 q.number.toNat := not_mem_toDigits hc
  simp only [place, List.mem_cons, List.mem_append, List.not_mem_nil, not_or] at h ⊢
  simp [h, hdigits]

/-- Of what stands behind the file, no part looks like it. -/
theorem tail?_eq_none_of_suffix (h : ¬ q.IsAmbiguous) {v : List Char} (hv : v <:+ q.behind)
    (hne : v ≠ q.behind) : tail? v = none := by
  cases hread : tail? v with
  | none => rfl
  | some p =>
    obtain ⟨number, context, code⟩ := p
    obtain ⟨b, digits, b₁, b₂, rest, rfl, hfront⟩ := exists_of_tail? hread
    obtain ⟨y, rfl, hy, -⟩ := longestFront?_eq_some_iff.1 hfront
    obtain ⟨rfl, hcode⟩ := code?_eq_some_iff.1 hy
    have hplace : '[' ∉ q.place := not_mem_place (by decide) (by decide)
    have hclosing : ']' ∉ q.place ++ '[' :: q.context.toList := by
      simp [not_mem_place (q := q) (c := ']') (by decide) (by decide), q.context_plain.2]
    have hsuffix : ']' :: ' ' :: code <:+
        q.place ++ '[' :: q.context.toList ++ ']' :: ' ' :: q.code.toList := by
      refine List.IsSuffix.trans ?_ (by simpa [behind] using hv)
      exact ⟨b :: '(' :: (digits ++ ')' :: b₁ :: ':' :: b₂ :: '[' :: context), by simp⟩
    obtain rfl := eq_code_of_suffix h hclosing hcode hsuffix
    -- The part ends as the whole does, so its brackets and parentheses are those of the whole.
    obtain ⟨e, he⟩ := hv
    have hfronts : q.place ++ '[' :: q.context.toList =
        e ++ b :: '(' :: (digits ++ [')', b₁, ':', b₂]) ++ '[' :: context := by
      rw [← List.append_left_inj (']' :: ' ' :: q.code.toList)]
      simpa [behind] using he.symm
    obtain ⟨hplaces, -, -⟩ :=
      (List.append_cons_inj_of_notMem hplace q.context_plain.1).1 hfronts
    have hparens : [' '] ++ '(' :: (Nat.toDigits 10 q.number.toNat ++ [')', ' ', ':', ' ']) =
        e ++ [b] ++ '(' :: (digits ++ [')', b₁, ':', b₂]) := by
      simpa [place] using hplaces
    have hdigits : '(' ∉ Nat.toDigits 10 q.number.toNat := not_mem_toDigits (by decide)
    obtain ⟨hb, -, -⟩ :=
      (List.append_cons_inj_of_notMem (by decide) (by simp [hdigits])).1 hparens
    cases e with
    | nil => exact absurd he hne
    | cons c e => exact absurd hb (by simp)

/-! ### The frame of a line -/

theorem ofStack_text (q : FrameLine) : ofStack q.text.toList = [ofLine q.text.toList] := by
  have hbreak : '\n' ∉ q.text.toList := by
    have hplace : '\n' ∉ q.place := not_mem_place (by decide) (by decide)
    simp [toList_text, behind, hplace, q.unbroken]
  have hparen : '(' ∈ q.text.toList := by simp [toList_text, behind, place]
  have hne : q.text.toList ≠ [] := List.ne_nil_of_mem hparen
  have hlines : lines q.text.toList = [q.text.toList] := by
    rw [lines, pieces_of_not_mem hbreak, lines.go, if_neg (by simpa using hne)]
  have hblank : isAllBlank q.text.toList = false := by
    rw [← Bool.not_eq_true]
    intro h
    exact absurd hparen (not_mem_of_isBlank_eq_false h (by decide))
  rw [ofStack, hlines, List.filter_cons_of_pos (by simp [hblank])]
  rfl

theorem longestName?_text (h : ¬ q.IsAmbiguous) :
    longestName? tail? q.text.toList =
      some (q.file.toList, q.number - 1, q.context.toList, q.code.toList) := by
  refine longestName?_eq_some_iff.2
    ⟨by simpa using q.file_ne, q.behind, q.toList_text, ?_, fun v => tail?_eq_none_of_suffix h⟩
  rw [tail?_behind, longestFront?_code h]
  rfl

theorem head?_text (q : FrameLine) : q.text.toList.head? ≠ some '>' := by
  rw [toList_text, List.head?_append_of_ne_nil _ (by simpa using q.file_ne)]
  exact q.file_head

/-- A line that is read back as the frame has the code of the frame behind its longest context. -/
theorem exists_of_ofLine_text (h : ofLine q.text.toList = q.frame) : ∃ context code,
    longestFront? code? (q.context.toList ++ ']' :: ' ' :: q.code.toList) = some (context, code) ∧
      (if q.context = "" then q.code.toList else q.context.toList) =
        if context.isEmpty then code else context := by
  rw [ofLine, if_neg q.head?_text] at h
  split at h
  · next file number context code hname =>
    obtain ⟨hfile, -, hlabel⟩ := StackFrame.located.inj h
    obtain ⟨-, y, hy, hread, -⟩ := longestName?_eq_some_iff.1 hname
    obtain rfl : q.behind = y := by
      rw [toList_text, ← hfile, String.toList_ofList] at hy
      exact List.append_cancel_left hy
    rw [tail?_behind] at hread
    obtain ⟨⟨context', code'⟩, hfront, hpair⟩ := Option.map_eq_some_iff.1 hread
    obtain ⟨-, rfl, rfl⟩ : _ ∧ context' = context ∧ code' = code := by simpa using hpair
    refine ⟨context', code', hfront, ?_⟩
    rw [← String.toList_ofList (l := ite _ code' context'), hlabel, apply_ite String.toList]
  · exact absurd h (by simp [frame])

/-- **A frame is read back exactly if it is not ambiguous.** Its file may hold anything, even what
looks like another frame. -/
theorem ofStack_text_iff (q : FrameLine) :
    ofStack q.text.toList = [q.frame] ↔ ¬ q.IsAmbiguous := by
  rw [ofStack_text, List.singleton_inj]
  constructor
  · rintro h ⟨u, v, hv, hcode⟩
    obtain ⟨context, code, hfront, hlabel⟩ := exists_of_ofLine_text h
    have hlength := length_le_of_isAmbiguous hv hcode hfront
    obtain ⟨y, hy, hread, -⟩ := longestFront?_eq_some_iff.1 hfront
    obtain ⟨rfl, hne⟩ := code?_eq_some_iff.1 hread
    -- The context has taken in a part of the code, so it is neither the context nor the code.
    have htotal := congrArg List.length hy
    have hsplit := congrArg List.length hcode
    have hpos : 0 < code.length := List.length_pos_iff.2 hne
    simp only [List.length_append, List.length_cons] at htotal hsplit
    have hcontext : context.isEmpty = false := by
      rw [List.isEmpty_eq_false_iff, ← List.length_pos_iff]
      omega
    rw [hcontext, if_neg Bool.false_ne_true] at hlabel
    split at hlabel
    · next hempty =>
      rw [hempty] at htotal
      have hlen := congrArg List.length hlabel
      simp only [String.toList_empty, List.length_nil] at htotal
      omega
    · have hlen := congrArg List.length hlabel
      omega
  · intro h
    rw [ofLine, if_neg q.head?_text, longestName?_text h]
    by_cases hcontext : q.context = ""
    · simp [frame, hcontext]
    · simp [frame, hcontext]

/-- A frame of a line that sets an element of an array. -/
def elementLine : FrameLine where
  file := "C:\\t.ahk"
  number := 3
  context := ""
  code := "arr[1] := 2"
  file_ne := by decide
  file_head := by decide
  number_pos := by decide
  context_plain := by decide
  code_ne := by decide
  unbroken := by decide

/-- The context of the frame is empty, but all up to the last closing bracket is taken for it. -/
theorem ofStack_text_elementLine : elementLine.text = "C:\\t.ahk (3) : [] arr[1] := 2" ∧
    elementLine.frame = .located "C:\\t.ahk" 2 "arr[1] := 2" ∧
    ofStack elementLine.text.toList = [.located "C:\\t.ahk" 2 "] arr[1"] ∧
    ofStack elementLine.text.toList ≠ [elementLine.frame] :=
  ⟨by decide, by decide, by decide, by decide⟩

end FrameLine

end ScriptSuite
