import ScriptSuite.Proofs.Outline.Rules

/-!
# One more line in a source

What a line declares depends on lines far below it: on the line that closes its block, or on the
last line of the source if none does. A line without braces that is put in somewhere below moves
these lines by one and changes nothing else, as long as it does not come between a header and the
brace of the header. It does not if it stands in front of a declaration, because the search for the
brace would have ended there.

## Main definitions

* `moved`: where a line is found once another one was put in
* `EndsSearch`: the search for an opening brace does not get past a line

## Main results

* `closingOffset_insert`, `Block.find?_insert`: the end of a block moves with its line
* `LineReading.ofLines_insert`: so does the end of what a line declares
* `LineReading.endsSearch_of_isHeader`: headers end the search for the brace of another header
-/

namespace ScriptSuite

open Text

variable {d : Int} {m first line : List Char} {a b rest : List (List Char)} {k n : Nat}
  {c : Char}

/-! ### Moved lines -/

/-- Where the line of a number is found once a line was put in front of line `k`. -/
def moved (k n : Nat) : Nat := if n < k then n else n + 1

theorem moved_of_lt (h : n < k) : moved k n = n := if_pos h

theorem moved_of_le (h : k ≤ n) : moved k n = n + 1 := if_neg (Nat.not_lt.2 h)

theorem moved_add (i k n : Nat) : moved (i + k) (i + n) = i + moved k n := by
  unfold moved
  split <;> split <;> omega

theorem drop_insert (h : a.length ≤ n) : (a ++ m :: b).drop (n + 1) = (a ++ b).drop n := by
  obtain ⟨i, rfl⟩ := Nat.exists_eq_add_of_le h
  rw [Nat.add_assoc, List.drop_length_add_append, List.drop_length_add_append, List.drop_succ_cons]

/-! ### The end of a block -/

theorem closingOffset?_insert (hm : Braceless m) :
    closingOffset? d (a ++ m :: b) = (closingOffset? d (a ++ b)).map (moved a.length) := by
  induction a generalizing d with
  | nil =>
    rw [List.nil_append, closingOffset?, depthOver?_of_braceless hm]
    rfl
  | cons line a ih =>
    rw [List.cons_append, List.cons_append, closingOffset?, closingOffset?, List.length_cons]
    cases depthOver? d line with
    | none => rfl
    | some e =>
      have hsucc (n : Nat) : moved (a.length + 1) (n + 1) = moved a.length n + 1 := by
        rw [Nat.add_comm _ 1, Nat.add_comm n, moved_add, Nat.add_comm 1]
      simp only [ih, Option.map_map, Function.comp_def, hsucc]

/-- **The end of a block moves with its line**, also if the block is never closed and ends with the
last line. -/
theorem closingOffset_insert (hm : Braceless m) (hb : b ≠ []) :
    closingOffset (a ++ m :: b) = moved a.length (closingOffset (a ++ b)) := by
  have hpos : 0 < b.length := List.length_pos_iff.2 hb
  rw [closingOffset, closingOffset, closingOffset?_insert hm]
  cases closingOffset? 0 (a ++ b) with
  | some n => rfl
  | none =>
    rw [Option.map_none, Option.getD_none, Option.getD_none, moved_of_le]
    · simp only [List.length_append, List.length_cons]
      omega
    · rw [List.length_append]
      omega

/-! ### The start of a block -/

/-- The search for an opening brace ends in front of the line. -/
def EndsSearch (line : List Char) : Prop := ∀ rest, openingOffset? (line :: rest) = none

/-- Below a line that ends it the search finds nothing, and it does not depend on what is there. -/
theorem openingOffset?_append_cons (h : EndsSearch line) :
    openingOffset? (a ++ line :: b) = openingOffset? a := by
  induction a with
  | nil => exact h b
  | cons first a ih =>
    rw [List.cons_append, openingOffset?, openingOffset?]
    split
    · rw [ih]
    · rfl
    · rfl

theorem lt_length_of_openingOffset? (h : openingOffset? a = some n) : n < a.length := by
  obtain ⟨front, x, y, below, -, -, -, rfl, rfl⟩ := exists_of_openingOffset?_eq_some h
  simp

theorem endsSearch_of_head? (h : (trimStart line).head? = some c) (hc : c ≠ '{') :
    EndsSearch line := by
  intro rest
  obtain ⟨x, hx, hline⟩ := exists_append_trimStart line
  obtain ⟨s, hs⟩ := List.head?_eq_some_iff.1 h
  rw [hline, hs]
  exact openingOffset?_of_ne hx (isBlank_eq_false_of_head?_trimStart h) hc

/-! ### The block of a header -/

/-- A block once a line was put in front of line `k`. -/
def Block.moved (k : Nat) (block : Block) : Block :=
  { opening := ScriptSuite.moved k block.opening, closing := ScriptSuite.moved k block.closing }

theorem Block.moved_of_closing_lt {block : Block} (hle : block.opening ≤ block.closing)
    (h : block.closing < k) : block.moved k = block := by
  rw [moved, moved_of_lt h, moved_of_lt (Nat.lt_of_le_of_lt hle h)]

section Insert

variable (hm : Braceless m) (hsearch : EndsSearch m) (hline : EndsSearch line)

include hm hsearch hline

/-- **The block of a header moves with its lines**, if a line is put in below the header and in
front of a line that is not its brace. -/
theorem Block.find?_insert {opens : Bool} :
    Block.find? opens (first :: (a ++ m :: line :: rest)) =
      (Block.find? opens (first :: (a ++ line :: rest))).map (Block.moved (a.length + 1)) := by
  cases opens with
  | true =>
    have hclosing : closingOffset (first :: a ++ m :: line :: rest) =
        ScriptSuite.moved (a.length + 1) (closingOffset (first :: a ++ line :: rest)) :=
      closingOffset_insert hm (List.cons_ne_nil _ _)
    rw [Block.find?_true, Block.find?_true, ← List.cons_append, ← List.cons_append, hclosing,
      Option.map_some, Block.moved, moved_of_lt (Nat.succ_pos _)]
  | false =>
    rw [Block.find?, if_neg Bool.false_ne_true, Block.find?, if_neg Bool.false_ne_true,
      openingOffset?_append_cons hsearch, openingOffset?_append_cons hline, Option.map_map]
    refine Option.map_congr fun n hn => ?_
    have hlt : n < a.length := lt_length_of_openingOffset? hn
    have hle : n ≤ a.length := Nat.le_of_lt hlt
    have hclosing : closingOffset (a.drop n ++ m :: line :: rest) =
        ScriptSuite.moved (a.drop n).length (closingOffset (a.drop n ++ line :: rest)) :=
      closingOffset_insert hm (List.cons_ne_nil _ _)
    have hlength : a.length + 1 = n + 1 + (a.drop n).length := by
      rw [List.length_drop]
      omega
    rw [Function.comp_apply, Block.moved, List.drop_append_of_le_length hle,
      List.drop_append_of_le_length hle, hclosing, moved_of_lt (Nat.succ_lt_succ hlt), hlength,
      moved_add]

theorem MethodHeader.lastOffset_insert (h : MethodHeader) :
    h.lastOffset (first :: (a ++ m :: line :: rest)) =
      moved (a.length + 1) (h.lastOffset (first :: (a ++ line :: rest))) := by
  have hclosing (opens : Bool) :
      ((Block.find? opens (first :: (a ++ m :: line :: rest))).map Block.closing).getD 0 =
        moved (a.length + 1)
          (((Block.find? opens (first :: (a ++ line :: rest))).map Block.closing).getD 0) := by
    rw [Block.find?_insert hm hsearch hline]
    cases Block.find? opens (first :: (a ++ line :: rest)) with
    | none => exact (moved_of_lt (Nat.succ_pos _)).symm
    | some block => rfl
  rw [lastOffset, lastOffset]
  cases h.body with
  | arrow => exact (moved_of_lt (Nat.succ_pos _)).symm
  | braced => exact hclosing true
  | later => exact hclosing false

end Insert

/-! ### What a line declares -/

namespace LineReading

/-- What is read on a line once another one was put in, `k` lines further. -/
def moved (k : Nat) : LineReading → LineReading
  | directive => directive
  | cls name block => cls name (block.moved k)
  | method name last => method name (ScriptSuite.moved k last)
  | other => other

/-- **What a line declares ends as it did**, but for the lines that were moved. -/
theorem ofLines_insert {r : LineReading} (hm : Braceless m) (hsearch : EndsSearch m)
    (hline : EndsSearch line) (hr : ofLines (first :: (a ++ line :: rest)) = r) :
    ofLines (first :: (a ++ m :: line :: rest)) = r.moved (a.length + 1) := by
  rw [← hr, ofLines, ofLines]
  split
  · rfl
  · simp only [Block.find?_insert hm hsearch hline, MethodHeader.lastOffset_insert hm hsearch hline]
    cases hclass : ClassHeader.ofLine? first with
    | none => cases MethodHeader.ofLine? first <;> rfl
    | some h =>
      simp only [Option.bind_some]
      cases hblock : Block.find? h.opens (first :: (a ++ line :: rest)) with
      | some block => rfl
      | none => cases MethodHeader.ofLine? first <;> rfl

end LineReading

/-! ### Headers end the search -/

theorem ClassHeader.endsSearch_of_ofLine? {h : ClassHeader} (hs : ofLine? line = some h) :
    EndsSearch line := by
  obtain ⟨e, he, -⟩ := Option.bind_eq_some_iff.1 hs
  rw [afterKeyword?] at he
  split at he
  · next hword =>
    obtain ⟨s, hs⟩ := List.isPrefixOf_iff_prefix.1 hword
    exact endsSearch_of_head? (c := 'c') (by rw [← hs]; rfl) (by decide)
  · exact absurd he (by simp)

theorem MethodHeader.endsSearch_of_ofLine? {h : MethodHeader} (hs : ofLine? line = some h) :
    EndsSearch line := by
  rw [ofLine?] at hs
  dsimp only at hs
  split at hs
  · exact absurd hs (by simp)
  · next hname =>
    -- The name is not empty, so the line begins with a character of a word.
    obtain ⟨c, w, hw⟩ := List.exists_cons_of_ne_nil fun h => hname (List.isEmpty_iff.2 h)
    have hfilter : (trimStart line).head?.filter isWord = some c := by
      rw [← List.head?_takeWhile]
      exact congrArg List.head? hw
    obtain ⟨hhead, hc⟩ := Option.filter_eq_some_iff.1 hfilter
    refine endsSearch_of_head? hhead ?_
    rintro rfl
    exact absurd hc (by decide)

namespace LineReading

/-- **A header ends the search**, since it begins with a word. -/
theorem endsSearch_of_isHeader (h : (ofLines (line :: rest)).IsHeader) : EndsSearch line := by
  cases hread : ofLines (line :: rest) with
  | directive => exact absurd h (by rw [hread]; exact id)
  | other => exact absurd h (by rw [hread]; exact id)
  | cls name block =>
    obtain ⟨_, _, header, hlines, hheader, -⟩ := exists_of_eq_cls hread
    obtain ⟨rfl, -⟩ := List.cons.inj hlines
    exact ClassHeader.endsSearch_of_ofLine? hheader
  | method name last =>
    obtain ⟨_, _, header, hlines, hheader, -⟩ := exists_of_eq_method hread
    obtain ⟨rfl, -⟩ := List.cons.inj hlines
    exact MethodHeader.endsSearch_of_ofLine? hheader

end LineReading

end ScriptSuite
