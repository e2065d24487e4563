import ScriptSuite.Outline.Parser
import ScriptSuite.Proofs.Outline.Brace
import ScriptSuite.Proofs.Outline.Header

/-!
# One line of a source at a time

How a source is read, as one equation for each kind of line. Every equation starts at a line and
goes on behind what the line declares, so that a whole source is read by their repeated use.

## Main results

* `Block.find?_true`, `Block.find?_false_append`: the block of a header
* `LineReading.ofLines_cls`, `LineReading.ofLines_method`: what a line with a header declares
* `Declaration.ofLines_cls`, `Declaration.ofLines_method`, `Declaration.ofLines_other`: where the
  reading goes on
* `Declaration.ofLines_append_of_isAllBlank`: blank lines are passed over
-/

namespace ScriptSuite

open Text

variable {inClass ignored : Bool} {n k last : Nat} {first : List Char} {name : String}
  {rest lines blanks : List (List Char)} {block : Block}

/-! ### Where the block of a header lies -/

theorem Block.find?_true :
    Block.find? true (first :: rest) =
      some { opening := 0, closing := closingOffset (first :: rest) } := by
  rw [Block.find?, if_pos rfl]

/-- Blank lines may stand in front of the line with the brace. -/
theorem Block.find?_false_append {brace : List Char} (hb : ∀ line ∈ blanks, isAllBlank line = true)
    (ho : openingOffset? (brace :: rest) = some 0) :
    Block.find? false (first :: (blanks ++ brace :: rest)) =
      some { opening := blanks.length + 1
             closing := blanks.length + 1 + closingOffset (brace :: rest) } := by
  rw [Block.find?, if_neg Bool.false_ne_true, openingOffset?_append hb, ho, Option.map_some,
    Option.map_some, Nat.zero_add, List.drop_left]

theorem Block.find?_false_eq_none (ho : openingOffset? rest = none) :
    Block.find? false (first :: rest) = none := by
  rw [Block.find?, if_neg Bool.false_ne_true, ho]
  rfl

/-! ### What a line declares -/

theorem lineNumber?_of_lt (h : n < UInt32.size) : lineNumber? n = some (UInt32.ofNat n) := if_pos h

namespace LineReading

theorem ofLines_cls {h : ClassHeader} (hd : isIgnoreDirective first = false)
    (hc : ClassHeader.ofLine? first = some h)
    (hb : Block.find? h.opens (first :: rest) = some block) :
    ofLines (first :: rest) = .cls h.name block := by
  rw [ofLines, hd, hc, if_neg Bool.false_ne_true, Option.bind_some, hb]
  rfl

theorem ofLines_method {h : MethodHeader} (hd : isIgnoreDirective first = false)
    (hc : ClassHeader.ofLine? first = none) (hm : MethodHeader.ofLine? first = some h) :
    ofLines (first :: rest) = .method h.name (h.lastOffset (first :: rest)) := by
  rw [ofLines, hd, hc, hm, if_neg Bool.false_ne_true]
  rfl

theorem ofLines_of_isAllBlank (h : isAllBlank first = true) : ofLines (first :: rest) = .other := by
  have hd : isIgnoreDirective first = false :=
    isIgnoreDirective_of_not_mem (not_mem_of_isBlank_eq_false h (by decide))
  rw [ofLines, hd, ClassHeader.ofLine?_of_isAllBlank h, MethodHeader.ofLine?_of_isAllBlank h,
    if_neg Bool.false_ne_true]
  rfl

end LineReading

/-! ### Where the reading goes on -/

namespace Declaration

@[simp] theorem ofLines_nil : ofLines inClass ignored n k [] = [] := by
  rw [ofLines]

@[simp] theorem ofLines_zero : ofLines inClass ignored n 0 lines = [] := by
  cases lines with
  | nil => exact ofLines_nil
  | cons first rest => rw [ofLines, if_pos rfl]

theorem ofLines_other (h : LineReading.ofLines (first :: rest) = .other) :
    ofLines inClass ignored n (k + 1) (first :: rest) = ofLines inClass ignored (n + 1) k rest := by
  rw [ofLines, if_neg (Nat.succ_ne_zero k), h]
  rfl

theorem ofLines_directive (h : LineReading.ofLines (first :: rest) = .directive) :
    ofLines inClass ignored n (k + 1) (first :: rest) = ofLines inClass true (n + 1) k rest := by
  rw [ofLines, if_neg (Nat.succ_ne_zero k), h]
  rfl

theorem ofLines_cls (h : LineReading.ofLines (first :: rest) = .cls name block) :
    ofLines inClass ignored n (k + 1) (first :: rest) =
      .cls name n ignored
          (ofLines true false (n + block.opening + 1) (block.closing - block.opening - 1)
            (rest.drop block.opening)) ::
        ofLines inClass false (n + block.closing + 1) (k - block.closing)
          (rest.drop block.closing) := by
  rw [ofLines, if_neg (Nat.succ_ne_zero k), h]
  have hk : k + 1 - block.closing - 1 = k - block.closing := by omega
  simp only [hk]

theorem ofLines_method (h : LineReading.ofLines (first :: rest) = .method name last) :
    ofLines true ignored n (k + 1) (first :: rest) =
      .method name n ignored :: ofLines true false (n + last + 1) (k - last) (rest.drop last) := by
  rw [ofLines, if_neg (Nat.succ_ne_zero k), h]
  have hk : k + 1 - last - 1 = k - last := by omega
  simp only [hk, if_true]

theorem ofLines_method_outside (h : LineReading.ofLines (first :: rest) = .method name last) :
    ofLines false ignored n (k + 1) (first :: rest) = ofLines false ignored (n + 1) k rest := by
  rw [ofLines, if_neg (Nat.succ_ne_zero k), h]
  rfl

/-- **Blank lines are passed over.** -/
theorem ofLines_append_of_isAllBlank (hb : ∀ line ∈ blanks, isAllBlank line = true) :
    ofLines inClass ignored n (blanks.length + k) (blanks ++ lines) =
      ofLines inClass ignored (n + blanks.length) k lines := by
  induction blanks generalizing n with
  | nil => simp
  | cons line blanks ih =>
    have hline : LineReading.ofLines (line :: (blanks ++ lines)) = .other :=
      LineReading.ofLines_of_isAllBlank (hb line List.mem_cons_self)
    have hk : (line :: blanks).length + k = blanks.length + k + 1 := by
      rw [List.length_cons]
      omega
    rw [List.cons_append, hk, ofLines_other hline, ih fun l hl => hb l (List.mem_cons_of_mem _ hl),
      List.length_cons, Nat.add_right_comm n, Nat.add_assoc]

/-- Nothing is declared on them. -/
theorem ofLines_blanks (hb : ∀ line ∈ blanks, isAllBlank line = true) (lines : List (List Char)) :
    ofLines inClass ignored n blanks.length (blanks ++ lines) = [] := by
  rw [← Nat.add_zero blanks.length, ofLines_append_of_isAllBlank hb, ofLines_zero]

end Declaration

end ScriptSuite
