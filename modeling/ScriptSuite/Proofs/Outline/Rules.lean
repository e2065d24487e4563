import ScriptSuite.Proofs.Outline.Order

/-!
# The reading of a scope as rules

What is declared in a scope, by one rule for each thing that reading can do: stop, pass over a line,
take in a class with its members, or take in a method. An induction over the rules has the bounds of
the scope at hand, and one case for all lines that declare nothing.

## Main definitions

* `LineReading.passed?`, `LineReading.IsHeader`: lines that declare nothing, and lines with a header
* `Declaration.FromLines`: the declarations of some lines, by rules

## Main results

* `Declaration.fromLines_ofLines`, `Declaration.FromLines.eq`: the rules say what the reading does
* `Declaration.FromLines.exists_isHeader`: at the line of a declaration there is a header
-/

namespace ScriptSuite

variable {inClass ignored ignored' : Bool} {n l count : Nat} {first : List Char}
  {text : List (List Char)} {ds : List Declaration}

namespace LineReading

/-- Whether the next declaration is left out, behind a line that declares nothing itself. Outside of
a class the header of a method declares nothing. -/
def passed? (inClass ignored : Bool) : LineReading → Option Bool
  | directive => some true
  | cls .. => none
  | method .. => if inClass then none else some ignored
  | other => some ignored

/-- There is a header on the line. -/
def IsHeader : LineReading → Prop
  | cls .. | method .. => True
  | directive | other => False

end LineReading

namespace Declaration

theorem ofLines_of_passed?
    (h : (LineReading.ofLines (first :: text)).passed? inClass ignored = some ignored') :
    ofLines inClass ignored n (count + 1) (first :: text) =
      ofLines inClass ignored' (n + 1) count text := by
  cases hread : LineReading.ofLines (first :: text) with
  | directive =>
    rw [hread] at h
    obtain rfl := Option.some.inj h
    exact ofLines_directive hread
  | cls name block => exact absurd h (by simp [hread, LineReading.passed?])
  | method name last =>
    cases inClass with
    | true => exact absurd h (by simp [hread, LineReading.passed?])
    | false =>
      rw [hread] at h
      obtain rfl := Option.some.inj h
      exact ofLines_method_outside hread
  | other =>
    rw [hread] at h
    obtain rfl := Option.some.inj h
    exact ofLines_other hread

/-- What the first `count` of some lines declare, which start at line `n` of the source. -/
inductive FromLines : Bool → Bool → Nat → Nat → List (List Char) → List Declaration → Prop
  /-- No line is left. -/
  | done {inClass ignored : Bool} {n count : Nat} {text : List (List Char)}
      (h : count = 0 ∨ text = []) : FromLines inClass ignored n count text []
  /-- The first line declares nothing. -/
  | pass {inClass ignored ignored' : Bool} {n count : Nat} {first : List Char}
      {text : List (List Char)} {ds : List Declaration}
      (hread : (LineReading.ofLines (first :: text)).passed? inClass ignored = some ignored')
      (hrest : FromLines inClass ignored' (n + 1) count text ds) :
      FromLines inClass ignored n (count + 1) (first :: text) ds
  /-- The first line declares a class, which ends in the scope. -/
  | cls {inClass ignored : Bool} {n count : Nat} {first : List Char} {text : List (List Char)}
      {name : String} {block : Block} {members rest : List Declaration}
      (hread : LineReading.ofLines (first :: text) = .cls name block)
      (hopening : block.opening ≤ block.closing) (hclosing : block.closing ≤ count + 1)
      (hmembers : FromLines true false (n + block.opening + 1)
        (block.closing - block.opening - 1) (text.drop block.opening) members)
      (hrest : FromLines inClass false (n + block.closing + 1) (count - block.closing)
        (text.drop block.closing) rest) :
      FromLines inClass ignored n (count + 1) (first :: text) (.cls name n ignored members :: rest)
  /-- The first line declares a method of the class around it, which ends in the scope. -/
  | method {ignored : Bool} {n count last : Nat} {first : List Char} {text : List (List Char)}
      {name : String} {rest : List Declaration}
      (hread : LineReading.ofLines (first :: text) = .method name last) (hlast : last ≤ count + 1)
      (hrest : FromLines true false (n + last + 1) (count - last) (text.drop last) rest) :
      FromLines true ignored n (count + 1) (first :: text) (.method name n ignored :: rest)

/-- **The rules say what the reading of a scope does.** -/
theorem fromLines_ofLines (h : IsScope inClass count text) :
    FromLines inClass ignored n count text (ofLines inClass ignored n count text) := by
  fun_induction Declaration.ofLines inClass ignored n count text with
  | case1 => exact .done (Or.inr rfl)
  | case2 => exact .done (Or.inl rfl)
  | case3 inClass ignored n count first text hpos hread ih =>
    obtain ⟨count, rfl⟩ := Nat.exists_eq_succ_of_ne_zero hpos
    have hscope := h.behind (Nat.succ_pos count)
    rw [hread] at hscope
    exact .pass (by rw [hread]; rfl) (ih hscope)
  | case4 inClass ignored n count first text hpos name block hread ihmembers ihrest =>
    obtain ⟨count, rfl⟩ := Nat.exists_eq_succ_of_ne_zero hpos
    have hscope := h.behind (Nat.succ_pos count)
    have hlast := h.last_le (Nat.succ_pos count)
    have hopens := LineReading.opensIn_of_eq_cls hread
    rw [hread] at hscope hlast
    have hrest := ihrest hscope
    have hcount : count + 1 - block.closing - 1 = count - block.closing := by omega
    rw [hcount] at hrest ⊢
    exact .cls hread hopens.opening_le hlast (ihmembers hopens.isScope) hrest
  | case5 ignored n count first text hpos name last hread ih =>
    obtain ⟨count, rfl⟩ := Nat.exists_eq_succ_of_ne_zero hpos
    have hscope := h.behind (Nat.succ_pos count)
    have hlast := h.last_le (Nat.succ_pos count)
    rw [hread] at hscope hlast
    have hrest := ih hscope
    have hcount : count + 1 - last - 1 = count - last := by omega
    rw [hcount] at hrest ⊢
    exact .method hread hlast hrest
  | case6 inClass ignored n count first text hpos name last hread hin ih =>
    obtain ⟨count, rfl⟩ := Nat.exists_eq_succ_of_ne_zero hpos
    have hscope := h.behind (Nat.succ_pos count)
    obtain rfl : inClass = false := by simpa using hin
    rw [hread] at hscope
    exact .pass (by rw [hread]; rfl) (ih hscope)
  | case7 inClass ignored n count first text hpos hread ih =>
    obtain ⟨count, rfl⟩ := Nat.exists_eq_succ_of_ne_zero hpos
    have hscope := h.behind (Nat.succ_pos count)
    rw [hread] at hscope
    exact .pass (by rw [hread]; rfl) (ih hscope)

namespace FromLines

theorem of_eq {n' count' : Nat} {text' : List (List Char)}
    (h : FromLines inClass ignored n count text ds) (hn : n = n') (hcount : count = count')
    (htext : text = text') : FromLines inClass ignored n' count' text' ds := by
  subst hn hcount htext
  exact h

/-- **They say no more than that.** -/
theorem eq (h : FromLines inClass ignored n count text ds) :
    ofLines inClass ignored n count text = ds := by
  induction h with
  | done h =>
    rcases h with rfl | rfl
    · exact ofLines_zero
    · exact ofLines_nil
  | pass hread _ ih => rw [ofLines_of_passed? hread, ih]
  | cls hread _ _ _ _ ihmembers ihrest => rw [ofLines_cls hread, ihmembers, ihrest]
  | method hread _ _ ih => rw [ofLines_method hread, ih]

theorem isHeader_drop {i k : Nat} (hk : ∀ j < k, i + 1 + j < count)
    (h : ∃ j < k, l = n + i + 1 + j ∧ (LineReading.ofLines ((text.drop i).drop j)).IsHeader) :
    ∃ j < count, l = n + j ∧ (LineReading.ofLines ((first :: text).drop j)).IsHeader := by
  obtain ⟨j, hj, rfl, hread⟩ := h
  refine ⟨i + 1 + j, hk j hj, by omega, ?_⟩
  rwa [← List.drop_drop, List.drop_succ_cons]

/-- **At the line of a declaration there is a header**, and the line is in the scope. -/
theorem exists_isHeader (h : FromLines inClass ignored n count text ds) (hl : l ∈ linesOf ds) :
    ∃ i < count, l = n + i ∧ (LineReading.ofLines (text.drop i)).IsHeader := by
  induction h with
  | done => exact absurd hl List.not_mem_nil
  | pass _ _ ih => exact isHeader_drop (i := 0) (fun j hj => by omega) (ih hl)
  | cls hread _ _ _ _ ihmembers ihrest =>
    rw [linesOf, lines, List.cons_append, List.mem_cons, List.mem_append] at hl
    rcases hl with rfl | hl | hl
    · exact ⟨0, Nat.succ_pos _, rfl, by rw [List.drop_zero, hread]; trivial⟩
    · exact isHeader_drop (fun j hj => by omega) (ihmembers hl)
    · exact isHeader_drop (fun j hj => by omega) (ihrest hl)
  | method hread _ _ ih =>
    rw [linesOf, lines, List.singleton_append, List.mem_cons] at hl
    rcases hl with rfl | hl
    · exact ⟨0, Nat.succ_pos _, rfl, by rw [List.drop_zero, hread]; trivial⟩
    · exact isHeader_drop (fun j hj => by omega) (ih hl)

end FromLines

end Declaration

end ScriptSuite
