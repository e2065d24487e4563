import ScriptSuite.Proofs.Outline.Insertion

/-!
# An empty line behind all others

An empty line declares nothing, and it has no brace that could begin or end a block. Behind all
other lines it can matter all the same, since a block that no brace closes runs to the last line: if
a class or a method is not closed, it ends with the empty line. What ends at a brace ends there as
before, and so does what is read in front of it.

## Main definitions

* `Block.isClosed`: a brace closes the block
* `LineReading.ExtendsTo`: what a line declares, without the empty line and with it

## Main results

* `Block.find?_concat_nil`: where a block ends with the empty line
* `LineReading.cls_of_concat_nil`, `LineReading.method_of_concat_nil`: where a declaration ends
* `Declaration.FromLines.of_concat_nil_of_lt`: what is read in a scope that ends in front of the
  empty line
-/

namespace ScriptSuite

variable {d : Int} {inClass ignored opens : Bool} {n count : Nat} {first : List Char}
  {lines text rest : List (List Char)} {name : String} {block : Block} {ds : List Declaration}

/-! ### Where blocks end -/

theorem closingOffset?_concat_nil : closingOffset? d (lines ++ [[]]) = closingOffset? d lines := by
  induction lines generalizing d with
  | nil => rfl
  | cons line rest ih =>
    rw [List.cons_append, closingOffset?, closingOffset?]
    cases depthOver? d line with
    | none => rfl
    | some e => exact congrArg (Option.map (· + 1)) ih

theorem openingOffset?_concat_nil : openingOffset? (lines ++ [[]]) = openingOffset? lines := by
  induction lines with
  | nil => rfl
  | cons line rest ih =>
    rw [List.cons_append, openingOffset?, openingOffset?]
    split
    · rw [ih]
    · rfl
    · rfl

theorem drop_concat_nil {i : Nat} (hi : i ≤ text.length) :
    (text ++ [[]]).drop i = text.drop i ++ [[]] := List.drop_append_of_le_length hi

theorem exists_cons_of_concat_nil (h : first :: rest = text ++ [[]]) (hpos : 0 < text.length) :
    ∃ text', text = first :: text' ∧ rest = text' ++ [[]] := by
  obtain ⟨first', text', rfl⟩ := List.exists_cons_of_length_pos hpos
  obtain ⟨rfl, rfl⟩ := List.cons.inj h
  exact ⟨text', rfl, rfl⟩

namespace Block

/-- A brace closes the block, which belongs to the first of the lines. -/
def isClosed (block : Block) (lines : List (List Char)) : Bool :=
  (closingOffset? 0 (lines.drop block.opening)).isSome

/-- The block once an empty line was added at the end: if no brace closes it, it runs one line
further. -/
def extended (block : Block) (lines : List (List Char)) : Block :=
  { block with closing := if block.isClosed lines then block.closing else block.closing + 1 }

theorem extended_of_isClosed (h : block.isClosed lines = true) : block.extended lines = block := by
  rw [extended, if_pos h]

theorem eq_of_find? (h : find? opens lines = some block) : block.opening < lines.length ∧
    block.closing = block.opening + closingOffset (lines.drop block.opening) := by
  cases lines with
  | nil => exact absurd h (by simp [find?])
  | cons first rest =>
    cases opens with
    | true =>
      rw [find?_true] at h
      obtain rfl := Option.some.inj h
      exact ⟨Nat.succ_pos _, (Nat.zero_add _).symm⟩
    | false =>
      rw [find?, if_neg Bool.false_ne_true] at h
      obtain ⟨n, hn, rfl⟩ := Option.map_eq_some_iff.1 h
      exact ⟨Nat.succ_lt_succ (lt_length_of_openingOffset? hn), rfl⟩

theorem closing_of_find? (h : find? opens lines = some block)
    (hopen : block.isClosed lines = false) : block.closing + 1 = lines.length := by
  obtain ⟨hlt, hclosing⟩ := eq_of_find? h
  rw [isClosed, Option.isSome_eq_false_iff, Option.isNone_iff_eq_none] at hopen
  rw [hclosing, closingOffset, hopen, Option.getD_none, List.length_drop]
  omega

theorem closing_lt_of_find? (h : find? opens lines = some block) :
    block.closing < lines.length := by
  obtain ⟨hlt, hclosing⟩ := eq_of_find? h
  have hne : lines.drop block.opening ≠ [] := by simpa using hlt
  have hle : closingOffset (lines.drop block.opening) < (lines.drop block.opening).length :=
    closingFrom_lt_length (d := 0) hne
  rw [List.length_drop] at hle
  omega

/-- **The block of a header** moves its end only if no brace closes it. -/
theorem find?_concat_nil : find? opens (first :: (text ++ [[]])) =
    (find? opens (first :: text)).map fun block => block.extended (first :: text) := by
  have hclosing {part : List (List Char)} (hpart : part ≠ []) :
      closingOffset (part ++ [[]]) =
        if (closingOffset? 0 part).isSome then closingOffset part else closingOffset part + 1 := by
    have hpos : 0 < part.length := List.length_pos_iff.2 hpart
    rw [closingOffset, closingOffset, closingOffset?_concat_nil]
    cases closingOffset? 0 part with
    | some m => rfl
    | none =>
      simp only [Option.getD_none, Option.isSome_none, List.length_append, List.length_singleton]
      rw [if_neg Bool.false_ne_true]
      omega
  cases opens with
  | true =>
    rw [find?_true, find?_true, ← List.cons_append, hclosing (List.cons_ne_nil _ _)]
    rfl
  | false =>
    rw [find?, if_neg Bool.false_ne_true, find?, if_neg Bool.false_ne_true,
      openingOffset?_concat_nil, Option.map_map]
    refine Option.map_congr fun n hn => ?_
    have hlt : n < text.length := lt_length_of_openingOffset? hn
    have hne : text.drop n ≠ [] := by simpa using hlt
    rw [Function.comp_apply, extended, isClosed, List.drop_succ_cons,
      drop_concat_nil (Nat.le_of_lt hlt), hclosing hne]
    split <;> rfl

end Block

/-! ### What a line declares -/

namespace LineReading

/-- What is read on the first of the lines, and what is read there once an empty line was added at
the end. -/
inductive ExtendsTo (lines : List (List Char)) : LineReading → LineReading → Prop
  /-- A directive is read as before. -/
  | directive : ExtendsTo lines directive directive
  /-- A class that a brace closes ends there as before. -/
  | closedCls {name : String} {block : Block} (hclosed : block.isClosed lines = true)
    (h : block.closing < lines.length) : ExtendsTo lines (cls name block) (cls name block)
  /-- A class that no brace closes runs one line further. -/
  | openCls {name : String} {block : Block} (hopen : block.isClosed lines = false)
    (h : block.closing + 1 = lines.length) :
    ExtendsTo lines (cls name block) (cls name ⟨block.opening, block.closing + 1⟩)
  /-- A method that ends in front of the new line ends there as before. -/
  | closedMethod {name : String} {last : Nat} (h : last < lines.length) :
    ExtendsTo lines (method name last) (method name last)
  /-- A method that no brace closes runs one line further. -/
  | openMethod {name : String} {last : Nat} (h : last + 1 = lines.length) :
    ExtendsTo lines (method name last) (method name (last + 1))
  /-- A line that declares nothing does so as before. -/
  | other : ExtendsTo lines other other

theorem ExtendsTo.passed?_eq {r r' : LineReading} (h : ExtendsTo lines r r') :
    r'.passed? inClass ignored = r.passed? inClass ignored := by
  cases h <;> rfl

end LineReading

theorem MethodHeader.lastOffset_concat_nil (h : MethodHeader) (first : List Char)
    (text : List (List Char)) :
    (h.lastOffset (first :: (text ++ [[]])) = h.lastOffset (first :: text) ∧
        h.lastOffset (first :: text) < (first :: text).length) ∨
      (h.lastOffset (first :: (text ++ [[]])) = h.lastOffset (first :: text) + 1 ∧
        h.lastOffset (first :: text) + 1 = (first :: text).length) := by
  have hfind (opens : Bool) :
      (((Block.find? opens (first :: (text ++ [[]]))).map Block.closing).getD 0 =
          ((Block.find? opens (first :: text)).map Block.closing).getD 0 ∧
        ((Block.find? opens (first :: text)).map Block.closing).getD 0 < (first :: text).length) ∨
      (((Block.find? opens (first :: (text ++ [[]]))).map Block.closing).getD 0 =
          ((Block.find? opens (first :: text)).map Block.closing).getD 0 + 1 ∧
        ((Block.find? opens (first :: text)).map Block.closing).getD 0 + 1 =
          (first :: text).length) := by
    rw [Block.find?_concat_nil]
    cases hblock : Block.find? opens (first :: text) with
    | none => exact Or.inl ⟨rfl, Nat.succ_pos _⟩
    | some block =>
      cases hclosed : block.isClosed (first :: text) with
      | true =>
        rw [Option.map_some, Block.extended_of_isClosed hclosed]
        exact Or.inl ⟨rfl, Block.closing_lt_of_find? hblock⟩
      | false =>
        refine Or.inr ⟨?_, Block.closing_of_find? hblock hclosed⟩
        rw [Option.map_some, Option.map_some, Block.extended, hclosed]
        rfl
  rw [lastOffset, lastOffset]
  cases h.body with
  | arrow => exact Or.inl ⟨rfl, Nat.succ_pos _⟩
  | braced => exact hfind true
  | later => exact hfind false

theorem MethodHeader.extendsTo (h : MethodHeader) (first : List Char) (text : List (List Char)) :
    LineReading.ExtendsTo (first :: text) (.method h.name (h.lastOffset (first :: text)))
      (.method h.name (h.lastOffset (first :: (text ++ [[]])))) := by
  rcases h.lastOffset_concat_nil first text with ⟨heq, hlt⟩ | ⟨heq, hlast⟩
  · rw [heq]
    exact .closedMethod hlt
  · rw [heq]
    exact .openMethod hlast

/-- **What a line declares** once an empty line was added at the end. -/
theorem LineReading.ofLines_concat_nil (first : List Char) (text : List (List Char)) :
    ExtendsTo (first :: text) (ofLines (first :: text)) (ofLines (first :: (text ++ [[]]))) := by
  rw [ofLines, ofLines]
  split
  · exact .directive
  · cases ClassHeader.ofLine? first with
    | none =>
      cases MethodHeader.ofLine? first with
      | none => exact .other
      | some h => exact h.extendsTo first text
    | some h =>
      simp only [Option.bind_some, Block.find?_concat_nil]
      cases hblock : Block.find? h.opens (first :: text) with
      | none =>
        cases MethodHeader.ofLine? first with
        | none => exact .other
        | some h => exact h.extendsTo first text
      | some block =>
        rw [Option.map_some, Option.map_some, Option.map_some]
        cases hclosed : block.isClosed (first :: text) with
        | true =>
          rw [Block.extended_of_isClosed hclosed]
          exact .closedCls hclosed (Block.closing_lt_of_find? hblock)
        | false =>
          rw [Block.extended, hclosed]
          exact .openCls hclosed (Block.closing_of_find? hblock hclosed)

/-- A class that is read with the empty line is closed by a brace, or it runs up to that line. -/
theorem LineReading.cls_of_concat_nil
    (h : ofLines (first :: (text ++ [[]])) = .cls name block) :
    (ofLines (first :: text) = .cls name block ∧ block.isClosed (first :: text) = true ∧
        block.closing ≤ text.length) ∨
      ∃ block' : Block, ofLines (first :: text) = .cls name block' ∧
        block'.isClosed (first :: text) = false ∧ block'.closing = text.length ∧
        block = ⟨block'.opening, text.length + 1⟩ := by
  have hext := ofLines_concat_nil first text
  rw [h] at hext
  generalize ofLines (first :: text) = r at hext
  cases hext with
  | closedCls hclosed hlt => exact Or.inl ⟨rfl, hclosed, Nat.le_of_lt_succ hlt⟩
  | openCls hopen hlast =>
    have hclosing := Nat.succ_inj.1 hlast
    exact Or.inr ⟨_, rfl, hopen, hclosing, by rw [hclosing]⟩

/-- A method that is read with the empty line ends in front of it, or it runs up to that line. -/
theorem LineReading.method_of_concat_nil {last : Nat}
    (h : ofLines (first :: (text ++ [[]])) = .method name last) :
    (ofLines (first :: text) = .method name last ∧ last ≤ text.length) ∨
      ofLines (first :: text) = .method name text.length ∧ last = text.length + 1 := by
  have hext := ofLines_concat_nil first text
  rw [h] at hext
  generalize ofLines (first :: text) = r at hext
  cases hext with
  | closedMethod hlt => exact Or.inl ⟨rfl, Nat.le_of_lt_succ hlt⟩
  | openMethod hlast =>
    obtain rfl := Nat.succ_inj.1 hlast
    exact Or.inr ⟨rfl, rfl⟩

/-! ### What the lines of a scope declare -/

namespace Declaration.FromLines

theorem eq_nil (h : FromLines inClass ignored n 0 lines ds) : ds = [] := by
  cases h
  rfl

theorem eq_nil_of_nil (h : FromLines inClass ignored n count [] ds) : ds = [] := by
  cases h
  rfl

/-- An empty line declares nothing. -/
theorem eq_nil_of_empty (h : FromLines inClass ignored n count [[]] ds) : ds = [] := by
  have hother : LineReading.ofLines [[]] = .other := LineReading.ofLines_of_isAllBlank rfl
  cases h with
  | done => rfl
  | pass _ hrest => exact hrest.eq_nil_of_nil
  | cls hread => exact absurd (hother.symm.trans hread) LineReading.noConfusion
  | method hread => exact absurd (hother.symm.trans hread) LineReading.noConfusion

/-- **Within the lines of a scope** an empty line behind them does not matter. -/
theorem of_concat_nil_of_lt (h : FromLines inClass ignored n count lines ds)
    (hlines : lines = text ++ [[]]) (hcount : count = 0 ∨ count < text.length) :
    FromLines inClass ignored n count text ds := by
  induction h generalizing text with
  | @done _ _ _ _ lines h =>
    refine .done (Or.inl (h.resolve_right ?_))
    rw [hlines]
    exact List.append_ne_nil_of_right_ne_nil _ (List.cons_ne_nil _ _)
  | @pass _ _ _ _ count _ _ _ hread _ ih =>
    have hlt : count + 1 < text.length := hcount.resolve_left (Nat.succ_ne_zero count)
    obtain ⟨text, rfl, rfl⟩ := exists_cons_of_concat_nil hlines (Nat.zero_lt_of_lt hlt)
    rw [List.length_cons] at hlt
    refine .pass ?_ (ih rfl (by omega))
    rwa [← (LineReading.ofLines_concat_nil _ _).passed?_eq]
  | @cls _ _ _ count first _ name block _ _ hread hopening hclosing _ _ ihmembers ihrest =>
    have hlt : count + 1 < text.length := hcount.resolve_left (Nat.succ_ne_zero count)
    obtain ⟨text, rfl, rfl⟩ := exists_cons_of_concat_nil hlines (Nat.zero_lt_of_lt hlt)
    rw [List.length_cons] at hlt
    rcases LineReading.cls_of_concat_nil hread with ⟨hread', -, hle⟩ | ⟨block, -, -, -, rfl⟩
    · refine .cls hread' hopening hclosing (ihmembers (drop_concat_nil (by omega)) ?_)
        (ihrest (drop_concat_nil hle) ?_)
      · rw [List.length_drop]
        omega
      · rw [List.length_drop]
        omega
    · -- The class would end behind the scope.
      have hclosing' : text.length + 1 ≤ count + 1 := hclosing
      omega
  | @method _ _ count last first _ name _ hread hlast _ ih =>
    have hlt : count + 1 < text.length := hcount.resolve_left (Nat.succ_ne_zero count)
    obtain ⟨text, rfl, rfl⟩ := exists_cons_of_concat_nil hlines (Nat.zero_lt_of_lt hlt)
    rw [List.length_cons] at hlt
    rcases LineReading.method_of_concat_nil hread with ⟨hread', hle⟩ | ⟨-, rfl⟩
    · refine .method hread' hlast (ih (drop_concat_nil hle) ?_)
      rw [List.length_drop]
      omega
    · omega

end Declaration.FromLines

end ScriptSuite
