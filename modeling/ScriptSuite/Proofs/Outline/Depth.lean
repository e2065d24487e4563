import ScriptSuite.Proofs.Outline.Nesting

/-!
# How deep the members of a class stand

A method or a class that is listed in a class stands between the braces of the class, but not
always directly: the reading passes over what it does not know, one line at a time, and goes into
the braces that are opened there. How deep a member stands is said by the *loose text* in front of
it, which is what the members before it do not take up: a member stands directly between the
braces of its class exactly if the loose text in front of it has as many opening braces as closing
ones.

## Main definitions

* `depthAt`: the depth at a line, counted from the line of an opening brace
* `looseText`: the text of a class body without the blocks of its members
* `IsMemberLine`: a line between the braces of a class, with what its loose text says

## Main results

* `Reached.netBraces_take`: the blocks of members do not change the depth
* `TestClass.Within.exists_isMemberLine`: how deep the members of the classes of an outline stand
-/

namespace ScriptSuite

open Text

variable {n k : Nat} {d : Int} {s t : List Char} {first : List Char} {name source : String}
  {rest lines : List (List Char)} {block : Block}

/-! ### Loose text -/

/-- What stands behind the closing brace that brings the depth to zero, if there is one. -/
def afterClosing? (depth : Int) : List Char → Option (List Char)
  | [] => none
  | c :: s =>
    if c = '}' ∧ depthAfter depth c = 0 then some s else afterClosing? (depthAfter depth c) s

/-- What stands behind the first block of a text, or the whole text if no block is closed in it. -/
def behindBlock (s : List Char) : List Char := (afterClosing? 0 s).getD s

theorem netBraces_of_afterClosing? (h : afterClosing? d s = some t) :
    d + netBraces s = netBraces t := by
  induction s generalizing d with
  | nil => exact absurd h (by simp [afterClosing?])
  | cons c s ih =>
    rw [netBraces_cons, ← Int.add_assoc, ← depthAfter_eq]
    rw [afterClosing?] at h
    split at h
    · next hc =>
      obtain rfl := Option.some.inj h
      rw [hc.2, Int.zero_add]
    · exact ih h

/-- A block takes as many braces away as it opens. -/
theorem netBraces_behindBlock (s : List Char) : netBraces (behindBlock s) = netBraces s := by
  rw [behindBlock]
  cases h : afterClosing? 0 s with
  | none => rfl
  | some t =>
    rw [Option.getD_some, ← netBraces_of_afterClosing? h, Int.zero_add]

/-- The loose text on the first `count` lines of a class body: the lines that declare nothing, and
of the lines of each member what stands behind its block. -/
def looseText (count : Nat) : List (List Char) → List Char
  | [] => []
  | first :: rest =>
    if count = 0 then []
    else
      match LineReading.ofLines (first :: rest) with
      | .cls _ block =>
        behindBlock ((first :: rest).take (block.closing + 1)).flatten ++
          looseText (count - block.closing - 1) (rest.drop block.closing)
      | .method _ last =>
        behindBlock ((first :: rest).take (last + 1)).flatten ++
          looseText (count - last - 1) (rest.drop last)
      | .directive | .other => first ++ looseText (count - 1) rest
termination_by lines => lines.length
decreasing_by all_goals (simp only [List.length_drop, List.length_cons]; omega)

@[simp] theorem looseText_nil : looseText n [] = [] := by
  rw [looseText]

@[simp] theorem looseText_zero : looseText 0 lines = [] := by
  cases lines with
  | nil => exact looseText_nil
  | cons first rest => rw [looseText, if_pos rfl]

/-- The loose text behind what the first line declares. -/
theorem netBraces_looseText (n : Nat) (lines : List (List Char)) :
    netBraces (looseText ((LineReading.ofLines lines).last true + 1 + n) lines) =
      netBraces (lines.take ((LineReading.ofLines lines).last true + 1)).flatten +
        netBraces (looseText n (lines.drop ((LineReading.ofLines lines).last true + 1))) := by
  cases lines with
  | nil => simp
  | cons first rest =>
    have hcount : ∀ l, l + 1 + n - l - 1 = n := by omega
    rw [looseText, if_neg (by omega)]
    cases h : LineReading.ofLines (first :: rest) with
    | cls name block =>
      simp only [LineReading.last, hcount, netBraces_append, netBraces_behindBlock,
        List.drop_succ_cons]
    | method name last =>
      simp only [LineReading.last, if_true, hcount, netBraces_append, netBraces_behindBlock,
        List.drop_succ_cons]
    | directive => simp [LineReading.last, netBraces_append]
    | other => simp [LineReading.last, netBraces_append]

/-- **The blocks of members do not change the depth**: at a line where the reading stands, it is
the loose text that counts. -/
theorem Reached.netBraces_take (h : Reached true lines n) :
    netBraces (lines.take n).flatten = netBraces (looseText n lines) := by
  induction h with
  | here => simp
  | behind _ ih =>
    rw [netBraces_looseText, ← ih, List.take_add, List.flatten_append, netBraces_append]

/-! ### The line of an opening brace -/

/-- The block of a class opens on a line with one opening brace and no other brace, and its end is
searched from there. -/
theorem Block.exists_of_reading (h : LineReading.ofLines lines = .cls name block) :
    ∃ x y below, Braceless x ∧ Braceless y ∧
      lines.drop block.opening = (x ++ '{' :: y) :: below ∧
      block.closing = block.opening + closingOffset ((x ++ '{' :: y) :: below) := by
  cases LineReading.opensIn_of_eq_cls h with
  | @mk front below x y hfront hx hy => exact ⟨x, y, below, hx, hy, List.drop_left, rfl⟩

/-! ### The lines of members -/

/-- The depth at line `n`, counted over the lines from line `start` on and up to line `n`. -/
def depthAt (lines : List (List Char)) (start n : Nat) : Int :=
  netBraces ((lines.drop start).take (n - start)).flatten

/-- A line between the lines with the braces of a class, as deep in the class as the loose text in
front of it says. -/
structure IsMemberLine (lines : List (List Char)) (start stop n : Nat) : Prop where
  /-- The line stands behind the opening brace. -/
  behind : start < n
  /-- The line stands in front of the closing brace. -/
  inFront : n < stop
  /-- The class is not closed in between. -/
  depth_pos : 1 ≤ depthAt lines start n
  /-- The line stands directly in the class exactly if the loose text in front of it has as many
  opening braces as closing ones. -/
  depth_eq_one_iff : depthAt lines start n = 1 ↔
    netBraces (looseText (n - start - 1) (lines.drop (start + 1))) = 0

/-- Where the reading stands between the braces of a class is the line of a member. -/
theorem IsMemberLine.of_reached {i : Nat} (h : LineReading.ofLines (lines.drop k) = .cls name block)
    (hi : i < block.closing - block.opening - 1)
    (hreached : Reached true (lines.drop (k + block.opening + 1)) i) :
    IsMemberLine lines (k + block.opening) (k + block.closing) (k + block.opening + 1 + i) := by
  obtain ⟨x, y, below, hx, hy, hdrop, hclosing⟩ := Block.exists_of_reading h
  rw [List.drop_drop] at hdrop
  have hbelow : lines.drop (k + block.opening + 1) = below := by
    rw [← List.drop_drop, hdrop, List.drop_succ_cons, List.drop_zero]
  have hopen : netBraces (x ++ '{' :: y) = 1 := by
    rw [netBraces_append, netBraces_cons, hx.netBraces_eq, hy.netBraces_eq]
    rfl
  have hcount : k + block.opening + 1 + i - (k + block.opening) = i + 1 := by omega
  have hdepth : depthAt lines (k + block.opening) (k + block.opening + 1 + i) =
      1 + netBraces (below.take i).flatten := by
    rw [depthAt, hcount, hdrop, List.take_succ_cons, List.flatten_cons, netBraces_append, hopen]
  have hpos : 0 < 1 + netBraces (below.take i).flatten :=
    depth_pos_of_le_closingOffset hx hy (by omega)
  refine ⟨by omega, by omega, by omega, ?_⟩
  rw [hbelow] at hreached
  rw [hcount, Nat.add_sub_cancel, hbelow, ← hreached.netBraces_take, hdepth]
  omega

namespace TestClass

/-- **How deep the members of a class stand.** Every method and every class that is listed in a
class of an outline is declared on a line between the braces of the class. It stands directly
between them exactly if the loose text in front of it has as many opening braces as closing
ones. -/
theorem Within.exists_isMemberLine {c : TestClass} (h : c.Within (outline source)) :
    ∃ k block, c.line = lineNumber? k ∧
      LineReading.ofLines ((sourceLines source).drop k) = .cls c.name block ∧
      (∀ m ∈ c.methods, ∃ n last, m.line = lineNumber? n ∧
        LineReading.ofLines ((sourceLines source).drop n) = .method m.name last ∧
        IsMemberLine (sourceLines source) (k + block.opening) (k + block.closing) n) ∧
      (∀ d ∈ c.children, ∃ n block', d.line = lineNumber? n ∧
        LineReading.ofLines ((sourceLines source).drop n) = .cls d.name block' ∧
        IsMemberLine (sourceLines source) (k + block.opening) (k + block.closing) n) := by
  obtain ⟨k, block, hread⟩ := h.exists_isReadAt
  refine ⟨k, block, hread.line, hread.reading, fun m hm => ?_, fun d hd => ?_⟩
  · obtain ⟨i, hi, hreached, hline, last, hmethod⟩ := hread.exists_of_mem_methods hm
    exact ⟨_, last, hline, hmethod, IsMemberLine.of_reached hread.reading hi hreached⟩
  · obtain ⟨i, hi, hreached, block', hclass⟩ := hread.exists_of_mem_children hd
    exact ⟨_, block', hclass.line, hclass.reading,
      IsMemberLine.of_reached hread.reading hi hreached⟩

end TestClass

/-- A class with a method that takes a parameter and calls a function without arguments. -/
def helperSource : String :=
  "class A \x7b\n    Helper(x) \x7b\n        Foo()\n    \x7d\n    Test() \x7b\n    \x7d\n\x7d\n"

/-- What is read of the class. -/
def helperClass : TestClass := .mk "A" (some 0) [⟨"Foo", some 2⟩, ⟨"Test", some 4⟩] []

theorem outline_helperSource : outline helperSource = [helperClass] := by
  have hlines : sourceLines helperSource =
      ["class A \x7b", "    Helper(x) \x7b", "        Foo()", "    \x7d", "    Test() \x7b",
        "    \x7d", "\x7d", ""].map String.toList := by decide
  have hmembers : Declaration.ofLines true false 1 5 ((sourceLines helperSource).drop 1) =
      [.method "Foo" 2 false, .method "Test" 4 false] := by
    rw [hlines]
    simp only [List.map_cons, List.map_nil, List.drop_succ_cons, List.drop_zero]
    rw [Declaration.ofLines_other (by decide),
      Declaration.ofLines_method (show _ = LineReading.method "Foo" 0 by decide)]
    show Declaration.method "Foo" 2 false :: Declaration.ofLines true false 3 (2 + 1) (_ :: _) = _
    rw [Declaration.ofLines_other (by decide),
      Declaration.ofLines_method (show _ = LineReading.method "Test" 1 by decide), Nat.sub_self,
      Declaration.ofLines_zero]
  have hsource : Declaration.ofSource helperSource =
      [.cls "A" 0 false [.method "Foo" 2 false, .method "Test" 4 false]] := by
    rw [← hmembers, Declaration.ofSource, hlines]
    simp only [List.map_cons, List.map_nil, List.length_cons, List.length_nil]
    rw [Declaration.ofLines_cls (show _ = LineReading.cls "A" ⟨0, 6⟩ by decide)]
    show _ :: Declaration.ofLines false false 7 (0 + 1) (_ :: []) = _
    rw [Declaration.ofLines_other (by decide), Declaration.ofLines_zero]
    rfl
  rw [outline, hsource]
  rfl

theorem within_outline_helperSource : helperClass.Within (outline helperSource) := by
  rw [outline_helperSource]
  exact TestClass.Within.root List.mem_cons_self

theorem TestClass.Within.exists_isMemberLine_helperSource :
    helperClass.Within (outline helperSource) ∧ ∃ k block, some 0 = lineNumber? k ∧
      LineReading.ofLines ((sourceLines helperSource).drop k) = .cls "A" block ∧
      ∃ n last, some 4 = lineNumber? n ∧
        LineReading.ofLines ((sourceLines helperSource).drop n) = .method "Test" last ∧
        IsMemberLine (sourceLines helperSource) (k + block.opening) (k + block.closing) n := by
  obtain ⟨k, block, hline, hread, hmethods, -⟩ :=
    TestClass.Within.exists_isMemberLine within_outline_helperSource
  have htest : ⟨"Test", some 4⟩ ∈ helperClass.methods :=
    List.mem_cons_of_mem _ List.mem_cons_self
  exact ⟨within_outline_helperSource, k, block, hline, hread, hmethods _ htest⟩

/-- The call is taken for a method of the class, though it stands inside of another method. -/
theorem depthAt_helperSource :
    helperClass.Within (outline helperSource) ∧ ⟨"Foo", some 2⟩ ∈ helperClass.methods ∧
      LineReading.ofLines (sourceLines helperSource) = .cls "A" ⟨0, 6⟩ ∧
      LineReading.ofLines ((sourceLines helperSource).drop 2) = .method "Foo" 0 ∧
      depthAt (sourceLines helperSource) 0 2 = 2 :=
  ⟨within_outline_helperSource, List.mem_cons_self, by decide, by decide, by decide⟩

end ScriptSuite
