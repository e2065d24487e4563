import ScriptSuite.Proofs.Outline.Nesting

/-!
# What an outline lists is declared

Reading passes over what it does not understand, and it may take a line for something that the
author did not mean. It makes nothing up, though: whatever the source looks like, each class and
each method of its outline names a line of the source that has the form of such a declaration, with
the same name and without the words that leave a declaration out. And a class is listed for the
tests at or below it, so there is one.

## Main definitions

* `TestMethod.IsDeclaredOn`, `TestClass.IsDeclaredOn`: a line declares a method, and a class

## Main results

* `TestClass.Within.testCount_pos`: every class of an outline holds a test
* `TestClass.Within.isDeclaredOn`: the classes of an outline and their methods are declared on the
  lines that they name, at any depth
-/

namespace ScriptSuite

open Text

variable {k : Nat} {first line name : List Char} {lines rest : List (List Char)} {source : String}
  {block : Block} {c : TestClass} {m : TestMethod}

/-! ### Lines that declare -/

/-- The method is declared on line `n` of a source. -/
structure TestMethod.IsDeclaredOn (m : TestMethod) (lines : List (List Char)) (n : UInt32)
    (line : List Char) : Prop where
  /-- The method names the line. -/
  number : m.line = some n
  /-- There is such a line. -/
  located : lines[n.toNat]? = some line
  /-- The words that leave a declaration out are not on it. -/
  unmarked : ¬ ignoreMarker.toList <:+: line
  /-- It has the form of a method without parameters, and the name is that of the method. -/
  form : ∃ body, MethodHeader.IsWritten m.name.toList body line
  /-- The method is not private. -/
  isPublic : m.name.toList.head? ≠ some '_'

/-- The class is declared on line `n` of a source, and its opening brace is on that line or not. -/
structure TestClass.IsDeclaredOn (c : TestClass) (lines : List (List Char)) (n : UInt32)
    (line : List Char) (opens : Bool) : Prop where
  /-- The class names the line. -/
  number : c.line = some n
  /-- There is such a line. -/
  located : lines[n.toNat]? = some line
  /-- The words that leave a declaration out are not on it. -/
  unmarked : ¬ ignoreMarker.toList <:+: line
  /-- It has the form of a class, and the name is that of the class. -/
  form : ClassHeader.IsWritten c.name.toList opens line
  /-- The brace is the last character of the line that is not blank, or stands alone on the next
  line that is not blank. -/
  brace : if opens then (trimEnd line).getLast? = some '{'
    else ∃ count, BraceAlone count (lines.drop (n.toNat + 1))

/-! ### The brace of a class -/

theorem getLast?_trimEnd {x b : List Char} {a : Char} (ha : isBlank a = false)
    (hb : isAllBlank b = true) : (trimEnd (x ++ a :: b)).getLast? = some a := by
  rw [← List.singleton_append, ← List.append_assoc, trimEnd_append hb,
    (tight_singleton ha).trimEnd_append (List.cons_ne_nil a []), List.getLast?_concat]

theorem ClassHeader.IsTail.exists_brace {t : List Char} (h : IsTail true t) :
    ∃ x b, isAllBlank b = true ∧ t = x ++ '{' :: b := by
  cases h with
  | plain he =>
    obtain ⟨-, hb⟩ := he
    exact ⟨_, _, hb, rfl⟩
  | base _ _ _ _ _ he =>
    obtain ⟨-, hb⟩ := he
    simp only [← List.append_assoc]
    exact ⟨_, _, hb, List.append_assoc ..⟩

/-- A brace on the line of a class header is the last character that is not blank. -/
theorem ClassHeader.IsWritten.getLast?_trimEnd (h : IsWritten name true line) :
    (trimEnd line).getLast? = some '{' := by
  obtain ⟨-, -, -, -, ht⟩ := h
  obtain ⟨x, b, hb, rfl⟩ := ht.exists_brace
  simp only [← List.append_assoc]
  exact ScriptSuite.getLast?_trimEnd (by decide) hb

theorem Block.braceAlone_of_find? (h : Block.find? false (first :: rest) = some block) :
    ∃ count, BraceAlone count rest := by
  rw [Block.find?, if_neg Bool.false_ne_true] at h
  obtain ⟨count, hcount, -⟩ := Option.map_eq_some_iff.1 h
  exact ⟨count, openingOffset?_eq_some_iff.1 hcount⟩

/-! ### What is read on a line -/

theorem LineReading.not_infix_of_ne_directive (h : ofLines (first :: rest) ≠ .directive) :
    ¬ ignoreMarker.toList <:+: first := by
  intro hinfix
  have hdirective : isIgnoreDirective first = true := contains_iff_infix.2 hinfix
  exact h (by rw [ofLines, if_pos hdirective])

/-- The line that the reading stands on has a number. -/
theorem exists_lineNumber? (hsize : lines.length ≤ UInt32.size) (h : lines.drop k = first :: rest) :
    ∃ n : UInt32, lineNumber? k = some n ∧ lines[n.toNat]? = some first ∧
      lines.drop (n.toNat + 1) = rest := by
  have hline : lines[k]? = some first := by rw [← List.head?_drop, h, List.head?_cons]
  obtain ⟨hk, -⟩ := List.getElem?_eq_some_iff.1 hline
  have hlt : k < UInt32.size := Nat.lt_of_lt_of_le hk hsize
  have hrest : lines.drop (k + 1) = rest := by
    rw [← List.drop_drop, h, List.drop_succ_cons, List.drop_zero]
  refine ⟨UInt32.ofNat k, lineNumber?_of_lt hlt, ?_, ?_⟩
  · rwa [UInt32.toNat_ofNat_of_lt' hlt]
  · rwa [UInt32.toNat_ofNat_of_lt' hlt]

namespace TestClass

theorem IsReadAt.exists_isDeclaredOn (hsize : lines.length ≤ UInt32.size)
    (h : c.IsReadAt lines k block) : ∃ n line opens, c.IsDeclaredOn lines n line opens := by
  have hread := h.reading
  obtain ⟨first, rest, header, hdrop, hheader, hname, hfind⟩ := LineReading.exists_of_eq_cls hread
  obtain ⟨n, hn, hline, hrest⟩ := exists_lineNumber? hsize hdrop
  rw [hdrop] at hread hfind
  have hform := ClassHeader.ofLine?_eq_some_iff.1 hheader
  rw [hname] at hform
  refine ⟨n, first, header.opens, h.line.trans hn, hline, ?_, hform, ?_⟩
  · exact LineReading.not_infix_of_ne_directive (by rw [hread]; exact LineReading.noConfusion)
  · cases hopens : header.opens with
    | true =>
      rw [hopens] at hform
      exact hform.getLast?_trimEnd
    | false =>
      rw [hopens] at hfind
      rw [hrest]
      exact Block.braceAlone_of_find? hfind

theorem IsReadAt.exists_isDeclaredOn_of_mem_methods (hsize : lines.length ≤ UInt32.size)
    (h : c.IsReadAt lines k block) (hm : m ∈ c.methods) :
    ∃ n line, m.IsDeclaredOn lines n line := by
  obtain ⟨i, -, -, hnumber, last, hread⟩ := h.exists_of_mem_methods hm
  obtain ⟨first, rest, header, hdrop, hheader, hname, -⟩ := LineReading.exists_of_eq_method hread
  obtain ⟨n, hn, hline, -⟩ := exists_lineNumber? hsize hdrop
  have hform := MethodHeader.ofLine?_eq_some_iff.1 hheader
  rw [hname] at hform
  rw [hdrop] at hread
  refine ⟨n, first, hnumber.trans hn, hline, ?_, ⟨header.body, hform⟩, ?_⟩
  · exact LineReading.not_infix_of_ne_directive (by rw [hread]; exact LineReading.noConfusion)
  · rw [h.methods] at hm
    obtain ⟨-, -, -, hpublic⟩ := Declaration.exists_of_mem_testMethods hm
    exact hpublic

/-- **Every class of an outline holds a test**, at any depth. -/
theorem Within.testCount_pos (h : c.Within (outline source)) : 0 < c.testCount := by
  have hprune : ∃ cs, c ∈ prune cs := by
    cases h with
    | root h => exact ⟨_, h⟩
    | child hparent hc =>
      obtain ⟨k, block, hread⟩ := hparent.exists_isReadAt
      rw [hread.children] at hc
      exact ⟨_, hc⟩
  obtain ⟨cs, hc⟩ := hprune
  obtain ⟨d, -, hd, rfl⟩ := mem_prune.1 hc
  rwa [testCount_pruned]

/-- **An outline makes nothing up.** Each class of it, at any depth, is declared on the line that it
names, and so is each of its methods; at or below the class there is a test. -/
theorem Within.isDeclaredOn (hsize : (sourceLines source).length ≤ UInt32.size)
    (h : c.Within (outline source)) :
    (∃ n line opens, c.IsDeclaredOn (sourceLines source) n line opens) ∧
      (∀ m ∈ c.methods, ∃ n line, m.IsDeclaredOn (sourceLines source) n line) ∧
      0 < c.testCount := by
  obtain ⟨k, block, hread⟩ := h.exists_isReadAt
  exact ⟨hread.exists_isDeclaredOn hsize,
    fun m hm => hread.exists_isDeclaredOn_of_mem_methods hsize hm, h.testCount_pos⟩

/-- A class whose brace stands below its header, with a class in it and a method that is private. -/
def spreadSource : String :=
  "class Outer extends Base\r\n \r\n\x7b\n    class Inner \x7b \n        Test() => 1\n        " ++
    "_Help() \x7b\n        \x7d\n    \x7d\n\x7d\n"

theorem Within.isDeclaredOn_spreadSource :
    (sourceLines spreadSource).length ≤ UInt32.size ∧
      ∃ c d : TestClass, c.Within (outline spreadSource) ∧ d.Within (outline spreadSource) ∧
        c.name = "Outer" ∧ c.line = some 0 ∧ c.methods = [] ∧ 0 < c.testCount ∧
        (∃ n line opens, c.IsDeclaredOn (sourceLines spreadSource) n line opens) ∧
        d.name = "Inner" ∧ d.line = some 3 ∧ d.methods = [⟨"Test", some 4⟩] ∧
        ∃ n line, TestMethod.IsDeclaredOn ⟨"Test", some 4⟩ (sourceLines spreadSource) n line := by
  have hsize : (sourceLines spreadSource).length ≤ UInt32.size := by decide
  obtain ⟨houter, hinner⟩ : (outline spreadSource).map (fun c => (c.name, c.line, c.methods)) =
        [("Outer", some 0, [])] ∧
      ((outline spreadSource).flatMap children).map (fun d => (d.name, d.line, d.methods)) =
        [("Inner", some 3, [⟨"Test", some 4⟩])] := by decide +kernel
  obtain ⟨c, hc, hparts⟩ := List.map_eq_singleton_iff.1 houter
  obtain ⟨d, hd, hparts'⟩ := List.map_eq_singleton_iff.1 hinner
  simp only [Prod.mk.injEq] at hparts hparts'
  obtain ⟨hname, hline, hmethods⟩ := hparts
  obtain ⟨hname', hline', hmethods'⟩ := hparts'
  have hwithin : c.Within (outline spreadSource) := .root (by rw [hc]; exact List.mem_cons_self)
  have hchild : d ∈ c.children := by
    rw [hc, List.flatMap_singleton] at hd
    rw [hd]
    exact List.mem_cons_self
  obtain ⟨hdeclared, -, hcount⟩ := Within.isDeclaredOn hsize hwithin
  obtain ⟨-, hmethod, -⟩ := Within.isDeclaredOn hsize (hwithin.child hchild)
  refine ⟨hsize, c, d, hwithin, hwithin.child hchild, hname, hline, hmethods, hcount, hdeclared,
    hname', hline', hmethods', hmethod _ ?_⟩
  rw [hmethods']
  exact List.mem_cons_self

end TestClass

end ScriptSuite
