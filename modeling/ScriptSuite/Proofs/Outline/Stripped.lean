import ScriptSuite.Proofs.Outline.Blanks
import ScriptSuite.Proofs.Outline.Rules
import ScriptSuite.Proofs.Text.Lines

/-!
# Sources without blanks around their lines

The blanks at the ends of its lines say nothing about what a source declares, whatever they are:
directives, headers, braces on lines of their own and the ends of blocks are found with them and
without them. The one exception are blanks behind the brace of a method. They hide the method, so
that its body is read like the lines around it.

## Main definitions

* `stripped`: the source without the blanks at both ends of every line
* `BracesEndLines`: no method has blanks behind its brace

## Main results

* `LineReading.ofLines_map_trim_cases`: what a line declares, with its blanks and without them
* `Declaration.ofSource_stripped_iff`: when a source declares the same without the blanks
* `outline_stripped`: then it has the same outline
-/

namespace ScriptSuite

open Text

variable {d : Int} {inClass ignored : Bool} {n count : Nat} {first : List Char}
  {lines text : List (List Char)} {ds : List Declaration}

/-! ### Braces on trimmed lines -/

theorem depthOver?_trim (s : List Char) : depthOver? d (trim s) = depthOver? d s := by
  obtain ⟨x, y, hx, hy, hs⟩ := exists_eq_append_trim s
  have hend : (depthOver? d (trim s)).bind (fun e => depthOver? e y) = depthOver? d (trim s) := by
    cases depthOver? d (trim s) with
    | none => rfl
    | some e => exact depthOver?_of_braceless hy
  calc depthOver? d (trim s) = depthOver? d (trim s ++ y) := by rw [depthOver?_append, hend]
    _ = depthOver? d (x ++ (trim s ++ y)) := by
      rw [depthOver?_append (s := x), depthOver?_of_braceless hx, Option.bind_some]
    _ = depthOver? d s := by rw [← hs]

theorem closingOffset?_map_trim : closingOffset? d (lines.map trim) = closingOffset? d lines := by
  induction lines generalizing d with
  | nil => rfl
  | cons line rest ih =>
    rw [List.map_cons, closingOffset?, closingOffset?, depthOver?_trim]
    cases depthOver? d line with
    | none => rfl
    | some e => exact congrArg (Option.map (· + 1)) ih

theorem closingOffset_map_trim : closingOffset (lines.map trim) = closingOffset lines := by
  rw [closingOffset, closingOffset, closingOffset?_map_trim, List.length_map]

theorem openingOffset?_map_trim : openingOffset? (lines.map trim) = openingOffset? lines := by
  induction lines with
  | nil => rfl
  | cons line rest ih =>
    rw [List.map_cons, openingOffset?, openingOffset?, (tight_trim line).trim_eq, ih]

theorem Block.find?_map_trim {opens : Bool} :
    Block.find? opens (lines.map trim) = Block.find? opens lines := by
  cases lines with
  | nil => rfl
  | cons line rest =>
    cases opens with
    | true =>
      rw [List.map_cons, Block.find?_true, Block.find?_true, ← List.map_cons,
        closingOffset_map_trim]
    | false =>
      rw [List.map_cons, Block.find?, Block.find?, if_neg Bool.false_ne_true,
        if_neg Bool.false_ne_true, openingOffset?_map_trim]
      simp only [← List.map_drop, closingOffset_map_trim]

/-! ### What trimmed lines declare -/

namespace LineReading

theorem ofLines_map_trim (h : ¬ BlanksBehindBrace first) :
    ofLines (trim first :: text.map trim) = ofLines (first :: text) := by
  have hmethod := (MethodHeader.ofLine?_trim_iff first).2 h
  have hfind (opens : Bool) :
      Block.find? opens (trim first :: text.map trim) = Block.find? opens (first :: text) := by
    rw [← List.map_cons, Block.find?_map_trim]
  rw [ofLines, ofLines, isIgnoreDirective_trim, ClassHeader.ofLine?_trim, hmethod]
  simp only [hfind, MethodHeader.lastOffset]

/-- A line with blanks behind the brace of a method header declares nothing. -/
theorem ofLines_of_blanksBehindBrace (h : BlanksBehindBrace first) :
    ofLines (first :: text) = if isIgnoreDirective first then .directive else .other := by
  rw [ofLines, h.classHeader_eq_none, h.methodHeader_eq_none]
  rfl

/-- Without the blanks it declares a method, unless it is a directive. -/
theorem exists_ofLines_map_trim (h : BlanksBehindBrace first) (text : List (List Char)) :
    ∃ name last, ofLines (trim first :: text.map trim) =
      if isIgnoreDirective first then .directive else .method name last := by
  obtain ⟨⟨header, hheader, -⟩, -⟩ := id h
  refine ⟨header.name, header.lastOffset (trim first :: text.map trim), ?_⟩
  rw [ofLines, ClassHeader.ofLine?_trim, h.classHeader_eq_none, hheader, isIgnoreDirective_trim]
  rfl

/-- Trimming changes what a line declares only if it makes the line the header of a method. -/
theorem ofLines_map_trim_cases (first : List Char) (text : List (List Char)) :
    ofLines (trim first :: text.map trim) = ofLines (first :: text) ∨
      BlanksBehindBrace first ∧ ofLines (first :: text) = .other ∧
        ∃ name last, ofLines (trim first :: text.map trim) = .method name last := by
  by_cases h : BlanksBehindBrace first
  · obtain ⟨name, last, htrim⟩ := exists_ofLines_map_trim h text
    rw [htrim, ofLines_of_blanksBehindBrace h]
    cases isIgnoreDirective first with
    | true => exact Or.inl rfl
    | false => exact Or.inr ⟨h, rfl, name, last, rfl⟩
  · exact Or.inl (ofLines_map_trim h)

end LineReading

namespace Declaration

theorem forall_getElem?_drop {P : List Char → Prop} {ls ls' : List Nat}
    (h : ∀ i line, (first :: text)[i]? = some line → n + i ∈ ls → P line)
    (hls : ∀ l ∈ ls', l ∈ ls) (k : Nat) :
    ∀ i line, (text.drop k)[i]? = some line → n + k + 1 + i ∈ ls' → P line := by
  intro i line hline hmem
  have hn : n + (k + i + 1) = n + k + 1 + i := by omega
  refine h (k + i + 1) line ?_ (by rw [hn]; exact hls _ hmem)
  rwa [List.getElem?_cons_succ, ← List.getElem?_drop]

/-- **What trimmed lines declare** is what the lines declare themselves, if no method among it has
blanks behind its brace. -/
theorem FromLines.of_map_trim (h : FromLines inClass ignored n count lines ds)
    (hlines : lines = text.map trim)
    (hbrace : ∀ i line, text[i]? = some line → n + i ∈ linesOf ds → ¬ BlanksBehindBrace line) :
    FromLines inClass ignored n count text ds := by
  induction h generalizing text with
  | done h => exact .done (h.imp_right fun hnil => List.map_eq_nil_iff.1 (hlines.symm.trans hnil))
  | @pass inClass _ _ _ _ _ _ _ hread _ ih =>
    obtain ⟨first, rest, rfl, rfl, rfl⟩ := List.map_eq_cons_iff.1 hlines.symm
    refine .pass ?_ (ih rfl (forall_getElem?_drop hbrace (fun _ hl => hl) 0))
    rcases LineReading.ofLines_map_trim_cases first rest with heq | ⟨-, hother, name, last, htrim⟩
    · rwa [heq] at hread
    · -- Outside of a class the header of a method declares nothing either.
      rw [htrim] at hread
      rw [hother]
      cases inClass with
      | true => exact absurd hread (by simp [LineReading.passed?])
      | false => exact hread
  | cls hread hopening hclosing _ _ ihmembers ihrest =>
    obtain ⟨first, rest, rfl, rfl, rfl⟩ := List.map_eq_cons_iff.1 hlines.symm
    rcases LineReading.ofLines_map_trim_cases first rest with heq | ⟨-, -, name, last, htrim⟩
    · rw [heq] at hread
      refine .cls hread hopening hclosing
        (ihmembers List.map_drop.symm (forall_getElem?_drop hbrace (fun l hl => ?_) _))
        (ihrest List.map_drop.symm (forall_getElem?_drop hbrace (fun l hl => ?_) _))
      · exact List.mem_append_left _ (List.mem_cons_of_mem _ hl)
      · exact List.mem_append_right _ hl
    · exact absurd (hread.symm.trans htrim) (by simp)
  | method hread hlast _ ih =>
    obtain ⟨first, rest, rfl, rfl, rfl⟩ := List.map_eq_cons_iff.1 hlines.symm
    have hfirst : ¬ BlanksBehindBrace first := hbrace 0 first rfl List.mem_cons_self
    rw [LineReading.ofLines_map_trim hfirst] at hread
    refine .method hread hlast
      (ih List.map_drop.symm (forall_getElem?_drop hbrace (fun l hl => ?_) _))
    exact List.mem_cons_of_mem _ hl

end Declaration

/-! ### Stripped sources -/

/-- The source without the blanks at both ends of every line. -/
def stripped (source : String) : String :=
  String.ofList (join ['\n'] ((sourceLines source).map trim))

theorem sourceLines_stripped (source : String) :
    sourceLines (stripped source) = (sourceLines source).map trim := by
  refine sourceLines_join (mt List.map_eq_nil_iff.1 (pieces_ne_nil _)) fun line hl => ?_
  obtain ⟨line, hline, rfl⟩ := List.mem_map.1 hl
  obtain ⟨x, y, -, -, happ⟩ := exists_append_trim_append line
  have hmem {c : Char} (hc : c ∈ trim line) : c ∈ line := by
    rw [happ]
    exact List.mem_append_right _ (List.mem_append_left _ hc)
  obtain ⟨hn, hr⟩ := not_mem_of_mem_sourceLines hline
  exact ⟨mt hmem hn, mt hmem hr⟩

/-- No method has blanks behind its brace: the methods are those of the stripped source, the blanks
are those of the source itself. -/
def BracesEndLines (source : String) : Prop :=
  ∀ k ∈ Declaration.linesOf (Declaration.ofSource (stripped source)), ∀ line,
    (sourceLines source)[k]? = some line → ¬ BlanksBehindBrace line

/-- **When blanks around lines do not matter** for what a source declares. -/
theorem Declaration.ofSource_stripped_iff (source : String) :
    ofSource (stripped source) = ofSource source ↔ BracesEndLines source := by
  have hfrom (source : String) : FromLines false false 0 (sourceLines source).length
      (sourceLines source) (ofSource source) := fromLines_ofLines (IsScope.file _)
  constructor
  · intro heq k hk line hline hbrace
    rw [heq] at hk
    obtain ⟨i, hi, rfl, hheader⟩ := (hfrom source).exists_isHeader hk
    rw [Nat.zero_add] at hline
    obtain ⟨_, hget⟩ := List.getElem?_eq_some_iff.1 hline
    rw [List.drop_eq_getElem_cons hi, hget,
      LineReading.ofLines_of_blanksBehindBrace hbrace] at hheader
    split at hheader <;> exact hheader
  · intro h
    have hstripped := hfrom (stripped source)
    rw [sourceLines_stripped, List.length_map] at hstripped
    refine (hstripped.of_map_trim rfl fun i line hline hmem => ?_).eq.symm
    rw [Nat.zero_add] at hmem
    exact h i hmem line hline

/-- **Blanks around lines do not matter** for the outline of a source in which no method has blanks
behind its brace. -/
theorem outline_stripped (source : String) (h : BracesEndLines source) :
    outline (stripped source) = outline source := by
  rw [outline, (Declaration.ofSource_stripped_iff source).2 h, ← outline]

/-- A source with blanks around most lines, one of them behind the brace of a class. -/
def indentedSource : String := "class A \x7b  \n\tM() \x7b\n\t\x7d \n  N() => 1\t\n\x7d\n"

theorem outline_stripped_indentedSource : BracesEndLines indentedSource ∧
    stripped indentedSource = "class A \x7b\nM() \x7b\n\x7d\nN() => 1\n\x7d\n" ∧
    TestClass.linesOf (outline indentedSource) = [some 0, some 1, some 3] ∧
    outline (stripped indentedSource) = outline indentedSource := by
  have hlines : ∀ line ∈ sourceLines indentedSource,
      MethodHeader.ofLine? (trim line) = MethodHeader.ofLine? line :=
    forall_mem_of_all (by decide)
  have hbraces : BracesEndLines indentedSource := fun _ _ line hline =>
    (MethodHeader.ofLine?_trim_iff line).1 (hlines line (List.mem_of_getElem? hline))
  exact ⟨hbraces, by decide, by decide +kernel, outline_stripped indentedSource hbraces⟩

/-- A source with a blank behind the brace of its only method. -/
def blankSource : String := "class A \x7b\n    Test() \x7b \n    \x7d\n\x7d\n"

/-- The method is not found, and so the class is not either. Without the blank both are. -/
theorem outline_stripped_blankSource : outline blankSource = [] ∧
    TestClass.linesOf (outline (stripped blankSource)) = [some 0, some 1] ∧
    outline (stripped blankSource) ≠ outline blankSource := by
  have hempty : outline blankSource = [] := List.isEmpty_iff.1 (by decide +kernel)
  have hstripped : TestClass.linesOf (outline (stripped blankSource)) = [some 0, some 1] := by
    decide +kernel
  refine ⟨hempty, hstripped, fun h => ?_⟩
  rw [h, hempty] at hstripped
  exact absurd hstripped (by decide)

end ScriptSuite
