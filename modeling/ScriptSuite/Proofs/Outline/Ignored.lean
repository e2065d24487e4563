import ScriptSuite.Outline.Basic
import ScriptSuite.Proofs.Outline.Insertion
import ScriptSuite.Proofs.Outline.Reading
import ScriptSuite.Proofs.Text.Lines

/-!
# One more directive

A directive is put in front of a line on which something is declared. Everything else has to be as
before: the brace of a header above is still found or not found, the end of every block moves with
its line, and the directive counts for the declaration behind it alone. So the declarations are the
old ones, with one of them marked as left out, and the outline is the old one without this one and
without the classes that hold no test any more.

Taking a class or a method out of a forest may leave classes that hold no test. It does not matter
whether classes without tests are dropped before, since dropping them once more afterwards gives the
same forest.

## Main definitions

* `TestClass.withoutAll`: the forest without what is declared on a line
* `TestClass.renumberedAll`: the forest once a line was put in
* `Declaration.marked`: the declaration once a directive was put in
* `withDirective`: the source with one more directive

## Main results

* `TestClass.prune_withoutAll_prune`: classes without tests need only be dropped in the end
* `TestClass.prune_renumberedAll`: the numbers of lines do not matter for it
* `Declaration.FromLines.insert_directive`, `Declaration.ofSource_withDirective`: the declarations
  of such a source
* `Declaration.testClasses_markedAll`: the classes of these declarations
* `TestClass.outline_withDirective`: the outline of such a source
-/

namespace ScriptSuite

/-- The number of a line once another one was put in front of line `k`. -/
def renumber (k : UInt32) (line : Option UInt32) : Option UInt32 :=
  line.map fun n => if n < k then n else n + 1

/-- The method once a line was put in front of line `k`. -/
def TestMethod.renumbered (k : UInt32) (t : TestMethod) : TestMethod :=
  { t with line := renumber k t.line }

namespace TestClass

mutual

/-- The class without the methods on a line and without the nested classes that begin on it. -/
def without (l : Option UInt32) : TestClass → TestClass
  | mk name line methods children =>
    mk name line (methods.filter fun t => t.line ≠ l) (withoutAll l children)

/-- The forest without the methods on a line and without the classes that begin on it, and without
all that is in them. -/
def withoutAll (l : Option UInt32) : List TestClass → List TestClass
  | [] => []
  | c :: rest => if c.line = l then withoutAll l rest else c.without l :: withoutAll l rest

end

mutual

/-- The class once a line was put in front of line `k`. -/
def renumbered (k : UInt32) : TestClass → TestClass
  | mk name line methods children =>
    mk name (renumber k line) (methods.map (TestMethod.renumbered k)) (renumberedAll k children)

/-- The forest once a line was put in front of line `k`. -/
def renumberedAll (k : UInt32) : List TestClass → List TestClass
  | [] => []
  | c :: rest => c.renumbered k :: renumberedAll k rest

end

variable {k : UInt32} {l : Option UInt32}

/-! ### Dropping classes without tests -/

theorem line_pruned (c : TestClass) : c.pruned.line = c.line := by
  cases c
  rfl

/-- A class with nothing in it has nothing in it when something is taken out of it. -/
theorem isEmpty_without {c : TestClass}
    (h : (c.pruned.methods.isEmpty && c.pruned.children.isEmpty) = true) :
    ((c.pruned.without l).pruned.methods.isEmpty &&
      (c.pruned.without l).pruned.children.isEmpty) = true := by
  cases hc : c.pruned with
  | mk name line methods children =>
    rw [hc, Bool.and_eq_true, List.isEmpty_iff, List.isEmpty_iff] at h
    obtain ⟨rfl, rfl⟩ : methods = [] ∧ children = [] := h
    rfl

mutual

theorem pruned_without_pruned (c : TestClass) :
    (c.pruned.without l).pruned = (c.without l).pruned := by
  cases c with
  | mk name line methods children =>
    rw [pruned, without, without, pruned, pruned, prune_withoutAll_prune children]

/-- **Classes without tests need only be dropped in the end.** -/
theorem prune_withoutAll_prune (cs : List TestClass) :
    prune (withoutAll l (prune cs)) = prune (withoutAll l cs) := by
  cases cs with
  | nil => rfl
  | cons c rest =>
    have hc := pruned_without_pruned c
    have hrest := prune_withoutAll_prune rest
    by_cases hline : c.line = l
    · rw [prune, withoutAll, if_pos hline]
      split
      · exact hrest
      · rw [withoutAll, line_pruned, if_pos hline, hrest]
    · rw [prune, withoutAll, if_neg hline]
      split
      · next hempty => rw [prune, ← hc, if_pos (isEmpty_without hempty), hrest]
      · rw [withoutAll, line_pruned, if_neg hline, prune, prune, hc, hrest]

end

mutual

theorem pruned_renumbered (c : TestClass) : (c.renumbered k).pruned = c.pruned.renumbered k := by
  cases c with
  | mk name line methods children =>
    rw [renumbered, pruned, pruned, renumbered, prune_renumberedAll children]

/-- **The numbers of lines do not matter** for which classes hold tests. -/
theorem prune_renumberedAll (cs : List TestClass) :
    prune (renumberedAll k cs) = renumberedAll k (prune cs) := by
  cases cs with
  | nil => rfl
  | cons c rest =>
    have hempty : ((c.renumbered k).pruned.methods.isEmpty &&
        (c.renumbered k).pruned.children.isEmpty) =
          (c.pruned.methods.isEmpty && c.pruned.children.isEmpty) := by
      rw [pruned_renumbered c]
      cases c.pruned with
      | mk name line methods children =>
        cases methods <;> cases children <;> rfl
    rw [renumberedAll, prune, prune, hempty, prune_renumberedAll rest, pruned_renumbered c]
    split
    · rfl
    · rw [renumberedAll]

end

end TestClass

end ScriptSuite

namespace ScriptSuite

open Text

variable {inClass ignored ignored' : Bool} {n k count : Nat} {m first line : List Char}
  {a text rest : List (List Char)} {ds : List Declaration}

namespace Declaration

/-! ### Marking -/

mutual

/-- The declaration once a directive was put in front of line `k`: what was declared on that line is
left out. -/
def marked (k : Nat) : Declaration → Declaration
  | method name line ignored => method name (moved k line) (ignored || line == k)
  | cls name line ignored members =>
    cls name (moved k line) (ignored || line == k) (markedAll k members)

/-- The declarations once a directive was put in front of line `k`. -/
def markedAll (k : Nat) : List Declaration → List Declaration
  | [] => []
  | d :: rest => d.marked k :: markedAll k rest

end

theorem marked_method_of_ne {name : String} (h : n ≠ k) :
    (method name n ignored).marked k = method name (moved k n) ignored := by
  rw [marked, beq_false_of_ne h, Bool.or_false]

theorem marked_cls_of_ne {name : String} {members : List Declaration} (h : n ≠ k) :
    (cls name n ignored members).marked k =
      cls name (moved k n) ignored (markedAll k members) := by
  rw [marked, beq_false_of_ne h, Bool.or_false]

namespace FromLines

/-- What is declared below line `k` is moved by one line. -/
theorem succ (h : FromLines inClass ignored n count text ds) (hk : k < n) :
    FromLines inClass ignored (n + 1) count text (markedAll k ds) := by
  induction h with
  | done h => exact .done h
  | pass hread _ ih => exact .pass hread (ih (by omega))
  | cls hread hopening hclosing _ _ ihmembers ihrest =>
    rw [markedAll, marked_cls_of_ne (by omega), moved_of_le (by omega)]
    exact .cls hread hopening hclosing ((ihmembers (by omega)).of_eq (by omega) rfl rfl)
      ((ihrest (by omega)).of_eq (by omega) rfl rfl)
  | method hread hlast _ ih =>
    rw [markedAll, marked_method_of_ne (by omega), moved_of_le (by omega)]
    exact .method hread hlast ((ih (by omega)).of_eq (by omega) rfl rfl)

/-- The lines from some line on, above the one that is put in. -/
theorem drop_append {i : Nat} (hi : i ≤ a.length)
    (h : ∀ a', (a ++ line :: rest).drop i = a' ++ line :: rest → a'.length = a.length - i →
      FromLines inClass ignored n count (a' ++ m :: line :: rest) ds) :
    FromLines inClass ignored n count ((a ++ m :: line :: rest).drop i) ds := by
  rw [List.drop_append_of_le_length hi]
  exact h (a.drop i) (List.drop_append_of_le_length hi) List.length_drop

/-- The directive may stand in front of all lines, if something is declared on the first one. -/
theorem insert_in_front (hd : isIgnoreDirective m = true)
    (h : FromLines inClass ignored n count text ds) (hmem : n ∈ linesOf ds) :
    FromLines inClass ignored n (count + 1) (m :: text) (markedAll n ds) := by
  have hpass : (LineReading.ofLines (m :: text)).passed? inClass ignored = some true := by
    rw [LineReading.ofLines, if_pos hd]
    rfl
  refine .pass hpass ?_
  cases h with
  | done => exact absurd hmem List.not_mem_nil
  | pass _ hrest =>
    obtain ⟨i, -, hi, -⟩ := hrest.exists_isHeader hmem
    omega
  | cls hread hopening hclosing hmembers hrest =>
    rw [markedAll, marked, moved_of_le (Nat.le_refl _), beq_self_eq_true, Bool.or_true]
    exact .cls hread hopening hclosing ((hmembers.succ (by omega)).of_eq (by omega) rfl rfl)
      ((hrest.succ (by omega)).of_eq (by omega) rfl rfl)
  | method hread hlast hrest =>
    rw [markedAll, marked, moved_of_le (Nat.le_refl _), beq_self_eq_true, Bool.or_true]
    exact .method hread hlast ((hrest.succ (by omega)).of_eq (by omega) rfl rfl)

end FromLines

/-! ### One more line -/

section Insert

variable (hm : Braceless m) (hsearch : EndsSearch m) (hline : EndsSearch line)

include hm hsearch hline

theorem passed?_insert
    (h : (LineReading.ofLines (first :: (a ++ line :: rest))).passed? inClass ignored =
      some ignored') :
    (LineReading.ofLines (first :: (a ++ m :: line :: rest))).passed? inClass ignored =
      some ignored' := by
  rw [LineReading.ofLines_insert hm hsearch hline rfl, ← h]
  cases LineReading.ofLines (first :: (a ++ line :: rest)) <;> rfl

namespace FromLines

/-- A line that is put in below a scope does not matter. -/
theorem insert_below (h : FromLines inClass ignored n count text ds)
    (htext : text = a ++ line :: rest) (hk : k = n + a.length)
    (hcount : count = 0 ∨ count < a.length) :
    FromLines inClass ignored n count (a ++ m :: line :: rest) (markedAll k ds) := by
  induction h generalizing a with
  | done h =>
    refine .done (h.imp_right ?_)
    rintro rfl
    exact absurd htext (by simp)
  | pass hread _ ih =>
    rcases List.cons_eq_append_iff.1 htext with ⟨rfl, -⟩ | ⟨a, rfl, rfl⟩
    · exact absurd hcount (by simp)
    rw [List.length_cons] at hk hcount
    exact .pass (passed?_insert hm hsearch hline hread) (ih rfl (by omega) (by omega))
  | cls hread hopening hclosing _ _ ihmembers ihrest =>
    rcases List.cons_eq_append_iff.1 htext with ⟨rfl, -⟩ | ⟨a, rfl, rfl⟩
    · exact absurd hcount (by simp)
    rw [List.length_cons] at hk hcount
    have hread := LineReading.ofLines_insert hm hsearch hline hread
    rw [LineReading.moved, Block.moved_of_closing_lt hopening (by omega)] at hread
    rw [markedAll, marked_cls_of_ne (by omega), moved_of_lt (by omega)]
    refine .cls hread hopening hclosing
      (drop_append (by omega) fun a' htext hlength => ?_)
      (drop_append (by omega) fun a' htext hlength => ?_)
    · exact ihmembers htext (by omega) (by omega)
    · exact ihrest htext (by omega) (by omega)
  | method hread hlast _ ih =>
    rcases List.cons_eq_append_iff.1 htext with ⟨rfl, -⟩ | ⟨a, rfl, rfl⟩
    · exact absurd hcount (by simp)
    rw [List.length_cons] at hk hcount
    have hread := LineReading.ofLines_insert hm hsearch hline hread
    rw [LineReading.moved, moved_of_lt (by omega)] at hread
    rw [markedAll, marked_method_of_ne (by omega), moved_of_lt (by omega)]
    refine .method hread hlast (drop_append (by omega) fun a' htext hlength => ?_)
    exact ih htext (by omega) (by omega)

/-- **A directive in front of a declaration** leaves this declaration out, and nothing else. -/
theorem insert_directive (hd : isIgnoreDirective m = true)
    (h : FromLines inClass ignored n count text ds) (htext : text = a ++ line :: rest)
    (hk : k = n + a.length) (hmem : k ∈ linesOf ds) :
    FromLines inClass ignored n (count + 1) (a ++ m :: line :: rest) (markedAll k ds) := by
  induction h generalizing a with
  | done => exact absurd hmem List.not_mem_nil
  | pass hread hrest ih =>
    rcases List.cons_eq_append_iff.1 htext with ⟨rfl, hfront⟩ | ⟨a, rfl, rfl⟩
    · obtain rfl : k = _ := hk
      rw [List.nil_append, hfront]
      exact (FromLines.pass hread hrest).insert_in_front hd hmem
    rw [List.length_cons] at hk
    exact .pass (passed?_insert hm hsearch hline hread) (ih rfl (by omega) hmem)
  | @cls _ _ n _ _ _ _ block members _ hread hopening hclosing hmembers hrest ihmembers ihrest =>
    rcases List.cons_eq_append_iff.1 htext with ⟨rfl, hfront⟩ | ⟨a, rfl, rfl⟩
    · obtain rfl : k = _ := hk
      rw [List.nil_append, hfront]
      exact (FromLines.cls hread hopening hclosing hmembers hrest).insert_in_front hd hmem
    rw [List.length_cons] at hk
    have hread := LineReading.ofLines_insert hm hsearch hline hread
    rw [LineReading.moved] at hread
    rw [linesOf, lines, List.cons_append, List.mem_cons, List.mem_append] at hmem
    rcases hmem with hmem | hmem | hmem
    · omega
    · -- The directive stands between the braces of the class, so the class ends one line later.
      obtain ⟨i, hi, hki, -⟩ := hmembers.exists_isHeader hmem
      have hblock : block.moved (a.length + 1) = ⟨block.opening, block.closing + 1⟩ := by
        rw [Block.moved, moved_of_lt (by omega), moved_of_le (by omega)]
      rw [hblock] at hread
      rw [markedAll, marked_cls_of_ne (by omega), moved_of_lt (by omega)]
      have hmembers : FromLines true false (n + block.opening + 1)
          (block.closing + 1 - block.opening - 1) ((a ++ m :: line :: rest).drop block.opening)
          (markedAll k members) := by
        refine drop_append (by omega) fun a' htext hlength => ?_
        exact (ihmembers htext (by omega) hmem).of_eq rfl (by omega) rfl
      exact .cls hread (Nat.le_succ_of_le hopening) (Nat.succ_le_succ hclosing) hmembers
        ((hrest.succ (by omega)).of_eq (Nat.add_right_comm _ _ _)
          (Nat.add_sub_add_right _ _ _).symm (drop_insert (by omega)).symm)
    · -- The class ends in front of the directive.
      obtain ⟨i, hi, hki, -⟩ := hrest.exists_isHeader hmem
      rw [Block.moved_of_closing_lt hopening (by omega)] at hread
      rw [markedAll, marked_cls_of_ne (by omega), moved_of_lt (by omega)]
      refine .cls hread hopening (Nat.le_succ_of_le hclosing)
        (drop_append (by omega) fun a' htext hlength => ?_)
        (drop_append (by omega) fun a' htext hlength => ?_)
      · exact hmembers.insert_below hm hsearch hline htext (by omega) (by omega)
      · exact (ihrest htext (by omega) hmem).of_eq rfl (by omega) rfl
  | method hread hlast hrest ih =>
    rcases List.cons_eq_append_iff.1 htext with ⟨rfl, hfront⟩ | ⟨a, rfl, rfl⟩
    · obtain rfl : k = _ := hk
      rw [List.nil_append, hfront]
      exact (FromLines.method hread hlast hrest).insert_in_front hd hmem
    rw [List.length_cons] at hk
    rw [linesOf, lines, List.singleton_append, List.mem_cons] at hmem
    rcases hmem with hmem | hmem
    · omega
    obtain ⟨i, hi, hki, -⟩ := hrest.exists_isHeader hmem
    have hread := LineReading.ofLines_insert hm hsearch hline hread
    rw [LineReading.moved, moved_of_lt (by omega)] at hread
    rw [markedAll, marked_method_of_ne (by omega), moved_of_lt (by omega)]
    refine .method hread (Nat.le_succ_of_le hlast)
      (drop_append (by omega) fun a' htext hlength => ?_)
    exact (ih htext (by omega) hmem).of_eq rfl (by omega) rfl

end FromLines

end Insert

/-! ### The outline of marked declarations -/

section Outline

variable {k : UInt32}

theorem beq_toNat_eq (h : n < UInt32.size) :
    (n == k.toNat) = decide (lineNumber? n = some k) := by
  rw [lineNumber?_of_lt h, Bool.eq_iff_iff, beq_iff_eq, decide_eq_true_iff, Option.some_inj,
    ← UInt32.toNat_inj, UInt32.toNat_ofNat_of_lt' h]

theorem renumber_lineNumber? (h : n + 1 < UInt32.size) :
    renumber k (lineNumber? n) = lineNumber? (moved k.toNat n) := by
  have hn : n < UInt32.size := Nat.lt_of_succ_lt h
  have hlt : UInt32.ofNat n < k ↔ n < k.toNat := by
    rw [UInt32.lt_iff_toNat_lt, UInt32.toNat_ofNat_of_lt' hn]
  rw [lineNumber?_of_lt hn, renumber, Option.map_some]
  by_cases hk : n < k.toNat
  · rw [if_pos (hlt.2 hk), moved_of_lt hk, lineNumber?_of_lt hn]
  · rw [if_neg (mt hlt.1 hk), moved_of_le (Nat.le_of_not_lt hk), lineNumber?_of_lt h,
      UInt32.ofNat_add]
    rfl

theorem testMethod?_marked {d : Declaration} (h : ∀ l ∈ d.lines, l + 1 < UInt32.size) :
    testMethod? (d.marked k.toNat) =
      ((testMethod? d).filter fun t => t.line ≠ some k).map (TestMethod.renumbered k) := by
  cases d with
  | cls => rfl
  | method name n ignored =>
    have hn : n + 1 < UInt32.size := h n List.mem_cons_self
    rw [marked, testMethod?, testMethod?, ← renumber_lineNumber? hn,
      beq_toNat_eq (Nat.lt_of_succ_lt hn)]
    cases ignored with
    | true => rfl
    | false =>
      by_cases hprivate : name.toList.head? = some '_'
      · simp [hprivate]
      · by_cases hk : lineNumber? n = some k <;>
          simp [hprivate, hk, Option.filter_some, TestMethod.renumbered]

theorem filterMap_testMethod?_markedAll (h : ∀ l ∈ linesOf ds, l + 1 < UInt32.size) :
    (markedAll k.toNat ds).filterMap testMethod? =
      ((ds.filterMap testMethod?).filter fun t => t.line ≠ some k).map
        (TestMethod.renumbered k) := by
  induction ds with
  | nil => rfl
  | cons d rest ih =>
    rw [linesOf, List.forall_mem_append] at h
    rw [markedAll, List.filterMap_cons, List.filterMap_cons, testMethod?_marked h.1, ih h.2]
    cases testMethod? d with
    | none => rfl
    | some t => by_cases ht : t.line = some k <;> simp [ht, Option.filter_some]

mutual

theorem testClass?_marked (d : Declaration) (h : ∀ l ∈ d.lines, l + 1 < UInt32.size) :
    testClass? (d.marked k.toNat) =
      ((testClass? d).filter fun c => c.line ≠ some k).map fun c =>
        (c.without (some k)).renumbered k := by
  cases d with
  | method => rfl
  | cls name n ignored members =>
    rw [lines, List.forall_mem_cons] at h
    rw [marked, testClass?, testClass?, ← renumber_lineNumber? h.1,
      beq_toNat_eq (Nat.lt_of_succ_lt h.1), filterMap_testMethod?_markedAll h.2,
      testClasses_markedAll members h.2]
    cases ignored with
    | true => rfl
    | false =>
      by_cases hk : lineNumber? n = some k <;>
        simp [hk, Option.filter_some, TestClass.line, TestClass.without, TestClass.renumbered]

/-- **The classes of marked declarations** are the classes without what was marked. -/
theorem testClasses_markedAll (ds : List Declaration)
    (h : ∀ l ∈ linesOf ds, l + 1 < UInt32.size) :
    testClasses (markedAll k.toNat ds) =
      TestClass.renumberedAll k (TestClass.withoutAll (some k) (testClasses ds)) := by
  cases ds with
  | nil => rfl
  | cons d rest =>
    rw [linesOf, List.forall_mem_append] at h
    rw [markedAll, testClasses, testClasses, testClass?_marked d h.1,
      testClasses_markedAll rest h.2]
    cases testClass? d with
    | none => rfl
    | some c =>
      by_cases hc : c.line = some k <;>
        simp [hc, Option.filter_some, TestClass.withoutAll, TestClass.renumberedAll]

end

end Outline

end Declaration

/-! ### One more directive in a source -/

/-- The source with a directive on a line of its own, in front of line `k`. -/
def withDirective (source : String) (k : Nat) : String :=
  String.ofList (insertLine ignoreMarker.toList k source.toList)

theorem sourceLines_withDirective {source : String} (hk : k < (sourceLines source).length) :
    sourceLines (withDirective source k) =
      (sourceLines source).take k ++ ignoreMarker.toList :: (sourceLines source).drop k := by
  rw [sourceLines, withDirective, String.toList_ofList]
  exact pieces_unifyBreaks_insertLine (by decide) (by decide) (by decide) hk

/-- The declarations of a source with a directive in front of one of them. -/
theorem Declaration.ofSource_withDirective {source : String} (hk : k ∈ linesOf (ofSource source)) :
    ofSource (withDirective source k) = markedAll k (ofSource source) := by
  have hreads : FromLines false false 0 (sourceLines source).length (sourceLines source)
      (ofSource source) := fromLines_ofLines (IsScope.file _)
  obtain ⟨i, hi, rfl, hheader⟩ := hreads.exists_isHeader hk
  rw [Nat.zero_add] at hk ⊢
  have hdrop := List.drop_eq_getElem_cons hi
  rw [hdrop] at hheader
  have hsearch : EndsSearch ignoreMarker.toList :=
    endsSearch_of_head? (c := ';') (by decide) (by decide)
  have hlength : ((sourceLines source).take i).length = i := by
    rw [List.length_take, Nat.min_eq_left (Nat.le_of_lt hi)]
  have hmarked := hreads.insert_directive (by decide) hsearch
    (LineReading.endsSearch_of_isHeader hheader) (by decide)
    (by rw [← hdrop, List.take_append_drop]) (by rw [hlength, Nat.zero_add]) hk
  rw [← hdrop, ← sourceLines_withDirective hi] at hmarked
  have hcount :
      (sourceLines (withDirective source i)).length = (sourceLines source).length + 1 := by
    rw [sourceLines_withDirective hi, List.length_append, List.length_cons, List.length_drop,
      hlength]
    omega
  rw [ofSource, hcount]
  exact hmarked.eq

namespace TestClass

variable {source : String} {k : UInt32}

/-- What an outline says to be on a line is declared there. -/
theorem toNat_mem_linesOf_ofSource (hsize : (sourceLines source).length < UInt32.size)
    (hk : some k ∈ linesOf (outline source)) :
    k.toNat ∈ Declaration.linesOf (Declaration.ofSource source) := by
  rw [outline, Declaration.prune_testClasses_eq_filterMap, linesOf_eq_flatMap,
    List.mem_flatMap] at hk
  obtain ⟨c, hc, hk⟩ := hk
  obtain ⟨d, hd, hc⟩ := List.mem_filterMap.1 hc
  obtain ⟨n, hn, hline⟩ := exists_of_mem_lines hc hk
  have hmem : n ∈ Declaration.linesOf (Declaration.ofSource source) := by
    rw [Declaration.linesOf_eq_flatMap]
    exact List.mem_flatMap.2 ⟨d, hd, hn⟩
  have hlt := (ascendsIn_ofSource (Nat.le_of_lt hsize)).lt n hmem
  have hkn : (n == k.toNat) = true := by
    rw [Declaration.beq_toNat_eq hlt, ← hline, decide_eq_true rfl]
  rwa [← eq_of_beq hkn]

theorem nodup_linesOf_outline (hsize : (sourceLines source).length ≤ UInt32.size) :
    (linesOf (outline source)).Nodup := by
  refine nodup_linesOf (fun c hc => nodup_lines_of_within (fun d hd => ?_) (Within.root hc)) ?_
  · obtain ⟨e, hlines, he⟩ := hd.exists_outlined? hsize
    exact Declaration.isOrdered_of_outlined? hlines he
  · rw [outline, Declaration.prune_testClasses_eq_filterMap]
    exact Declaration.pairwise_outlined (ascendsIn_ofSource hsize)

/-- **A directive leaves out one declaration and nothing else.** If a class or a method of the
outline is declared on a line, it is the only one. With a directive in front of this line, the
outline is the one without the class or the method and without the classes that hold no test any
more, and what is declared further below is one line further below. -/
theorem outline_withDirective (source : String) (k : UInt32)
    (hsize : (sourceLines source).length < UInt32.size)
    (hk : some k ∈ linesOf (outline source)) :
    (linesOf (outline source)).count (some k) = 1 ∧
      outline (withDirective source k.toNat) =
        renumberedAll k (prune (withoutAll (some k) (outline source))) := by
  have hnodup := nodup_linesOf_outline (Nat.le_of_lt hsize)
  refine ⟨by rw [hnodup.count, if_pos hk], ?_⟩
  have hlines : ∀ l ∈ Declaration.linesOf (Declaration.ofSource source), l + 1 < UInt32.size := by
    intro l hl
    have hlt := (Declaration.ascendsIn_ofLines (IsScope.file (sourceLines source))).lt l hl
    omega
  rw [outline, Declaration.ofSource_withDirective (toNat_mem_linesOf_ofSource hsize hk),
    Declaration.testClasses_markedAll _ hlines, prune_renumberedAll, outline,
    prune_withoutAll_prune]

/-- A class with a method and two classes, the first one opened on a line of its own. -/
def nestedSource : String :=
  "class A \x7b\n    class B\n\n    \x7b\n        M() => 1\n    \x7d\n    N()\n" ++
    "    class C \x7b\n        K()\n    \x7d\n\x7d\n"

/-- Without its only method the first class goes, too. -/
theorem outline_withDirective_nestedSource :
    (sourceLines nestedSource).length < UInt32.size ∧
      some 4 ∈ linesOf (outline nestedSource) ∧
      linesOf (outline nestedSource) = [some 0, some 6, some 1, some 4, some 7, some 8] ∧
      linesOf (outline (withDirective nestedSource 4)) = [some 0, some 7, some 8, some 9] := by
  have hsize : (sourceLines nestedSource).length < UInt32.size := by decide +kernel
  have hlines : linesOf (outline nestedSource) =
      [some 0, some 6, some 1, some 4, some 7, some 8] := by decide +kernel
  have hk : some 4 ∈ linesOf (outline nestedSource) := by
    rw [hlines]
    decide
  have hwith := (outline_withDirective nestedSource 4 hsize hk).2
  refine ⟨hsize, hk, hlines, ?_⟩
  show linesOf (outline (withDirective nestedSource (4 : UInt32).toNat)) = _
  rw [hwith]
  decide +kernel

end TestClass

end ScriptSuite
