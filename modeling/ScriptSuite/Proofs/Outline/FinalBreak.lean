import ScriptSuite.Proofs.Outline.EmptyLine
import ScriptSuite.Proofs.Text.Lines

/-!
# A line break at the end of a source

A line break at the end of a source adds an empty line. It matters for a class that no brace closes:
its block runs to the last line, and its members are those in front of the line that the block ends
with. So such a class has the last line of the source taken away, unless there is an empty line
behind it. If that line declares a test of the class, the test is lost.

## Main definitions

* `Declaration.GainsTest`: the same tests, or one test more
* `endsInTest`: the last line declares a test of a class that no brace closes
* `Declaration.FromExtended`: what the lines up to the end of a file declare with an empty line
  behind them

## Main results

* `Declaration.FromLines.fromExtended`: how the declarations with the empty line differ
* `outline_append_newline_iff`: when a line break at the end changes an outline
-/

namespace ScriptSuite

open Text

variable {inClass ignored ignored' : Bool} {n count : Nat} {first : List Char}
  {lines text rest : List (List Char)} {block : Block} {ds ds' : List Declaration}

/-! ### Tests among declarations -/

namespace Declaration

variable {d : Declaration} {members members' : List Declaration} {name : String} {more : Bool}

/-- The number of tests in a declaration: a test itself, or a class of tests. -/
def tests (d : Declaration) : Nat :=
  (testMethod? d).toList.length + TestClass.testCountAll (testClass? d).toList

/-- The number of tests in declarations. -/
def testCount (ds : List Declaration) : Nat := ds.foldr (fun d n => d.tests + n) 0

@[simp] theorem testCount_nil : testCount [] = 0 := rfl

theorem testCount_cons : testCount (d :: ds) = d.tests + testCount ds := rfl

theorem testCount_eq (ds : List Declaration) : testCount ds =
    (ds.filterMap testMethod?).length + TestClass.testCountAll (testClasses ds) := by
  induction ds with
  | nil => rfl
  | cons d ds ih =>
    have hmethods : ((d :: ds).filterMap testMethod?).length =
        (testMethod? d).toList.length + (ds.filterMap testMethod?).length := by
      rw [List.filterMap_cons]
      cases testMethod? d with
      | none => exact (Nat.zero_add _).symm
      | some m => exact Nat.add_comm _ 1
    rw [testCount_cons, tests, testClasses, TestClass.testCountAll_append, hmethods, ih]
    omega

theorem tests_cls : tests (.cls name n ignored members) =
    if ignored then 0 else testCount members := by
  rw [tests, testMethod?, testClass?, Option.toList_none, List.length_nil, Nat.zero_add]
  cases ignored with
  | true => rfl
  | false =>
    rw [if_neg Bool.false_ne_true, if_neg Bool.false_ne_true, testCount_eq, Option.toList_some,
      TestClass.testCountAll, TestClass.testCount, TestClass.testCountAll, Nat.add_zero]

theorem outlined?_cls : outlined? (.cls name n ignored members) =
    if ignored ∨ (members.filterMap testMethod? = [] ∧ members.filterMap outlined? = []) then none
    else some (.mk name (lineNumber? n) (members.filterMap testMethod?)
      (members.filterMap outlined?)) := by
  rw [outlined?, testClass?]
  cases ignored with
  | true => rfl
  | false =>
    rw [if_neg Bool.false_ne_true, Option.bind_some, TestClass.pruned,
      prune_testClasses_eq_filterMap]
    simp [TestClass.methods, TestClass.children]

/-- What a class lists is the same for the second declarations: the same tests, and the same
classes of tests. -/
structure SameTests (ds ds' : List Declaration) : Prop where
  /-- The tests themselves are the same. -/
  methods : ds'.filterMap testMethod? = ds.filterMap testMethod?
  /-- The classes among them are the same, apart from those that hold no test. -/
  classes : ds'.filterMap outlined? = ds.filterMap outlined?

/-- The second declarations have the tests of the first ones, or one test more. -/
def GainsTest (more : Bool) (ds ds' : List Declaration) : Prop :=
  if more then testCount ds' = testCount ds + 1 else SameTests ds ds'

namespace GainsTest

theorem refl (ds : List Declaration) : GainsTest false ds ds := ⟨rfl, rfl⟩

theorem cons (d : Declaration) (h : GainsTest more ds ds') :
    GainsTest more (d :: ds) (d :: ds') := by
  cases more with
  | false =>
    have hsame : SameTests ds ds' := h
    exact ⟨by rw [List.filterMap_cons, List.filterMap_cons, hsame.methods],
      by rw [List.filterMap_cons, List.filterMap_cons, hsame.classes]⟩
  | true =>
    have hcount : testCount ds' = testCount ds + 1 := h
    show testCount (d :: ds') = testCount (d :: ds) + 1
    rw [testCount_cons, testCount_cons, hcount, Nat.add_assoc]

/-- A class gains the test of its members, unless it is left out. -/
theorem cls (name : String) (n : Nat) (ignored : Bool) (h : GainsTest more members members') :
    GainsTest (!ignored && more) [.cls name n ignored members] [.cls name n ignored members'] := by
  cases ignored with
  | true =>
    exact ⟨rfl, by simp [outlined?_cls]⟩
  | false =>
    cases more with
    | false =>
      have hsame : SameTests members members' := h
      exact ⟨rfl, by simp only [List.filterMap_cons, outlined?_cls, hsame.methods, hsame.classes]⟩
    | true =>
      have hcount : testCount members' = testCount members + 1 := h
      show testCount _ = testCount _ + 1
      rw [testCount_cons, testCount_cons, tests_cls, tests_cls, if_neg Bool.false_ne_true,
        if_neg Bool.false_ne_true, hcount]
      rfl

end GainsTest

end Declaration

/-! ### The test on the last line -/

/-- Whether the last of some lines declares a test right in a class that no brace closes, where
neither the test nor a class around it is left out. -/
def endsInTest (inClass ignored : Bool) : List (List Char) → Bool
  | [] => false
  | first :: rest =>
    match LineReading.ofLines (first :: rest) with
    | .directive => endsInTest inClass true rest
    | .cls _ block =>
      (!ignored && (!block.isClosed (first :: rest) &&
        endsInTest true false (rest.drop block.opening))) ||
          endsInTest inClass false (rest.drop block.closing)
    | .method name last =>
      if inClass then
        (rest.isEmpty && !(ignored || name.toList.head? = some '_')) ||
          endsInTest true false (rest.drop last)
      else endsInTest inClass ignored rest
    | .other => endsInTest inClass ignored rest
termination_by lines => lines.length
decreasing_by all_goals (simp only [List.length_drop, List.length_cons]; omega)

@[simp] theorem endsInTest_nil : endsInTest inClass ignored [] = false := by
  rw [endsInTest]

theorem endsInTest_of_passed?
    (h : (LineReading.ofLines (first :: rest)).passed? inClass ignored = some ignored') :
    endsInTest inClass ignored (first :: rest) = endsInTest inClass ignored' rest := by
  rw [endsInTest]
  cases hread : LineReading.ofLines (first :: rest) with
  | directive =>
    rw [hread] at h
    obtain rfl := Option.some.inj h
    rfl
  | cls name block => exact absurd h (by simp [hread, LineReading.passed?])
  | method name last =>
    cases inClass with
    | true => exact absurd h (by simp [hread, LineReading.passed?])
    | false =>
      rw [hread] at h
      obtain rfl := Option.some.inj h
      rfl
  | other =>
    rw [hread] at h
    obtain rfl := Option.some.inj h
    rfl

theorem endsInTest_cls {name : String}
    (h : LineReading.ofLines (first :: rest) = .cls name block) :
    endsInTest inClass ignored (first :: rest) =
      ((!ignored && (!block.isClosed (first :: rest) &&
        endsInTest true false (rest.drop block.opening))) ||
          endsInTest inClass false (rest.drop block.closing)) := by
  rw [endsInTest, h]

theorem endsInTest_method {name : String} {last : Nat}
    (h : LineReading.ofLines (first :: rest) = .method name last) :
    endsInTest true ignored (first :: rest) =
      ((rest.isEmpty && !(ignored || name.toList.head? = some '_')) ||
        endsInTest true false (rest.drop last)) := by
  rw [endsInTest, h]
  rfl

/-- Behind an empty line there is no test. -/
theorem endsInTest_of_getLast? (h : ∀ line, lines.getLast? = some line → line = []) :
    endsInTest inClass ignored lines = false := by
  have hdrop {first : List Char} {rest : List (List Char)} (i : Nat)
      (h : ∀ line, (first :: rest).getLast? = some line → line = []) :
      ∀ line, (rest.drop i).getLast? = some line → line = [] := by
    intro line hline
    refine h line ?_
    have hdrop : rest.drop i = (first :: rest).drop (i + 1) := rfl
    rw [hdrop, List.getLast?_drop] at hline
    split at hline
    · exact absurd hline (by simp)
    · exact hline
  fun_induction endsInTest inClass ignored lines with
  | case1 => rfl
  | case2 inClass ignored first rest hread ih => exact ih (hdrop 0 h)
  | case3 inClass ignored first rest name block hread ihmembers ihrest =>
    rw [ihmembers (hdrop block.opening h), ihrest (hdrop block.closing h), Bool.and_false,
      Bool.and_false, Bool.or_false]
  | case4 ignored first rest name last hread ih =>
    rw [ih (hdrop last h), Bool.or_false]
    cases rest with
    | cons line rest => rfl
    | nil =>
      obtain rfl := h first rfl
      have hother : LineReading.ofLines [[]] = .other := LineReading.ofLines_of_isAllBlank rfl
      exact absurd (hother.symm.trans hread) LineReading.noConfusion
  | case5 inClass ignored first rest name last hread hin ih => exact ih (hdrop 0 h)
  | case6 inClass ignored first rest hread ih => exact ih (hdrop 0 h)

namespace Declaration

variable {members members' : List Declaration} {name : String}

namespace FromLines

/-- The last line of a class that no brace closes is read only if there is a line behind it. What it
declares ends on it, so a class there has no members. -/
theorem gainsTest_of_last (h : FromLines true ignored n 1 lines ds)
    (hlines : lines = first :: ([] ++ [[]])) :
    GainsTest (endsInTest true ignored [first]) [] ds := by
  cases h with
  | done h => exact absurd (h.resolve_left Nat.one_ne_zero) (by simp [hlines])
  | @pass _ _ _ _ _ first _ _ hread hrest =>
    obtain ⟨rfl, rfl⟩ := List.cons.inj hlines
    obtain rfl := hrest.eq_nil
    have hread' := (LineReading.ofLines_concat_nil first []).passed?_eq.symm.trans hread
    rw [endsInTest_of_passed? hread', endsInTest_nil]
    exact GainsTest.refl []
  | @cls _ _ _ _ first _ name block members rest hread _ hclosing hmembers hrest =>
    have hcount : block.closing - block.opening - 1 = 0 := by omega
    rw [hcount] at hmembers
    rw [Nat.zero_sub] at hrest
    obtain rfl := hmembers.eq_nil
    obtain rfl := hrest.eq_nil
    obtain ⟨rfl, rfl⟩ := List.cons.inj hlines
    have hends : endsInTest true ignored [first] = false := by
      rcases LineReading.cls_of_concat_nil hread with ⟨hread', -⟩ | ⟨block, hread', -⟩ <;>
        simp [endsInTest_cls hread']
    rw [hends]
    exact ⟨rfl, by simp [outlined?_cls]⟩
  | @method _ _ _ last first _ name _ hread _ hrest =>
    rw [Nat.zero_sub] at hrest
    obtain rfl := hrest.eq_nil
    obtain ⟨rfl, rfl⟩ := List.cons.inj hlines
    have hends : endsInTest true ignored [first] =
        !(ignored || name.toList.head? = some '_') := by
      rcases LineReading.method_of_concat_nil hread with ⟨hread', -⟩ | ⟨hread', -⟩ <;>
        simp [endsInTest_method hread']
    rw [hends, GainsTest, testCount_nil, testCount_cons, tests, testClass?, testMethod?]
    cases hkept : (ignored || decide (name.toList.head? = some '_')) with
    | true => exact ⟨by simp [testMethod?, hkept], by simp [outlined?, testClass?]⟩
    | false => rfl

end FromLines

/-! ### The lines up to the end of a file -/

/-- The declarations `ds'` have the tests of the given lines, and the one on the last of them if
that is a test. In a class that no brace closes this line itself is not read. -/
def FromExtended (inClass ignored : Bool) (n : Nat) (text : List (List Char))
    (ds' : List Declaration) : Prop :=
  ∃ ds, FromLines inClass ignored n (text.length - inClass.toNat) text ds ∧
    GainsTest (endsInTest inClass ignored text) ds ds'

namespace FromExtended

theorem nil : FromExtended inClass ignored n [] [] :=
  ⟨[], .done (Or.inr rfl), by rw [endsInTest_nil]; exact GainsTest.refl []⟩

/-- No line in front of the empty one is read without it. -/
theorem of_length_le (h : FromLines inClass ignored n count lines ds')
    (hlines : lines = text ++ [[]]) (hcount : count = text.length + 1 - inClass.toNat)
    (hle : text.length ≤ inClass.toNat) : FromExtended inClass ignored n text ds' := by
  cases text with
  | nil =>
    rw [hlines] at h
    obtain rfl := h.eq_nil_of_empty
    exact nil
  | cons first rest =>
    refine ⟨[], .done (Or.inl (Nat.sub_eq_zero_of_le hle)), ?_⟩
    cases inClass with
    | false => exact absurd hle (by simp)
    | true =>
      obtain rfl : rest = [] := List.length_eq_zero_iff.1 (by simpa using hle)
      subst hcount
      exact h.gainsTest_of_last hlines

theorem length_cons_sub (h : inClass.toNat ≤ text.length) :
    (first :: text).length - inClass.toNat = text.length - inClass.toNat + 1 := by
  rw [List.length_cons, Nat.sub_add_comm h]

theorem length_drop_sub {i : Nat} (c : Nat) :
    text.length - c - i = (text.drop i).length - c := by
  rw [List.length_drop, Nat.sub_right_comm]

theorem pass (hle : inClass.toNat ≤ text.length)
    (hread : (LineReading.ofLines (first :: text)).passed? inClass ignored = some ignored')
    (h : FromExtended inClass ignored' (n + 1) text ds') :
    FromExtended inClass ignored n (first :: text) ds' := by
  obtain ⟨ds, hfrom, hgain⟩ := h
  refine ⟨ds, ?_, ?_⟩
  · rw [length_cons_sub hle]
    exact .pass hread hfrom
  · rwa [endsInTest_of_passed? hread]

/-- A class that a brace closes has its members without the empty line, too. -/
theorem closedCls (hle : inClass.toNat ≤ text.length)
    (hread : LineReading.ofLines (first :: text) = .cls name block)
    (hclosed : block.isClosed (first :: text) = true)
    (hmembers : FromLines true false (n + block.opening + 1)
      (block.closing - block.opening - 1) (text.drop block.opening) members)
    (hrest : FromExtended inClass false (n + block.closing + 1) (text.drop block.closing) ds') :
    FromExtended inClass ignored n (first :: text) (.cls name n ignored members :: ds') := by
  obtain ⟨ds, hfrom, hgain⟩ := hrest
  have hopens := LineReading.opensIn_of_eq_cls hread
  have hclosing : block.closing < (first :: text).length := hopens.closing_lt_length
  have hclass := inClass.toNat_le
  rw [List.length_cons] at hclosing
  refine ⟨.cls name n ignored members :: ds, ?_, ?_⟩
  · rw [length_cons_sub hle]
    exact .cls hread hopens.opening_le (by omega) hmembers
      (hfrom.of_eq rfl (length_drop_sub _).symm rfl)
  · rw [endsInTest_cls hread, hclosed, Bool.not_true, Bool.false_and, Bool.and_false,
      Bool.false_or]
    exact hgain.cons _

/-- A class that no brace closes is the last thing in a file. -/
theorem openCls (hle : inClass.toNat ≤ text.length)
    (hread : LineReading.ofLines (first :: text) = .cls name block)
    (hopen : block.isClosed (first :: text) = false) (hlast : block.closing = text.length)
    (hmembers : FromExtended true false (n + block.opening + 1) (text.drop block.opening)
      members') :
    FromExtended inClass ignored n (first :: text) [.cls name n ignored members'] := by
  obtain ⟨members, hfrom, hgain⟩ := hmembers
  have hopening := (LineReading.opensIn_of_eq_cls hread).opening_le
  have hclass := inClass.toNat_le
  have hnil : text.drop block.closing = [] := List.drop_eq_nil_of_le (Nat.le_of_eq hlast.symm)
  refine ⟨[.cls name n ignored members], ?_, ?_⟩
  · rw [length_cons_sub hle]
    refine .cls hread hopening (by omega) (hfrom.of_eq rfl ?_ rfl) (.done (Or.inr hnil))
    rw [hlast, List.length_drop, Bool.toNat_true]
  · rw [endsInTest_cls hread, hopen, hnil, endsInTest_nil, Bool.or_false, Bool.not_false,
      Bool.true_and]
    exact hgain.cls name n ignored

theorem method {last : Nat} (hle : true.toNat ≤ text.length)
    (hread : LineReading.ofLines (first :: text) = .method name last) (hlast : last ≤ text.length)
    (h : FromExtended true false (n + last + 1) (text.drop last) ds') :
    FromExtended true ignored n (first :: text) (.method name n ignored :: ds') := by
  obtain ⟨ds, hfrom, hgain⟩ := h
  have hempty : text.isEmpty = false := List.isEmpty_eq_false_iff.2 (List.ne_nil_of_length_pos hle)
  refine ⟨.method name n ignored :: ds, ?_, ?_⟩
  · rw [length_cons_sub hle]
    refine .method hread ?_ (hfrom.of_eq rfl (length_drop_sub _).symm rfl)
    rw [Bool.toNat_true]
    omega
  · rw [endsInTest_method hread, hempty, Bool.false_and, Bool.false_or]
    exact hgain.cons _

end FromExtended

/-- **An empty line at the end of a file** adds at most one test: the one on the last line in front
of it. -/
theorem FromLines.fromExtended (h : FromLines inClass ignored n count lines ds')
    (hlines : lines = text ++ [[]]) (hcount : count = text.length + 1 - inClass.toNat) :
    FromExtended inClass ignored n text ds' := by
  -- The induction stays on scopes that run to the end of the file: all lines of the file, or all
  -- but the last of a class that is not closed. A class that is closed ends before, and its members
  -- are read as in `of_concat_nil_of_lt`.
  induction h generalizing text with
  | done h =>
    refine .of_length_le (.done h) hlines hcount ?_
    have hne := List.append_ne_nil_of_right_ne_nil text (List.cons_ne_nil ([] : List Char) [])
    have hzero := h.resolve_right (hlines ▸ hne)
    omega
  | @pass inClass ignored _ _ _ first _ _ hread hrest ih =>
    by_cases hle : text.length ≤ inClass.toNat
    · exact .of_length_le (.pass hread hrest) hlines hcount hle
    · have hclass := inClass.toNat_le
      obtain ⟨text, rfl, rfl⟩ := exists_cons_of_concat_nil hlines (by omega)
      rw [List.length_cons] at hle hcount
      have hread' := (LineReading.ofLines_concat_nil first text).passed?_eq.symm.trans hread
      exact .pass (by omega) hread' (ih rfl (by omega))
  | @cls inClass ignored n count first _ name block members rest hread hopening hclosing hmembers
      hrest ihmembers ihrest =>
    by_cases hle : text.length ≤ inClass.toNat
    · exact .of_length_le (.cls hread hopening hclosing hmembers hrest) hlines hcount hle
    · have hclass := inClass.toNat_le
      obtain ⟨text, rfl, rfl⟩ := exists_cons_of_concat_nil hlines (by omega)
      rw [List.length_cons] at hle hcount
      rcases LineReading.cls_of_concat_nil hread with
        ⟨hread', hclosed, hend⟩ | ⟨block, hread', hopen, hlast, rfl⟩
      · refine .closedCls (by omega) hread' hclosed ?_ (ihrest (drop_concat_nil hend) ?_)
        · refine hmembers.of_concat_nil_of_lt (drop_concat_nil (by omega)) ?_
          rw [List.length_drop]
          omega
        · rw [List.length_drop]
          omega
      · have hopening' := (LineReading.opensIn_of_eq_cls hread').opening_le
        have hbehind : (text ++ [[]]).drop (text.length + 1) = [] :=
          List.drop_eq_nil_of_le (by simp)
        obtain rfl : rest = [] := (hrest.of_eq rfl rfl hbehind).eq_nil_of_nil
        have hfits : block.opening ≤ text.length := hlast ▸ hopening'
        have hbody : text.length + 1 - block.opening - 1 =
            (text.drop block.opening).length + 1 - true.toNat := by
          rw [List.length_drop, Bool.toNat_true]
          omega
        exact .openCls (by omega) hread' hopen hlast (ihmembers (drop_concat_nil hfits) hbody)
  | @method ignored n count last first _ name rest hread hlast hrest ih =>
    by_cases hle : text.length ≤ true.toNat
    · exact .of_length_le (.method hread hlast hrest) hlines hcount hle
    · obtain ⟨text, rfl, rfl⟩ := exists_cons_of_concat_nil hlines (by omega)
      rw [List.length_cons, Bool.toNat_true] at hle hcount
      have hpos : true.toNat ≤ text.length := by
        rw [Bool.toNat_true]
        omega
      rcases LineReading.method_of_concat_nil hread with ⟨hread', hend⟩ | ⟨hread', rfl⟩
      · refine .method hpos hread' hend (ih (drop_concat_nil hend) ?_)
        rw [List.length_drop, Bool.toNat_true]
        omega
      · have hbehind : (text ++ [[]]).drop (text.length + 1) = [] :=
          List.drop_eq_nil_of_le (by simp)
        obtain rfl : rest = [] := (hrest.of_eq rfl rfl hbehind).eq_nil_of_nil
        refine .method hpos hread' (Nat.le_refl _) ?_
        rw [List.drop_length]
        exact FromExtended.nil

/-- In a file there are no tests around the classes. -/
theorem FromLines.filterMap_testMethod? (h : FromLines inClass ignored n count text ds)
    (hfile : inClass = false) : ds.filterMap testMethod? = [] := by
  induction h with
  | done => rfl
  | pass _ _ ih => exact ih hfile
  | cls _ _ _ _ _ _ ihrest => exact ihrest hfile
  | method => exact absurd hfile Bool.noConfusion

/-! ### Sources -/

/-- The declarations of a source with a line break at the end, beside those of the source. -/
theorem gainsTest_ofSource (source : String) :
    GainsTest (endsInTest false false (sourceLines source)) (ofSource source)
      (ofSource (source ++ "\n")) := by
  rcases sourceLines_append_newline_cases source with hlines | ⟨hlines, lines, hlast⟩
  · have hfrom : FromLines false false 0 (sourceLines (source ++ "\n")).length
        (sourceLines (source ++ "\n")) (ofSource (source ++ "\n")) :=
      fromLines_ofLines (IsScope.file _)
    obtain ⟨ds, hds, hgain⟩ := hfrom.fromExtended hlines (by rw [hlines]; simp)
    obtain rfl : ofSource source = ds := hds.eq
    exact hgain
  · -- The source ends with a carriage return already, and so with an empty line.
    have hends : endsInTest false false (sourceLines source) = false := by
      refine endsInTest_of_getLast? fun line hline => ?_
      rw [hlast, List.getLast?_concat] at hline
      exact (Option.some.inj hline).symm
    have hsame : ofSource (source ++ "\n") = ofSource source := by
      rw [ofSource, ofSource, hlines]
    rw [hends, hsame]
    exact GainsTest.refl _

theorem testCountAll_outline (source : String) :
    TestClass.testCountAll (outline source) = testCount (ofSource source) := by
  have hmethods : (ofSource source).filterMap testMethod? = [] :=
    (fromLines_ofLines (IsScope.file (sourceLines source))).filterMap_testMethod? rfl
  rw [outline, TestClass.testCountAll_prune, testCount_eq, hmethods, List.length_nil,
    Nat.zero_add]

theorem SameTests.outline_eq {source source' : String}
    (h : SameTests (ofSource source) (ofSource source')) : outline source' = outline source := by
  rw [outline, outline, prune_testClasses_eq_filterMap, prune_testClasses_eq_filterMap, h.classes]

end Declaration

/-- **A line break at the end of a source** changes its outline exactly if the last line declares a
test right in a class that no brace closes, and if neither the test nor a class around it is left
out. Then the outline has one test more. -/
theorem outline_append_newline_iff (source : String) :
    (outline (source ++ "\n") = outline source ↔
      endsInTest false false (sourceLines source) = false) ∧
    TestClass.testCountAll (outline (source ++ "\n")) =
      TestClass.testCountAll (outline source) +
        (endsInTest false false (sourceLines source)).toNat := by
  have hgain := Declaration.gainsTest_ofSource source
  cases hends : endsInTest false false (sourceLines source) with
  | false =>
    rw [hends] at hgain
    have hsame : outline (source ++ "\n") = outline source := hgain.outline_eq
    exact ⟨iff_of_true hsame rfl, by rw [hsame]; rfl⟩
  | true =>
    rw [hends] at hgain
    have hmore : TestClass.testCountAll (outline (source ++ "\n")) =
        TestClass.testCountAll (outline source) + 1 := by
      rw [Declaration.testCountAll_outline, Declaration.testCountAll_outline]
      exact hgain
    refine ⟨iff_of_false ?_ Bool.noConfusion, hmore⟩
    intro hsame
    rw [hsame] at hmore
    omega

/-- A source whose only test stands on the last line, in a class that no brace closes. -/
def cutSource : String := "class A \x7b\n    T()"

/-- The test is not found, and so the class is not either. With a line break behind it both are. -/
theorem outline_append_newline_cutSource : outline cutSource = [] ∧
    TestClass.linesOf (outline (cutSource ++ "\n")) = [some 0, some 1] ∧
    outline (cutSource ++ "\n") ≠ outline cutSource := by
  have hempty : outline cutSource = [] := List.isEmpty_iff.1 (by decide +kernel)
  have hbroken : TestClass.linesOf (outline (cutSource ++ "\n")) = [some 0, some 1] := by
    decide +kernel
  refine ⟨hempty, hbroken, fun h => ?_⟩
  rw [h, hempty] at hbroken
  exact absurd hbroken (by decide)

end ScriptSuite
