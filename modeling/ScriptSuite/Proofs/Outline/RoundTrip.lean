import ScriptSuite.Proofs.Outline.LayoutLines

/-!
# Outlines of laid-out test files

The outline of a laid-out test file is the forest that was printed, whatever the layout. Reading
and printing go in step: each printed item is read by one step, which ends at the first line behind
the item, and so the members of a class are read one after the other.

## Main definitions

* `Layout.Members.declarations`: what the printed members declare

## Main results

* `Layout.Method.reading_eq`, `Layout.Class.reading_eq`: what is read on the line of a header
* `Layout.Method.ofLines_append`, `Layout.Class.ofLines_append`: a printed item is read in one step
* `Layout.Members.ofLines_lines`: what is read in the lines of members
* `Layout.File.outline_source`: the outline of a file
-/

namespace ScriptSuite.Layout

open Text

variable {n k : Nat} {inClass : Bool} {rest tail : List (List Char)}

/-! ### Headers -/

theorem Bracing.isIgnoreDirective_onHeader (b : Bracing) :
    isIgnoreDirective b.onHeader = false := by
  rw [onHeader, isIgnoreDirective_append (b.gap.not_mem (by decide))]
  cases b.opens <;> decide

theorem Bracing.isEnding_onHeader (b : Bracing) : ClassHeader.IsEnding b.opens b.onHeader := by
  have h : ClassHeader.IsEnding b.opens (b.gap.text ++ (ClassHeader.brace b.opens ++ [])) :=
    .mk b.gap.blank rfl
  rwa [List.append_nil] at h

theorem Class.isIgnoreDirective_header (c : Class) : isIgnoreDirective c.header = false := by
  rw [header, isIgnoreDirective_append (c.not_mem_front (by decide))]
  exact c.bracing.isIgnoreDirective_onHeader

theorem Class.isWritten_header (c : Class) :
    ClassHeader.IsWritten c.name.text c.bracing.opens c.header := by
  have happ : c.header = c.indent.text ++ ("class".toList ++ (c.gap.text ++ (c.name.text ++
      (Base.text c.base ++ c.bracing.onHeader)))) := by simp [header, front]
  have htail : ClassHeader.IsTail c.bracing.opens (Base.text c.base ++ c.bracing.onHeader) := by
    cases c.base with
    | none => exact .plain c.bracing.isEnding_onHeader
    | some b =>
      have hbase : Base.text (some b) ++ c.bracing.onHeader = b.gap.text ++ ("extends".toList ++
          (b.inside.text ++ (b.name.text ++ c.bracing.onHeader))) := by simp [Base.text]
      rw [hbase]
      exact .base b.gap.blank b.gap.nonempty b.inside.blank b.inside.nonempty b.name.isName
        c.bracing.isEnding_onHeader
  rw [happ]
  exact .mk c.indent.blank c.gap.blank c.gap.nonempty c.name.isName htail

theorem Class.ofLine?_header (c : Class) :
    ClassHeader.ofLine? c.header = some ⟨String.ofList c.name.text, c.bracing.opens⟩ := by
  rw [ClassHeader.ofLine?_eq_some_iff, String.toList_ofList]
  exact c.isWritten_header

/-- What the line of the header says about the body of a method. -/
def Form.body : Form → MethodBody
  | block bracing .. => if bracing.opens then .braced else .later
  | arrow .. => .arrow
  | bare _ => .later

theorem Form.isEnding_onHeader (f : Form) : MethodHeader.IsEnding f.body f.onHeader := by
  cases f with
  | block bracing =>
    rw [onHeader, Bracing.onHeader, body]
    cases bracing.opens with
    | false =>
      show MethodHeader.IsEnding .later (bracing.gap.text ++ [])
      rw [List.append_nil]
      exact .later bracing.gap.blank
    | true => exact .braced bracing.gap.blank
  | arrow gap value => exact .arrow gap.blank
  | bare trail => exact .later trail.blank

theorem Form.isIgnoreDirective_onHeader (f : Form) : isIgnoreDirective f.onHeader = false := by
  cases f with
  | block bracing => exact bracing.isIgnoreDirective_onHeader
  | arrow gap value balanced unmarked =>
    have harrow : ';' ∉ gap.text ++ ['=', '>'] := by
      simp [gap.not_mem (show ';' ∈ marks by decide)]
    have happ : (arrow gap value balanced unmarked).onHeader =
        gap.text ++ ['=', '>'] ++ value.text := by simp [onHeader]
    rw [happ, isIgnoreDirective_append harrow]
    exact unmarked
  | bare trail => exact isIgnoreDirective_of_not_mem (trail.not_mem (by decide))

theorem Method.header_eq (m : Method) : m.header = m.indent.text ++ (m.name.text ++ (m.gap.text ++
    '(' :: (m.inside.text ++ ')' :: m.form.onHeader))) := by
  simp [header, front]

theorem Method.isIgnoreDirective_header (m : Method) : isIgnoreDirective m.header = false := by
  rw [header, isIgnoreDirective_append (m.not_mem_front (by decide))]
  exact m.form.isIgnoreDirective_onHeader

theorem Method.ofLine?_header (m : Method) :
    MethodHeader.ofLine? m.header = some ⟨String.ofList m.name.text, m.form.body⟩ := by
  rw [MethodHeader.ofLine?_eq_some_iff, String.toList_ofList, m.header_eq]
  exact .mk m.indent.blank m.name.isName m.gap.blank m.inside.blank m.form.isEnding_onHeader

theorem Method.class_ofLine?_header (m : Method) : ClassHeader.ofLine? m.header = none := by
  rw [m.header_eq, ClassHeader.ofLine?_method m.indent.blank m.name.isName m.gap.blank]

/-! ### What is read on the line of a header -/

/-- The body of a method ends on its last line. No brace may be found behind a method that has no
block. -/
theorem Method.lastOffset_eq (m : Method) (ht : openingOffset? tail = none) :
    MethodHeader.lastOffset ⟨String.ofList m.name.text, m.form.body⟩
      (m.header :: (m.form.below ++ tail)) = m.form.below.length := by
  rw [header]
  cases m.form with
  | block bracing body balanced closing =>
    have hfind := bracing.find?_eq closing tail m.braceless_front balanced
    rw [Form.onHeader, Form.below, List.append_assoc, List.append_assoc, List.singleton_append]
    cases ho : bracing.opens with
    | true =>
      rw [ho] at hfind
      simp [MethodHeader.lastOffset, Form.body, ho, hfind, Nat.add_assoc]
    | false =>
      rw [ho] at hfind
      simp [MethodHeader.lastOffset, Form.body, ho, hfind, Nat.add_assoc]
  | arrow => rfl
  | bare trail =>
    simp [MethodHeader.lastOffset, Form.body, Form.below, Block.find?_false_eq_none ht]

theorem Method.reading_eq (m : Method) (ht : openingOffset? tail = none) :
    LineReading.ofLines (m.header :: (m.form.below ++ tail)) =
      .method (String.ofList m.name.text) m.form.below.length := by
  rw [LineReading.ofLines_method m.isIgnoreDirective_header m.class_ofLine?_header m.ofLine?_header,
    m.lastOffset_eq ht]

theorem Class.reading_eq (c : Class) {inner : List (List Char)} (hi : IsBalanced inner.flatten) :
    LineReading.ofLines (c.header :: (c.bracing.below ++ (inner ++ (c.below ++ tail)))) =
      .cls (String.ofList c.name.text)
        { opening := c.bracing.below.length
          closing := c.bracing.below.length + (inner.length + c.after.length) + 1 } := by
  have hbody : IsBalanced (inner ++ c.after.map Blanks.text).flatten := by
    rw [List.flatten_append]
    exact hi.append (braceless_flatten_blanks _).isBalanced
  have hfind := c.bracing.find?_eq c.closing tail c.braceless_front hbody
  have happ : inner ++ (c.below ++ tail) =
      (inner ++ c.after.map Blanks.text) ++ c.closing.text :: tail := by simp [below]
  rw [List.length_append, List.length_map] at hfind
  rw [happ, LineReading.ofLines_cls c.isIgnoreDirective_header c.ofLine?_header hfind]

/-- A method is read in one step, which ends behind its lines. -/
theorem Method.ofLines_append (m : Method) (ht : openingOffset? tail = none) :
    Declaration.ofLines true false n (m.lines.length + k) (m.lines ++ tail) =
      .method (String.ofList m.name.text) (n + m.before.length) false ::
        Declaration.ofLines true false (n + m.lines.length) k tail := by
  have hk : m.lines.length + k =
      (m.before.map Blanks.text).length + (m.form.below.length + k + 1) := by
    rw [m.length_lines, List.length_map]
    omega
  have hn : n + m.before.length + m.form.below.length + 1 = n + m.lines.length := by
    rw [m.length_lines]
    omega
  rw [hk, m.lines_append, Declaration.ofLines_append_of_isAllBlank (Blanks.isAllBlank_map _),
    Declaration.ofLines_method (m.reading_eq ht), List.length_map, Nat.add_sub_cancel_left,
    List.drop_left, hn]

/-- A class is read in one step, which ends behind its lines; what is read inside of it starts
behind the line of its opening brace. -/
theorem Class.ofLines_append (c : Class) {inner : List (List Char)}
    (hi : IsBalanced inner.flatten) :
    Declaration.ofLines inClass false n (c.above.length + inner.length + c.below.length + k)
        (c.above ++ (inner ++ (c.below ++ tail))) =
      .cls (String.ofList c.name.text) (n + c.before.length) false
          (Declaration.ofLines true false (n + c.above.length) (inner.length + c.after.length)
            (inner ++ (c.below ++ tail))) ::
        Declaration.ofLines inClass false (n + (c.above.length + inner.length + c.below.length)) k
          tail := by
  have hk : c.above.length + inner.length + c.below.length + k = (c.before.map Blanks.text).length +
      (c.bracing.below.length + (inner.length + c.after.length) + 1 + k + 1) := by
    rw [c.length_above, c.length_below, List.length_map]
    omega
  have hinside : n + c.before.length + c.bracing.below.length + 1 = n + c.above.length := by
    rw [c.length_above]
    omega
  have hbehind : n + c.before.length +
      (c.bracing.below.length + (inner.length + c.after.length) + 1) + 1 =
        n + (c.above.length + inner.length + c.below.length) := by
    rw [c.length_above, c.length_below]
    omega
  have hcount : c.bracing.below.length + (inner.length + c.after.length) + 1 -
      c.bracing.below.length - 1 = inner.length + c.after.length := by omega
  have hdrop : (c.bracing.below ++ (inner ++ (c.below ++ tail))).drop
      (c.bracing.below.length + (inner.length + c.after.length) + 1) = tail := by
    rw [← List.append_assoc, ← List.append_assoc]
    refine List.drop_left' ?_
    rw [List.length_append, List.length_append, c.length_below]
    omega
  rw [hk, c.above_append, Declaration.ofLines_append_of_isAllBlank (Blanks.isAllBlank_map _),
    Declaration.ofLines_cls (c.reading_eq hi), List.length_map]
  simp only [hinside, hbehind, hcount, hdrop, List.drop_left, Nat.add_sub_cancel_left]

/-! ### What is read in the lines of members -/

namespace Members

/-- What the printed members declare. -/
def declarations : Members → Nat → List Declaration
  | nil, _ => []
  | method m rest, n =>
    .method (String.ofList m.name.text) (n + m.before.length) false ::
      rest.declarations (n + m.lines.length)
  | cls c inner rest, n =>
    .cls (String.ofList c.name.text) (n + c.before.length) false
        (inner.declarations (n + c.above.length)) ::
      rest.declarations (n + (cls c inner nil).lines.length)

/-- No brace for an earlier header is found in front of members, as nothing but a header can be
the first line of them that is not blank. -/
theorem openingOffset?_lines (ms : Members) (ht : openingOffset? tail = none) :
    openingOffset? (ms.lines ++ tail) = none := by
  cases ms with
  | nil => exact ht
  | method m rest =>
    obtain ⟨x, s, hx⟩ := List.exists_cons_of_ne_nil m.name.isName.nonempty
    have hword : isWord x = true := m.name.isName.word x (by simp [hx])
    have hne : x ≠ '{' := fun h => m.name.not_mem (show '{' ∈ marks by decide) (by simp [hx, h])
    rw [lines, List.append_assoc, m.lines_append,
      openingOffset?_append (Blanks.isAllBlank_map _), m.header_eq, hx, List.cons_append,
      openingOffset?_of_ne m.indent.blank (isBlank_eq_false_of_isWord hword) hne]
    rfl
  | cls c inner rest =>
    rw [lines, List.append_assoc, c.above_append, openingOffset?_append (Blanks.isAllBlank_map _),
      Class.header, Class.front, List.append_assoc]
    exact congrArg _ (openingOffset?_of_ne c.indent.blank (by decide) (by decide))

/-- Nor is one found in front of the end of a class. -/
theorem openingOffset?_below (c : Class) : openingOffset? (c.below ++ tail) = none := by
  rw [Class.below, List.append_assoc, openingOffset?_append (Blanks.isAllBlank_map _)]
  exact congrArg _ (openingOffset?_of_ne c.closing.indent.blank (by decide) (by decide))

/-- Behind the last member of a class nothing is declared. -/
theorem ofLines_below (c : Class) :
    Declaration.ofLines inClass false n c.after.length (c.below ++ tail) = [] := by
  have hblank : Declaration.ofLines inClass false n (c.after.map Blanks.text).length
      (c.after.map Blanks.text ++ c.closing.text :: tail) = [] :=
    Declaration.ofLines_blanks (Blanks.isAllBlank_map _) _
  rw [List.length_map] at hblank
  rw [Class.below, List.append_assoc, List.singleton_append, hblank]

/-- **What is read in the lines of members** is what the members declare, and the reading goes on
behind them. Methods count inside of a class only. -/
theorem ofLines_lines (ms : Members) (hms : inClass = true ∨ ms.isForest = true)
    (ht : openingOffset? tail = none) :
    Declaration.ofLines inClass false n (ms.lines.length + k) (ms.lines ++ tail) =
      ms.declarations n ++ Declaration.ofLines inClass false (n + ms.lines.length) k tail := by
  -- The tail is any text that no earlier header takes for its block: the end of the class around
  -- the members, or the end of the file.
  induction ms generalizing inClass n k tail with
  | nil => simp [lines, declarations]
  | method m rest ih =>
    have hin : inClass = true := hms.resolve_right Bool.false_ne_true
    subst hin
    rw [length_lines_method, lines, List.append_assoc, Nat.add_assoc,
      m.ofLines_append (rest.openingOffset?_lines ht), ih (Or.inl rfl) ht, declarations,
      List.cons_append, Nat.add_assoc n]
  | cls c inner rest ihinner ihrest =>
    have hrest : inClass = true ∨ rest.isForest = true := hms
    have happ : (cls c inner rest).lines ++ tail =
        c.above ++ (inner.lines ++ (c.below ++ (rest.lines ++ tail))) := by simp [lines]
    have hnil := length_lines_cls_nil c inner
    rw [happ, length_lines_cls, Nat.add_assoc _ rest.lines.length,
      c.ofLines_append inner.isBalanced_lines, ihinner (Or.inl rfl) (openingOffset?_below c),
      ofLines_below, List.append_nil, ihrest hrest ht, declarations, hnil, List.cons_append,
      Nat.add_assoc n]

/-! ### The tests among the declarations -/

theorem filterMap_declarations (ms : Members) (h : n + ms.lines.length ≤ UInt32.size) :
    (ms.declarations n).filterMap Declaration.testMethod? = ms.tests n := by
  induction ms generalizing n with
  | nil => rfl
  | method m rest ih =>
    have hm := m.length_lines
    rw [length_lines_method] at h
    have hrest : n + m.lines.length + rest.lines.length ≤ UInt32.size := by omega
    have hline : n + m.before.length < UInt32.size := by omega
    rw [declarations, List.filterMap_cons, ih hrest, tests, Declaration.testMethod?,
      lineNumber?_of_lt hline, String.toList_ofList, Bool.false_or]
    by_cases hp : m.isPrivate
    · have hhead : m.name.text.head? = some '_' := hp
      rw [if_pos hp, if_pos (decide_eq_true hhead)]
      rfl
    · have hhead : ¬ m.name.text.head? = some '_' := hp
      rw [if_neg hp, if_neg (by simpa using hhead)]
      rfl
  | cls c inner rest _ ih =>
    have hnil := length_lines_cls_nil c inner
    rw [length_lines_cls] at h
    have hrest : n + (cls c inner nil).lines.length + rest.lines.length ≤ UInt32.size := by omega
    rw [declarations, List.filterMap_cons, ih hrest, tests]
    rfl

/-- A class is pruned away exactly if it is not kept. -/
theorem prune_cons (c : TestClass) (rest : List TestClass) :
    TestClass.prune (c :: rest) = kept c.pruned ++ TestClass.prune rest := by
  rw [TestClass.prune, kept]
  split
  · rfl
  · rfl

theorem prune_testClasses (ms : Members) (h : n + ms.lines.length ≤ UInt32.size) :
    TestClass.prune (Declaration.testClasses (ms.declarations n)) = ms.classes n := by
  induction ms generalizing n with
  | nil => rfl
  | method m rest ih =>
    rw [length_lines_method] at h
    have hrest : n + m.lines.length + rest.lines.length ≤ UInt32.size := by omega
    rw [declarations, Declaration.testClasses, classes, ← ih hrest]
    rfl
  | cls c inner rest ihinner ihrest =>
    have hnil := length_lines_cls_nil c inner
    have habove := c.length_above
    rw [length_lines_cls] at h
    have hinner : n + c.above.length + inner.lines.length ≤ UInt32.size := by omega
    have hrest : n + (cls c inner nil).lines.length + rest.lines.length ≤ UInt32.size := by omega
    have hline : n + c.before.length < UInt32.size := by omega
    rw [declarations, Declaration.testClasses, Declaration.testClass?, if_neg Bool.false_ne_true,
      Option.toList_some, List.singleton_append, prune_cons, TestClass.pruned, ihinner hinner,
      ihrest hrest, inner.filterMap_declarations hinner, lineNumber?_of_lt hline, classes]

end Members

/-! ### The outline of a file -/

/-- **The outline of a file is the forest that was printed.** -/
theorem File.outline_source (f : File) (h : f.lines.length < UInt32.size) :
    outline f.source = f.classes := by
  have hblank : ∀ line ∈ f.after.map Blanks.text ++ [[]], isAllBlank line = true := by
    intro line hl
    rcases List.mem_append.1 hl with hl | hl
    · exact Blanks.isAllBlank_map _ line hl
    · obtain rfl := List.mem_singleton.1 hl
      rfl
  have hbehind : Declaration.ofLines false false (0 + f.members.lines.length)
      (f.after.map Blanks.text ++ [[]]).length (f.after.map Blanks.text ++ [[]]) = [] := by
    simpa using Declaration.ofLines_blanks hblank []
  have hdecl : Declaration.ofSource f.source = f.members.declarations 0 := by
    have hlen : (f.lines ++ [[]]).length =
        f.members.lines.length + (f.after.map Blanks.text ++ [[]]).length := by
      simp only [lines, List.length_append]
      omega
    rw [Declaration.ofSource, f.sourceLines_source, hlen, lines, List.append_assoc,
      f.members.ofLines_lines (Or.inr f.forest) (openingOffset?_of_isAllBlank hblank), hbehind,
      List.append_nil]
  have hmembers : 0 + f.members.lines.length ≤ UInt32.size := by
    rw [lines, List.length_append] at h
    omega
  rw [outline, hdecl, f.members.prune_testClasses hmembers, classes]

/-- A class with a method whose block opens on a line of its own and holds a call without
arguments, a private method, an empty class, and a class with a method of the name `class`. -/
def File.shop : File where
  members := .cls
    { before := [.spaces 0], indent := .spaces 0, gap := .space, name := { text := "Shop".toList },
      base := some { gap := .space, inside := .space, name := { text := "Base".toList } },
      bracing := .sameLine (.spaces 1), after := [.spaces 4], closing := ⟨.spaces 0, .spaces 0⟩ }
    (.method
      { before := [], indent := .spaces 4, name := { text := "Sells".toList }, gap := .spaces 0,
        inside := .spaces 1,
        form := .block (.ownLine (.spaces 0) [.spaces 0] (.spaces 4) (.spaces 0))
          [{ text := "        if x \x7b".toList }, { text := "            Run()".toList },
            { text := "        \x7d".toList }] (by decide) ⟨.spaces 4, .spaces 0⟩ }
    (.method
      { before := [], indent := .spaces 4, name := { text := "_Price".toList }, gap := .spaces 0,
        inside := .spaces 0,
        form := .arrow (.spaces 1) { text := " \x7ba: 1\x7d".toList } (by decide) (by decide) }
    (.cls
      { before := [], indent := .spaces 4, gap := .space, name := { text := "Empty".toList },
        base := none, bracing := .sameLine (.spaces 1), after := [],
        closing := ⟨.spaces 4, .spaces 0⟩ } .nil
    (.cls
      { before := [], indent := .spaces 4, gap := .space, name := { text := "Orders".toList },
        base := none, bracing := .ownLine (.spaces 0) [] (.spaces 4) (.spaces 0), after := [],
        closing := ⟨.spaces 4, .spaces 0⟩ }
      (.method
        { before := [.spaces 0], indent := .spaces 8, name := { text := "class".toList },
          gap := .spaces 1, inside := .spaces 0, form := .bare (.spaces 0) } .nil) .nil)))) .nil
  forest := rfl
  after := [.spaces 2]

theorem File.outline_source_shop : File.shop.lines.length < UInt32.size ∧
    File.shop.lines =
      ["", "class Shop extends Base \x7b", "    Sells( )", "", "    \x7b", "        if x \x7b",
        "            Run()", "        \x7d", "    \x7d", "    _Price() => \x7ba: 1\x7d",
        "    class Empty \x7b", "    \x7d", "    class Orders", "    \x7b", "", "        class ()",
        "    \x7d", "    ", "\x7d", "  "].map String.toList ∧
    outline File.shop.source =
      [.mk "Shop" (some 1) [⟨"Sells", some 2⟩] [.mk "Orders" (some 12) [⟨"class", some 15⟩] []]] :=
  ⟨by decide, by decide, (File.outline_source File.shop (by decide)).trans rfl⟩

end ScriptSuite.Layout
