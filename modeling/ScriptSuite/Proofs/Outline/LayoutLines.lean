import ScriptSuite.Proofs.Outline.Layout
import ScriptSuite.Proofs.Outline.Reading

/-!
# Lines and blocks of laid-out test files

What is printed as a line is a line of the text, and what is printed as a block is closed where it
ends: no header holds a brace or a line break, and the members of a class are balanced together.

## Main results

* `Layout.File.sourceLines_source`: the lines of the text are the printed ones
* `Layout.Members.isBalanced_lines`: the members of a class are balanced
* `Layout.Bracing.find?_eq`: the block of a header is the printed one
-/

namespace ScriptSuite.Layout

open Text

/-! ### Characters that shape lines and blocks -/

/-- The characters that end a line, shape a block or start a directive. -/
def marks : List Char := ['\n', '\r', '{', '}', ';']

variable {x : Char} {s t : List Char}

theorem Blanks.not_mem (b : Blanks) (hx : x ∈ marks) : x ∉ b.text := by
  have key : ∀ x ∈ marks, x = '\n' ∨ x = '\r' ∨ isBlank x = false :=
    forall_mem_of_all (by decide)
  rcases key x hx with rfl | rfl | hb
  · exact b.unbroken.1
  · exact b.unbroken.2
  · exact not_mem_of_isBlank_eq_false b.blank hb

theorem Name.not_mem (w : Name) (hx : x ∈ marks) : x ∉ w.text := by
  have key : ∀ x ∈ marks, isWord x = false := forall_mem_of_all (by decide)
  exact not_mem_of_isWord_eq_false w.isName.word (key x hx)

theorem Method.not_mem_front (m : Method) (hx : x ∈ marks) : x ∉ m.front := by
  have key : ∀ x ∈ marks, x ≠ '(' ∧ x ≠ ')' := forall_mem_of_all (by decide)
  simp [front, Blanks.not_mem _ hx, Name.not_mem _ hx, key x hx]

theorem Base.not_mem_text (b : Option Base) (hx : x ∈ marks) : x ∉ Base.text b := by
  have key : ∀ x ∈ marks, x ∉ "extends".toList := forall_mem_of_all (by decide)
  cases b with
  | none => exact List.not_mem_nil
  | some b =>
    simp only [text, List.mem_append, not_or]
    exact ⟨b.gap.not_mem hx, key x hx, b.inside.not_mem hx, b.name.not_mem hx⟩

theorem Class.not_mem_front (c : Class) (hx : x ∈ marks) : x ∉ c.front := by
  have key : ∀ x ∈ marks, x ∉ "class".toList := forall_mem_of_all (by decide)
  simp only [front, List.mem_append, not_or]
  exact ⟨c.indent.not_mem hx, key x hx, c.gap.not_mem hx, c.name.not_mem hx,
    Base.not_mem_text _ hx⟩

/-! ### Counting lines -/

variable {tail : List (List Char)}

theorem Method.lines_append (m : Method) :
    m.lines ++ tail = m.before.map Blanks.text ++ m.header :: (m.form.below ++ tail) := by
  rw [lines, List.append_assoc, List.cons_append]

theorem Class.above_append (c : Class) :
    c.above ++ tail = c.before.map Blanks.text ++ c.header :: (c.bracing.below ++ tail) := by
  rw [above, List.append_assoc, List.cons_append]

theorem Method.length_lines (m : Method) :
    m.lines.length = m.before.length + m.form.below.length + 1 := by
  rw [lines, List.length_append, List.length_map, List.length_cons, Nat.add_assoc]

theorem Class.length_above (c : Class) :
    c.above.length = c.before.length + c.bracing.below.length + 1 := by
  rw [above, List.length_append, List.length_map, List.length_cons, Nat.add_assoc]

theorem Class.length_below (c : Class) : c.below.length = c.after.length + 1 := by
  rw [below, List.length_append, List.length_map, List.length_singleton]

theorem Members.length_lines_method (m : Method) (rest : Members) :
    (method m rest).lines.length = m.lines.length + rest.lines.length := by
  rw [lines, List.length_append]

theorem Members.length_lines_cls (c : Class) (inner rest : Members) :
    (cls c inner rest).lines.length =
      c.above.length + inner.lines.length + c.below.length + rest.lines.length := by
  rw [lines, List.length_append, List.length_append, List.length_append, Nat.add_assoc,
    Nat.add_assoc]

theorem Members.length_lines_cls_nil (c : Class) (inner : Members) :
    (cls c inner nil).lines.length = c.above.length + inner.lines.length + c.below.length :=
  length_lines_cls c inner nil

/-! ### Lines are lines -/

theorem unbroken_append : Unbroken (s ++ t) ↔ Unbroken s ∧ Unbroken t := by
  simp only [Unbroken, List.mem_append, not_or]
  exact and_and_and_comm

theorem unbroken_cons : Unbroken (x :: s) ↔ (x ≠ '\n' ∧ x ≠ '\r') ∧ Unbroken s := by
  simp only [Unbroken, List.mem_cons, not_or, eq_comm, ne_eq]
  exact and_and_and_comm

theorem Blanks.isAllBlank_map (bs : List Blanks) :
    ∀ line ∈ bs.map Blanks.text, isAllBlank line = true := by
  intro line hl
  obtain ⟨b, -, rfl⟩ := List.mem_map.1 hl
  exact b.blank

theorem unbroken_map_blanks (bs : List Blanks) : ∀ line ∈ bs.map Blanks.text, Unbroken line := by
  intro line hl
  obtain ⟨b, -, rfl⟩ := List.mem_map.1 hl
  exact b.unbroken

theorem Closing.unbroken (c : Closing) : Unbroken c.text := by
  rw [text, unbroken_append, unbroken_cons]
  exact ⟨c.indent.unbroken, by decide, c.trail.unbroken⟩

theorem Bracing.unbroken_onHeader (b : Bracing) : Unbroken b.onHeader := by
  refine unbroken_append.2 ⟨b.gap.unbroken, ?_⟩
  cases b.opens <;> decide

theorem Bracing.unbroken_below (b : Bracing) : ∀ line ∈ b.below, Unbroken line := by
  cases b with
  | sameLine gap => exact fun _ h => absurd h List.not_mem_nil
  | ownLine gap between indent trail =>
    intro line hl
    rcases List.mem_append.1 hl with hl | hl
    · exact unbroken_map_blanks _ line hl
    · obtain rfl := List.mem_singleton.1 hl
      rw [unbroken_append, unbroken_cons]
      exact ⟨indent.unbroken, by decide, trail.unbroken⟩

theorem Method.unbroken_lines (m : Method) : ∀ line ∈ m.lines, Unbroken line := by
  have hfront : Unbroken m.front := ⟨m.not_mem_front (by decide), m.not_mem_front (by decide)⟩
  have hform : Unbroken m.form.onHeader ∧ ∀ line ∈ m.form.below, Unbroken line := by
    cases m.form with
    | block bracing body _ closing =>
      refine ⟨bracing.unbroken_onHeader, fun line hl => ?_⟩
      rcases List.mem_append.1 hl with hl | hl
      · exact bracing.unbroken_below line hl
      rcases List.mem_append.1 hl with hl | hl
      · obtain ⟨l, -, rfl⟩ := List.mem_map.1 hl
        exact l.unbroken
      · obtain rfl := List.mem_singleton.1 hl
        exact closing.unbroken
    | arrow gap value =>
      refine ⟨?_, fun _ h => absurd h List.not_mem_nil⟩
      rw [Form.onHeader, unbroken_append, unbroken_cons, unbroken_cons]
      exact ⟨gap.unbroken, by decide, by decide, value.unbroken⟩
    | bare trail => exact ⟨trail.unbroken, fun _ h => absurd h List.not_mem_nil⟩
  intro line hl
  rcases List.mem_append.1 hl with hl | hl
  · exact unbroken_map_blanks _ line hl
  rcases List.mem_cons.1 hl with rfl | hl
  · exact unbroken_append.2 ⟨hfront, hform.1⟩
  · exact hform.2 line hl

theorem Class.unbroken_above (c : Class) : ∀ line ∈ c.above, Unbroken line := by
  have hfront : Unbroken c.front := ⟨c.not_mem_front (by decide), c.not_mem_front (by decide)⟩
  intro line hl
  rcases List.mem_append.1 hl with hl | hl
  · exact unbroken_map_blanks _ line hl
  rcases List.mem_cons.1 hl with rfl | hl
  · exact unbroken_append.2 ⟨hfront, c.bracing.unbroken_onHeader⟩
  · exact c.bracing.unbroken_below line hl

theorem Class.unbroken_below (c : Class) : ∀ line ∈ c.below, Unbroken line := by
  intro line hl
  rcases List.mem_append.1 hl with hl | hl
  · exact unbroken_map_blanks _ line hl
  · obtain rfl := List.mem_singleton.1 hl
    exact c.closing.unbroken

theorem Members.unbroken_lines (ms : Members) : ∀ line ∈ ms.lines, Unbroken line := by
  induction ms with
  | nil => exact fun _ h => absurd h List.not_mem_nil
  | method m rest ih =>
    intro line hl
    rcases List.mem_append.1 hl with hl | hl
    · exact m.unbroken_lines line hl
    · exact ih line hl
  | cls c inner rest ihinner ihrest =>
    intro line hl
    rcases List.mem_append.1 hl with hl | hl
    · exact c.unbroken_above line hl
    rcases List.mem_append.1 hl with hl | hl
    · exact ihinner line hl
    rcases List.mem_append.1 hl with hl | hl
    · exact c.unbroken_below line hl
    · exact ihrest line hl

theorem File.unbroken_lines (f : File) : ∀ line ∈ f.lines, Unbroken line := by
  intro line hl
  rcases List.mem_append.1 hl with hl | hl
  · exact f.members.unbroken_lines line hl
  · exact unbroken_map_blanks _ line hl

/-- The lines of the text are the printed ones, and an empty one behind them. -/
theorem File.sourceLines_source (f : File) : sourceLines f.source = f.lines ++ [[]] :=
  sourceLines_terminated (fun line hl => (f.unbroken_lines line hl).1)
    fun line hl => (f.unbroken_lines line hl).2

/-! ### Blocks are blocks -/

theorem Blanks.braceless (b : Blanks) : Braceless b.text :=
  ⟨b.not_mem (by decide), b.not_mem (by decide)⟩

theorem Method.braceless_front (m : Method) : Braceless m.front :=
  ⟨m.not_mem_front (by decide), m.not_mem_front (by decide)⟩

theorem Class.braceless_front (c : Class) : Braceless c.front :=
  ⟨c.not_mem_front (by decide), c.not_mem_front (by decide)⟩

theorem braceless_flatten_blanks (bs : List Blanks) : Braceless (bs.map Blanks.text).flatten := by
  induction bs with
  | nil => exact braceless_nil
  | cons b bs ih => exact braceless_append.2 ⟨b.braceless, ih⟩

/-- Up to the line of the opening brace there is one brace. -/
theorem Bracing.exists_eq (b : Bracing) : ∃ x y, Braceless x ∧ Braceless y ∧
    b.onHeader ++ b.below.flatten = x ++ '{' :: y := by
  cases b with
  | sameLine blanks =>
    exact ⟨blanks.text, [], blanks.braceless, braceless_nil,
      by simp [onHeader, gap, opens, below, ClassHeader.brace]⟩
  | ownLine blanks between indent trail =>
    refine ⟨blanks.text ++ ((between.map Blanks.text).flatten ++ indent.text), trail.text, ?_,
      trail.braceless, by simp [onHeader, gap, opens, below, ClassHeader.brace]⟩
    exact braceless_append.2 ⟨blanks.braceless,
      braceless_append.2 ⟨braceless_flatten_blanks _, indent.braceless⟩⟩

/-- A block around a balanced text is balanced. -/
theorem Bracing.isBalanced_block (b : Bracing) (c : Closing) (hs : IsBalanced s) :
    IsBalanced (b.onHeader ++ (b.below.flatten ++ (s ++ c.text))) := by
  obtain ⟨x, y, hx, hy, hxy⟩ := b.exists_eq
  rw [← List.append_assoc, hxy, Closing.text]
  exact hs.enclose hx hy c.indent.braceless c.trail.braceless

theorem Method.isBalanced_lines (m : Method) : IsBalanced m.lines.flatten := by
  have hform : IsBalanced (m.form.onHeader ++ m.form.below.flatten) := by
    cases m.form with
    | block bracing body balanced closing =>
      simpa [Form.onHeader, Form.below] using bracing.isBalanced_block closing balanced
    | arrow gap value balanced =>
      have harrow : Braceless (gap.text ++ ['=', '>']) :=
        braceless_append.2 ⟨gap.braceless, by decide⟩
      simpa [Form.onHeader, Form.below] using harrow.isBalanced.append balanced
    | bare trail => simpa [Form.onHeader, Form.below] using trail.braceless.isBalanced
  rw [lines, List.flatten_append, List.flatten_cons, header, List.append_assoc]
  exact (braceless_flatten_blanks _).isBalanced.append (m.braceless_front.isBalanced.append hform)

/-- **The members of a class are balanced.** -/
theorem Members.isBalanced_lines (ms : Members) : IsBalanced ms.lines.flatten := by
  induction ms with
  | nil => exact braceless_nil.isBalanced
  | method m rest ih =>
    rw [lines, List.flatten_append]
    exact m.isBalanced_lines.append ih
  | cls c inner rest ihinner ihrest =>
    have hinner : IsBalanced (inner.lines.flatten ++ (c.after.map Blanks.text).flatten) :=
      ihinner.append (braceless_flatten_blanks _).isBalanced
    have happ : (cls c inner rest).lines.flatten = (c.before.map Blanks.text).flatten ++ (c.front ++
        (c.bracing.onHeader ++ (c.bracing.below.flatten ++
          (inner.lines.flatten ++ (c.after.map Blanks.text).flatten ++ c.closing.text)) ++
        rest.lines.flatten)) := by
      simp [lines, Class.above, Class.header, Class.below]
    rw [happ]
    have hblock := (c.bracing.isBalanced_block c.closing hinner).append ihrest
    exact (braceless_flatten_blanks _).isBalanced.append
      (c.braceless_front.isBalanced.append hblock)

/-- **The block of a header is the printed one**, if its lines are balanced. -/
theorem Bracing.find?_eq (b : Bracing) (c : Closing) {front : List Char}
    {body : List (List Char)} (rest : List (List Char)) (hf : Braceless front)
    (hbody : IsBalanced body.flatten) :
    Block.find? b.opens ((front ++ b.onHeader) :: (b.below ++ (body ++ c.text :: rest))) =
      some { opening := b.below.length, closing := b.below.length + body.length + 1 } := by
  cases b with
  | sameLine blanks =>
    have hclose : closingOffset ((front ++ blanks.text ++ ['{']) ::
        (body ++ (c.indent.text ++ '}' :: c.trail.text) :: rest)) = body.length + 1 :=
      closingOffset_block (braceless_append.2 ⟨hf, blanks.braceless⟩) braceless_nil hbody
        c.indent.braceless
    have hline : front ++ (sameLine blanks).onHeader = front ++ blanks.text ++ ['{'] := by
      simp [onHeader, gap, opens, ClassHeader.brace]
    rw [hline, opens, below, List.nil_append, Block.find?_true, Closing.text, hclose,
      List.length_nil, Nat.zero_add]
  | ownLine blanks between indent trail =>
    have hclose : closingOffset ((indent.text ++ '{' :: trail.text) ::
        (body ++ (c.indent.text ++ '}' :: c.trail.text) :: rest)) = body.length + 1 :=
      closingOffset_block indent.braceless trail.braceless hbody c.indent.braceless
    rw [opens, show (ownLine blanks between indent trail).below =
      between.map Blanks.text ++ [indent.text ++ '{' :: trail.text] from rfl, List.append_assoc,
      List.singleton_append, Block.find?_false_append (Blanks.isAllBlank_map _)
        (openingOffset?_brace indent.blank trail.blank), Closing.text, hclose,
      List.length_append, List.length_singleton]
    rfl

end ScriptSuite.Layout
