import ScriptSuite.Proofs.Outline.Reading

/-!
# Where declarations stand

Reading goes through the lines in jumps: from a line to the next one, or over all lines of what is
declared on it. What is declared at all is declared on a line where the reading stands, and so are
the classes and methods of an outline, at any depth.

## Main definitions

* `Reached`: the reading of some lines comes to stand at an offset
* `Declaration.IsRead`, `TestClass.IsReadAt`: what a line makes of a declaration, and of a class
* `TestClass.Within`: the classes of a forest at any depth

## Main results

* `Declaration.mem_ofLines`: every declaration is read where the reading stands
* `TestClass.mem_prune`: no class is kept that holds no test
* `TestClass.Within.exists_isReadAt`: so is every class of an outline
* `TestClass.IsReadAt.exists_of_mem_methods`, `TestClass.IsReadAt.exists_of_mem_children`: the
  methods and the classes of a class are read between its braces
-/

namespace ScriptSuite

open Text

variable {inClass ignored : Bool} {n k l count : Nat} {first : List Char} {name source : String}
  {rest lines : List (List Char)} {block : Block}

/-! ### The reading of lines -/

/-- The offset of the last line of what is read. Outside of a class a method is a line like any
other. -/
def LineReading.last (inClass : Bool) : LineReading → Nat
  | directive => 0
  | cls _ block => block.closing
  | method _ last => if inClass then last else 0
  | other => 0

/-- The reading of the lines comes to stand at an offset. -/
inductive Reached (inClass : Bool) : List (List Char) → Nat → Prop
  /-- It starts at the first line. -/
  | here (lines : List (List Char)) : Reached inClass lines 0
  /-- It goes on behind what the first line declares. -/
  | behind {lines : List (List Char)} {i : Nat}
      (h : Reached inClass (lines.drop ((LineReading.ofLines lines).last inClass + 1)) i) :
      Reached inClass lines ((LineReading.ofLines lines).last inClass + 1 + i)

/-- The members between the braces of a block, which belongs to the first of the lines. -/
def Block.members (block : Block) (lines : List (List Char)) (n : Nat) : List Declaration :=
  Declaration.ofLines true false (n + block.opening + 1) (block.closing - block.opening - 1)
    (lines.drop (block.opening + 1))

theorem Block.members_drop : block.members (lines.drop n) n =
    Declaration.ofLines true false (n + block.opening + 1) (block.closing - block.opening - 1)
      (lines.drop (n + block.opening + 1)) := by
  rw [Block.members, List.drop_drop, Nat.add_assoc]

namespace Declaration

/-- The declaration is what the first of the lines declares, which has the given number. -/
inductive IsRead (lines : List (List Char)) (n : Nat) : Declaration → Prop
  /-- A method has the name in its header. -/
  | method {name : String} {last : Nat} {ignored : Bool}
      (h : LineReading.ofLines lines = .method name last) : IsRead lines n (.method name n ignored)
  /-- A class has the name in its header, and its members are those between its braces. -/
  | cls {name : String} {block : Block} {ignored : Bool}
      (h : LineReading.ofLines lines = .cls name block) :
      IsRead lines n (.cls name n ignored (block.members lines n))

/-- What is read behind the first declaration is read in all of the lines. -/
theorem exists_of_behind {d : Declaration}
    (hl : (LineReading.ofLines (first :: rest)).last inClass = l)
    (h : ∃ i < count - l - 1, Reached inClass (rest.drop l) i ∧
      IsRead ((rest.drop l).drop i) (n + l + 1 + i) d) :
    ∃ i < count, Reached inClass (first :: rest) i ∧ IsRead ((first :: rest).drop i) (n + i) d := by
  obtain ⟨i, hi, hreached, hread⟩ := h
  subst hl
  have hdrop : (first :: rest).drop ((LineReading.ofLines (first :: rest)).last inClass + 1 + i) =
      (rest.drop ((LineReading.ofLines (first :: rest)).last inClass)).drop i := by
    rw [← List.drop_drop, List.drop_succ_cons]
  refine ⟨_, ?_, Reached.behind hreached, ?_⟩
  · omega
  · rwa [hdrop, ← Nat.add_assoc, ← Nat.add_assoc]

/-- **Every declaration is read where the reading stands.** -/
theorem mem_ofLines {d : Declaration} (h : d ∈ ofLines inClass ignored n count lines) :
    ∃ i < count, Reached inClass lines i ∧ IsRead (lines.drop i) (n + i) d := by
  -- The members of a class are not in the list itself, so the reading of them (the first induction
  -- hypothesis of `case4`) is not asked for.
  fun_induction Declaration.ofLines inClass ignored n count lines with
  | case1 => exact absurd h List.not_mem_nil
  | case2 => exact absurd h List.not_mem_nil
  | case3 inClass ignored n count first rest hcount hread ih =>
    exact exists_of_behind (l := 0) (by rw [hread]; rfl) (ih h)
  | case4 inClass ignored n count first rest hcount name block hread _ ih =>
    rcases List.mem_cons.1 h with rfl | h
    · exact ⟨0, Nat.pos_of_ne_zero hcount, Reached.here _, IsRead.cls hread⟩
    · exact exists_of_behind (l := block.closing) (by rw [hread]; rfl) (ih h)
  | case5 ignored n count first rest hcount name last hread ih =>
    rcases List.mem_cons.1 h with rfl | h
    · exact ⟨0, Nat.pos_of_ne_zero hcount, Reached.here _, IsRead.method hread⟩
    · exact exists_of_behind (l := last) (by rw [hread]; rfl) (ih h)
  | case6 inClass ignored n count first rest hcount name last hread hin ih =>
    exact exists_of_behind (l := 0) (by rw [hread]; exact if_neg hin) (ih h)
  | case7 inClass ignored n count first rest hcount hread ih =>
    exact exists_of_behind (l := 0) (by rw [hread]; rfl) (ih h)

/-! ### From declarations to an outline -/

theorem exists_of_mem_testClasses {c : TestClass} {ds : List Declaration}
    (h : c ∈ testClasses ds) : ∃ name n members, .cls name n false members ∈ ds ∧
      c = .mk name (lineNumber? n) (members.filterMap testMethod?) (testClasses members) := by
  induction ds with
  | nil => exact absurd h List.not_mem_nil
  | cons d ds ih =>
    rw [testClasses, List.mem_append] at h
    rcases h with h | h
    · cases d with
      | method => exact absurd h List.not_mem_nil
      | cls name n ignored members =>
        cases ignored with
        | true => exact absurd h List.not_mem_nil
        | false =>
          rw [testClass?, if_neg Bool.false_ne_true] at h
          exact ⟨name, n, members, List.mem_cons_self, List.mem_singleton.1 h⟩
    · obtain ⟨name, n, members, hmem, hc⟩ := ih h
      exact ⟨name, n, members, List.mem_cons_of_mem _ hmem, hc⟩

/-- A test method is the method of a header that is neither left out nor private. -/
theorem eq_method_of_testMethod? {m : TestMethod} {d : Declaration}
    (h : testMethod? d = some m) :
    ∃ n, d = .method m.name n false ∧ m.line = lineNumber? n ∧ m.name.toList.head? ≠ some '_' := by
  cases d with
  | cls => exact absurd h (by simp [testMethod?])
  | method name n ignored =>
    rw [testMethod?] at h
    split at h
    · exact absurd h (by simp)
    · next hkept =>
      obtain rfl := Option.some.inj h
      rw [Bool.or_eq_true, not_or, decide_eq_true_eq] at hkept
      obtain rfl : ignored = false := Bool.eq_false_iff.2 hkept.1
      exact ⟨n, rfl, rfl, hkept.2⟩

theorem exists_of_mem_testMethods {m : TestMethod} {ds : List Declaration}
    (h : m ∈ ds.filterMap testMethod?) :
    ∃ n, .method m.name n false ∈ ds ∧ m.line = lineNumber? n ∧
      m.name.toList.head? ≠ some '_' := by
  obtain ⟨d, hd, hm⟩ := List.mem_filterMap.1 h
  obtain ⟨n, rfl, hline, hpublic⟩ := eq_method_of_testMethod? hm
  exact ⟨n, hd, hline, hpublic⟩

end Declaration

/-! ### Classes that hold a test -/

namespace TestClass

variable {c : TestClass} {cs : List TestClass}

theorem testCount_eq_zero (h : (c.methods.isEmpty && c.children.isEmpty) = true) :
    c.testCount = 0 := by
  cases c with
  | mk name line methods children =>
    obtain ⟨hmethods, hchildren⟩ := Bool.and_eq_true_iff.1 h
    obtain rfl : methods = [] := List.isEmpty_iff.1 hmethods
    obtain rfl : children = [] := List.isEmpty_iff.1 hchildren
    rfl

theorem testCountAll_append {cs cs' : List TestClass} :
    testCountAll (cs ++ cs') = testCountAll cs + testCountAll cs' := by
  induction cs with
  | nil => rw [List.nil_append, testCountAll, Nat.zero_add]
  | cons c cs ih => rw [List.cons_append, testCountAll, ih, testCountAll, Nat.add_assoc]

mutual

theorem testCount_pruned (c : TestClass) : c.pruned.testCount = c.testCount := by
  cases c with
  | mk name line methods children =>
    rw [pruned, testCount, testCountAll_prune children, testCount]

/-- **Pruning keeps all tests.** -/
theorem testCountAll_prune (cs : List TestClass) : testCountAll (prune cs) = testCountAll cs := by
  cases cs with
  | nil => rfl
  | cons c rest =>
    rw [prune, testCountAll, ← testCountAll_prune rest, ← testCount_pruned c]
    split
    · next hempty => rw [testCount_eq_zero hempty, Nat.zero_add]
    · rw [testCountAll]

end

mutual

/-- What holds no test is empty when it is pruned. -/
theorem isEmpty_pruned (c : TestClass) (h : c.testCount = 0) :
    (c.pruned.methods.isEmpty && c.pruned.children.isEmpty) = true := by
  cases c with
  | mk name line methods children =>
    rw [testCount, Nat.add_eq_zero_iff] at h
    have hchildren : prune children = [] := prune_eq_nil children h.2
    rw [pruned, TestClass.methods, TestClass.children, hchildren, List.length_eq_zero_iff.1 h.1]
    rfl

theorem prune_eq_nil (cs : List TestClass) (h : testCountAll cs = 0) : prune cs = [] := by
  cases cs with
  | nil => rfl
  | cons c rest =>
    rw [testCountAll, Nat.add_eq_zero_iff] at h
    rw [prune, if_pos (isEmpty_pruned c h.1), prune_eq_nil rest h.2]

end

/-- **Pruning keeps the classes that hold a test**, and takes from each what holds none. -/
theorem mem_prune : c ∈ prune cs ↔ ∃ d ∈ cs, 0 < d.testCount ∧ c = d.pruned := by
  induction cs with
  | nil => simp [prune]
  | cons d cs ih =>
    have hcount : (d.pruned.methods.isEmpty && d.pruned.children.isEmpty) = true ↔
        d.testCount = 0 :=
      ⟨fun h => by rw [← testCount_pruned, testCount_eq_zero h], isEmpty_pruned d⟩
    simp only [prune, List.mem_cons, exists_eq_or_imp, ← ih]
    split
    · next hempty =>
      have hzero := hcount.1 hempty
      exact (or_iff_right fun h => absurd h.1 (by omega)).symm
    · next hempty =>
      have hpos : 0 < d.testCount := Nat.pos_of_ne_zero (mt hcount.2 hempty)
      rw [List.mem_cons, and_iff_right hpos]

end TestClass

/-! ### The classes of an outline -/

namespace TestClass

/-- A class is in a forest, at any depth. -/
inductive Within (forest : List TestClass) : TestClass → Prop
  /-- It is one of the trees. -/
  | root {c : TestClass} (h : c ∈ forest) : Within forest c
  /-- It is nested directly in a class that is in the forest. -/
  | child {c d : TestClass} (hc : Within forest c) (h : d ∈ c.children) : Within forest d

/-- A class of an outline is what a line and the lines of its block declare. -/
structure IsReadAt (c : TestClass) (lines : List (List Char)) (k : Nat) (block : Block) : Prop where
  /-- The class has the number of the line. -/
  line : c.line = lineNumber? k
  /-- Its header stands there. -/
  reading : LineReading.ofLines (lines.drop k) = .cls c.name block
  /-- Its methods are the tests between the braces. -/
  methods : c.methods = (block.members (lines.drop k) k).filterMap Declaration.testMethod?
  /-- Its classes are those between the braces that hold a test. -/
  children : c.children = prune (Declaration.testClasses (block.members (lines.drop k) k))

theorem exists_of_mem_outline {c : TestClass}
    (h : c ∈ prune (Declaration.testClasses
      (Declaration.ofLines inClass ignored n count (lines.drop n)))) :
    ∃ i < count, Reached inClass (lines.drop n) i ∧ ∃ block, c.IsReadAt lines (n + i) block := by
  obtain ⟨d, hd, -, rfl⟩ := mem_prune.1 h
  obtain ⟨name, m, members, hmem, rfl⟩ := Declaration.exists_of_mem_testClasses hd
  obtain ⟨i, hi, hreached, hread⟩ := Declaration.mem_ofLines hmem
  rw [List.drop_drop] at hread
  refine ⟨i, hi, hreached, ?_⟩
  cases hread with
  | cls hread => exact ⟨_, rfl, hread, rfl, rfl⟩

/-- **Every class of an outline is read on a line of the source.** -/
theorem Within.exists_isReadAt {c : TestClass} (h : c.Within (outline source)) :
    ∃ k block, c.IsReadAt (sourceLines source) k block := by
  induction h with
  | root h =>
    rw [outline, Declaration.ofSource, ← List.drop_zero (l := sourceLines source)] at h
    obtain ⟨i, -, -, block, hread⟩ := exists_of_mem_outline h
    exact ⟨0 + i, block, hread⟩
  | child _ hd ih =>
    obtain ⟨k, block, hread⟩ := ih
    rw [hread.children, Block.members_drop] at hd
    obtain ⟨i, -, -, block', hread'⟩ := exists_of_mem_outline hd
    exact ⟨_, block', hread'⟩

variable {c : TestClass}

/-- The methods of a class are read between its braces. -/
theorem IsReadAt.exists_of_mem_methods (h : c.IsReadAt lines k block) {m : TestMethod}
    (hm : m ∈ c.methods) :
    ∃ i < block.closing - block.opening - 1,
      Reached true (lines.drop (k + block.opening + 1)) i ∧
      m.line = lineNumber? (k + block.opening + 1 + i) ∧
      ∃ last,
        LineReading.ofLines (lines.drop (k + block.opening + 1 + i)) = .method m.name last := by
  rw [h.methods, Block.members_drop] at hm
  obtain ⟨n, hd, hline, -⟩ := Declaration.exists_of_mem_testMethods hm
  obtain ⟨i, hi, hreached, hread⟩ := Declaration.mem_ofLines hd
  rw [List.drop_drop] at hread
  refine ⟨i, hi, hreached, ?_⟩
  cases hread with
  | method hread => exact ⟨hline, _, hread⟩

/-- So are the classes of a class. -/
theorem IsReadAt.exists_of_mem_children (h : c.IsReadAt lines k block) {d : TestClass}
    (hd : d ∈ c.children) :
    ∃ i < block.closing - block.opening - 1,
      Reached true (lines.drop (k + block.opening + 1)) i ∧
      ∃ block', d.IsReadAt lines (k + block.opening + 1 + i) block' := by
  rw [h.children, Block.members_drop] at hd
  exact exists_of_mem_outline hd

end TestClass

end ScriptSuite
