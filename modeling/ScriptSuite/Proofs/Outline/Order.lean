import Mathlib.Data.List.Pairwise
import ScriptSuite.Proofs.Outline.Names

/-!
# The order of the lines in an outline

A source is read from top to bottom, and what is declared between the braces of a class is read
before what stands behind the class. So the lines of the declarations of a source ascend if each
class comes in front of its members. An outline keeps the methods of a class apart from its classes,
but what it says of the lines is still that order: a class begins before all that is in it, and two
things of one class lie apart, the one in front of the other with all that is in it.

## Main definitions

* `Declaration.lines`, `TestClass.lines`: the lines at and below a declaration, and a class
* `TestClass.IsOrdered`: the lines in a class are those of a text that is read from top to bottom

## Main results

* `Declaration.ascendsIn_ofLines`: the lines of the declarations in a scope ascend and lie in it
* `TestClass.isOrdered_of_within_outline`: the classes of an outline are ordered, at any depth, and
  no two of its methods and classes share a line
-/

namespace ScriptSuite

open Text

variable {inClass ignored : Bool} {n m l count lo hi : Nat} {text : List (List Char)}
  {ls behind : List Nat} {source : String}

/-! ### Ascending numbers between bounds -/

/-- The numbers ascend and lie between two bounds, the upper one not included. -/
structure AscendsIn (lo hi : Nat) (ls : List Nat) : Prop where
  /-- Each number is smaller than the ones behind it. -/
  pairwise : ls.Pairwise (· < ·)
  /-- No number is below the lower bound. -/
  le : ∀ l ∈ ls, lo ≤ l
  /-- All numbers are below the upper bound. -/
  lt : ∀ l ∈ ls, l < hi

namespace AscendsIn

theorem nil : AscendsIn lo hi [] :=
  ⟨List.Pairwise.nil, fun _ h => absurd h List.not_mem_nil, fun _ h => absurd h List.not_mem_nil⟩

/-- The numbers lie between other bounds if all numbers between the old ones do. -/
theorem widen {lo' hi' : Nat} (h : AscendsIn lo hi ls)
    (hbounds : ∀ l, lo ≤ l → l < hi → lo' ≤ l ∧ l < hi') : AscendsIn lo' hi' ls :=
  ⟨h.pairwise, fun l hl => (hbounds l (h.le l hl) (h.lt l hl)).1,
    fun l hl => (hbounds l (h.le l hl) (h.lt l hl)).2⟩

theorem cons (hls : AscendsIn (n + 1) hi ls) (hn : n < hi) : AscendsIn n hi (n :: ls) := by
  refine ⟨List.pairwise_cons.2 ⟨fun l hl => hls.le l hl, hls.pairwise⟩, ?_, ?_⟩
  · exact List.forall_mem_cons.2 ⟨Nat.le_refl n, fun l hl => Nat.le_of_succ_le (hls.le l hl)⟩
  · exact List.forall_mem_cons.2 ⟨hn, hls.lt⟩

theorem lt_of_cons (h : AscendsIn lo hi (n :: ls)) : ∀ l ∈ ls, n < l :=
  (List.pairwise_cons.1 h.pairwise).1

theorem of_cons (h : AscendsIn lo hi (n :: ls)) : AscendsIn lo hi ls :=
  ⟨(List.pairwise_cons.1 h.pairwise).2, (List.forall_mem_cons.1 h.le).2,
    (List.forall_mem_cons.1 h.lt).2⟩

theorem append (hls : AscendsIn lo m ls) (hbehind : AscendsIn m hi behind) (hlo : lo ≤ m)
    (hhi : m ≤ hi) : AscendsIn lo hi (ls ++ behind) := by
  refine ⟨List.pairwise_append.2 ⟨hls.pairwise, hbehind.pairwise, fun a ha b hb => ?_⟩, ?_, ?_⟩
  · exact Nat.lt_of_lt_of_le (hls.lt a ha) (hbehind.le b hb)
  · exact List.forall_mem_append.2
      ⟨hls.le, fun l hl => Nat.le_trans hlo (hbehind.le l hl)⟩
  · exact List.forall_mem_append.2
      ⟨fun l hl => Nat.lt_of_lt_of_le (hls.lt l hl) hhi, hbehind.lt⟩

end AscendsIn

/-! ### The lines of declarations -/

namespace Declaration

mutual

/-- The line of a declaration, and behind it the lines of what is declared in it. -/
def lines : Declaration → List Nat
  | method _ line _ => [line]
  | cls _ line _ members => line :: linesOf members

/-- The lines of several declarations and of what is declared in them. -/
def linesOf : List Declaration → List Nat
  | [] => []
  | d :: rest => d.lines ++ linesOf rest

end

theorem linesOf_eq_flatMap (ds : List Declaration) : linesOf ds = ds.flatMap lines := by
  induction ds with
  | nil => rfl
  | cons d rest ih => rw [linesOf, ih, List.flatMap_cons]

/-- **The lines of the declarations in a scope ascend and lie in it.** -/
theorem ascendsIn_ofLines (h : IsScope inClass count text) :
    AscendsIn n (n + count) (linesOf (ofLines inClass ignored n count text)) := by
  fun_induction Declaration.ofLines inClass ignored n count text with
  | case1 => exact AscendsIn.nil
  | case2 => exact AscendsIn.nil
  | case3 inClass ignored n count first rest hcount hread ih =>
    have hscope := h.behind (Nat.pos_of_ne_zero hcount)
    rw [hread] at hscope
    exact (ih hscope).widen fun l hle hlt => by omega
  | case4 inClass ignored n count first rest hcount name block hread ihmembers ihrest =>
    have hpos := Nat.pos_of_ne_zero hcount
    have hscope := h.behind hpos
    have hlast := h.last_le hpos
    have hopens := LineReading.opensIn_of_eq_cls hread
    have hopening := hopens.opening_le
    rw [hread] at hscope hlast
    have hclosing : block.closing ≤ count := hlast
    -- The class takes the lines up to its end, or as many of them as there are in the scope.
    rw [linesOf, lines]
    refine AscendsIn.append (m := n + max block.closing 1) (AscendsIn.cons ?_ (by omega)) ?_
      (by omega) (by omega)
    · exact (ihmembers hopens.isScope).widen fun l hle hlt => by omega
    · exact (ihrest hscope).widen fun l hle hlt => by omega
  | case5 ignored n count first rest hcount name last hread ih =>
    have hpos := Nat.pos_of_ne_zero hcount
    have hscope := h.behind hpos
    rw [hread] at hscope
    rw [linesOf, lines]
    refine AscendsIn.append (m := n + 1) (AscendsIn.cons AscendsIn.nil (by omega)) ?_
      (by omega) (by omega)
    exact (ih hscope).widen fun l hle hlt => by omega
  | case6 inClass ignored n count first rest hcount name last hread hin ih =>
    have hscope := h.behind (Nat.pos_of_ne_zero hcount)
    rw [hread, show (LineReading.method name last).last inClass = 0 from if_neg hin] at hscope
    exact (ih hscope).widen fun l hle hlt => by omega
  | case7 inClass ignored n count first rest hcount hread ih =>
    have hscope := h.behind (Nat.pos_of_ne_zero hcount)
    rw [hread] at hscope
    exact (ih hscope).widen fun l hle hlt => by omega

/-! ### The class of a declaration -/

/-- The class that an outline has for a declaration: none if it is left out or holds no test. -/
def outlined? (d : Declaration) : Option TestClass :=
  (testClass? d).bind fun c =>
    if c.pruned.methods.isEmpty && c.pruned.children.isEmpty then none else some c.pruned

theorem prune_testClasses_eq_filterMap (ds : List Declaration) :
    TestClass.prune (testClasses ds) = ds.filterMap outlined? := by
  induction ds with
  | nil => rfl
  | cons d rest ih =>
    rw [testClasses, List.filterMap_cons, outlined?, ← ih]
    cases testClass? d with
    | none => rfl
    | some c =>
      rw [Option.toList_some, List.singleton_append, TestClass.prune, Option.bind_some]
      split <;> rfl

theorem exists_of_outlined? {d : Declaration} {c : TestClass} (h : outlined? d = some c) :
    ∃ name n members, d = .cls name n false members ∧ c.line = lineNumber? n ∧
      c.methods = members.filterMap testMethod? ∧ c.children = members.filterMap outlined? := by
  obtain ⟨e, he, h⟩ := Option.bind_eq_some_iff.1 h
  obtain rfl : e.pruned = c := by
    split at h
    · exact absurd h (by simp)
    · exact Option.some.inj h
  cases d with
  | method => exact absurd he (by simp [testClass?])
  | cls name n ignored members =>
    cases ignored with
    | true => exact absurd he (by simp [testClass?])
    | false =>
      rw [testClass?, if_neg Bool.false_ne_true] at he
      obtain rfl := Option.some.inj he
      exact ⟨name, n, members, rfl, rfl, rfl, prune_testClasses_eq_filterMap members⟩

theorem exists_of_testMethod? {d : Declaration} {m : TestMethod} (h : testMethod? d = some m) :
    ∃ n ∈ d.lines, m.line = lineNumber? n := by
  obtain ⟨n, rfl, hline, -⟩ := eq_method_of_testMethod? h
  exact ⟨n, List.mem_cons_self, hline⟩

end Declaration

/-! ### The lines of classes -/

/-- Two lines are known, and the one comes in front of the other. -/
def Precedes (x y : Option UInt32) : Prop := ∃ a b, x = some a ∧ y = some b ∧ a < b

theorem precedes_lineNumber? (h : n < m) (hm : m < UInt32.size) :
    Precedes (lineNumber? n) (lineNumber? m) := by
  have hn : n < UInt32.size := Nat.lt_trans h hm
  refine ⟨UInt32.ofNat n, UInt32.ofNat m, lineNumber?_of_lt hn, lineNumber?_of_lt hm, ?_⟩
  rwa [UInt32.lt_iff_toNat_lt, UInt32.toNat_ofNat_of_lt' hn, UInt32.toNat_ofNat_of_lt' hm]

theorem Precedes.ne {x y : Option UInt32} (h : Precedes x y) : x ≠ y := by
  obtain ⟨a, b, rfl, rfl, hab⟩ := h
  intro he
  rw [Option.some.inj he] at hab
  exact UInt32.lt_irrefl b hab

namespace TestClass

mutual

/-- The line of a class, and behind it the lines of its methods and of the classes in it. -/
def lines : TestClass → List (Option UInt32)
  | mk _ line methods children => line :: (methods.map TestMethod.line ++ linesOf children)

/-- The lines of several classes, of their methods and of the classes in them. -/
def linesOf : List TestClass → List (Option UInt32)
  | [] => []
  | c :: rest => c.lines ++ linesOf rest

end

/-- The lines of the methods of a class and of the classes in it, at any depth. -/
def linesInside (c : TestClass) : List (Option UInt32) :=
  c.methods.map TestMethod.line ++ linesOf c.children

/-- The lines in a class are those of a text that is read from top to bottom. -/
structure IsOrdered (c : TestClass) : Prop where
  /-- The class begins in front of all that is in it. -/
  inside : ∀ l ∈ c.linesInside, Precedes c.line l
  /-- The lines of its methods ascend. -/
  methods : c.methods.Pairwise fun m m' => Precedes m.line m'.line
  /-- The classes in it come one behind the other, each with all that is in it. -/
  children : c.children.Pairwise fun d d' => ∀ l ∈ d.lines, ∀ l' ∈ d'.lines, Precedes l l'
  /-- A method comes in front of a class with all that is in it, or behind it. -/
  apart : ∀ m ∈ c.methods, ∀ d ∈ c.children,
    (∀ l ∈ d.lines, Precedes m.line l) ∨ ∀ l ∈ d.lines, Precedes l m.line

theorem linesOf_eq_flatMap (cs : List TestClass) : linesOf cs = cs.flatMap lines := by
  induction cs with
  | nil => rfl
  | cons c rest ih => rw [linesOf, ih, List.flatMap_cons]

theorem lines_eq (c : TestClass) : c.lines = c.line :: c.linesInside := by
  cases c
  rfl

theorem mem_linesInside {c : TestClass} {l : Option UInt32} : l ∈ c.linesInside ↔
    (∃ m ∈ c.methods, m.line = l) ∨ ∃ d ∈ c.children, l ∈ d.lines := by
  rw [linesInside, List.mem_append, List.mem_map, linesOf_eq_flatMap, List.mem_flatMap]

variable {d : Declaration} {members : List Declaration} {c : TestClass} {l : Option UInt32}

/-- The lines in a class are numbers of lines of its members, if that is so of the classes in it. -/
theorem exists_of_mem_linesInside
    (hmethods : c.methods = members.filterMap Declaration.testMethod?)
    (hchildren : c.children = members.filterMap Declaration.outlined?)
    (h : ∀ d ∈ members, ∀ c ∈ d.outlined?, ∀ l ∈ c.lines, ∃ k ∈ d.lines, l = lineNumber? k)
    (hl : l ∈ c.linesInside) : ∃ k ∈ Declaration.linesOf members, l = lineNumber? k := by
  have hin {k : Nat} {d : Declaration} (hd : d ∈ members) (hk : k ∈ d.lines) :
      k ∈ Declaration.linesOf members := by
    rw [Declaration.linesOf_eq_flatMap]
    exact List.mem_flatMap.2 ⟨d, hd, hk⟩
  rw [mem_linesInside, hmethods, hchildren] at hl
  rcases hl with ⟨m, hm, rfl⟩ | ⟨c, hc, hl⟩
  · obtain ⟨d, hd, hm⟩ := List.mem_filterMap.1 hm
    obtain ⟨k, hk, hline⟩ := Declaration.exists_of_testMethod? hm
    exact ⟨k, hin hd hk, hline⟩
  · obtain ⟨d, hd, hc⟩ := List.mem_filterMap.1 hc
    obtain ⟨k, hk, hline⟩ := h d hd c hc l hl
    exact ⟨k, hin hd hk, hline⟩

/-- The lines of a class are numbers of lines of its declaration. -/
theorem exists_of_mem_lines (h : d.outlined? = some c) (hl : l ∈ c.lines) :
    ∃ k ∈ d.lines, l = lineNumber? k := by
  induction c using TestClass.induction generalizing d l with
  | mk name line methods children ih =>
    obtain ⟨name', n, members, rfl, hline, hmethods, hchildren⟩ := Declaration.exists_of_outlined? h
    rw [lines_eq, List.mem_cons] at hl
    rcases hl with rfl | hl
    · exact ⟨n, List.mem_cons_self, hline⟩
    · obtain ⟨k, hk, hl⟩ := exists_of_mem_linesInside hmethods hchildren
        (fun d hd c hc l hl => ih c (by
          show c ∈ (TestClass.mk name line methods children).children
          rw [hchildren]
          exact List.mem_filterMap.2 ⟨d, hd, hc⟩) hc hl) hl
      exact ⟨k, List.mem_cons_of_mem _ hk, hl⟩

end TestClass

/-! ### From declarations to classes -/

namespace Declaration

variable {d e : Declaration} {ds : List Declaration} {c : TestClass} {t : TestMethod}
  {x y : Option UInt32}

/-- The one declaration, with all that is in it, stands in front of the other. -/
def Above (d e : Declaration) : Prop := ∀ k ∈ d.lines, ∀ l ∈ e.lines, k < l

theorem Above.precedes (h : d.Above e) (hx : ∃ k ∈ d.lines, x = lineNumber? k)
    (hy : ∃ l ∈ e.lines, y = lineNumber? l) (hsize : AscendsIn 0 UInt32.size e.lines) :
    Precedes x y := by
  obtain ⟨k, hk, rfl⟩ := hx
  obtain ⟨l, hl, rfl⟩ := hy
  exact precedes_lineNumber? (h k hk l hl) (hsize.lt l hl)

section Ascending

variable (h : AscendsIn 0 UInt32.size (linesOf ds))

include h

theorem pairwise_above : ds.Pairwise Above := by
  have hpairwise := h.pairwise
  rw [linesOf_eq_flatMap, List.pairwise_flatMap] at hpairwise
  exact hpairwise.2

theorem ascendsIn_of_mem (hd : d ∈ ds) : AscendsIn 0 UInt32.size d.lines := by
  have hpairwise := h.pairwise
  have hlt := h.lt
  rw [linesOf_eq_flatMap] at hpairwise hlt
  exact ⟨(List.pairwise_flatMap.1 hpairwise).1 d hd, fun _ _ => Nat.zero_le _,
    fun l hl => hlt l (List.mem_flatMap.2 ⟨d, hd, hl⟩)⟩

theorem pairwise_testMethods :
    (ds.filterMap testMethod?).Pairwise fun t t' => Precedes t.line t'.line := by
  rw [List.pairwise_filterMap]
  refine (pairwise_above h).imp_of_mem fun _ he habove t ht t' ht' => ?_
  exact habove.precedes (exists_of_testMethod? ht) (exists_of_testMethod? ht')
    (ascendsIn_of_mem h he)

theorem pairwise_outlined : (ds.filterMap outlined?).Pairwise fun c c' =>
    ∀ l ∈ c.lines, ∀ l' ∈ c'.lines, Precedes l l' := by
  rw [List.pairwise_filterMap]
  refine (pairwise_above h).imp_of_mem fun _ he habove c hc c' hc' l hl l' hl' => ?_
  exact habove.precedes (TestClass.exists_of_mem_lines hc hl)
    (TestClass.exists_of_mem_lines hc' hl') (ascendsIn_of_mem h he)

/-- Of a method and a class, one stands in front of the other. -/
theorem precedes_or_precedes (ht : t ∈ ds.filterMap testMethod?)
    (hc : c ∈ ds.filterMap outlined?) :
    (∀ l ∈ c.lines, Precedes t.line l) ∨ ∀ l ∈ c.lines, Precedes l t.line := by
  obtain ⟨d, hd, hdt⟩ := List.mem_filterMap.1 ht
  obtain ⟨e, he, hec⟩ := List.mem_filterMap.1 hc
  have hne : d ≠ e := by
    rintro rfl
    obtain ⟨name, n, members, rfl, -⟩ := exists_of_outlined? hec
    exact absurd hdt (by simp [testMethod?])
  have hsymm : Std.Symm fun d e : Declaration => d.Above e ∨ e.Above d := ⟨fun _ _ => Or.symm⟩
  have hpairwise : ds.Pairwise fun d e => d.Above e ∨ e.Above d := (pairwise_above h).imp Or.inl
  rcases hpairwise.forall hd he hne with habove | habove
  · exact Or.inl fun l hl => habove.precedes (exists_of_testMethod? hdt)
      (TestClass.exists_of_mem_lines hec hl) (ascendsIn_of_mem h he)
  · exact Or.inr fun l hl => habove.precedes (TestClass.exists_of_mem_lines hec hl)
      (exists_of_testMethod? hdt) (ascendsIn_of_mem h hd)

end Ascending

/-- **The class of a declaration is ordered**, if the lines of the declaration ascend. -/
theorem isOrdered_of_outlined? (h : AscendsIn 0 UInt32.size d.lines) (hc : outlined? d = some c) :
    c.IsOrdered := by
  obtain ⟨name, n, members, rfl, hline, hmethods, hchildren⟩ := exists_of_outlined? hc
  rw [lines] at h
  refine ⟨fun l hl => ?_, ?_, ?_, ?_⟩
  · obtain ⟨k, hk, rfl⟩ := TestClass.exists_of_mem_linesInside hmethods hchildren
      (fun _ _ _ hc _ hl => TestClass.exists_of_mem_lines hc hl) hl
    rw [hline]
    exact precedes_lineNumber? (h.lt_of_cons k hk) (h.of_cons.lt k hk)
  · rw [hmethods]
    exact pairwise_testMethods h.of_cons
  · rw [hchildren]
    exact pairwise_outlined h.of_cons
  · rw [hmethods, hchildren]
    exact fun t ht c hc => precedes_or_precedes h.of_cons ht hc

end Declaration

/-! ### The lines of an outline -/

namespace TestClass

variable {c : TestClass} {cs : List TestClass}

/-- No line occurs twice in classes that come one behind the other, if none does in each. -/
theorem nodup_linesOf (hc : ∀ c ∈ cs, c.lines.Nodup)
    (h : cs.Pairwise fun c c' => ∀ l ∈ c.lines, ∀ l' ∈ c'.lines, Precedes l l') :
    (linesOf cs).Nodup := by
  rw [linesOf_eq_flatMap]
  refine List.pairwise_flatMap.2 ⟨hc, h.imp fun hprec l hl l' hl' => ?_⟩
  exact (hprec l hl l' hl').ne

/-- No line occurs twice in an ordered class, if none does in the classes in it. -/
theorem IsOrdered.nodup_lines (h : c.IsOrdered) (hc : ∀ d ∈ c.children, d.lines.Nodup) :
    c.lines.Nodup := by
  rw [lines_eq, List.nodup_cons]
  refine ⟨fun hl => (h.inside _ hl).ne rfl, ?_⟩
  rw [linesInside, List.nodup_append]
  refine ⟨List.pairwise_map.2 (h.methods.imp fun hm => hm.ne), nodup_linesOf hc h.children, ?_⟩
  intro l hl l' hl'
  obtain ⟨m, hm, rfl⟩ := List.mem_map.1 hl
  rw [linesOf_eq_flatMap] at hl'
  obtain ⟨d, hd, hl'⟩ := List.mem_flatMap.1 hl'
  rcases h.apart m hm d hd with hprec | hprec
  · exact (hprec l' hl').ne
  · exact (hprec l' hl').ne.symm

theorem nodup_lines_of_within {forest : List TestClass}
    (h : ∀ d : TestClass, d.Within forest → d.IsOrdered) (hc : c.Within forest) :
    c.lines.Nodup := by
  induction c using TestClass.induction with
  | mk name line methods children ih =>
    exact (h _ hc).nodup_lines fun d hd => ih d hd (hc.child hd)

theorem ascendsIn_ofSource (h : (sourceLines source).length ≤ UInt32.size) :
    AscendsIn 0 UInt32.size (Declaration.linesOf (Declaration.ofSource source)) := by
  have hscope := IsScope.file (sourceLines source)
  exact (Declaration.ascendsIn_ofLines hscope).widen fun l hle hlt => by omega

/-- Every class of an outline is the class of a declaration whose lines ascend. -/
theorem Within.exists_outlined? (h : (sourceLines source).length ≤ UInt32.size)
    (hc : c.Within (outline source)) :
    ∃ d : Declaration, AscendsIn 0 UInt32.size d.lines ∧ d.outlined? = some c := by
  induction hc with
  | root hc =>
    rw [outline, Declaration.prune_testClasses_eq_filterMap] at hc
    obtain ⟨d, hd, hc⟩ := List.mem_filterMap.1 hc
    exact ⟨d, Declaration.ascendsIn_of_mem (ascendsIn_ofSource h) hd, hc⟩
  | child _ hd ih =>
    obtain ⟨e, hlines, hout⟩ := ih
    obtain ⟨name, n, members, rfl, -, -, hchildren⟩ := Declaration.exists_of_outlined? hout
    rw [hchildren] at hd
    obtain ⟨d, hmem, hd⟩ := List.mem_filterMap.1 hd
    exact ⟨d, Declaration.ascendsIn_of_mem hlines.of_cons hmem, hd⟩

/-- **The classes of an outline are ordered**, at any depth: a class begins in front of all that is
in it, its methods ascend, the classes in it come one behind the other, and each method comes in
front of each of these classes or behind it, always with all that is in the class. So do the classes
of the outline itself. Every class and every method has a line, and no two share one. -/
theorem isOrdered_of_within_outline (h : (sourceLines source).length ≤ UInt32.size) :
    (∀ c : TestClass, c.Within (outline source) → c.IsOrdered) ∧
      (outline source).Pairwise (fun c c' => ∀ l ∈ c.lines, ∀ l' ∈ c'.lines, Precedes l l') ∧
      (linesOf (outline source)).Nodup ∧ ∀ l ∈ linesOf (outline source), l.isSome = true := by
  have hordered : ∀ c : TestClass, c.Within (outline source) → c.IsOrdered := fun c hc => by
    obtain ⟨d, hlines, hd⟩ := hc.exists_outlined? h
    exact Declaration.isOrdered_of_outlined? hlines hd
  have hforest : (outline source).Pairwise fun c c' =>
      ∀ l ∈ c.lines, ∀ l' ∈ c'.lines, Precedes l l' := by
    rw [outline, Declaration.prune_testClasses_eq_filterMap]
    exact Declaration.pairwise_outlined (ascendsIn_ofSource h)
  refine ⟨hordered, hforest, nodup_linesOf (fun c hc => ?_) hforest, fun l hl => ?_⟩
  · exact nodup_lines_of_within hordered (Within.root hc)
  · rw [linesOf_eq_flatMap] at hl
    obtain ⟨c, hc, hl⟩ := List.mem_flatMap.1 hl
    obtain ⟨d, hlines, hd⟩ := (Within.root hc).exists_outlined? h
    obtain ⟨k, hk, rfl⟩ := exists_of_mem_lines hd hl
    rw [lineNumber?_of_lt (hlines.lt k hk)]
    rfl

/-- A class that a brace in a string keeps open up to the end of the file. -/
def openSource : String :=
  "class A \x7b\n    M() => \"\x7b\"\n    class B \x7b\n        N()\n    \x7d\n\x7d\n"

theorem isOrdered_of_within_outline_openSource :
    (sourceLines openSource).length ≤ UInt32.size ∧
      ∃ c : TestClass, c.Within (outline openSource) ∧ c.line = some 0 ∧
        c.linesInside = [some 1, some 2, some 3] ∧ c.IsOrdered ∧
        (linesOf (outline openSource)).Nodup := by
  have hsize : (sourceLines openSource).length ≤ UInt32.size := by decide
  have hclass : (outline openSource).map (fun c => (c.line, c.linesInside)) =
      [(some 0, [some 1, some 2, some 3])] := by decide +kernel
  obtain ⟨c, hc, hlines⟩ := List.map_eq_singleton_iff.1 hclass
  obtain ⟨hline, hinside⟩ := Prod.mk.inj hlines
  have hwithin : c.Within (outline openSource) := Within.root (hc ▸ List.mem_singleton_self c)
  obtain ⟨hordered, -, hnodup, -⟩ := isOrdered_of_within_outline hsize
  exact ⟨hsize, c, hwithin, hline, hinside, hordered c hwithin, hnodup⟩

end TestClass

end ScriptSuite
