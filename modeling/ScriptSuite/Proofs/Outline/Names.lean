import ScriptSuite.Proofs.Outline.Depth

/-!
# The names in an outline

A header names what it declares with a word, so every class of an outline and every method of it has
a name of one or more word characters, at any depth.

## Main definitions

* `TestClass.Named`: the names at and below a class have a property

## Main results

* `TestClass.named_of_mem_outline`: the names of an outline are names
-/

namespace ScriptSuite

open Text

variable {first s : List Char} {name source : String} {lines : List (List Char)} {block : Block}
  {last : Nat}

/-! ### The name in a header -/

theorem ClassHeader.isName_of_ofLine? {h : ClassHeader} (hs : ofLine? s = some h) :
    IsName h.name.toList := by
  obtain ⟨-, -, -, hn, -⟩ := ofLine?_eq_some_iff.1 hs
  exact hn

theorem MethodHeader.isName_of_ofLine? {h : MethodHeader} (hs : ofLine? s = some h) :
    IsName h.name.toList := by
  obtain ⟨-, hn, -, -, -⟩ := ofLine?_eq_some_iff.1 hs
  exact hn

theorem LineReading.isName_of_eq_method (h : ofLines lines = .method name last) :
    IsName name.toList := by
  obtain ⟨first, rest, header, -, hheader, rfl, -⟩ := LineReading.exists_of_eq_method h
  exact MethodHeader.isName_of_ofLine? hheader

theorem LineReading.isName_of_eq_cls (h : ofLines lines = .cls name block) :
    IsName name.toList := by
  obtain ⟨first, rest, header, -, hheader, rfl, -⟩ := LineReading.exists_of_eq_cls h
  exact ClassHeader.isName_of_ofLine? hheader

/-! ### The names of a class -/

namespace TestClass

/-- The names at and below a class have a property. -/
inductive Named (P : String → Prop) : TestClass → Prop
  /-- The class and its methods have it, and so do the names of the classes in it. -/
  | mk {name : String} {line : Option UInt32} {methods : List TestMethod}
      {children : List TestClass} (hname : P name) (hmethods : ∀ m ∈ methods, P m.name)
      (hchildren : ∀ c ∈ children, Named P c) : Named P (.mk name line methods children)

/-- Induction over a class and the classes in it. -/
@[elab_as_elim]
theorem induction {motive : TestClass → Prop}
    (mk : ∀ name line methods children, (∀ c ∈ children, motive c) →
      motive (.mk name line methods children)) (c : TestClass) : motive c :=
  match c with
  | .mk name line methods children =>
    mk name line methods children fun d hd =>
      have : sizeOf d < sizeOf (TestClass.mk name line methods children) := by
        have := List.sizeOf_lt_of_mem hd
        simp only [TestClass.mk.sizeOf_spec]
        omega
      induction mk d
termination_by sizeOf c

/-- A property of all classes of a forest and of their methods is one of all names at and below each
of them. -/
theorem Within.named {forest : List TestClass} {P : String → Prop} {c : TestClass}
    (h : ∀ d : TestClass, d.Within forest → P d.name ∧ ∀ m ∈ d.methods, P m.name)
    (hc : c.Within forest) : c.Named P := by
  induction c using TestClass.induction with
  | mk name line methods children ih =>
    exact .mk (h _ hc).1 (h _ hc).2 fun d hd => ih d hd (hc.child hd)

/-- **The names of an outline are names**, at any depth. -/
theorem named_of_mem_outline {c : TestClass} (h : c ∈ outline source) :
    c.Named fun name => IsName name.toList := by
  refine Within.named (fun d hd => ?_) (Within.root h)
  obtain ⟨k, block, hread⟩ := hd.exists_isReadAt
  refine ⟨LineReading.isName_of_eq_cls hread.reading, fun m hm => ?_⟩
  obtain ⟨i, -, -, -, last, hmethod⟩ := hread.exists_of_mem_methods hm
  exact LineReading.isName_of_eq_method hmethod

end TestClass

end ScriptSuite
