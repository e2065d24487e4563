import ScriptSuite.Proofs.Outline.Names
import ScriptSuite.Tree

/-!
# Walks over the test tree

A walk over the tree comes by every item: first the item, then the items below it from left to
right, and it keeps the labels of the classes that it is in. The tests of the tree, and the search
for an id, are told by this one walk: the tests below an item are the methods that the walk meets
there, and the search finds the first item that the walk comes by.

The search leaves out whatever does not start with the id of the item that it stands at. That is
sound because ids grow downwards; `TestItem.Below` says how.

## Main definitions

* `TestItem.visits`, `TestTree.visits`: the items that the walk comes by
* `TestItem.Below`: the items of the methods and classes of a file

## Main results

* `TestItem.find?_eq_find?_visits`: the search finds what the walk meets first
* `TestItem.Below.infix_leaves`: the tests below an item are listed one behind the other
* `TestItem.Below.isPlaced`: the id of an item is written with the labels that the walk keeps
-/

namespace ScriptSuite

/-! ### Items and the lists of items below them -/

namespace TestItem

variable {β : Type} {file parent target : String} {above : List String}

theorem findSome?_congr {f g : TestItem → Option β} {items : List TestItem}
    (h : ∀ item ∈ items, f item = g item) : items.findSome? f = items.findSome? g := by
  induction items with
  | nil => rfl
  | cons item rest ih =>
    rw [List.forall_mem_cons] at h
    rw [List.findSome?_cons, List.findSome?_cons, h.1, ih h.2]

theorem findIn?_eq_findSome? (items : List TestItem) :
    findIn? target items = items.findSome? (find? target) := by
  induction items with
  | nil => rfl
  | cons item rest ih =>
    rw [findIn?, ih, List.findSome?_cons]
    cases item.find? target <;> rfl

theorem leavesOf_eq_flatMap (items : List TestItem) :
    leavesOf file above items = items.flatMap (leaves file above) := by
  induction items with
  | nil => rfl
  | cons item rest ih => rw [leavesOf, ih, List.flatMap_cons]

theorem ofClasses_eq_map (classes : List TestClass) :
    ofClasses parent classes = classes.map (ofClass parent) := by
  induction classes with
  | nil => rfl
  | cons c rest ih => rw [ofClasses, ih, List.map_cons]

end TestItem

/-! ### The walk -/

/-- An item that the walk comes by, with its file and the labels of the classes above it. -/
structure Visit where
  /-- The id of the file. -/
  file : String
  /-- The labels of the classes above the item, outermost first. -/
  above : List String
  /-- The item. -/
  item : TestItem

/-- The tests at and below the item. -/
def Visit.tests (v : Visit) : List TestId := v.item.leaves v.file v.above

namespace TestItem

variable {file parent target : String} {above : List String} {item : TestItem} {v : Visit}
  {P : String → Prop}

/-- The labels of the classes above the items that are directly below an item. -/
def labelsBelow (above : List String) (item : TestItem) : List String :=
  if item.kind = .cls then above ++ [item.label] else above

mutual

/-- The items at and below an item, in the order of the walk. -/
def visits (file : String) (above : List String) : TestItem → List Visit
  | mk id label kind line children =>
    ⟨file, above, mk id label kind line children⟩ ::
      visitsOf file (if kind = .cls then above ++ [label] else above) children

/-- The items at and below several items, in the order of the walk. -/
def visitsOf (file : String) (above : List String) : List TestItem → List Visit
  | [] => []
  | item :: rest => item.visits file above ++ visitsOf file above rest

end

theorem visitsOf_eq_flatMap (items : List TestItem) :
    visitsOf file above items = items.flatMap (visits file above) := by
  induction items with
  | nil => rfl
  | cons item rest ih => rw [visitsOf, ih, List.flatMap_cons]

theorem visits_mk {id label : String} {kind : ItemKind} {line : Option UInt32}
    {children : List TestItem} :
    visits file above (mk id label kind line children) =
      ⟨file, above, mk id label kind line children⟩ ::
        children.flatMap (visits file (labelsBelow above (mk id label kind line children))) := by
  rw [visits, visitsOf_eq_flatMap]
  rfl

/-- The walk comes by an item, and by what is below the items directly below it. -/
theorem mem_visits_iff :
    v ∈ item.visits file above ↔
      v = ⟨file, above, item⟩ ∨
        ∃ child ∈ item.children, v ∈ child.visits file (labelsBelow above item) := by
  cases item
  rw [visits_mk, List.mem_cons, List.mem_flatMap]
  rfl

/-! ### What is below a file -/

/-- The items that methods and classes have below an item of the given id. Each of their names has
the property `P`. -/
inductive Below (P : String → Prop) : String → TestItem → Prop
  /-- The item of a method. -/
  | method {parent name : String} {line : Option UInt32} (hname : P name) :
      Below P parent (mk (parent ++ idSeparator ++ name) name .method line [])
  /-- The item of a class. -/
  | cls {parent name : String} {line : Option UInt32} {children : List TestItem} (hname : P name)
      (h : ∀ item ∈ children, Below P (parent ++ idSeparator ++ name) item) :
      Below P parent (mk (parent ++ idSeparator ++ name) name .cls line children)

theorem below_ofClass {c : TestClass} (h : c.Named P) : Below P parent (ofClass parent c) := by
  induction h generalizing parent with
  | mk hname hmethods _ ih =>
    rw [ofClass, ofClasses_eq_map]
    refine .cls hname fun item hitem => ?_
    rcases List.mem_append.1 hitem with hitem | hitem
    · obtain ⟨m, hm, rfl⟩ := List.mem_map.1 hitem
      exact .method (hmethods m hm)
    · obtain ⟨d, hd, rfl⟩ := List.mem_map.1 hitem
      exact ih d hd

theorem below_of_mem_children_ofFile {classes : List TestClass} (h : ∀ c ∈ classes, c.Named P)
    (hitem : item ∈ (ofFile file classes).children) : Below P file item := by
  rw [ofFile, ofClasses_eq_map] at hitem
  obtain ⟨c, hc, rfl⟩ := List.mem_map.1 hitem
  exact below_ofClass (h c hc)

namespace Below

theorem id_eq (h : Below P parent item) : item.id = parent ++ idSeparator ++ item.label := by
  cases h <;> rfl

theorem parent_prefix (h : Below P parent item) : parent.toList <+: item.id.toList := by
  rw [h.id_eq, String.toList_append, String.toList_append, List.append_assoc]
  exact List.prefix_append _ _

/-- Ids grow downwards. -/
theorem prefix_of_mem_visits (h : Below P parent item) (hv : v ∈ item.visits file above) :
    parent.toList <+: v.item.id.toList := by
  induction h generalizing above with
  | @method parent name line hname =>
    have hself : Below P parent (mk _ name .method line []) := .method hname
    rcases mem_visits_iff.1 hv with rfl | ⟨child, hchild, -⟩
    · exact hself.parent_prefix
    · exact absurd hchild List.not_mem_nil
  | @cls parent name line children hname h ih =>
    have hself : Below P parent (mk _ name .cls line children) := .cls hname h
    rcases mem_visits_iff.1 hv with rfl | ⟨child, hchild, hv⟩
    · exact hself.parent_prefix
    · exact hself.parent_prefix.trans (ih child hchild hv)

end Below

/-! ### The search for an id -/

/-- The search finds what the walk meets first, if it does so below the item. -/
theorem find?_eq_of_children
    (hbelow : ∀ child ∈ item.children, Below P item.id child)
    (h : ∀ child ∈ item.children, ∀ above,
      child.find? target =
        ((child.visits file above).find? fun v => v.item.id = target).map Visit.item) :
    item.find? target =
      ((item.visits file above).find? fun v => v.item.id = target).map Visit.item := by
  obtain ⟨id, label, kind, line, children⟩ := item
  rw [find?, visits_mk, List.find?_cons]
  by_cases hid : id = target
  · simp [hid, TestItem.id]
  · have hself : decide ((mk id label kind line children).id = target) = false := by
      rw [decide_eq_false_iff_not]
      exact hid
    rw [if_neg hid, hself, List.find?_flatMap, List.map_findSome?]
    split
    · rw [findIn?_eq_findSome?]
      exact findSome?_congr fun child hchild => h child hchild _
    · rename_i hpre
      refine (List.findSome?_eq_none_iff.2 fun child hchild => ?_).symm
      rw [Function.comp_apply, Option.map_eq_none_iff, List.find?_eq_none]
      intro v hv heq
      rw [List.isPrefixOf_iff_prefix] at hpre
      obtain rfl : v.item.id = target := by simpa using heq
      exact hpre ((hbelow child hchild).prefix_of_mem_visits hv)

theorem Below.find?_eq (h : Below P parent item) :
    item.find? target =
      ((item.visits file above).find? fun v => v.item.id = target).map Visit.item := by
  induction h generalizing above with
  | method hname => exact find?_eq_of_children (P := P) (by simp [children]) (by simp [children])
  | cls hname h ih => exact find?_eq_of_children h fun child hchild _ => ih child hchild

/-! ### The tests below an item -/

theorem leaves_of_ne_method (h : item.kind ≠ .method) :
    item.leaves file above = item.children.flatMap (leaves file (labelsBelow above item)) := by
  obtain ⟨id, label, kind, line, children⟩ := item
  cases kind with
  | method => exact absurd rfl h
  | file => rw [leaves, leavesOf_eq_flatMap]; rfl
  | cls => rw [leaves, leavesOf_eq_flatMap]; rfl

/-- The tests below an item are listed one behind the other, if they are so below the items directly
below it. -/
theorem tests_infix_of_children (hkind : item.kind ≠ .method)
    (h : ∀ child ∈ item.children, ∀ above, ∀ v ∈ child.visits file above,
      v.tests <:+: child.leaves file above)
    (hv : v ∈ item.visits file above) : v.tests <:+: item.leaves file above := by
  rcases mem_visits_iff.1 hv with rfl | ⟨child, hchild, hv⟩
  · exact List.infix_rfl
  · rw [leaves_of_ne_method hkind, List.flatMap]
    exact (h child hchild _ v hv).trans
      (List.infix_of_mem_flatten (List.mem_map_of_mem hchild))

theorem Below.infix_leaves (h : Below P parent item) (hv : v ∈ item.visits file above) :
    v.tests <:+: item.leaves file above := by
  induction h generalizing above v with
  | method hname =>
    rcases mem_visits_iff.1 hv with rfl | ⟨child, hchild, -⟩
    · exact List.infix_rfl
    · exact absurd hchild List.not_mem_nil
  | cls hname h ih =>
    exact tests_infix_of_children ItemKind.noConfusion
      (fun child hchild _ _ hv => ih child hchild hv) hv

/-! ### The labels on the way to an item -/

end TestItem

/-- What stands behind the id of a file in the id of an item whose labels these are. -/
def writtenBelow (labels : List String) : List Char :=
  labels.flatMap fun s => idSeparator.toList ++ s.toList

theorem writtenBelow_concat (labels : List String) (label : String) :
    writtenBelow (labels ++ [label]) =
      writtenBelow labels ++ (idSeparator.toList ++ label.toList) := by
  simp [writtenBelow]

/-- The id of an item is written with the labels that the walk keeps and its own. -/
structure Visit.IsPlaced (P : String → Prop) (file : String) (v : Visit) : Prop where
  /-- The file is the one of the walk. -/
  file_eq : v.file = file
  /-- The id of the item is the id of the file, followed by the labels. -/
  id_eq : v.item.id.toList = file.toList ++ writtenBelow (v.above ++ [v.item.label])
  /-- Each of the labels has the property. -/
  label : ∀ s ∈ v.above ++ [v.item.label], P s

namespace TestItem

variable {file parent target : String} {above : List String} {item : TestItem} {v : Visit}
  {P : String → Prop} {classes : List TestClass}

namespace Below

theorem label_of (h : Below P parent item) : P item.label := by
  cases h with
  | method hname => exact hname
  | cls hname => exact hname

theorem isPlaced_self (h : Below P parent item)
    (hparent : parent.toList = file.toList ++ writtenBelow above) (habove : ∀ s ∈ above, P s) :
    Visit.IsPlaced P file ⟨file, above, item⟩ where
  file_eq := rfl
  id_eq := by
    rw [writtenBelow_concat, h.id_eq, String.toList_append, String.toList_append, hparent]
    simp only [List.append_assoc]
  label := List.forall_mem_append.2 ⟨habove, List.forall_mem_singleton.2 h.label_of⟩

/-- **The walk keeps the labels that the ids are written with.** -/
theorem isPlaced (h : Below P parent item)
    (hparent : parent.toList = file.toList ++ writtenBelow above) (habove : ∀ s ∈ above, P s)
    (hv : v ∈ item.visits file above) : v.IsPlaced P file := by
  induction h generalizing above with
  | @method parent name line hname =>
    have hself : Below P parent (mk _ name .method line []) := .method hname
    rcases mem_visits_iff.1 hv with rfl | ⟨child, hchild, -⟩
    · exact hself.isPlaced_self hparent habove
    · exact absurd hchild List.not_mem_nil
  | @cls parent name line children hname h ih =>
    have hself : Below P parent (mk _ name .cls line children) := .cls hname h
    have hplaced := hself.isPlaced_self hparent habove
    rcases mem_visits_iff.1 hv with rfl | ⟨child, hchild, hv⟩
    · exact hplaced
    · exact ih child hchild hplaced.id_eq hplaced.label hv

end Below

/-! ### Files -/

section File

variable (h : ∀ c ∈ classes, c.Named P)

include h

theorem find?_ofFile :
    (ofFile file classes).find? target =
      (((ofFile file classes).visits file []).find? fun v => v.item.id = target).map Visit.item :=
  find?_eq_of_children (fun _ => below_of_mem_children_ofFile h)
    fun _ hchild _ => (below_of_mem_children_ofFile h hchild).find?_eq

theorem tests_infix_ofFile (hv : v ∈ (ofFile file classes).visits file []) :
    v.tests <:+: (ofFile file classes).leaves file [] :=
  tests_infix_of_children ItemKind.noConfusion
    (fun _ hchild _ _ hv => (below_of_mem_children_ofFile h hchild).infix_leaves hv) hv

/-- The walk over a file comes by the file itself and by items whose ids go on from there. -/
theorem eq_or_isPlaced_of_mem_visits_ofFile (hv : v ∈ (ofFile file classes).visits file []) :
    v = ⟨file, [], ofFile file classes⟩ ∨ v.IsPlaced P file := by
  rcases mem_visits_iff.1 hv with rfl | ⟨child, hchild, hv⟩
  · exact .inl rfl
  · have habove : ∀ s ∈ [], P s := fun _ hs => absurd hs List.not_mem_nil
    exact .inr ((below_of_mem_children_ofFile h hchild).isPlaced (List.append_nil _).symm habove hv)

end File

end TestItem

namespace TestTree

/-- The items of the tree, in the order of the walk. -/
def visits (t : TestTree) : List Visit := t.files.flatMap fun f => f.visits f.id []

end TestTree

end ScriptSuite
