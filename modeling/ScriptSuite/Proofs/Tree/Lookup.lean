import ScriptSuite.Proofs.Tree.Addresses

/-!
# Looking up an id

The look-up of an id does not go into an item whose id is no front part of the wanted one. A plain
search goes through all items, each in front of those below it, and takes the first one with the id.
Both find the same item: the ids below an item all start with its own, so nothing is left out that
could be found. Nothing is asked of the names for that. They may be empty, occur again or hold the
separator, a method and a class may share an id, and the id of one file may go on from that of
another.

## Main definitions

* `TestItem.preorder`, `TestTree.items`: all items, each in front of those below it

## Main results

* `TestItem.Branches.isPrefix_id`: ids grow downwards
* `TestItem.Branches.find?_eq`: at and below one item the look-up is a plain search
* `TestTree.get?_run`: so it is in every tree that is built step by step
-/

namespace ScriptSuite

/-- Nothing is asked of the names. -/
theorem TestClass.named_of_forall {P : String → Prop} (h : ∀ name, P name) (c : TestClass) :
    c.Named P := by
  induction c using TestClass.induction with
  | mk name line methods children ih => exact .mk (h name) (fun m _ => h m.name) ih

namespace TestItem

variable {file parent target : String} {above : List String} {item below : TestItem}
  {P : String → Prop} {classes : List TestClass}

/-! ### All items -/

mutual

/-- The items at and below an item, each in front of those below it. -/
def preorder : TestItem → List TestItem
  | mk id label kind line children => mk id label kind line children :: preorderOf children

/-- The items at and below several items. -/
def preorderOf : List TestItem → List TestItem
  | [] => []
  | item :: rest => item.preorder ++ preorderOf rest

end

theorem preorderOf_eq_flatMap (items : List TestItem) :
    preorderOf items = items.flatMap preorder := by
  induction items with
  | nil => rfl
  | cons item rest ih => rw [preorderOf, ih, List.flatMap_cons]

theorem mem_preorder_iff :
    below ∈ item.preorder ↔ below = item ∨ ∃ child ∈ item.children, below ∈ child.preorder := by
  cases item
  rw [preorder, preorderOf_eq_flatMap, List.mem_cons, List.mem_flatMap]
  rfl

mutual

/-- The walk comes by the items in this order, whatever labels it keeps. -/
theorem map_item_visits (file : String) (above : List String) :
    (item : TestItem) → (item.visits file above).map Visit.item = item.preorder
  | mk id label kind line children => by
    rw [visits, List.map_cons, map_item_visitsOf file _ children, preorder]

theorem map_item_visitsOf (file : String) (above : List String) :
    (items : List TestItem) → (visitsOf file above items).map Visit.item = preorderOf items
  | [] => rfl
  | item :: rest => by
    rw [visitsOf, List.map_append, map_item_visits file above item,
      map_item_visitsOf file above rest, preorderOf]

end

theorem Below.isPrefix_id (h : Below P parent item) (hbelow : below ∈ item.preorder) :
    parent.toList <+: below.id.toList := by
  rw [← map_item_visits "" []] at hbelow
  obtain ⟨v, hv, rfl⟩ := List.mem_map.1 hbelow
  exact h.prefix_of_mem_visits hv

theorem Below.exists_of_mem_preorder (h : Below P parent item) (hbelow : below ∈ item.preorder) :
    ∃ parent', Below P parent' below := by
  induction h with
  | @method parent name line hname =>
    rcases mem_preorder_iff.1 hbelow with rfl | ⟨child, hchild, -⟩
    · exact ⟨parent, .method hname⟩
    · exact absurd hchild List.not_mem_nil
  | @cls parent name line children hname h ih =>
    rcases mem_preorder_iff.1 hbelow with rfl | ⟨child, hchild, hbelow⟩
    · exact ⟨parent, .cls hname h⟩
    · exact ih child hchild hbelow

/-! ### The look-up in an item -/

/-- The items directly below are methods and classes whose ids go on from that of the item. -/
def Branches (item : TestItem) : Prop :=
  ∀ child ∈ item.children, Below (fun _ => True) item.id child

namespace Branches

theorem ofFile (file : String) (classes : List TestClass) : (ofFile file classes).Branches := by
  intro child hchild
  have hnamed : ∀ c ∈ classes, c.Named fun _ => True := fun c _ =>
    TestClass.named_of_forall (fun _ => trivial) c
  exact below_of_mem_children_ofFile hnamed hchild

/-- What branches does so all the way down. -/
theorem of_mem_preorder (h : item.Branches) (hbelow : below ∈ item.preorder) :
    below.Branches := by
  rcases mem_preorder_iff.1 hbelow with rfl | ⟨child, hchild, hbelow⟩
  · exact h
  · obtain ⟨parent, hparent⟩ := (h child hchild).exists_of_mem_preorder hbelow
    exact fun _ hmem => hparent.of_mem_children hmem

/-- **Ids grow downwards.** -/
theorem isPrefix_id (h : item.Branches) (hbelow : below ∈ item.preorder) :
    item.id.toList <+: below.id.toList := by
  rcases mem_preorder_iff.1 hbelow with rfl | ⟨child, hchild, hbelow⟩
  · exact List.prefix_rfl
  · exact (h child hchild).isPrefix_id hbelow

/-- **At and below an item the look-up is a plain search.** -/
theorem find?_eq (h : item.Branches) (target : String) :
    item.find? target = item.preorder.find? fun below => below.id = target := by
  have hwalk : item.find? target =
      ((item.visits "" []).find? fun v => v.item.id = target).map Visit.item :=
    find?_eq_of_children h fun child hchild _ => (h child hchild).find?_eq
  rw [hwalk, ← map_item_visits "" [], List.find?_map]
  rfl

end Branches

end TestItem

/-! ### The look-up in a tree -/

namespace TestTree

variable {f item : TestItem} {steps : List TreeStep}

/-- The items of all files, each in front of those below it. -/
def items (t : TestTree) : List TestItem := t.files.flatMap TestItem.preorder

theorem branches_of_mem_files_run (hf : f ∈ (run steps).files) : f.Branches := by
  rw [represents_run steps] at hf
  obtain ⟨file, -, rfl⟩ := List.mem_map.1 hf
  exact .ofFile file _

theorem branches_of_mem_items_run (h : item ∈ (run steps).items) : item.Branches := by
  obtain ⟨f, hf, hitem⟩ := List.mem_flatMap.1 h
  exact (branches_of_mem_files_run hf).of_mem_preorder hitem

/-- **The look-up of an id is a plain search.** In a tree that is built by registering and loading
files, whatever their ids and the names in them, it finds the first of all items that has the id,
and nothing exactly if no item has it. At each single item it is the plain search at and below that
item, though it does not go in unless the wanted id starts with that of the item: the ids further
down all do. -/
theorem get?_run (steps : List TreeStep) (id : String) :
    (run steps).get? id = (run steps).items.find? (fun item => item.id = id) ∧
      ((run steps).get? id = none ↔ ∀ item ∈ (run steps).items, item.id ≠ id) ∧
      ∀ item ∈ (run steps).items,
        item.find? id = item.preorder.find? (fun below => below.id = id) ∧
          ∀ below ∈ item.preorder, item.id.toList <+: below.id.toList := by
  have hget : (run steps).get? id = (run steps).items.find? fun item => item.id = id := by
    rw [get?, TestItem.findIn?_eq_findSome?, items, List.find?_flatMap]
    exact TestItem.findSome?_congr fun f hf => (branches_of_mem_files_run hf).find?_eq id
  refine ⟨hget, ?_, fun item hitem => ?_⟩
  · rw [hget, List.find?_eq_none]
    simp
  · have hbranches := branches_of_mem_items_run hitem
    exact ⟨hbranches.find?_eq id, fun below hbelow => hbranches.isPrefix_id hbelow⟩

-- A method and a class share an id, and the id of their file goes on from that of another file.
example :
    ((run [.register "x" [],
        .register "x::A" [.mk "B" none [⟨"C", none⟩] [.mk "C" none [] []]]]).get?
      "x::A::B::C").map TestItem.kind = some .method := by
  decide +kernel

end TestTree

end ScriptSuite
