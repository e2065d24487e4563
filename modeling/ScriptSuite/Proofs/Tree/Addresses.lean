import ScriptSuite.Proofs.TestId
import ScriptSuite.Proofs.Tree.Registry
import ScriptSuite.Proofs.Tree.Visit

/-!
# The ids of tests

The id of a method is put together on the way down from its file, and the tests are written down
with the classes that the walk keeps. Both give the same text. It can be read back where the id of
the file can stand in front of a separator; the names behind it always can, since they are made of
word characters.

## Main definitions

* `Visit.test`: the test that the walk comes by at a method

## Main results

* `TestItem.leaves_ofFile`: the tests of a file are those that the walk comes by
* `TestId.parse?_toString_iff`: reading back the id of a test whose names are names
* `TestTree.parse?_leaves_register`: the ids of a file with an outline
-/

namespace ScriptSuite

open Text

/-! ### Reading back what has names -/

namespace TestId

variable {t : TestId} {s : String}

theorem toList_toString_eq_writtenBelow (t : TestId) :
    t.toString.toList = t.file.toList ++ writtenBelow (t.classes ++ [t.method]) := by
  simp [toString, writtenBelow, String.toList_join, List.flatMap_map]

theorem occursIn_of_isName (h : IsName s.toList) : occursIn idSeparator s = false := by
  have hcolon : ':' ∉ s.toList := not_mem_of_isWord_eq_false h.word (by decide)
  exact not_infix_iff_occursIn.1 fun hin => hcolon (hin.subset (by decide))

theorem getLast?_ne_colon_of_isName (h : IsName s.toList) : s.toList.getLast? ≠ some ':' :=
  fun hl => not_mem_of_isWord_eq_false h.word (by decide) (List.mem_of_getLast? hl)

/-- **A test in a class whose names are names can be read back** exactly if the id of its file can
stand in front of a separator. -/
theorem parse?_toString_iff (hclasses : t.classes ≠ [])
    (hnames : ∀ s ∈ t.classes ++ [t.method], IsName s.toList) :
    parse? t.toString = .ok t ↔
      t.file ≠ "" ∧ occursIn idSeparator t.file = false ∧ t.file.toList.getLast? ≠ some ':' := by
  have hne : ∀ s ∈ t.classes ++ [t.method], s ≠ "" := fun s hs h =>
    (hnames s hs).nonempty (h ▸ rfl)
  have hin : ∀ s ∈ t.classes ++ [t.method], occursIn idSeparator s = false := fun s hs =>
    occursIn_of_isName (hnames s hs)
  have hcolon : ∀ s ∈ t.classes, s.toList.getLast? ≠ some ':' := fun s hs =>
    getLast?_ne_colon_of_isName (hnames s (List.mem_append_left _ hs))
  rw [parse?_eq_ok_iff_segments, map_ofList_splitOn_eq_segments_iff, segments, List.forall_mem_cons,
    List.forall_mem_cons, List.forall_mem_cons]
  constructor
  · rintro ⟨⟨-, ⟨hfile, -⟩, hlast, -⟩, -, hempty, -⟩
    exact ⟨hempty, hfile, hlast⟩
  · rintro ⟨hempty, hfile, hlast⟩
    exact ⟨⟨rfl, ⟨hfile, hin⟩, hlast, hcolon⟩, hclasses, hempty, hne⟩

end TestId

/-! ### The tests that the walk comes by -/

/-- The test that the item is, if it is a method. -/
def Visit.test (v : Visit) : TestId := ⟨v.file, v.above, v.item.label⟩

theorem Visit.IsPlaced.id_eq_toString {P : String → Prop} {file : String} {v : Visit}
    (h : v.IsPlaced P file) : v.item.id = v.test.toString := by
  rw [← String.toList_inj, h.id_eq, TestId.toList_toString_eq_writtenBelow, ← h.file_eq]
  rfl

namespace TestItem

variable {file parent : String} {above : List String} {item : TestItem} {v : Visit}
  {P : String → Prop} {classes : List TestClass}

/-- The tests below a class or a file are those below the items directly below it. -/
theorem leaves_of_children (hkind : item.kind ≠ .method)
    (h : ∀ child ∈ item.children, ∀ above,
      child.leaves file above =
        ((child.visits file above).filter fun v => v.item.isLeaf).map Visit.test) :
    item.leaves file above =
      ((item.visits file above).filter fun v => v.item.isLeaf).map Visit.test := by
  obtain ⟨id, label, kind, line, children⟩ := item
  have hself : (mk id label kind line children).isLeaf = false := decide_eq_false hkind
  rw [leaves_of_ne_method hkind, visits_mk, List.filter_cons_of_neg (by simp [hself]),
    List.filter_flatMap, List.map_flatMap]
  exact congrArg List.flatten (List.map_congr_left fun child hchild => h child hchild _)

theorem Below.leaves_eq (h : Below P parent item) :
    item.leaves file above =
      ((item.visits file above).filter fun v => v.item.isLeaf).map Visit.test := by
  induction h generalizing above with
  | method => rfl
  | cls hname h ih =>
    exact leaves_of_children ItemKind.noConfusion fun child hchild _ => ih child hchild

theorem Below.of_mem_children {child : TestItem} (h : Below P parent item)
    (hchild : child ∈ item.children) : Below P item.id child := by
  cases h with
  | method => exact absurd hchild List.not_mem_nil
  | cls hname h => exact h child hchild

/-- The walk keeps the labels of all classes that it is in. -/
theorem Below.isPrefix_above (h : Below P parent item) (hv : v ∈ item.visits file above) :
    above <+: v.above := by
  induction h generalizing above with
  | method =>
    rcases mem_visits_iff.1 hv with rfl | ⟨child, hchild, -⟩
    · exact List.prefix_rfl
    · exact absurd hchild List.not_mem_nil
  | cls hname h ih =>
    rcases mem_visits_iff.1 hv with rfl | ⟨child, hchild, hv⟩
    · exact List.prefix_rfl
    · exact (List.prefix_append _ _).trans (ih child hchild hv)

/-- **The tests of a file are those that the walk comes by**. -/
theorem leaves_ofFile (h : ∀ c ∈ classes, c.Named P) :
    (ofFile file classes).leaves file [] =
      (((ofFile file classes).visits file []).filter fun v => v.item.isLeaf).map Visit.test :=
  leaves_of_children ItemKind.noConfusion fun _ hchild _ =>
    (below_of_mem_children_ofFile h hchild).leaves_eq

/-- A test of a file stands in a class. -/
theorem above_ne_nil_of_mem_visits_ofFile (h : ∀ c ∈ classes, c.Named P)
    (hv : v ∈ (ofFile file classes).visits file []) (hleaf : v.item.isLeaf = true) :
    v.above ≠ [] := by
  rcases mem_visits_iff.1 hv with rfl | ⟨item, hitem, hv⟩
  · exact absurd hleaf Bool.false_ne_true
  · have hbelow := below_of_mem_children_ofFile h hitem
    have hcls : item.kind = .cls := by
      rw [ofFile, ofClasses_eq_map] at hitem
      obtain ⟨⟨name, line, methods, children⟩, -, rfl⟩ := List.mem_map.1 hitem
      rfl
    rcases mem_visits_iff.1 hv with rfl | ⟨child, hchild, hv⟩
    · exact absurd (hcls.symm.trans (of_decide_eq_true hleaf)) ItemKind.noConfusion
    · have habove := (hbelow.of_mem_children hchild).isPrefix_above hv
      rw [labelsBelow, labelsBelow, if_pos hcls] at habove
      rintro hnil
      rw [hnil, List.prefix_nil] at habove
      exact absurd habove (by simp)

end TestItem

/-! ### A file with an outline -/

namespace TestTree

variable {file source : String} {id : TestId}

theorem leaves_register_empty (classes : List TestClass) :
    (({} : TestTree).register file classes).leaves =
      (TestItem.ofFile file classes).leaves file [] :=
  List.append_nil _

theorem visits_register_empty (classes : List TestClass) :
    (({} : TestTree).register file classes).visits =
      (TestItem.ofFile file classes).visits file [] :=
  List.append_nil _

/-- A test of an outline stands in a class of the file, and all its names are names. -/
theorem exists_isPlaced_of_mem_leaves
    (h : id ∈ (({} : TestTree).register file (outline source)).leaves) :
    ∃ v : Visit, v.IsPlaced (fun name => IsName name.toList) file ∧ v.above ≠ [] ∧ v.test = id := by
  have hnamed : ∀ c ∈ outline source, c.Named fun name => IsName name.toList := fun c hc =>
    TestClass.named_of_mem_outline hc
  rw [leaves_register_empty, TestItem.leaves_ofFile hnamed] at h
  obtain ⟨v, hv, rfl⟩ := List.mem_map.1 h
  obtain ⟨hv, hleaf⟩ := List.mem_filter.1 hv
  refine ⟨v, ?_, TestItem.above_ne_nil_of_mem_visits_ofFile hnamed hv hleaf, rfl⟩
  rcases TestItem.eq_or_isPlaced_of_mem_visits_ofFile hnamed hv with rfl | hplaced
  · exact absurd hleaf Bool.false_ne_true
  · exact hplaced

/-- The ids of the methods that the walk comes by are the written tests. -/
theorem map_id_visits_register :
    ((({} : TestTree).register file (outline source)).visits.filter fun v => v.item.isLeaf).map
        (fun v => v.item.id) =
      (({} : TestTree).register file (outline source)).leaves.map TestId.toString := by
  have hnamed : ∀ c ∈ outline source, c.Named fun name => IsName name.toList := fun c hc =>
    TestClass.named_of_mem_outline hc
  rw [leaves_register_empty, TestItem.leaves_ofFile hnamed, visits_register_empty, List.map_map]
  refine List.map_congr_left fun v hv => ?_
  obtain ⟨hv, hleaf⟩ := List.mem_filter.1 hv
  rcases TestItem.eq_or_isPlaced_of_mem_visits_ofFile hnamed hv with rfl | hplaced
  · exact absurd hleaf Bool.false_ne_true
  · exact hplaced.id_eq_toString

theorem parse?_toString_of_mem_leaves
    (h : id ∈ (({} : TestTree).register file (outline source)).leaves) :
    TestId.parse? id.toString = .ok id ↔
      file ≠ "" ∧ occursIn idSeparator file = false ∧ file.toList.getLast? ≠ some ':' := by
  obtain ⟨v, hplaced, habove, rfl⟩ := exists_isPlaced_of_mem_leaves h
  rw [TestId.parse?_toString_iff habove hplaced.label, Visit.test, hplaced.file_eq]

/-- **The ids of a file with an outline address its tests.** In the order of the walk, the ids of
the methods are the written tests; and if there is any test, all of them are read back as the tests
that they were written for exactly if the id of the file is not empty, holds no separator and does
not end with a colon. The same goes for each of them alone. -/
theorem parse?_leaves_register (file source : String)
    (h : 0 < TestClass.testCountAll (outline source)) :
    let t := ({} : TestTree).register file (outline source)
    (t.visits.filter fun v => v.item.isLeaf).map (fun v => v.item.id) =
        t.leaves.map TestId.toString ∧
      ((∀ id ∈ t.leaves, TestId.parse? id.toString = .ok id) ↔
        file ≠ "" ∧ occursIn idSeparator file = false ∧ file.toList.getLast? ≠ some ':') ∧
      ∀ id ∈ t.leaves, TestId.parse? id.toString = .ok id ↔
        file ≠ "" ∧ occursIn idSeparator file = false ∧ file.toList.getLast? ≠ some ':' := by
  intro t
  have hlength : 0 < t.leaves.length := by
    rw [leaves_register_empty, TestItem.length_leaves, TestItem.testCount_ofFile]
    exact h
  obtain ⟨first, hfirst⟩ := List.exists_mem_of_length_pos hlength
  have heach : ∀ id ∈ t.leaves, TestId.parse? id.toString = .ok id ↔ _ := fun id hid =>
    parse?_toString_of_mem_leaves hid
  refine ⟨map_id_visits_register, ⟨fun hall => ?_, fun hfile id hid => ?_⟩, heach⟩
  · exact (heach first hfirst).1 (hall first hfirst)
  · exact (heach id hid).2 hfile

/-- A file with a test in a nested class. -/
def gardenSource : String := "class Garden {
class Gate {
Opens()
}
}"

theorem parse?_leaves_register_gardenSource :
    TestId.parse? "garden.ahk::Garden::Gate::Opens" =
        .ok ⟨"garden.ahk", ["Garden", "Gate"], "Opens"⟩ ∧
      TestId.parse? "C:::Garden::Gate::Opens" ≠ .ok ⟨"C:", ["Garden", "Gate"], "Opens"⟩ := by
  have hcount : 0 < TestClass.testCountAll (outline gardenSource) := by decide +kernel
  obtain ⟨-, hgood, -⟩ := parse?_leaves_register "garden.ahk" gardenSource hcount
  obtain ⟨-, -, hbad⟩ := parse?_leaves_register "C:" gardenSource hcount
  have hleaf : ⟨"garden.ahk", ["Garden", "Gate"], "Opens"⟩ ∈
      (({} : TestTree).register "garden.ahk" (outline gardenSource)).leaves := by decide +kernel
  have hleaf' : ⟨"C:", ["Garden", "Gate"], "Opens"⟩ ∈
      (({} : TestTree).register "C:" (outline gardenSource)).leaves := by decide +kernel
  refine ⟨hgood.2 (by decide +kernel) _ hleaf, fun hparse => ?_⟩
  exact absurd ((hbad _ hleaf').1 hparse).2.2 (by decide)

end TestTree

end ScriptSuite
