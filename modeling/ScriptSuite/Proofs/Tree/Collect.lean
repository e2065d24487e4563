import ScriptSuite.Proofs.TestId
import ScriptSuite.Proofs.Tree.Visit

/-!
# Selecting tests by id

A request names items of the tree, and the tests below them are collected. The classes above such an
item are recovered from the text of its id, while the list of all tests keeps them on the way down.
Both agree, whatever the ids of the files are: a file id may hold the separator or end with a part
of it, because its length is known, and the names behind it hold no colon.

## Main definitions

* `TestTree.ofSources`: the tree of some sources, registered one after the other
* `TestTree.visit?`: the first item that has an id, as the walk over the tree comes by it

## Main results

* `TestTree.classesAbove_eq_of_mem_visits`: splitting an id gives the classes that the walk keeps
* `TestTree.collect_ofSources`: what a request collects, and when it is refused
-/

namespace ScriptSuite

open Text

namespace TestTree

variable {t : TestTree} {P : String → Prop} {file : String} {f : TestItem} {v : Visit}
  {classes : List TestClass} {labels : List String}

/-! ### Trees that were built by registering -/

/-- The tree holds the items of files whose classes and methods have names with a property. -/
def IsBuilt (P : String → Prop) (t : TestTree) : Prop :=
  ∀ f ∈ t.files, ∃ file classes, (∀ c ∈ classes, c.Named P) ∧ f = TestItem.ofFile file classes

theorem eq_or_mem_of_mem_place {item : TestItem} {files : List TestItem}
    (h : f ∈ place item files) : f = item ∨ f ∈ files := by
  induction files with
  | nil => exact .inl (List.mem_singleton.1 h)
  | cons g rest ih =>
    rw [place] at h
    split at h
    · exact (List.mem_cons.1 h).imp_right (List.mem_cons_of_mem g)
    · rcases List.mem_cons.1 h with rfl | h
      · exact .inr List.mem_cons_self
      · exact (ih h).imp_right (List.mem_cons_of_mem g)

/-- Registering a file keeps a tree built. -/
theorem IsBuilt.register (ht : t.IsBuilt P) (h : ∀ c ∈ classes, c.Named P) :
    (t.register file classes).IsBuilt P := by
  intro f hf
  rcases eq_or_mem_of_mem_place hf with rfl | hf
  · exact ⟨file, classes, h, rfl⟩
  · exact ht f hf

/-- The tree of some files with their sources, registered one after the other. -/
def ofSources (sources : List (String × String)) : TestTree :=
  sources.foldl (fun t s => t.register s.1 (outline s.2)) {}

theorem isBuilt_ofSources (sources : List (String × String)) :
    (ofSources sources).IsBuilt fun name => IsName name.toList := by
  refine List.foldlRecOn sources _ (fun f hf => absurd hf List.not_mem_nil) fun t ht s _ => ?_
  exact ht.register fun c hc => TestClass.named_of_mem_outline hc

/-! ### The classes above an item -/

/-- Behind a text without colons, the labels are split off one by one. -/
theorem splitOn_append_writtenBelow {x : List Char} (hx : ':' ∉ x)
    (h : ∀ s ∈ labels, IsName s.toList) :
    splitOn idSeparator.toList (x ++ writtenBelow labels) = x :: labels.map String.toList := by
  have hfree {p : List Char} (hp : ':' ∉ p) : ¬ idSeparator.toList <:+: p := fun hin =>
    hp (hin.subset (by decide))
  induction labels generalizing x with
  | nil =>
    rw [writtenBelow, List.flatMap_nil, List.append_nil, splitOn_eq_singleton (hfree hx)]
    rfl
  | cons label labels ih =>
    rw [List.forall_mem_cons] at h
    have hlast : x.getLast? ≠ some ':' := fun hl => hx (List.mem_of_getLast? hl)
    rw [writtenBelow, List.flatMap_cons, List.append_assoc]
    refine (splitOn_append_eq_cons_iff (by decide)).2
      ⟨TestId.not_infix_append_dropLast_iff.2 ⟨hfree hx, hlast⟩, ?_⟩
    exact ih (not_mem_of_isWord_eq_false h.1.word (by decide)) h.2

theorem classesAbove_eq (hid : v.item.id.toList = f.id.toList ++ writtenBelow labels)
    (hlabels : ∀ s ∈ labels, IsName s.toList) : classesAbove f v.item = labels.dropLast := by
  have hpath : v.item.id.toList.drop f.id.length = [] ++ writtenBelow labels := by
    rw [hid, ← String.length_toList, List.drop_left, List.nil_append]
  have hkept : labels.filter (!·.isEmpty) = labels := List.filter_eq_self.2 fun s hs => by
    have hne : s ≠ "" := fun h => (hlabels s hs).nonempty (h ▸ rfl)
    simpa using hne
  rw [classesAbove, hpath, splitOn_append_writtenBelow List.not_mem_nil hlabels, List.map_cons,
    List.map_map]
  simp [Function.comp_def, hkept]

/-- **Splitting the id of an item gives the classes that the walk keeps**, at every depth. -/
theorem IsBuilt.classesAbove_eq (ht : t.IsBuilt fun name => IsName name.toList) (hf : f ∈ t.files)
    (hv : v ∈ f.visits f.id []) : v.file = f.id ∧ classesAbove f v.item = v.above := by
  obtain ⟨file, classes, h, rfl⟩ := ht f hf
  rcases TestItem.eq_or_isPlaced_of_mem_visits_ofFile h hv with rfl | hv
  · have hid : file.toList = file.toList ++ writtenBelow [] := (List.append_nil _).symm
    refine ⟨rfl, show _ = List.dropLast [] from TestTree.classesAbove_eq hid ?_⟩
    exact fun _ hs => absurd hs List.not_mem_nil
  · refine ⟨hv.file_eq, ?_⟩
    rw [TestTree.classesAbove_eq hv.id_eq hv.label, List.dropLast_concat]

/-! ### The tests below the first item with an id -/

/-- The first item with the given id that the walk over the tree comes by. -/
def visit? (t : TestTree) (id : String) : Option Visit :=
  t.visits.find? fun v => v.item.id = id

theorem visit?_eq_none_iff {id : String} :
    t.visit? id = none ↔ ∀ v ∈ t.visits, v.item.id ≠ id := by
  simp [visit?]

theorem IsBuilt.testsAt?_eq (ht : t.IsBuilt fun name => IsName name.toList) (id : String) :
    t.testsAt? id = (t.visit? id).map Visit.tests := by
  rw [testsAt?, visit?, visits, List.find?_flatMap, List.map_findSome?]
  refine TestItem.findSome?_congr fun f hf => ?_
  obtain ⟨file, classes, h, rfl⟩ := ht f hf
  rw [TestItem.find?_ofFile h, Option.map_map, Function.comp_apply]
  refine Option.map_congr fun v hv => ?_
  obtain ⟨hfile, habove⟩ := ht.classesAbove_eq hf (List.mem_of_find?_eq_some hv)
  rw [Function.comp_apply, Visit.tests, habove, hfile]

theorem IsBuilt.tests_infix_leaves (ht : t.IsBuilt P) (hv : v ∈ t.visits) :
    v.tests <:+: t.leaves := by
  obtain ⟨f, hf, hv⟩ := List.mem_flatMap.1 hv
  obtain ⟨file, classes, h, rfl⟩ := ht f hf
  rw [leaves, List.flatMap]
  exact (TestItem.tests_infix_ofFile h hv).trans
    (List.infix_of_mem_flatten (List.mem_map_of_mem hf))

/-! ### What a request collects -/

/-- The list without repeats keeps what was not seen before, and of that what comes first. -/
theorem withoutRepeats_eq (seen tests : List TestId) :
    withoutRepeats seen tests = (tests.filter fun t => !seen.contains t).eraseDups := by
  induction tests generalizing seen with
  | nil => rfl
  | cons t rest ih =>
    rw [withoutRepeats, List.filter_cons, ih, ih]
    cases seen.contains t with
    | true => rfl
    | false =>
      have hnew (u : TestId) : (!(t :: seen).contains u) = ((!u == t) && !seen.contains u) := by
        rw [List.contains_cons, Bool.not_or]
      rw [if_neg Bool.false_ne_true, if_pos Bool.not_false, List.eraseDups_cons, List.filter_filter]
      simp only [hnew]

theorem mapM_testsAt?_eq (t : TestTree) (ids : List String) :
    (ids.mapM fun id =>
      match t.testsAt? id with
      | some tests => .ok tests
      | none => .error id : Except String (List (List TestId))) =
      match ids.find? fun id => (t.testsAt? id).isNone with
      | some id => .error id
      | none => .ok (ids.filterMap t.testsAt?) := by
  induction ids with
  | nil => rfl
  | cons id rest ih =>
    rw [List.mapM_cons, List.find?_cons, List.filterMap_cons, ih]
    cases t.testsAt? id with
    | none => rfl
    | some tests => cases rest.find? fun id => (t.testsAt? id).isNone <;> rfl

/-- A request is refused for the first id that is not found. -/
theorem collect_eq (t : TestTree) (ids : List String) :
    t.collect ids =
      match ids.find? fun id => (t.testsAt? id).isNone with
      | some id => .error id
      | none => .ok (ids.filterMap t.testsAt?).flatten.eraseDups := by
  have hkept (tests : List TestId) : withoutRepeats [] tests = tests.eraseDups := by
    rw [withoutRepeats_eq]
    exact congrArg List.eraseDups (List.filter_eq_self.2 fun _ _ => rfl)
  refine (congrArg (· >>= _) (mapM_testsAt?_eq t ids)).trans ?_
  cases ids.find? fun id => (t.testsAt? id).isNone with
  | some id => rfl
  | none => exact congrArg Except.ok (hkept _)

/-- **A request collects the tests below the items that it names**, in its order and each test once,
and is refused for the first id that no item has. The tests below an item are those that the list of
all tests has there, and the classes that the text of an id gives are the ones that it keeps. -/
theorem collect_ofSources (sources : List (String × String)) (ids : List String) :
    (ofSources sources).collect ids =
        (match ids.find? fun id => ∀ v ∈ (ofSources sources).visits, v.item.id ≠ id with
        | some id => .error id
        | none =>
          .ok ((ids.filterMap (ofSources sources).visit?).flatMap Visit.tests).eraseDups) ∧
      (∀ v ∈ (ofSources sources).visits, v.tests <:+: (ofSources sources).leaves) ∧
      ∀ f ∈ (ofSources sources).files, ∀ v ∈ f.visits f.id [],
        classesAbove f v.item = v.above := by
  have ht := isBuilt_ofSources sources
  refine ⟨?_, fun v hv => ht.tests_infix_leaves hv, fun f hf v hv => (ht.classesAbove_eq hf hv).2⟩
  have hnone (id : String) : ((ofSources sources).testsAt? id).isNone =
      decide (∀ v ∈ (ofSources sources).visits, v.item.id ≠ id) := by
    rw [ht.testsAt?_eq, Option.isNone_map, Bool.eq_iff_iff, decide_eq_true_iff,
      Option.isNone_iff_eq_none, visit?_eq_none_iff]
  have hfound : (ids.filterMap (ofSources sources).testsAt?).flatten =
      (ids.filterMap (ofSources sources).visit?).flatMap Visit.tests := by
    rw [List.flatMap, List.map_filterMap, funext ht.testsAt?_eq]
  rw [collect_eq, funext hnone, hfound]

/-- A file whose id ends with a colon, with a test in a nested class. -/
def nestedSources : List (String × String) :=
  [("x:", "class A \x7b\nclass B \x7b\nM()\n\x7d\n\x7d")]

theorem collect_ofSources_nestedSources :
    (ofSources nestedSources).collect ["x:::A::B", "x:::A"] = .ok [⟨"x:", ["A", "B"], "M"⟩] ∧
      ∃ f ∈ (ofSources nestedSources).files, ∃ v ∈ f.visits f.id [],
        v ∈ (ofSources nestedSources).visits ∧ v.item.id = "x:::A::B" ∧
          v.tests <:+: (ofSources nestedSources).leaves ∧ classesAbove f v.item = ["A"] := by
  obtain ⟨hcollect, htests, habove⟩ := collect_ofSources nestedSources ["x:::A::B", "x:::A"]
  have hsome : ((ofSources nestedSources).visit? "x:::A::B").isSome := by decide +kernel
  obtain ⟨v, hv⟩ := Option.isSome_iff_exists.1 hsome
  have hmem : v ∈ (ofSources nestedSources).visits := List.mem_of_find?_eq_some hv
  obtain ⟨f, hf, hvf⟩ := List.mem_flatMap.1 hmem
  have hlabels : v.above = ["A"] := by
    have : ((ofSources nestedSources).visit? "x:::A::B").map Visit.above = some ["A"] := by
      decide +kernel
    rw [hv] at this
    exact Option.some.inj this
  refine ⟨?_, f, hf, v, hvf, hmem, ?_, htests v hmem, (habove f hf v hvf).trans hlabels⟩
  · have hfound : ["x:::A::B", "x:::A"].find? (fun id =>
        ∀ v ∈ (ofSources nestedSources).visits, v.item.id ≠ id) = none := by decide +kernel
    rw [hcollect, hfound]
    exact congrArg Except.ok (by decide +kernel)
  · simpa using List.find?_some hv

end TestTree

end ScriptSuite
