import ScriptSuite.Proofs.Distinct
import ScriptSuite.Tree.Load

/-!
# The tree as a map

A tree that is built by registering and loading files is a map from the ids of the files to the
classes that were registered for them last, and it keeps its files in the order in which they were
registered first. A file that cannot be loaded does not count as registered.

The tests of a tree can be counted in three ways: item by item, by listing them, and by counting the
methods of the classes that were registered. All three agree.

## Main definitions

* `TreeStep`: registering or loading a file; `TestTree.run`: the tree behind some steps
* `Registration`: a file with the classes that a step registers for it
* `Registration.fileIds`, `Registration.last?`: the map that some registrations make
* `TestTree.Represents`: a tree holds what some registrations make

## Main results

* `TestTree.represents_step`, `TestTree.represents_run`: one step, and some steps
* `TestItem.length_leaves`, `TestItem.testCount_ofFile`: counting the tests
* `TestTree.run_isMap`: the files, their items and their tests
-/

namespace ScriptSuite

/-! ### Registrations -/

/-- A file with the classes that are registered for it. -/
structure Registration where
  /-- The id of the file. -/
  file : String
  /-- The classes. -/
  classes : List TestClass

namespace Registration

variable {log : List Registration} {r : Registration} {file : String}

/-- The files of some registrations, in the order in which they occur first. -/
def fileIds (log : List Registration) : List String := (log.map Registration.file).eraseDups

/-- The classes that were registered last for a file. -/
def last? (log : List Registration) (file : String) : Option (List TestClass) :=
  (log.reverse.find? fun r => r.file = file).map Registration.classes

theorem fileIds_concat_of_mem (h : r.file ∈ fileIds log) : fileIds (log ++ [r]) = fileIds log :=
  eraseDups_map_concat_of_mem h

theorem fileIds_concat_of_not_mem (h : r.file ∉ fileIds log) :
    fileIds (log ++ [r]) = fileIds log ++ [r.file] :=
  eraseDups_map_concat_of_not_mem h

theorem last?_concat_self : last? (log ++ [r]) r.file = some r.classes := by
  simp [last?]

theorem last?_concat_of_ne (h : r.file ≠ file) : last? (log ++ [r]) file = last? log file := by
  simp [last?, h]

/-- What was registered last is known for the files that were registered. -/
theorem exists_last?_eq_some (h : file ∈ fileIds log) :
    ∃ classes, last? log file = some classes := by
  rw [fileIds, List.mem_eraseDups, List.mem_map] at h
  obtain ⟨r, hr, rfl⟩ := h
  have hfound : (log.reverse.find? fun s => s.file = r.file).isSome := by
    rw [List.find?_isSome]
    exact ⟨r, List.mem_reverse.2 hr, decide_eq_true rfl⟩
  obtain ⟨s, hs⟩ := Option.isSome_iff_exists.1 hfound
  exact ⟨s.classes, by rw [last?, hs, Option.map_some]⟩

/-- The item of a file, with the classes that were registered last. -/
def itemOf (log : List Registration) (file : String) : TestItem :=
  TestItem.ofFile file ((last? log file).getD [])

theorem id_itemOf : (itemOf log file).id = file := rfl

theorem itemOf_concat_self : itemOf (log ++ [r]) r.file = TestItem.ofFile r.file r.classes := by
  rw [itemOf, last?_concat_self, Option.getD_some]

theorem itemOf_concat_of_ne (h : r.file ≠ file) : itemOf (log ++ [r]) file = itemOf log file := by
  rw [itemOf, last?_concat_of_ne h, itemOf]

end Registration

/-! ### Steps -/

/-- A step that changes the tree. -/
inductive TreeStep where
  /-- Registers the classes of a file. -/
  | register (file : String) (classes : List TestClass)
  /-- Loads a file of a disk. -/
  | load (disk : Disk) (path : String)

/-- What a step registers; loading a file that cannot be read registers nothing. -/
def TreeStep.registration? : TreeStep → Option Registration
  | register file classes => some ⟨file, classes⟩
  | load disk path =>
    match disk.readText path with
    | .ok source => some ⟨path, outline source⟩
    | .error _ => none

namespace TestTree

open Registration

variable {t : TestTree} {item : TestItem} {names : List String} {log : List Registration}
  {r : Registration} {s : TreeStep} {g : String → TestItem}

/-- The tree behind a step. -/
def step (t : TestTree) : TreeStep → TestTree
  | .register file classes => t.register file classes
  | .load disk path => (disk.load t path).1

/-- The tree behind some steps, from the empty tree. -/
def run (steps : List TreeStep) : TestTree := steps.foldl step {}

theorem step_of_registration?_eq_some (h : s.registration? = some r) :
    t.step s = t.register r.file r.classes := by
  cases s with
  | register file classes =>
    obtain rfl := Option.some.inj h
    rfl
  | load disk path =>
    rw [TreeStep.registration?] at h
    rw [step, Disk.load]
    cases hread : disk.readText path with
    | ok source =>
      rw [hread] at h
      obtain rfl := Option.some.inj h
      rfl
    | error cause =>
      rw [hread] at h
      exact absurd h (by simp)

theorem step_of_registration?_eq_none (h : s.registration? = none) : t.step s = t := by
  cases s with
  | register file classes => exact absurd h (by simp [TreeStep.registration?])
  | load disk path =>
    rw [TreeStep.registration?] at h
    rw [step, Disk.load]
    cases hread : disk.readText path with
    | ok source =>
      rw [hread] at h
      exact absurd h (by simp)
    | error cause => rfl

/-- Loading a file fails only where the step registers nothing. -/
theorem registration?_eq_none_of_load {disk : Disk} {path : String} {e : Failure}
    (h : (disk.load t path).2 = .error e) : (TreeStep.load disk path).registration? = none := by
  rw [Disk.load] at h
  rw [TreeStep.registration?]
  cases hread : disk.readText path with
  | ok source =>
    rw [hread] at h
    exact absurd h (by simp)
  | error cause => rfl

/-! ### The items of the files -/

/-- An item of a new file comes last. -/
theorem place_map_of_not_mem (item : TestItem) (hg : ∀ n, (g n).id = n) (h : item.id ∉ names) :
    place item (names.map g) = names.map g ++ [item] := by
  induction names with
  | nil => rfl
  | cons n names ih =>
    rw [List.mem_cons, not_or] at h
    have hne : (g n).id ≠ item.id := by
      rw [hg]
      exact Ne.symm h.1
    rw [List.map_cons, place, if_neg hne, ih h.2, List.cons_append]

/-- An item of a file that is there already takes the place of the one before. -/
theorem place_map_of_mem (item : TestItem) {g' : String → TestItem} (hg : ∀ n, (g n).id = n)
    (hself : g' item.id = item) (hother : ∀ n, n ≠ item.id → g' n = g n) (hnodup : names.Nodup)
    (h : item.id ∈ names) : place item (names.map g) = names.map g' := by
  induction names with
  | nil => exact absurd h List.not_mem_nil
  | cons n names ih =>
    rw [List.nodup_cons] at hnodup
    rw [List.map_cons, place, List.map_cons, hg]
    split
    · rename_i hn
      have hrest : ∀ m ∈ names, g m = g' m := fun m hm =>
        (hother m fun heq => hnodup.1 (by rwa [hn, ← heq])).symm
      rw [hn, hself, List.map_congr_left hrest]
    · rename_i hn
      rw [hother n hn, ih hnodup.2 ((List.mem_cons.1 h).resolve_left (Ne.symm hn))]

/-- Placing an item does not touch the items of other files. -/
theorem filter_place (item : TestItem) (files : List TestItem) :
    (place item files).filter (fun f => f.id ≠ item.id) =
      files.filter fun f => f.id ≠ item.id := by
  induction files with
  | nil => simp [place]
  | cons f files ih =>
    rw [place]
    split
    · rename_i hf
      rw [List.filter_cons_of_neg (by simp), List.filter_cons_of_neg (by simp [hf])]
    · rename_i hf
      rw [List.filter_cons_of_pos (by simp [hf]), List.filter_cons_of_pos (by simp [hf]), ih]

/-- The tree holds the files of some registrations in the order in which they occur first, each with
the classes that were registered for it last. -/
def Represents (t : TestTree) (log : List Registration) : Prop :=
  t.files = (fileIds log).map (itemOf log)

theorem Represents.register (h : t.Represents log) :
    (t.register r.file r.classes).Represents (log ++ [r]) := by
  rw [Represents, TestTree.register, h]
  by_cases hmem : r.file ∈ fileIds log
  · rw [fileIds_concat_of_mem hmem]
    exact place_map_of_mem (TestItem.ofFile r.file r.classes) (fun _ => id_itemOf)
      itemOf_concat_self (fun n hn => itemOf_concat_of_ne (Ne.symm hn)) (nodup_eraseDups _) hmem
  · have hold : ∀ n ∈ fileIds log, itemOf (log ++ [r]) n = itemOf log n := fun n hn =>
      itemOf_concat_of_ne fun heq => hmem (heq ▸ hn)
    rw [fileIds_concat_of_not_mem hmem, List.map_append, List.map_congr_left hold,
      List.map_singleton, itemOf_concat_self]
    exact place_map_of_not_mem (TestItem.ofFile r.file r.classes) (fun _ => id_itemOf) hmem

/-- **One step** adds what it registers. -/
theorem represents_step (h : t.Represents log) (s : TreeStep) :
    (t.step s).Represents (log ++ s.registration?.toList) := by
  cases hs : s.registration? with
  | none =>
    rw [step_of_registration?_eq_none hs, Option.toList_none, List.append_nil]
    exact h
  | some r =>
    rw [step_of_registration?_eq_some hs, Option.toList_some]
    exact h.register

/-- **Some steps**, from the empty tree. -/
theorem represents_run (steps : List TreeStep) :
    (run steps).Represents (steps.filterMap TreeStep.registration?) := by
  have hfold (t : TestTree) (log : List Registration) (ht : t.Represents log) :
      (steps.foldl step t).Represents (log ++ steps.filterMap TreeStep.registration?) := by
    induction steps generalizing t log with
    | nil =>
      rw [List.foldl_nil, List.filterMap_nil, List.append_nil]
      exact ht
    | cons s steps ih =>
      have hcons : (s :: steps).filterMap TreeStep.registration? =
          s.registration?.toList ++ steps.filterMap TreeStep.registration? := by
        cases hs : s.registration? <;> simp [hs]
      rw [List.foldl_cons, hcons, ← List.append_assoc]
      exact ih _ _ (represents_step ht s)
  exact hfold {} [] rfl

end TestTree

/-! ### Counting the tests -/

namespace TestItem

variable {file parent : String} {above : List String}

mutual

/-- **As many tests are listed as are counted.** -/
theorem length_leaves (file : String) (above : List String) :
    (item : TestItem) → (item.leaves file above).length = item.testCount
  | mk id label kind line children => by
    cases kind with
    | method => rfl
    | file => exact length_leavesOf file above children
    | cls => exact length_leavesOf file (above ++ [label]) children

theorem length_leavesOf (file : String) (above : List String) :
    (items : List TestItem) → (leavesOf file above items).length = testCountAll items
  | [] => rfl
  | item :: rest => by
    rw [leavesOf, List.length_append, length_leaves file above item,
      length_leavesOf file above rest, testCountAll]

end

theorem testCountAll_append (items items' : List TestItem) :
    testCountAll (items ++ items') = testCountAll items + testCountAll items' := by
  induction items with
  | nil => rw [List.nil_append, testCountAll, Nat.zero_add]
  | cons item items ih => rw [List.cons_append, testCountAll, ih, testCountAll, Nat.add_assoc]

theorem testCountAll_map_ofMethod (methods : List TestMethod) :
    testCountAll (methods.map (ofMethod parent)) = methods.length := by
  induction methods with
  | nil => rfl
  | cons m methods ih =>
    rw [List.map_cons, testCountAll, ih, List.length_cons, Nat.add_comm]
    rfl

mutual

theorem testCount_ofClass (parent : String) :
    (c : TestClass) → (ofClass parent c).testCount = c.testCount
  | .mk name line methods children => by
    rw [ofClass, testCount, if_neg ItemKind.noConfusion, testCountAll_append,
      testCountAll_map_ofMethod, testCountAll_ofClasses _ children, TestClass.testCount]

theorem testCountAll_ofClasses (parent : String) :
    (classes : List TestClass) →
      testCountAll (ofClasses parent classes) = TestClass.testCountAll classes
  | [] => rfl
  | c :: rest => by
    rw [ofClasses, testCountAll, testCount_ofClass parent c, testCountAll_ofClasses parent rest,
      TestClass.testCountAll]

end

/-- **The item of a file counts the methods of its classes.** -/
theorem testCount_ofFile (file : String) (classes : List TestClass) :
    (ofFile file classes).testCount = TestClass.testCountAll classes := by
  rw [ofFile, testCount, if_neg ItemKind.noConfusion, testCountAll_ofClasses]

end TestItem

namespace TestTree

open Registration

variable {t : TestTree} {log : List Registration}

theorem length_leaves_eq_testCount (t : TestTree) : t.leaves.length = t.testCount := by
  obtain ⟨files⟩ := t
  induction files with
  | nil => rfl
  | cons f files ih =>
    rw [leaves, List.flatMap_cons, List.length_append, TestItem.length_leaves]
    exact congrArg (f.testCount + ·) ih

/-- The number of methods of the classes that were registered last, file by file. -/
def methodCount (log : List Registration) : Nat :=
  ((fileIds log).filterMap (last? log)).foldr
    (fun classes n => TestClass.testCountAll classes + n) 0

theorem Represents.testCount_eq (h : t.Represents log) : t.testCount = methodCount log := by
  have hcount (names : List String) (hnames : ∀ n ∈ names, ∃ classes, last? log n = some classes) :
      TestItem.testCountAll (names.map (itemOf log)) =
        (names.filterMap (last? log)).foldr (fun classes n => TestClass.testCountAll classes + n)
          0 := by
    induction names with
    | nil => rfl
    | cons n names ih =>
      rw [List.forall_mem_cons] at hnames
      obtain ⟨⟨classes, hlast⟩, hnames⟩ := hnames
      rw [List.map_cons, TestItem.testCountAll, ih hnames, List.filterMap_cons, hlast, itemOf,
        TestItem.testCount_ofFile, hlast]
      rfl
  rw [testCount, h, methodCount]
  exact hcount _ fun n hn => exists_last?_eq_some hn

/-! ### The tree behind some steps -/

/-- **A tree that is built step by step is a map** from the ids of files to the classes that were
registered last. Its files have ids of their own and stand in the order in which they were
registered first; a further step changes the item of the file that it registers and no other, and
none at all if it fails to load a file; and its tests are the methods of the classes. -/
theorem run_isMap (steps : List TreeStep) :
    let t := run steps
    let log := steps.filterMap TreeStep.registration?
    t.files.map TestItem.id = fileIds log ∧ (t.files.map TestItem.id).Nodup ∧
      (∀ f ∈ t.files, ∃ classes, last? log f.id = some classes ∧ f = TestItem.ofFile f.id classes) ∧
      (∀ s r, s.registration? = some r →
        (t.step s).files.filter (fun f => f.id ≠ r.file) =
          t.files.filter fun f => f.id ≠ r.file) ∧
      (∀ (disk : Disk) (path : String) (e : Failure),
        (disk.load t path).2 = .error e → (disk.load t path).1 = t) ∧
      t.leaves.length = t.testCount ∧ t.testCount = methodCount log := by
  intro t log
  have ht : t.Represents log := represents_run steps
  have hids : t.files.map TestItem.id = fileIds log := by
    rw [ht, List.map_map]
    exact (List.map_congr_left fun _ _ => id_itemOf).trans (List.map_id _)
  refine ⟨hids, hids ▸ nodup_eraseDups _, fun f hf => ?_, fun s r hs => ?_,
    fun disk path e he => ?_, length_leaves_eq_testCount t, ht.testCount_eq⟩
  · rw [ht] at hf
    obtain ⟨n, hn, rfl⟩ := List.mem_map.1 hf
    obtain ⟨classes, hlast⟩ := exists_last?_eq_some hn
    exact ⟨classes, hlast, by rw [id_itemOf, itemOf, hlast, Option.getD_some]⟩
  · rw [step_of_registration?_eq_some hs]
    exact filter_place (TestItem.ofFile r.file r.classes) t.files
  · exact step_of_registration?_eq_none (registration?_eq_none_of_load he)

/-- A class with two tests. -/
def pairClass : TestClass := .mk "Pair" (some 0) [⟨"First", some 1⟩, ⟨"Second", some 2⟩] []

/-- A disk with an empty test file. -/
def quietDisk : Disk where
  tree := .dir [("b.ahk", .file [] false)]
  cwd := []

/-- Two files; the first of them is registered again, behind a file that is missing. -/
def repeatedSteps : List TreeStep :=
  [.load quietDisk "b.ahk", .register "a.ahk" [pairClass], .load quietDisk "c.ahk",
    .register "b.ahk" [pairClass]]

theorem run_isMap_repeatedSteps :
    (run repeatedSteps).files.map TestItem.id = ["b.ahk", "a.ahk"] ∧
      (∃ f ∈ (run repeatedSteps).files, f = TestItem.ofFile "b.ahk" [pairClass]) ∧
      ((run repeatedSteps).step (.register "a.ahk" [])).files.filter (fun f => f.id ≠ "a.ahk") =
        (run repeatedSteps).files.filter (fun f => f.id ≠ "a.ahk") ∧
      (quietDisk.load (run repeatedSteps) "c.ahk").1 = run repeatedSteps ∧
      (run repeatedSteps).leaves.length = 4 := by
  obtain ⟨hids, -, hitems, hothers, hload, hleaves, hcount⟩ := run_isMap repeatedSteps
  have hfiles : (run repeatedSteps).files.map TestItem.id = ["b.ahk", "a.ahk"] :=
    hids.trans (by decide +kernel)
  have hb : "b.ahk" ∈ (run repeatedSteps).files.map TestItem.id := by
    rw [hfiles]
    exact List.mem_cons_self
  obtain ⟨f, hf, hid⟩ := List.mem_map.1 hb
  obtain ⟨classes, hlast, hitem⟩ := hitems f hf
  refine ⟨hfiles, ⟨f, hf, ?_⟩, hothers _ ⟨"a.ahk", []⟩ rfl,
    hload _ _ (.unreadableSource "c.ahk" .missing) ?_, hleaves.trans (hcount.trans ?_)⟩
  · have hagain : last? (repeatedSteps.filterMap TreeStep.registration?) "b.ahk" =
        some [pairClass] := by
      rw [show repeatedSteps = repeatedSteps.dropLast ++ [.register "b.ahk" [pairClass]] from rfl,
        List.filterMap_append]
      exact last?_concat_self
    rw [hid, hagain] at hlast
    rwa [hid, ← Option.some.inj hlast] at hitem
  · rfl
  · decide +kernel

end TestTree

end ScriptSuite
