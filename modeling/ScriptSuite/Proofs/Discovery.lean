import ScriptSuite.Discovery
import ScriptSuite.Proofs.Glob
import ScriptSuite.Proofs.Path.Join

/-!
# Which files are test files

The test files below a directory are found on a walk through its entries that leaves out directories
which are passed over, with all that is in them. What is left is matched with the glob, path by
path, and sorted. That gives the files whose whole way from the root fits and none of whose
directories is passed over, each of them once, in the order of their paths. A name is looked at on
the way only where it is that of a directory, so the names of files and that of the root do not
matter.

Names in a directory differ, and each of them can be a component of a path. Nothing else is asked of
the tree, and nothing of the glob: what is found and in what order is stated for any test of paths,
and matching with a glob is one of them.

## Main definitions

* `FileTree.IsProper`: the names in a tree can be used in paths, and tell its places apart
* `FileTree.IsVisible`: a way to a file through directories none of which is passed over
* `FileTree.IsTestFile`: a way to a test file

## Main results

* `FileTree.IsProper.mem_visibleFiles_iff`, `FileTree.IsProper.nodup_visibleFiles`: what the walk
  comes by
* `FileTree.IsProper.testFiles_isExact`: which files are found with a test of paths, and in what
  order
* `FileTree.isTestFile_congr`: the case of letters
* `Disk.discover_isExact`: which files are found with a glob
-/

namespace ScriptSuite

theorem isPassedOver_eq_false_iff {name : String} : isPassedOver name = false ↔
    name.toList.head? ≠ some '.' ∧ name ≠ "node_modules" ∧ name ≠ "target" := by
  simp [isPassedOver, and_assoc]

/-! ### Trees with proper names -/

namespace FileTree

/-- The entries of each directory have different names, and each name can be a component of a
path. -/
inductive IsProper : FileTree → Prop
  /-- A file has no entries. -/
  | file {bytes : List UInt8} {runnable : Bool} : IsProper (.file bytes runnable)
  /-- A directory has entries with proper trees. -/
  | dir {entries : List (String × FileTree)} (hnodup : (entries.map Prod.fst).Nodup)
      (hname : ∀ name ∈ entries.map Prod.fst, (Path.Component.name name.toList).IsInner)
      (h : ∀ e ∈ entries, IsProper e.2) : IsProper (.dir entries)

variable {t u : FileTree} {entries : List (String × FileTree)} {name : String}
  {front way rest : List String} {bytes : List UInt8} {runnable : Bool}

/-- An entry is found under its name. -/
theorem child?_eq_some_iff (h : (entries.map Prod.fst).Nodup) :
    (dir entries).child? name = some t ↔ (name, t) ∈ entries := by
  rw [child?]
  induction entries with
  | nil => simp
  | cons e entries ih =>
    rw [List.map_cons, List.nodup_cons] at h
    rw [List.find?_cons]
    by_cases he : e.1 = name
    · -- No other entry has the name.
      have hother : (name, t) ∉ entries := fun hmem =>
        h.1 (he ▸ List.mem_map_of_mem (f := Prod.fst) hmem)
      rw [decide_eq_true he, List.mem_cons, or_iff_left hother, ← he]
      simp [Prod.ext_iff, eq_comm]
    · have hne : (name, t) ≠ e := fun heq => he (heq ▸ rfl)
      rw [decide_eq_false he, List.mem_cons, or_iff_right hne]
      exact ih h.2

/-- Each name on a way through a tree can be a component of a path. -/
theorem IsProper.isInner_of_at? (h : t.IsProper) (hway : t.at? way = some u) :
    ∀ name ∈ way, (Path.Component.name name.toList).IsInner := by
  induction h generalizing way with
  | file =>
    cases way with
    | nil => exact List.forall_mem_nil _
    | cons name rest => exact absurd hway (by simp [at?, child?])
  | @dir entries hnodup hname h ih =>
    cases way with
    | nil => exact List.forall_mem_nil _
    | cons name rest =>
      obtain ⟨v, hchild, hv⟩ := Option.bind_eq_some_iff.1 hway
      have he : (name, v) ∈ entries := (child?_eq_some_iff hnodup).1 hchild
      rw [List.forall_mem_cons]
      exact ⟨hname name (List.mem_map_of_mem he), ih (name, v) he hv⟩

/-! ### Visible files -/

/-- There is a file at the end of the way, and no directory on the way is passed over. -/
structure IsVisible (t : FileTree) (way : List String) : Prop where
  /-- There is a file. -/
  isFile : ∃ bytes runnable, t.at? way = some (.file bytes runnable)
  /-- No directory is hidden, or holds packages or build products. -/
  notPassedOver : ∀ name ∈ way.dropLast,
    name.toList.head? ≠ some '.' ∧ name ≠ "node_modules" ∧ name ≠ "target"

/-- The way to a file ends at the file. -/
theorem isDir_eq_false_iff (h : t.at? way = some (.file bytes runnable)) :
    t.isDir = false ↔ way = [] := by
  cases way with
  | nil =>
    obtain rfl : t = .file bytes runnable := Option.some_inj.1 h
    exact iff_of_true rfl rfl
  | cons name rest =>
    cases t with
    | file bytes' runnable' => exact absurd h (by simp [at?, child?])
    | dir entries => exact iff_of_false Bool.noConfusion (List.cons_ne_nil _ _)

theorem isVisible_file_iff : (file bytes runnable).IsVisible way ↔ way = [] := by
  constructor
  · rintro ⟨⟨_, _, hfile⟩, -⟩
    exact (isDir_eq_false_iff hfile).1 rfl
  · rintro rfl
    exact ⟨⟨bytes, runnable, rfl⟩, List.forall_mem_nil _⟩

theorem not_isVisible_dir_nil : ¬ (dir entries).IsVisible [] := by
  rintro ⟨⟨bytes, runnable, hfile⟩, -⟩
  exact FileTree.noConfusion (Option.some_inj.1 hfile)

/-- **The first step on the way to a visible file.** -/
theorem isVisible_cons_iff : t.IsVisible (name :: rest) ↔
    ∃ u, t.child? name = some u ∧ (u.isDir && isPassedOver name) = false ∧ u.IsVisible rest := by
  constructor
  · rintro ⟨⟨bytes, runnable, hfile⟩, hdirs⟩
    obtain ⟨u, hchild, hu⟩ := Option.bind_eq_some_iff.1 hfile
    by_cases hrest : rest = []
    · -- The step leads to the file itself, whose name does not matter.
      have hdir : u.isDir = false := (isDir_eq_false_iff hu).2 hrest
      subst hrest
      exact ⟨u, hchild, by rw [hdir, Bool.false_and], ⟨bytes, runnable, hu⟩, List.forall_mem_nil _⟩
    · rw [List.dropLast_cons_of_ne_nil hrest, List.forall_mem_cons] at hdirs
      have hname : isPassedOver name = false := isPassedOver_eq_false_iff.2 hdirs.1
      exact ⟨u, hchild, by rw [hname, Bool.and_false], ⟨bytes, runnable, hu⟩, hdirs.2⟩
  · rintro ⟨u, hchild, hseen, ⟨bytes, runnable, hu⟩, hdirs⟩
    have hfile : t.at? (name :: rest) = some (.file bytes runnable) := by
      rw [at?, hchild]
      exact hu
    refine ⟨⟨bytes, runnable, hfile⟩, ?_⟩
    by_cases hrest : rest = []
    · subst hrest
      exact List.forall_mem_nil _
    · have hdir : u.isDir = true := Bool.ne_false_iff.1 (mt (isDir_eq_false_iff hu).1 hrest)
      rw [hdir, Bool.true_and] at hseen
      rw [List.dropLast_cons_of_ne_nil hrest, List.forall_mem_cons]
      exact ⟨isPassedOver_eq_false_iff.1 hseen, hdirs⟩

/-! ### The walk -/

theorem visibleEntries_eq_flatMap (front : List String) (entries : List (String × FileTree)) :
    visibleEntries front entries = entries.flatMap fun e =>
      if e.2.isDir && isPassedOver e.1 then [] else e.2.visibleFiles (front ++ [e.1]) := by
  induction entries with
  | nil => rfl
  | cons e entries ih => rw [visibleEntries, ih, List.flatMap_cons]

namespace IsProper

/-- **The walk comes by the visible files.** -/
theorem mem_visibleFiles_iff (h : t.IsProper) :
    way ∈ t.visibleFiles front ↔ ∃ rest, t.IsVisible rest ∧ way = front ++ rest := by
  induction h generalizing front way with
  | file => simp [visibleFiles, isVisible_file_iff]
  | @dir entries hnodup hname h ih =>
    rw [visibleFiles, visibleEntries_eq_flatMap, List.mem_flatMap]
    constructor
    · rintro ⟨e, he, hway⟩
      split at hway
      · exact absurd hway List.not_mem_nil
      · next hseen =>
        obtain ⟨rest, hrest, rfl⟩ := (ih e he).1 hway
        have hchild : (FileTree.dir entries).child? e.1 = some e.2 :=
          (child?_eq_some_iff hnodup).2 he
        refine ⟨e.1 :: rest, ?_, List.append_assoc front [e.1] rest⟩
        exact isVisible_cons_iff.2 ⟨e.2, hchild, Bool.eq_false_iff.2 hseen, hrest⟩
    · rintro ⟨rest, hrest, rfl⟩
      cases rest with
      | nil => exact absurd hrest not_isVisible_dir_nil
      | cons name rest =>
        obtain ⟨u, hchild, hseen, hu⟩ := isVisible_cons_iff.1 hrest
        have he : (name, u) ∈ entries := (child?_eq_some_iff hnodup).1 hchild
        refine ⟨(name, u), he, ?_⟩
        rw [if_neg (Bool.eq_false_iff.1 hseen)]
        exact (ih (name, u) he).2 ⟨rest, hu, List.append_cons front name rest⟩

/-- **It comes by each of them once.** -/
theorem nodup_visibleFiles (h : t.IsProper) : (t.visibleFiles front).Nodup := by
  induction h generalizing front with
  | file => exact List.nodup_singleton front
  | @dir entries hnodup hname h ih =>
    rw [visibleFiles, visibleEntries_eq_flatMap, List.nodup_flatMap]
    constructor
    · intro e he
      split
      · exact List.nodup_nil
      · exact ih e he
    · -- The ways to what is in an entry go on with its name.
      have hname : ∀ e ∈ entries, ∀ way ∈ (if e.2.isDir && isPassedOver e.1 then []
          else e.2.visibleFiles (front ++ [e.1])), ∃ rest, way = front ++ e.1 :: rest := by
        intro e he way hway
        split at hway
        · exact absurd hway List.not_mem_nil
        · obtain ⟨rest, -, rfl⟩ := (h e he).mem_visibleFiles_iff.1 hway
          exact ⟨rest, (List.append_cons front e.1 rest).symm⟩
      refine (List.pairwise_map.1 hnodup).imp_of_mem ?_
      intro d e hd he hne way hwayd hwaye
      obtain ⟨rest, rfl⟩ := hname d hd way hwayd
      obtain ⟨rest', hrest⟩ := hname e he _ hwaye
      exact hne (List.cons.inj (List.append_cancel_left hrest)).1

end IsProper

/-! ### Files with a path that fits -/

namespace IsProper

variable (h : t.IsProper) (fits : String → Bool)
include h

theorem mem_testFiles_iff :
    way ∈ t.testFiles fits ↔ t.IsVisible way ∧ fits ("/".intercalate way) = true := by
  rw [testFiles, List.mem_mergeSort, List.mem_filter, h.mem_visibleFiles_iff]
  refine and_congr_left fun _ => ⟨?_, fun hvisible => ⟨way, hvisible, rfl⟩⟩
  rintro ⟨rest, hrest, rfl⟩
  exact hrest

theorem nodup_testFiles : (t.testFiles fits).Nodup :=
  (h.nodup_visibleFiles.filter _).mergeSort

theorem pairwise_testFiles : (t.testFiles fits).Pairwise fun way way' =>
    dictionaryLe way way' = true ∧ dictionaryLe way' way = false :=
  pairwise_mergeSort_dictionaryLe (h.nodup_visibleFiles.filter _)

/-- There is a name on the way to a file below a directory, and paths are made of such names. -/
theorem ne_nil_and_isInner_of_isVisible (hdir : t.isDir = true) (hway : t.IsVisible way) :
    way ≠ [] ∧ ∀ name ∈ way, (Path.Component.name name.toList).IsInner := by
  obtain ⟨bytes, runnable, hfile⟩ := hway.isFile
  exact ⟨mt (isDir_eq_false_iff hfile).2 (Bool.ne_false_iff.2 hdir), h.isInner_of_at? hfile⟩

/-- **Which files are found with a test of paths, and in what order.** The ways to the visible files
whose path fits are found, each of them once. The paths have the components of the root and behind
them the names on the ways, and they ascend in the order of their components. -/
theorem testFiles_isExact (hdir : t.isDir = true) {root : String} (hroot : root ≠ "") :
    (∀ way, way ∈ t.testFiles fits ↔
      t.IsVisible way ∧ fits ("/".intercalate way) = true) ∧
    (t.testFiles fits).Nodup ∧
    (∀ way ∈ t.testFiles fits, Path.components (Path.join root ("/".intercalate way)) =
      Path.components root ++ way.map fun name => .name name.toList) ∧
    ((t.testFiles fits).map fun way => Path.join root ("/".intercalate way)).Pairwise fun p q =>
      Path.le p q = true ∧ Path.le q p = false := by
  have hmem : ∀ way, way ∈ t.testFiles fits ↔
      t.IsVisible way ∧ fits ("/".intercalate way) = true := fun way => h.mem_testFiles_iff fits
  have hway : ∀ way ∈ t.testFiles fits, way ≠ [] ∧
      ∀ name ∈ way, (Path.Component.name name.toList).IsInner := fun way hmemway =>
    h.ne_nil_and_isInner_of_isVisible hdir ((hmem way).1 hmemway).1
  refine ⟨hmem, h.nodup_testFiles fits, ?_, ?_⟩
  · intro way hmemway
    obtain ⟨hnil, hnames⟩ := hway way hmemway
    exact Path.components_join_intercalate hnames hroot hnil
  · rw [List.pairwise_map]
    refine (h.pairwise_testFiles fits).imp_of_mem ?_
    intro way way' hmemway hmemway' hlt
    obtain ⟨hnil, hnames⟩ := hway way hmemway
    obtain ⟨hnil', hnames'⟩ := hway way' hmemway'
    rw [Path.le_join_intercalate hnames hroot hnil hnil' hnames',
      Path.le_join_intercalate hnames' hroot hnil' hnil hnames]
    exact hlt

end IsProper

/-! ### Test files -/

/-- A visible file is a test file if the whole way to it fits the glob, written with slashes; what
was a backslash in a name counts as a slash. -/
structure IsTestFile (g : Glob) (t : FileTree) (way : List String) : Prop
    extends t.IsVisible way where
  /-- The way fits. -/
  isMatched :
    Glob.attempt g.parts (Text.forwardSlashes ("/".intercalate way).toList) = Glob.Attempt.matched

variable {g : Glob}

theorem isTestFile_iff :
    t.IsTestFile g way ↔ t.IsVisible way ∧ g.holds ("/".intercalate way) = true := by
  constructor
  · rintro ⟨hvisible, hmatched⟩
    exact ⟨hvisible, decide_eq_true hmatched⟩
  · rintro ⟨hvisible, hmatched⟩
    exact ⟨hvisible, of_decide_eq_true hmatched⟩

/-- **Capital letters do not matter.** Of two visible files on whose ways the same letters stand,
both are test files or none is, if the case of a letter does not matter to the ranges of the
glob. -/
theorem isTestFile_congr {way' : List String} (hg : ∀ part ∈ g.parts, part.IsCaseBlind)
    (h : t.IsVisible way) (h' : t.IsVisible way')
    (heq : ("/".intercalate way).toLower = ("/".intercalate way').toLower) :
    t.IsTestFile g way ↔ t.IsTestFile g way' := by
  rw [isTestFile_iff, isTestFile_iff, and_iff_right h, and_iff_right h', ← Glob.holds_toLower hg,
    heq, Glob.holds_toLower hg]

end FileTree

/-- **Which test files are found, and in what order.** The ways to the test files are found, each of
them once. The paths have the components of the root and behind them the names on the ways, and they
ascend in the order of their components. -/
theorem Disk.discover_isExact {d : Disk} {root glob : String} {entries : List (String × FileTree)}
    {g : Glob} (hroot : d.get root = .ok (.dir entries)) (hproper : (FileTree.dir entries).IsProper)
    (hglob : Glob.parse? glob = .ok g) :
    ∃ ways : List (List String),
      d.discover root glob = .ok (ways.map fun way => Path.join root ("/".intercalate way)) ∧
      (∀ way, way ∈ ways ↔ (FileTree.dir entries).IsTestFile g way) ∧
      ways.Nodup ∧
      (∀ way ∈ ways, Path.components (Path.join root ("/".intercalate way)) =
        Path.components root ++ way.map fun name => .name name.toList) ∧
      (ways.map fun way => Path.join root ("/".intercalate way)).Pairwise fun p q =>
        Path.le p q = true ∧ Path.le q p = false := by
  have hne : root ≠ "" := by
    rintro rfl
    cases hroot
  obtain ⟨hmem, hnodup, hcomponents, hsorted⟩ := hproper.testFiles_isExact g.holds rfl hne
  refine ⟨(FileTree.dir entries).testFiles g.holds, ?_, ?_, hnodup, hcomponents, hsorted⟩
  · rw [discover, hroot, hglob]
  · intro way
    rw [hmem, FileTree.isTestFile_iff]

/-- What is in a suite: build products, a directory with a test file, a hidden test file, and a file
that is no test file. -/
def suiteEntries : List (String × FileTree) :=
  [("target", .dir [("built.test.ahk", .file [] false)]),
    ("lib", .dir [("Deep.TEST.AHK", .file [] false)]),
    (".quick.test.ahk", .file [] false),
    ("notes.txt", .file [] false)]

/-- A disk with a suite in a hidden directory. -/
def hiddenDisk : Disk where
  tree := .dir [(".suite", .dir suiteEntries)]
  cwd := []

/-- What the default glob is compiled to. -/
def suiteGlob : Glob where
  parts := [.anyComponents, .anyChars] ++ ".test.ahk".toList.map .char

theorem Disk.discover_isExact_hiddenDisk :
    ∃ ways : List (List String),
      hiddenDisk.discover "/.suite" "**/*.test.ahk" =
        .ok (ways.map fun way => Path.join "/.suite" ("/".intercalate way)) ∧
      ["lib", "Deep.TEST.AHK"] ∈ ways ∧ [".quick.test.ahk"] ∈ ways ∧
      ["target", "built.test.ahk"] ∉ ways ∧ ["notes.txt"] ∉ ways ∧ ways.Nodup ∧
      (ways.map fun way => Path.join "/.suite" ("/".intercalate way)).Pairwise fun p q =>
        Path.le p q = true ∧ Path.le q p = false := by
  have hroot : hiddenDisk.get "/.suite" = .ok (.dir suiteEntries) := rfl
  have hproper : (FileTree.dir suiteEntries).IsProper := by
    refine .dir (by decide) (by decide) ?_
    rw [suiteEntries, List.forall_mem_cons, List.forall_mem_cons, List.forall_mem_cons]
    refine ⟨.dir (by decide) (by decide) ?_, .dir (by decide) (by decide) ?_, .file, ?_⟩
    all_goals
      rw [List.forall_mem_singleton]
      exact .file
  have hglob : Glob.parse? "**/*.test.ahk" = .ok suiteGlob := by decide +kernel
  obtain ⟨ways, hdiscover, hmem, hnodup, -, hsorted⟩ := discover_isExact hroot hproper hglob
  refine ⟨ways, hdiscover, ?_, ?_, ?_, ?_, hnodup, hsorted⟩
  · exact (hmem _).2 ⟨⟨⟨[], false, rfl⟩, by decide⟩, by decide +kernel⟩
  · exact (hmem _).2 ⟨⟨⟨[], false, rfl⟩, by decide⟩, by decide +kernel⟩
  · intro h
    exact absurd (((hmem _).1 h).notPassedOver "target" (by decide)).2.2 (by decide)
  · intro h
    exact absurd ((hmem _).1 h).isMatched (by decide +kernel)

end ScriptSuite
