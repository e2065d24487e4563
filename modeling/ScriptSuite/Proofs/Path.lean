import Mathlib.Algebra.Group.Nat.Even
import Mathlib.Data.List.Infix
import ScriptSuite.Path
import ScriptSuite.Proofs.Text.Split

/-!
# What a path means and what its normal form keeps

Reading a path without asking the disk, each `..` takes away the name in front of it. Where no name
is left, a relative path climbs above the place where it starts, and an absolute path stays at the
root. The normal form spells what is left of the path: the root, the climbs and the names.

The normal form is built component by component, and there a `..` takes away whatever is in front,
also a `..` that is left from before. So climbs cancel each other in pairs, and what is left of them
is their parity. This loses a climb of a relative path that climbs more than once, and it keeps one
`..` behind the root of an absolute path that tries to leave the root an odd number of times.

## Main definitions

* `Path.Walk`, `Path.walk`: what is left of a path
* `Path.meaning`: what a path means
* `Path.Walk.spelled`: the components of a normal form

## Main results

* `Path.components_normalize`: the components of a normal form
* `Path.meaning_normalize_iff`: what the normal form keeps, and which paths keep their meaning
-/

namespace ScriptSuite.Path

open Text

variable {path : String} {s : List Char} {c : Component} {cs : List Component}

/-! ### Segments -/

theorem segments_eq_splitOn (s : List Char) : segments s = splitOn ['/'] s := by
  induction s with
  | nil => rw [segments, splitOn]
  | cons c s ih =>
    rw [segments, splitOn, ih]
    by_cases hc : c = '/'
    · subst hc
      rfl
    · have hprefix : ¬ ['/'].isPrefixOf (c :: s) := by simpa using fun h => hc h.symm
      cases splitOn ['/'] s <;> rw [if_neg hc, if_neg hprefix]

theorem segments_ne_nil (s : List Char) : segments s ≠ [] := by
  rw [segments_eq_splitOn]
  exact splitOn_ne_nil

theorem segments_join {parts : List (List Char)} (hne : parts ≠ [])
    (h : ∀ p ∈ parts, '/' ∉ p) : segments (Text.join ['/'] parts) = parts := by
  rw [segments_eq_splitOn, ← List.dropLast_concat_getLast hne]
  refine (splitOn_join_iff (List.cons_ne_nil _ _)).2 ⟨fun p hp => ?_, ?_⟩
  · simpa [List.singleton_infix_iff] using h p (List.mem_of_mem_dropLast hp)
  · simpa [List.singleton_infix_iff] using h _ (List.getLast_mem hne)

theorem not_mem_of_mem_segments {p : List Char} (hp : p ∈ segments s) : '/' ∉ p := by
  obtain ⟨front, last, hs⟩ : ∃ front last, segments s = front ++ [last] :=
    ⟨_, _, (List.dropLast_concat_getLast (segments_ne_nil s)).symm⟩
  rw [hs, List.mem_append, List.mem_singleton] at hp
  rw [segments_eq_splitOn] at hs
  obtain ⟨-, hfront, hlast⟩ := (splitOn_eq_append_singleton_iff (List.cons_ne_nil '/' [])).1 hs
  rcases hp with hp | rfl
  · simpa [List.singleton_infix_iff] using hfront p hp
  · simpa [List.singleton_infix_iff] using hlast

/-! ### Components -/

namespace Component

/-- A component that may stand anywhere in a path: `..`, or a name that can be read back. -/
inductive IsInner : Component → Prop
  /-- The directory above. -/
  | parent : IsInner .parent
  /-- A name has characters, none of them a slash, and is no run of one or two dots. -/
  | name {s : List Char} (hne : s ≠ []) (hdot : s ≠ ['.']) (hdots : s ≠ ['.', '.'])
      (hslash : '/' ∉ s) : IsInner (.name s)

instance : DecidablePred IsInner
  | .parent => isTrue .parent
  | .name s => decidable_of_iff (s ≠ [] ∧ s ≠ ['.'] ∧ s ≠ ['.', '.'] ∧ '/' ∉ s)
      ⟨fun ⟨hne, hdot, hdots, hslash⟩ => .name hne hdot hdots hslash,
        fun | .name hne hdot hdots hslash => ⟨hne, hdot, hdots, hslash⟩⟩
  | .root | .current => isFalse nofun

theorem IsInner.not_mem_text (h : c.IsInner) : '/' ∉ ofReversed.text c := by
  cases h with
  | parent => decide
  | name _ _ _ hslash => exact hslash

theorem IsInner.text_ne_nil (h : c.IsInner) : ofReversed.text c ≠ [] := by
  cases h with
  | parent => decide
  | name hne => exact hne

theorem IsInner.text_ne_dot (h : c.IsInner) : ofReversed.text c ≠ ['.'] := by
  cases h with
  | parent => decide
  | name _ hdot => exact hdot

/-- What is written is read back. -/
theorem IsInner.ofSegment?_text (h : c.IsInner) : ofSegment? (ofReversed.text c) = some c := by
  cases h with
  | parent => rfl
  | name hne hdot hdots =>
    rw [ofReversed.text, ofSegment?, if_neg (by simp [hne, hdot]), if_neg hdots]

theorem isInner_of_ofSegment? (hs : '/' ∉ s) (h : ofSegment? s = some c) : c.IsInner := by
  rw [ofSegment?] at h
  split at h
  · cases h
  · next hsilent =>
    rw [not_or] at hsilent
    split at h
    · cases h
      exact .parent
    · next hdots =>
      cases h
      exact .name hsilent.1 hsilent.2 hdots hs

end Component

theorem segments_join_map_text (hne : cs ≠ []) (h : ∀ c ∈ cs, c.IsInner) :
    segments (Text.join ['/'] (cs.map ofReversed.text)) = cs.map ofReversed.text := by
  refine segments_join (by simpa using hne) fun p hp => ?_
  obtain ⟨c, hc, rfl⟩ := List.mem_map.1 hp
  exact (h c hc).not_mem_text

theorem filterMap_ofSegment?_map_text (h : ∀ c ∈ cs, c.IsInner) :
    (cs.map ofReversed.text).filterMap Component.ofSegment? = cs := by
  rw [List.filterMap_map]
  exact (List.filterMap_congr fun c hc => (h c hc).ofSegment?_text).trans List.filterMap_some

/-- The components that the segments of a path make; the lead of the path is not among them. -/
def inner (path : String) : List Component :=
  (segments path.toList).filterMap Component.ofSegment?

theorem isInner_of_mem_inner (hc : c ∈ inner path) : c.IsInner := by
  obtain ⟨p, hp, hpc⟩ := List.mem_filterMap.1 hc
  exact Component.isInner_of_ofSegment? (not_mem_of_mem_segments hp) hpc

/-- In front of the components that its segments make, a path has the root, a dot or nothing. -/
theorem components_cases (path : String) :
    isAbsolute path = true ∧ components path = .root :: inner path ∨
      isAbsolute path = false ∧
        (components path = inner path ∨ components path = .current :: inner path) := by
  rw [components, isAbsolute, inner]
  cases hs : path.toList with
  | nil => exact Or.inr ⟨rfl, Or.inl rfl⟩
  | cons c s =>
    obtain ⟨p, ps, hps⟩ := List.exists_cons_of_ne_nil (segments_ne_nil s)
    by_cases hc : c = '/'
    · subst hc
      refine Or.inl ⟨rfl, ?_⟩
      rw [segments, if_pos rfl, hps]
      rfl
    · refine Or.inr ⟨by simpa using hc, ?_⟩
      rw [segments, if_neg hc, hps]
      by_cases hdot : c :: p = ['.']
      · refine Or.inr ?_
        simp only [hdot]
        rfl
      · refine Or.inl ?_
        simp only [List.cons_ne_nil, if_false, hdot, List.filterMap_cons]
        cases Component.ofSegment? (c :: p) <;> rfl

theorem isAbsolute_iff_root_mem : isAbsolute path = true ↔ .root ∈ components path := by
  have hroot : Component.root ∉ inner path := fun h => nomatch isInner_of_mem_inner h
  rcases components_cases path with ⟨habs, hcs⟩ | ⟨habs, hcs | hcs⟩
  · simp [habs, hcs]
  · simp [habs, hcs, hroot]
  · simp [habs, hcs, hroot]

/-! ### What is left of a path -/

/-- What is left of a path that is read from left to right. -/
structure Walk where
  /-- How many `..` found no name in front of them. -/
  climbs : Nat := 0
  /-- The names that no `..` has taken away. -/
  names : List (List Char) := []
deriving DecidableEq, Repr

/-- What stands in front of a normal form. -/
def lead (absolute : Bool) : List Component := if absolute then [.root] else []

@[simp] theorem lead_true : lead true = [.root] := rfl

@[simp] theorem lead_false : lead false = [] := rfl

namespace Walk

/-- Reads one more component. -/
def step (w : Walk) : Component → Walk
  | .root => {}
  | .current => w
  | .parent =>
    if w.names = [] then { w with climbs := w.climbs + 1 }
    else { w with names := w.names.dropLast }
  | .name s => { w with names := w.names ++ [s] }

/-- The components behind the lead of a normal form: of the climbs their parity is left. -/
def remains (w : Walk) : List Component :=
  List.replicate (w.climbs % 2) .parent ++ w.names.map .name

/-- The components of a normal form. -/
def spelled (w : Walk) (absolute : Bool) : List Component :=
  lead absolute ++ w.remains

end Walk

/-- What is left of a path. -/
def walk (path : String) : Walk := (components path).foldl Walk.step {}

/-- What a path means without asking the disk: the names below the root, or how far to climb above
the start, and the names below that. At the root there is nothing to climb to. -/
inductive Meaning where
  /-- A place below the root. -/
  | absolute (names : List (List Char))
  /-- A place seen from the start. -/
  | relative (climbs : Nat) (names : List (List Char))
deriving DecidableEq, Repr

/-- What a path means. -/
def meaning (path : String) : Meaning :=
  if isAbsolute path then .absolute (walk path).names
  else .relative (walk path).climbs (walk path).names

theorem walk_eq (path : String) : walk path = (inner path).foldl Walk.step {} := by
  rw [walk]
  rcases components_cases path with ⟨-, h⟩ | ⟨-, h | h⟩ <;> rw [h] <;> rfl

/-! ### The normal form as it is built -/

namespace Walk

variable {w : Walk} {absolute : Bool}

/-- What is built agrees with what is left, after each component. -/
theorem foldComponent_spelled (hc : c.IsInner) :
    foldComponent (w.spelled absolute).reverse c = ((w.step c).spelled absolute).reverse := by
  cases hc with
  | name => simp [foldComponent, step, spelled, remains]
  | parent =>
    rcases List.eq_nil_or_concat w.names with hnames | ⟨names, s, hnames⟩
    · -- Without a name in front, the `..` goes behind the lead, or takes the one away that is
      -- there.
      rcases Nat.mod_two_eq_zero_or_one w.climbs with hk | hk
      · have hsucc : (w.climbs + 1) % 2 = 1 := by omega
        cases absolute <;> simp [foldComponent, step, spelled, remains, hnames, hk, hsucc]
      · have hsucc : (w.climbs + 1) % 2 = 0 := by omega
        cases absolute <;> simp [foldComponent, step, spelled, remains, hnames, hk, hsucc]
    · simp [foldComponent, step, spelled, remains, hnames]

theorem foldl_foldComponent_spelled (w : Walk) (absolute : Bool) (h : ∀ c ∈ cs, c.IsInner) :
    cs.foldl foldComponent (w.spelled absolute).reverse =
      ((cs.foldl step w).spelled absolute).reverse := by
  induction cs generalizing w with
  | nil => rfl
  | cons c cs ih =>
    rw [List.forall_mem_cons] at h
    rw [List.foldl_cons, foldComponent_spelled h.1, ih _ h.2, List.foldl_cons]

/-- All names can be read back. -/
def IsProper (w : Walk) : Prop := ∀ s ∈ w.names, (Component.name s).IsInner

theorem IsProper.step (hw : w.IsProper) (hc : c.IsInner) : (w.step c).IsProper := by
  cases hc with
  | parent =>
    rw [Walk.step]
    split
    · exact hw
    · exact fun s hs => hw s (List.mem_of_mem_dropLast hs)
  | name hne hdot hdots hslash =>
    intro t ht
    rcases List.mem_append.1 ht with ht | ht
    · exact hw t ht
    · obtain rfl := List.mem_singleton.1 ht
      exact .name hne hdot hdots hslash

theorem IsProper.foldl (hw : w.IsProper) (h : ∀ c ∈ cs, c.IsInner) :
    (cs.foldl Walk.step w).IsProper := by
  induction cs generalizing w with
  | nil => exact hw
  | cons c cs ih =>
    rw [List.forall_mem_cons] at h
    exact ih (hw.step h.1) h.2

theorem IsProper.isInner_of_mem_remains (hw : w.IsProper) (hc : c ∈ w.remains) : c.IsInner := by
  rcases List.mem_append.1 hc with hc | hc
  · rw [List.eq_of_mem_replicate hc]
    exact .parent
  · obtain ⟨s, hs, rfl⟩ := List.mem_map.1 hc
    exact hw s hs

theorem foldl_step_parents (k n : Nat) :
    (List.replicate k Component.parent).foldl step ⟨n, []⟩ = ⟨n + k, []⟩ := by
  induction k generalizing n with
  | zero => rfl
  | succ k ih => rw [List.replicate_succ, List.foldl_cons, step, if_pos rfl, ih, Nat.add_right_comm,
      Nat.add_assoc]

theorem foldl_step_names (names : List (List Char)) :
    (names.map Component.name).foldl step w = { w with names := w.names ++ names } := by
  induction names generalizing w with
  | nil => simp
  | cons s names ih => simp [step, ih]

/-- Read again, the normal form has what was left, but for the climbs. -/
theorem foldl_step_remains : w.remains.foldl step {} = { w with climbs := w.climbs % 2 } := by
  rw [remains, List.foldl_append, foldl_step_parents, foldl_step_names]
  simp

end Walk

theorem isProper_walk (path : String) : (walk path).IsProper := by
  have hstart : ({} : Walk).IsProper := fun s hs => absurd hs List.not_mem_nil
  rw [walk_eq]
  exact hstart.foldl fun c hc => isInner_of_mem_inner hc

theorem foldl_foldComponent (path : String) :
    (components path).foldl foldComponent [] =
      ((walk path).spelled (isAbsolute path)).reverse := by
  have key (absolute : Bool) := Walk.foldl_foldComponent_spelled {} absolute
    fun c (hc : c ∈ inner path) => isInner_of_mem_inner hc
  rw [walk_eq]
  rcases components_cases path with ⟨habs, h⟩ | ⟨habs, h | h⟩
  · rw [h, habs]
    exact key true
  · rw [h, habs]
    exact key false
  · rw [h, habs]
    exact key false

theorem normalize_eq (path : String) :
    normalize path =
      String.ofList (ofReversed ((walk path).spelled (isAbsolute path)).reverse) := by
  rw [normalize, foldl_foldComponent]

/-! ### The normal form as it is read -/

theorem ofReversed_reverse (absolute : Bool) (h : ∀ c ∈ cs, c.IsInner) :
    ofReversed (lead absolute ++ cs).reverse =
      ofReversed (lead absolute) ++ Text.join ['/'] (cs.map ofReversed.text) := by
  induction cs using List.reverseRecOn with
  | nil => cases absolute <;> rfl
  | append_singleton cs c ih =>
    have ih := ih fun d hd => h d (List.mem_append_left _ hd)
    -- What is written between the last component and the rest depends on the one before the last.
    rcases List.eq_nil_or_concat cs with rfl | ⟨ds, d, rfl⟩
    · cases absolute <;> simp [ofReversed, ofReversed.text]
    · have hd : d ≠ .root := fun hroot => by
        have hinner := h d (by simp)
        rw [hroot] at hinner
        cases hinner
      rw [List.concat_eq_append] at ih ⊢
      have hmap : (ds ++ [d] ++ [c]).map ofReversed.text =
          (ds ++ [d]).map ofReversed.text ++ [ofReversed.text c] := List.map_append
      calc ofReversed (lead absolute ++ (ds ++ [d] ++ [c])).reverse
          = ofReversed (lead absolute ++ (ds ++ [d])).reverse ++ (['/'] ++ ofReversed.text c) := by
            simp [ofReversed, hd]
        _ = ofReversed (lead absolute) ++
              Text.join ['/'] ((ds ++ [d] ++ [c]).map ofReversed.text) := by
            rw [ih, hmap, join_concat (by simp), List.append_assoc]

/-- The text of components is read as these components. -/
theorem components_ofReversed (absolute : Bool) (h : ∀ c ∈ cs, c.IsInner) :
    components (String.ofList (ofReversed (lead absolute ++ cs).reverse)) =
      lead absolute ++ cs := by
  rw [ofReversed_reverse absolute h, components, String.toList_ofList]
  cases cs with
  | nil => cases absolute <;> rfl
  | cons c cs =>
    have hsegments := segments_join_map_text (List.cons_ne_nil c cs) h
    have hmap := filterMap_ofSegment?_map_text h
    cases absolute with
    | true =>
      have hslash : ofReversed (lead true) = ['/'] := rfl
      rw [hslash, List.singleton_append, segments, if_pos rfl, hsegments]
      dsimp only
      rw [hmap]
      rfl
    | false =>
      have hc := h c List.mem_cons_self
      have hnone : ofReversed (lead false) = [] := rfl
      rw [hnone, List.nil_append, hsegments, List.map_cons]
      rw [List.map_cons, List.filterMap_cons_some hc.ofSegment?_text] at hmap
      dsimp only
      rw [if_neg hc.text_ne_nil, if_neg hc.text_ne_dot, hc.ofSegment?_text]
      exact hmap

/-- **The components of a normal form**: the root of an absolute path, one `..` if the climbs are
odd, and the names that are left. -/
theorem components_normalize (path : String) :
    components (normalize path) = (walk path).spelled (isAbsolute path) := by
  rw [normalize_eq, Walk.spelled, components_ofReversed _ fun c hc =>
    (isProper_walk path).isInner_of_mem_remains hc]

theorem isAbsolute_normalize (path : String) :
    isAbsolute (normalize path) = isAbsolute path := by
  have hroot : Component.root ∉ (walk path).remains := fun h =>
    nomatch (isProper_walk path).isInner_of_mem_remains h
  rw [Bool.eq_iff_iff, isAbsolute_iff_root_mem, components_normalize, Walk.spelled]
  cases isAbsolute path <;> simp [hroot]

theorem walk_normalize (path : String) :
    walk (normalize path) = { walk path with climbs := (walk path).climbs % 2 } := by
  rw [walk, components_normalize, Walk.spelled, ← Walk.foldl_step_remains]
  cases isAbsolute path <;> rfl

theorem normalize_normalize (path : String) : normalize (normalize path) = normalize path := by
  rw [normalize_eq (normalize path), isAbsolute_normalize, walk_normalize, normalize_eq path,
    Walk.spelled, Walk.spelled, Walk.remains, Walk.remains, Nat.mod_mod]

theorem current_not_mem_normalize (path : String) : .current ∉ components (normalize path) := by
  have hcurrent : Component.current ∉ (walk path).remains := fun h =>
    nomatch (isProper_walk path).isInner_of_mem_remains h
  rw [components_normalize, Walk.spelled]
  cases isAbsolute path <;> simp [hcurrent]

theorem parent_not_mem_normalize_iff (path : String) :
    .parent ∉ components (normalize path) ↔ Even (walk path).climbs := by
  have hlead : Component.parent ∉ lead (isAbsolute path) := by cases isAbsolute path <;> simp
  rw [components_normalize, Walk.spelled, Walk.remains, Nat.even_iff]
  simp only [List.mem_append, hlead, false_or, List.mem_replicate, List.mem_map, reduceCtorEq,
    and_false, exists_const, or_false, and_true, ne_eq, Decidable.not_not]

theorem meaning_normalize_iff_climbs (path : String) :
    meaning (normalize path) = meaning path ↔
      isAbsolute path = true ∨ (walk path).climbs ≤ 1 := by
  rw [meaning, meaning, isAbsolute_normalize, walk_normalize]
  cases isAbsolute path with
  | true => simp
  | false =>
    simp only [Bool.false_eq_true, if_false, Meaning.relative.injEq, and_true, false_or]
    omega

/-- **What the normal form of a path keeps.** It starts where the path starts, it has no dots, and
`..` only in front of its names, and its normal form is itself. It means what the path means unless
the path is relative and climbs more than once, and it is free of `..` exactly if the path climbs an
even number of times; at the root that is not sure either. -/
theorem meaning_normalize_iff (path : String) :
    isAbsolute (normalize path) = isAbsolute path ∧
      normalize (normalize path) = normalize path ∧
      .current ∉ components (normalize path) ∧
      components (normalize path) = lead (isAbsolute path) ++
        (List.replicate ((walk path).climbs % 2) .parent ++ (walk path).names.map .name) ∧
      (meaning (normalize path) = meaning path ↔
        isAbsolute path = true ∨ (walk path).climbs ≤ 1) ∧
      (.parent ∉ components (normalize path) ↔ Even (walk path).climbs) :=
  ⟨isAbsolute_normalize path, normalize_normalize path, current_not_mem_normalize path,
    components_normalize path, meaning_normalize_iff_climbs path,
    parent_not_mem_normalize_iff path⟩

/-- The directory above the root is not taken to be the root, and the one two above the start is
taken to be the start. -/
theorem meaning_normalize_climbs :
    isAbsolute "/.." = true ∧ .parent ∈ components (normalize "/..") ∧
      isAbsolute "../.." = false ∧ meaning "../.." = .relative 2 [] ∧
      meaning (normalize "../..") = .relative 0 [] := by
  decide

end ScriptSuite.Path
