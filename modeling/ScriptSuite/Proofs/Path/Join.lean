import ScriptSuite.Proofs.Path
import ScriptSuite.Proofs.Sorted

/-!
# Paths below a directory

The path of a place below a directory has the components of the directory, and behind them the names
on the way from there. So paths below one directory compare as these ways do, name by name.

## Main results

* `Path.components_append`, `Path.components_slash_append`: the components of a text with a slash in
  it
* `Path.components_join_intercalate`: the components of a path below a directory
* `Path.le_join_intercalate`: the order of paths below a directory
-/

namespace ScriptSuite.Path

open Text

variable {dir rel : String} {s t : List Char} {way way' : List String}

/-! ### Segments -/

theorem segments_append (s t : List Char) :
    segments (s ++ '/' :: t) = segments s ++ segments t := by
  induction s with
  | nil => rfl
  | cons c s ih =>
    rw [List.cons_append, segments, segments, ih]
    by_cases hc : c = '/'
    · rw [if_pos hc, if_pos hc, List.cons_append]
    · obtain ⟨p, ps, hps⟩ := List.exists_cons_of_ne_nil (segments_ne_nil s)
      rw [if_neg hc, if_neg hc, hps]
      rfl

theorem inner_append (dir rel : String) : inner (dir ++ "/" ++ rel) = inner dir ++ inner rel := by
  have hlist : (dir ++ "/" ++ rel).toList = dir.toList ++ '/' :: rel.toList := by simp
  rw [inner, hlist, segments_append, List.filterMap_append]
  rfl

/-- **The components of a text with a slash in it**, where something stands in front of the
slash. -/
theorem components_append (hdir : dir ≠ "") :
    components (dir ++ "/" ++ rel) = components dir ++ inner rel := by
  have hlist : (dir ++ "/" ++ rel).toList = dir.toList ++ '/' :: rel.toList := by simp
  obtain ⟨c, s, hs⟩ := List.exists_cons_of_ne_nil (mt String.toList_eq_nil_iff.1 hdir)
  obtain ⟨p, ps, hps⟩ := List.exists_cons_of_ne_nil (segments_ne_nil s)
  rw [components, components, hlist, hs, segments_append, segments, hps, inner]
  by_cases hc : c = '/'
  · have happend : (p :: (ps ++ segments rel.toList)).filterMap Component.ofSegment? =
        (p :: ps).filterMap Component.ofSegment? ++
          (segments rel.toList).filterMap Component.ofSegment? :=
      List.filterMap_append (l := p :: ps)
    simp [hc, happend]
  · simp [hc]

/-- A path that starts with a slash starts at the root. -/
theorem components_slash_append (rel : String) : components ("/" ++ rel) = .root :: inner rel := by
  have habs : isAbsolute ("/" ++ rel) = true := by simp [isAbsolute]
  rcases components_cases ("/" ++ rel) with ⟨-, hcs⟩ | ⟨hnot, -⟩
  · rw [hcs, ← String.empty_append (s := "/"), inner_append]
    rfl
  · exact absurd (habs.symm.trans hnot) Bool.noConfusion

/-- A slash at the end makes no component, except at the root. -/
theorem components_append_slash (dir rel : String) :
    components (dir ++ "/" ++ rel) = components (dir ++ "/") ++ inner rel := by
  by_cases hdir : dir = ""
  · rw [hdir, String.empty_append, components_slash_append]
    rfl
  · have hslash : components (dir ++ "/" ++ "") = components dir ++ inner "" :=
      components_append hdir
    have hnone : inner "" = [] := rfl
    rw [String.append_empty, hnone, List.append_nil] at hslash
    rw [components_append hdir, hslash]

/-! ### The order of components -/

theorem Component.lt_self (c : Component) : c.lt c = false := by
  cases c with
  | name s => exact decide_eq_false (List.lt_irrefl s)
  | root => rfl
  | current => rfl
  | parent => rfl

theorem componentsLe_append_left (cs ds es : List Component) :
    componentsLe (cs ++ ds) (cs ++ es) = componentsLe ds es := by
  induction cs with
  | nil => rfl
  | cons c cs ih =>
    rw [List.cons_append, List.cons_append, componentsLe, Component.lt_self, ih]
    rfl

/-- Names are ordered by their characters, and so are words. -/
theorem componentsLe_map_name (names names' : List String) :
    componentsLe (names.map fun name => .name name.toList)
        (names'.map fun name => .name name.toList) = dictionaryLe names names' := by
  induction names generalizing names' with
  | nil => rfl
  | cons name names ih =>
    cases names' with
    | nil => rfl
    | cons name' names' =>
      have hlt : ∀ s t : String,
          (Component.name s.toList).lt (.name t.toList) = decide (s < t) := by
        intro s t
        exact decide_eq_decide.2 String.lt_iff.symm
      rw [List.map_cons, List.map_cons, componentsLe, dictionaryLe, hlt, hlt, ih]

/-! ### Places below a directory -/

/-- **The components of a path that is seen from a directory.** -/
theorem components_join (hdir : dir ≠ "") (hrel : isAbsolute rel = false) :
    components (join dir rel) = components dir ++ inner rel := by
  rw [join, if_neg (Bool.eq_false_iff.1 hrel)]
  have hempty : dir.isEmpty = false := by simpa using hdir
  rw [hempty, Bool.false_or]
  by_cases hlast : dir.toList.getLast? = some '/'
  · -- The slash is there already, so a slash is cut off on both sides.
    obtain ⟨front, hfront⟩ := List.getLast?_eq_some_iff.1 hlast
    obtain rfl : dir = String.ofList front ++ "/" := by
      rw [← String.toList_inj, hfront]
      simp
    rw [if_pos (decide_eq_true hlast), components_append_slash]
  · rw [if_neg (by simpa using hlast), components_append hdir]

section Names

variable (h : ∀ name ∈ way, (Component.name name.toList).IsInner)

include h

theorem inner_intercalate (hway : way ≠ []) :
    inner ("/".intercalate way) = way.map fun name => .name name.toList := by
  have hcs : ∀ c ∈ way.map fun name => Component.name name.toList, c.IsInner := by
    intro c hc
    obtain ⟨name, hname, rfl⟩ := List.mem_map.1 hc
    exact h name hname
  have htexts : (way.map fun name => Component.name name.toList).map ofReversed.text =
      way.map String.toList := by
    rw [List.map_map]
    rfl
  have hread := filterMap_ofSegment?_map_text hcs
  rw [inner, String.toList_intercalate, ← htexts]
  rw [← segments_join_map_text (by simpa using hway) hcs] at hread
  exact hread

theorem isAbsolute_intercalate (hway : way ≠ []) : isAbsolute ("/".intercalate way) = false := by
  obtain ⟨name, rest, rfl⟩ := List.exists_cons_of_ne_nil hway
  have hhead : ("/".intercalate (name :: rest)).toList.head? = name.toList.head? := by
    cases h name List.mem_cons_self with
    | name hne =>
      obtain ⟨c, s, hs⟩ := List.exists_cons_of_ne_nil hne
      rw [String.toList_intercalate, List.map_cons, hs]
      have htext : "/".toList.intercalate ((c :: s) :: rest.map String.toList) =
          c :: s ++ (rest.map String.toList).flatMap ("/".toList ++ ·) := join_cons_eq_append
      rw [htext]
      rfl
  rw [isAbsolute, hhead, decide_eq_false_iff_not]
  cases h name List.mem_cons_self with
  | name _ _ _ hslash => exact fun hc => hslash (List.mem_of_head? hc)

/-- **The components of a path below a directory.** -/
theorem components_join_intercalate (hdir : dir ≠ "") (hway : way ≠ []) :
    components (join dir ("/".intercalate way)) =
      components dir ++ way.map fun name => .name name.toList := by
  rw [components_join hdir (isAbsolute_intercalate h hway), inner_intercalate h hway]

/-- **The order of paths below a directory** is that of the ways from there. -/
theorem le_join_intercalate (hdir : dir ≠ "") (hway : way ≠ []) (hway' : way' ≠ [])
    (h' : ∀ name ∈ way', (Component.name name.toList).IsInner) :
    le (join dir ("/".intercalate way)) (join dir ("/".intercalate way')) =
      dictionaryLe way way' := by
  rw [le, components_join_intercalate h hdir hway, components_join_intercalate h' hdir hway',
    componentsLe_append_left, componentsLe_map_name]

end Names

end ScriptSuite.Path
