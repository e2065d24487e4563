import ScriptSuite.Proofs.Text.Split
import ScriptSuite.TestId

/-!
# Written ids and the tests they address

An id is written by joining its segments and read by splitting a text, so reading is as exact as
splitting is. Not every address survives being written: a file or a class that ends with a colon
lends it to the separator behind, and the cut moves one character to the left. A colon at the front
of a segment does no harm, and neither does one at the end of the method, where nothing follows.

## Main definitions

* `TestId.segments`: the file, the classes and the method
* `TestId.IsAddressable`: the addresses that can be read back

## Main results

* `TestId.parse?_eq_ok_iff`: a text is read as an address exactly if it is the written form of it
  and the address can be read back
-/

namespace ScriptSuite

open Text

namespace TestId

variable {id s : String} {t : TestId}

/-- The parts of a written id. -/
def segments (t : TestId) : List String := t.file :: (t.classes ++ [t.method])

/-- The addresses that can be read back from their written form. -/
structure IsAddressable (t : TestId) : Prop where
  /-- There is a class around the method. -/
  classes_ne_nil : t.classes ≠ []
  /-- No segment is empty. -/
  segment_ne_empty : ∀ s ∈ t.segments, s ≠ ""
  /-- No segment holds the separator. -/
  not_occursIn : ∀ s ∈ t.segments, occursIn idSeparator s = false
  /-- No segment in front of the method ends with a colon. -/
  getLast?_ne_colon : ∀ s ∈ t.file :: t.classes, s.toList.getLast? ≠ some ':'

/-! ### Writing -/

theorem toList_toString (t : TestId) :
    t.toString.toList = join idSeparator.toList (t.segments.map String.toList) := by
  simp [toString, segments, join_cons_eq_append, String.toList_join, List.flatMap_map]

/-! ### Reading -/

/-- An address is made of its segments. -/
theorem mk_eq_iff {file default : String} {inner : List String} (h : inner ≠ []) :
    (mk file inner.dropLast (inner.getLastD default) : TestId) = t ↔
      file :: inner = t.segments := by
  constructor
  · rintro rfl
    rw [segments, List.getLastD_eq_getLast?, List.getLast?_eq_some_getLast h, Option.getD_some,
      List.dropLast_concat_getLast]
  · intro hs
    obtain ⟨rfl, rfl⟩ := List.cons.inj hs
    simp

/-- An address is read off the parts of a text, of which there must be at least three. -/
theorem parse?_eq_ok_iff_segments :
    parse? id = .ok t ↔
      (splitOn idSeparator.toList id.toList).map String.ofList = t.segments ∧
        t.classes ≠ [] ∧ ∀ s ∈ t.segments, s ≠ "" := by
  rw [parse?]
  generalize (splitOn idSeparator.toList id.toList).map String.ofList = parts
  dsimp only
  split
  · rename_i file first second rest
    have hclasses (h : file :: first :: second :: rest = t.segments) : t.classes ≠ [] := by
      intro hnil
      simp [segments, hnil] at h
    split
    · rename_i hempty
      obtain ⟨s, hs, hs'⟩ := List.any_eq_true.1 hempty
      refine ⟨fun h => absurd h (by simp), fun ⟨hparts, _, hne⟩ => ?_⟩
      exact absurd (String.isEmpty_iff.1 hs') (hne s (hparts ▸ hs))
    · rename_i hempty
      rw [Except.ok.injEq, mk_eq_iff (List.cons_ne_nil _ _)]
      refine ⟨fun h => ⟨h, hclasses h, fun s hs hs' => hempty ?_⟩, fun h => h.1⟩
      exact List.any_eq_true.2 ⟨s, h ▸ hs, String.isEmpty_iff.2 hs'⟩
  · rename_i hshort
    refine ⟨fun h => absurd h (by simp), fun ⟨hparts, hclasses, _⟩ => ?_⟩
    obtain ⟨c, cs, hcs⟩ := List.exists_cons_of_ne_nil hclasses
    rw [segments, hcs] at hparts
    cases cs with
    | nil => exact absurd hparts (hshort _ _ _ _)
    | cons d cs => exact absurd hparts (hshort _ _ _ _)

/-! ### Reading what was written -/

/-- The character that a segment must not end with is the one that completes the separator. -/
theorem not_infix_append_dropLast_iff {p : List Char} :
    ¬ idSeparator.toList <:+: p ++ idSeparator.toList.dropLast ↔
      ¬ idSeparator.toList <:+: p ∧ p.getLast? ≠ some ':' := by
  have hsep : idSeparator.toList = [':', ':'] := by decide
  have hsuffix : [':', ':'] <:+ p ++ [':'] ↔ p.getLast? = some ':' := by
    rw [List.getLast?_eq_some_iff]
    constructor
    · rintro ⟨front, h⟩
      have h : (front ++ [':']) ++ [':'] = p ++ [':'] := by simpa using h
      exact ⟨front, (List.append_cancel_right h).symm⟩
    · rintro ⟨front, rfl⟩
      exact ⟨front, by simp⟩
  rw [hsep, List.dropLast_cons_cons, List.dropLast_singleton, List.infix_concat_iff, hsuffix,
    not_or, and_comm]

theorem map_ofList_eq_iff {parts : List (List Char)} {ss : List String} :
    parts.map String.ofList = ss ↔ parts = ss.map String.toList := by
  constructor <;> rintro rfl <;> simp [Function.comp_def]

theorem map_ofList_splitOn_eq_segments_iff :
    (splitOn idSeparator.toList id.toList).map String.ofList = t.segments ↔
      t.toString = id ∧ (∀ s ∈ t.segments, occursIn idSeparator s = false) ∧
        ∀ s ∈ t.file :: t.classes, s.toList.getLast? ≠ some ':' := by
  have hlast : t.segments.map String.toList =
      (t.file :: t.classes).map String.toList ++ [t.method.toList] := by
    simp [segments]
  have hmem : t.segments = (t.file :: t.classes) ++ [t.method] := by simp [segments]
  rw [map_ofList_eq_iff, hlast, splitOn_eq_append_singleton_iff (by decide), ← hlast,
    ← toList_toString, String.toList_inj, List.forall_mem_map, hmem, List.forall_mem_append,
    List.forall_mem_singleton]
  simp only [not_infix_append_dropLast_iff, not_infix_iff_occursIn, forall_and]
  rw [and_right_comm]

/-- **A text is read as an address exactly if it is the written form of the address**, and the
address is one that can be read back. So what is read is written back to the text it was read from,
and every address that is not addressable is lost in writing: its written form is refused, or read
as another address. -/
theorem parse?_eq_ok_iff (id : String) (t : TestId) :
    parse? id = .ok t ↔ t.toString = id ∧ t.IsAddressable := by
  rw [parse?_eq_ok_iff_segments, map_ofList_splitOn_eq_segments_iff]
  constructor
  · rintro ⟨⟨hid, hin, hcolon⟩, hclasses, hne⟩
    exact ⟨hid, hclasses, hne, hin, hcolon⟩
  · rintro ⟨hid, h⟩
    exact ⟨⟨hid, h.not_occursIn, h.getLast?_ne_colon⟩, h.classes_ne_nil, h.segment_ne_empty⟩

example : parse? (toString ⟨"a:", ["B"], "M"⟩) = .ok ⟨"a", [":B"], "M"⟩ := by cbv

end TestId

end ScriptSuite
