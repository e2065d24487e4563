import ScriptSuite.Proofs.Coverage.Dump
import ScriptSuite.Proofs.Text.Lines

/-!
# Coverage maps put together

A coverage map is known by the files it lists and by the lines that it has as executed. What two
maps put together list and have as executed is what the one or the other does, so it does not matter
in which order, how often and in which groups maps are put together.

A dump may be cut at a line break. Its map is then that of the two parts together, as long as the
second part names the file of each of its records itself: a record in front of all headers of the
second part would belong to the last file of the first one.

## Main definitions

* `DumpReading.RecordsHaveHeaders`: every record has a header above it

## Main results

* `CoverageMap.ext_observed`: when two maps are equal
* `CoverageMap.lists_merge`, `CoverageMap.executes_merge`: what two maps say together
* `CoverageMap.lists_mergeAll`, `CoverageMap.executes_mergeAll`: what many maps say together
* `CoverageMap.mergeAll_congr`: neither order nor repeats matter
* `CoverageMap.ofDump_append`: the map of a dump that is cut in two
* `CoverageMap.merge_semilattice`: the laws of putting maps together
-/

namespace ScriptSuite

open Text

variable {file file' : String} {line : UInt32} {k : Nat} {lines lines' : List (List Char)}

namespace CoverageMap

variable {m n : CoverageMap} {maps maps' : List CoverageMap} {set : SortedSet UInt32}

/-! ### Equal maps -/

/-- **A map is known by what it lists and what it has as executed.** -/
theorem ext_observed (hlists : ∀ file, m.Lists file ↔ n.Lists file)
    (hexecutes : ∀ file line, m.Executes file line ↔ n.Executes file line) : m = n := by
  refine CoverageMap.ext (SortedMap.ext_get? fun file => ?_)
  have hsome := hlists file
  have hlines : (m.lines? file).getD ∅ = (n.lines? file).getD ∅ := SortedSet.ext_mem fun line => by
    rw [mem_getD_lines?_iff, mem_getD_lines?_iff, hexecutes]
  rw [lists_iff_exists, lists_iff_exists] at hsome
  show m.lines? file = n.lines? file
  cases hm : m.lines? file with
  | none =>
    cases hn : n.lines? file with
    | none => rfl
    | some t => exact absurd (hsome.2 ⟨t, hn⟩) (by simp [hm])
  | some s =>
    obtain ⟨t, hn⟩ := hsome.1 ⟨s, hm⟩
    rw [hm, hn] at hlines
    rw [hn, show s = t from hlines]

/-! ### Two maps together -/

theorem lines?_recordAll : (m.recordAll file set).lines? file' =
    if file' = file then some (((m.lines? file).getD ∅).union set) else m.lines? file' :=
  m.files.get?_alter file file' _

theorem lists_recordAll : (m.recordAll file set).Lists file' ↔ file' = file ∨ m.Lists file' := by
  rw [lists_iff_exists, lists_iff_exists, lines?_recordAll]
  by_cases h : file' = file <;> simp [h]

theorem executes_recordAll : (m.recordAll file set).Executes file' line ↔
    (file' = file ∧ line ∈ set) ∨ m.Executes file' line := by
  rw [← mem_getD_lines?_iff, ← mem_getD_lines?_iff, lines?_recordAll]
  by_cases h : file' = file
  · rw [if_pos h, Option.getD_some, SortedSet.mem_union, h, and_iff_right rfl, or_comm]
  · rw [if_neg h, or_iff_right fun hand => h hand.1]

theorem lists_foldl_recordAll {entries : List (String × SortedSet UInt32)} :
    (entries.foldl (fun m (file, lines) => m.recordAll file lines) m).Lists file ↔
      m.Lists file ∨ ∃ e ∈ entries, e.1 = file := by
  induction entries generalizing m with
  | nil => simp
  | cons e entries ih =>
    rw [List.foldl_cons, ih, lists_recordAll, List.exists_mem_cons_iff, or_comm (a := file = e.1),
      or_assoc, eq_comm]

theorem executes_foldl_recordAll {entries : List (String × SortedSet UInt32)} :
    (entries.foldl (fun m (file, lines) => m.recordAll file lines) m).Executes file line ↔
      m.Executes file line ∨ ∃ e ∈ entries, e.1 = file ∧ line ∈ e.2 := by
  induction entries generalizing m with
  | nil => simp
  | cons e entries ih =>
    rw [List.foldl_cons, ih, executes_recordAll, List.exists_mem_cons_iff,
      or_comm (b := m.Executes file line), or_assoc, eq_comm]

/-- **Two maps together list** the files that one of them lists. -/
theorem lists_merge : (m.merge n).Lists file ↔ m.Lists file ∨ n.Lists file := by
  rw [merge, lists_foldl_recordAll, Lists, Lists, SortedMap.keys, SortedMap.keys, List.mem_map,
    List.mem_map]

/-- **Two maps together have** the lines as executed that one of them has. -/
theorem executes_merge :
    (m.merge n).Executes file line ↔ m.Executes file line ∨ n.Executes file line := by
  rw [merge, executes_foldl_recordAll]
  refine or_congr_right ⟨?_, ?_⟩
  · rintro ⟨⟨_, lines⟩, he, rfl, hline⟩
    exact ⟨lines, SortedMap.mem_entries_iff.1 he, hline⟩
  · rintro ⟨lines, he, hline⟩
    exact ⟨(file, lines), SortedMap.mem_entries_iff.2 he, rfl, hline⟩

theorem merge_assoc (a b c : CoverageMap) : (a.merge b).merge c = a.merge (b.merge c) := by
  refine ext_observed (fun file => ?_) fun file line => ?_
  · simp only [lists_merge, or_assoc]
  · simp only [executes_merge, or_assoc]

theorem merge_comm (a b : CoverageMap) : a.merge b = b.merge a := by
  refine ext_observed (fun file => ?_) fun file line => ?_
  · simp only [lists_merge, or_comm]
  · simp only [executes_merge, or_comm]

theorem merge_self (a : CoverageMap) : a.merge a = a := by
  refine ext_observed (fun file => ?_) fun file line => ?_
  · rw [lists_merge, or_self]
  · rw [executes_merge, or_self]

theorem empty_merge (a : CoverageMap) : (∅ : CoverageMap).merge a = a := by
  refine ext_observed (fun file => ?_) fun file line => ?_
  · rw [lists_merge, or_iff_right not_lists_empty]
  · rw [executes_merge, or_iff_right not_executes_empty]

theorem merge_empty (a : CoverageMap) : a.merge ∅ = a := rfl

/-! ### Many maps together -/

theorem lists_foldl_merge :
    (maps.foldl merge m).Lists file ↔ m.Lists file ∨ ∃ n ∈ maps, n.Lists file := by
  induction maps generalizing m with
  | nil => simp
  | cons n maps ih =>
    rw [List.foldl_cons, ih, lists_merge, List.exists_mem_cons_iff, or_assoc]

theorem executes_foldl_merge : (maps.foldl merge m).Executes file line ↔
    m.Executes file line ∨ ∃ n ∈ maps, n.Executes file line := by
  induction maps generalizing m with
  | nil => simp
  | cons n maps ih =>
    rw [List.foldl_cons, ih, executes_merge, List.exists_mem_cons_iff, or_assoc]

theorem lists_mergeAll : (mergeAll maps).Lists file ↔ ∃ m ∈ maps, m.Lists file := by
  rw [mergeAll, lists_foldl_merge, or_iff_right not_lists_empty]

theorem executes_mergeAll :
    (mergeAll maps).Executes file line ↔ ∃ m ∈ maps, m.Executes file line := by
  rw [mergeAll, executes_foldl_merge, or_iff_right not_executes_empty]

/-- **Neither the order of the maps nor repeats matter.** -/
theorem mergeAll_congr (h : ∀ m, m ∈ maps ↔ m ∈ maps') : mergeAll maps = mergeAll maps' := by
  refine ext_observed (fun file => ?_) fun file line => ?_
  · simp only [lists_mergeAll, h]
  · simp only [executes_mergeAll, h]

end CoverageMap

/-! ### Dumps that are cut in two -/

open DumpLine

/-- A header behind some lines makes the headers in front of these lines immaterial. -/
theorem lastHeader_append (h : ∃ l ∈ lines', ∃ file, IsHeader file l) :
    LastHeader file (lines ++ lines') ↔ LastHeader file lines' := by
  induction lines' using List.reverseRecOn with
  | nil =>
    obtain ⟨l, hl, -⟩ := h
    exact absurd hl List.not_mem_nil
  | append_singleton lines' l ih =>
    rw [← List.append_assoc]
    by_cases hl : ∃ file, IsHeader file l
    · obtain ⟨file', hl⟩ := hl
      rw [lastHeader_concat_of_isHeader hl, lastHeader_concat_of_isHeader hl]
    · rw [DumpReading.exists_mem_concat_iff, or_iff_right hl] at h
      rw [not_exists] at hl
      rw [lastHeader_concat_of_not hl, lastHeader_concat_of_not hl, ih h]

namespace DumpReading

/-- Every record among the lines has a header above it. -/
def RecordsHaveHeaders (lines : List (List Char)) : Prop :=
  ∀ above line below, lines = above ++ line :: below → ∀ number, IsRecord number line →
    ∃ l ∈ above, ∃ file, IsHeader file l

theorem RecordsHaveHeaders.of_concat {l : List Char} (h : RecordsHaveHeaders (lines ++ [l])) :
    RecordsHaveHeaders lines := by
  rintro above line below rfl
  exact h above line (below ++ [l]) (by simp)

/-- Lines that begin with a header have it above all records. -/
theorem recordsHaveHeaders_cons {l : List Char} (h : IsHeader file l) :
    RecordsHaveHeaders (l :: lines) := by
  intro above line below heq number hrecord
  cases above with
  | nil =>
    obtain rfl := (List.cons.inj heq).1
    exact absurd hrecord h.not_isRecord
  | cons l' above =>
    obtain rfl := (List.cons.inj heq).1
    exact ⟨l, List.mem_cons_self, file, h⟩

theorem recorded_append (h : RecordsHaveHeaders lines') :
    Recorded file k (lines ++ lines') ↔ Recorded file k lines ∨ Recorded file k lines' := by
  induction lines' using List.reverseRecOn with
  | nil => rw [List.append_nil, or_iff_left not_recorded_nil]
  | append_singleton lines' l ih =>
    have hlast : IsRecord (k + 1) l ∧ LastHeader file (lines ++ lines') ↔
        IsRecord (k + 1) l ∧ LastHeader file lines' :=
      and_congr_right fun hl => lastHeader_append (h lines' l [] rfl _ hl)
    rw [← List.append_assoc, recorded_concat, recorded_concat, ih h.of_concat, hlast,
      or_left_comm]

/-- **Lines that are cut in two** are read one part at a time. -/
theorem map_foldl_append (h : RecordsHaveHeaders lines') :
    (((lines ++ lines').map ofText).foldl step {}).map =
      ((lines.map ofText).foldl step {}).map.merge ((lines'.map ofText).foldl step {}).map := by
  have hall := tells_foldl (lines ++ lines')
  have hfront := tells_foldl lines
  have hbehind := tells_foldl lines'
  refine CoverageMap.ext_observed (fun file => ?_) fun file line => ?_
  · rw [CoverageMap.lists_merge, hall.lists, hfront.lists, hbehind.lists]
    simp only [List.mem_append, or_and_right, exists_or]
  · rw [CoverageMap.executes_merge, hall.executes, hfront.executes, hbehind.executes,
      recorded_append h]

end DumpReading

namespace CoverageMap

/-- The lines of a dump that is cut in two. If a line break stands in front of the cut, the empty
line between the two is one more line. -/
theorem dumpLines_append (s t : List Char) :
    dumpLines (s ++ '\n' :: t) = dumpLines s ++ dumpLines t ∨
      dumpLines (s ++ '\n' :: t) = dumpLines s ++ [[]] ++ dumpLines t := by
  have hcut : dumpLines (s ++ '\n' :: t) = (pieces s).map trim ++ dumpLines t := by
    rw [dumpLines, map_trim_lines_append, dumpLines]
  rw [hcut]
  exact (map_trim_pieces_cases s).imp (congrArg (· ++ dumpLines t))
    (congrArg (· ++ dumpLines t))

theorem ofDump_eq (dump : List Char) :
    ofDump dump = (((dumpLines dump).map ofText).foldl DumpReading.step {}).map := by
  rw [dumpLines, List.map_map]
  rfl

/-- **The map of a dump that is cut in two** at a line break, where the second part names the files
of its records. -/
theorem ofDump_append {s t : List Char} (h : DumpReading.RecordsHaveHeaders (dumpLines t)) :
    ofDump (s ++ '\n' :: t) = (ofDump s).merge (ofDump t) := by
  rw [ofDump_eq, ofDump_eq s, ofDump_eq t]
  rcases dumpLines_append s t with hlines | hlines
  · rw [hlines, DumpReading.map_foldl_append h]
  · -- An empty line changes nothing.
    have hempty : ((dumpLines s ++ [[]]).map ofText).foldl DumpReading.step {} =
        ((dumpLines s).map ofText).foldl DumpReading.step {} := by
      rw [List.map_append, List.foldl_append]
      rfl
    rw [hlines, DumpReading.map_foldl_append h, hempty]

/-- **Putting maps together** obeys the laws of a semilattice with the empty map as its least
element. It adds up what the maps list and have as executed, so many maps give the same in any order
and with any repeats, and so do the two parts of a dump if the second one names its files itself. -/
theorem merge_semilattice (a b c : CoverageMap) (file : String) (line : UInt32)
    (maps maps' : List CoverageMap) (s t : List Char) :
    (a.merge b).merge c = a.merge (b.merge c) ∧ a.merge b = b.merge a ∧ a.merge a = a ∧
      (∅ : CoverageMap).merge a = a ∧ a.merge ∅ = a ∧
      ((a.merge b).Executes file line ↔ a.Executes file line ∨ b.Executes file line) ∧
      ((a.merge b).Lists file ↔ a.Lists file ∨ b.Lists file) ∧
      ((∀ m, m ∈ maps ↔ m ∈ maps') → mergeAll maps = mergeAll maps') ∧
      (DumpReading.RecordsHaveHeaders (dumpLines t) →
        ofDump (s ++ '\n' :: t) = (ofDump s).merge (ofDump t)) :=
  ⟨merge_assoc a b c, merge_comm a b, merge_self a, empty_merge a, merge_empty a, executes_merge,
    lists_merge, mergeAll_congr, ofDump_append⟩

/-- The second part of a dump. It lists a file without any line, and goes back to a file that may
stand in the first part. -/
def secondPart : List Char := "---- b.ahk\n---- a.ahk\n002: y".toList

theorem merge_semilattice_secondPart :
    DumpReading.RecordsHaveHeaders (dumpLines secondPart) ∧
      ofDump ("---- a.ahk\n001: x".toList ++ '\n' :: secondPart) =
        (ofDump "---- a.ahk\n001: x".toList).merge (ofDump secondPart) ∧
      (∀ m, m ∈ [ofDump secondPart, ∅] ↔ m ∈ [∅, ofDump secondPart, ∅]) ∧
      mergeAll [ofDump secondPart, ∅] = mergeAll [∅, ofDump secondPart, ∅] := by
  have hlines : dumpLines secondPart =
      ["---- b.ahk".toList, "---- a.ahk".toList, "002: y".toList] := by decide
  have hheader : IsHeader "b.ahk" "---- b.ahk".toList := by
    rw [IsHeader]
    decide
  have hheaders : DumpReading.RecordsHaveHeaders (dumpLines secondPart) := by
    rw [hlines]
    exact DumpReading.recordsHaveHeaders_cons hheader
  have hmem (m : CoverageMap) : m ∈ [ofDump secondPart, ∅] ↔ m ∈ [∅, ofDump secondPart, ∅] := by
    simp [or_comm]
  have hlaws := merge_semilattice ∅ ∅ ∅ "" 0 [ofDump secondPart, ∅] [∅, ofDump secondPart, ∅]
    "---- a.ahk\n001: x".toList secondPart
  obtain ⟨-, -, -, -, -, -, -, hmaps, hparts⟩ := hlaws
  exact ⟨hheaders, hparts hheaders, hmem, hmaps hmem⟩

end CoverageMap

end ScriptSuite
