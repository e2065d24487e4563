import Mathlib.Data.List.Induction
import ScriptSuite.Coverage.Dump
import ScriptSuite.Coverage.Map
import ScriptSuite.Proofs.Sorted
import ScriptSuite.Proofs.Text.Decimal
import ScriptSuite.Proofs.Text.Word

/-!
# What a coverage dump says

A coverage map is observed in two ways: which files it lists, and which lines of a file it has as
executed. Listing a file adds the file and no line; recording a line adds both.

A dump is read from top to bottom, and the reading knows no more than the map so far and the file of
the last header. So a record counts for the file that the closest header above it names, however
many notes, blank lines and broken records stand between the two, and whether or not the file had a
header further above.

## Main definitions

* `CoverageMap.Lists`, `CoverageMap.Executes`: the two observations
* `DumpLine.IsHeader`, `DumpLine.IsRecord`: what headers and records look like
* `CoverageMap.dumpLines`: the lines of a dump, without the blanks at their ends
* `LastHeader`, `Recorded`: the file of the last header, and the lines that records tell of a file

## Main results

* `CoverageMap.lists_touch`, `CoverageMap.executes_touch`: what listing a file changes
* `CoverageMap.lists_record`, `CoverageMap.executes_record`: what recording a line changes
* `DumpLine.ofText_eq_header_iff`, `DumpLine.ofText_eq_record_iff`: what is read of one line
* `DumpReading.Tells.step`: what one more line adds
* `CoverageMap.ofDump_iff`: the map of a dump
-/

namespace ScriptSuite

namespace CoverageMap

variable {m : CoverageMap} {file file' : String} {line line' : UInt32}

/-- The map lists the file. -/
def Lists (m : CoverageMap) (file : String) : Prop := file ∈ m.files.keys

/-- The map has the line of the file as executed. -/
def Executes (m : CoverageMap) (file : String) (line : UInt32) : Prop :=
  ∃ lines, m.lines? file = some lines ∧ line ∈ lines

theorem not_lists_empty : ¬ (∅ : CoverageMap).Lists file := List.not_mem_nil

theorem not_executes_empty : ¬ (∅ : CoverageMap).Executes file line := by
  rintro ⟨lines, hlines, -⟩
  exact absurd hlines (by simp [lines?, SortedMap.get?, EmptyCollection.emptyCollection,
    SortedMap.lookup])

theorem lists_iff_exists : m.Lists file ↔ ∃ lines, m.lines? file = some lines := by
  rw [Lists, SortedMap.mem_keys_iff, Option.isSome_iff_exists, lines?]

theorem lines?_touch : (m.touch file).lines? file' =
    if file' = file then some ((m.lines? file).getD ∅) else m.lines? file' :=
  m.files.get?_alter file file' _

theorem lines?_record : (m.record file line).lines? file' =
    if file' = file then some (((m.lines? file).getD ∅).insert line) else m.lines? file' :=
  m.files.get?_alter file file' _

theorem lists_touch : (m.touch file).Lists file' ↔ file' = file ∨ m.Lists file' := by
  rw [lists_iff_exists, lists_iff_exists, lines?_touch]
  by_cases h : file' = file <;> simp [h]

theorem lists_record : (m.record file line).Lists file' ↔ file' = file ∨ m.Lists file' := by
  rw [lists_iff_exists, lists_iff_exists, lines?_record]
  by_cases h : file' = file <;> simp [h]

/-- A line is among the lines of a file, or of no lines if the file is not listed. -/
theorem mem_getD_lines?_iff : line ∈ (m.lines? file).getD ∅ ↔ m.Executes file line := by
  rw [Executes]
  cases m.lines? file with
  | none => simp
  | some lines => simp

/-- **Listing a file** adds no line. -/
theorem executes_touch : (m.touch file).Executes file' line ↔ m.Executes file' line := by
  rw [← mem_getD_lines?_iff, ← mem_getD_lines?_iff, lines?_touch]
  by_cases h : file' = file
  · rw [if_pos h, Option.getD_some, h]
  · rw [if_neg h]

/-- **Recording a line** adds this line of this file. -/
theorem executes_record : (m.record file line).Executes file' line' ↔
    (file' = file ∧ line' = line) ∨ m.Executes file' line' := by
  rw [← mem_getD_lines?_iff, ← mem_getD_lines?_iff, lines?_record]
  by_cases h : file' = file
  · rw [if_pos h, Option.getD_some, SortedSet.mem_insert, h, and_iff_right rfl]
  · rw [if_neg h, or_iff_right fun hand => h hand.1]

end CoverageMap

end ScriptSuite

namespace ScriptSuite

open Text

variable {line l : List Char} {lines : List (List Char)} {file file' : String} {number k : Nat}

/-! ### Lines -/

namespace DumpLine

/-- The line is the header of a file. -/
def IsHeader (file : String) (line : List Char) : Prop := line = headerMark ++ file.toList

/-- The line is the record of a number: ASCII digits that denote it, a colon, a space, and any
text. -/
def IsRecord (number : Nat) (line : List Char) : Prop :=
  ∃ digits code, digits ≠ [] ∧ (∀ c ∈ digits, c.isDigit = true) ∧
    Nat.ofDigitChars 10 digits 0 = number ∧ line = digits ++ ':' :: ' ' :: code

theorem IsHeader.head? (h : IsHeader file line) : line.head? = some '-' := by
  rw [h, headerMark]
  rfl

theorem IsHeader.eq (h : IsHeader file line) (h' : IsHeader file' line) : file = file' :=
  String.toList_inj.1 (List.append_cancel_left (h.symm.trans h'))

theorem IsRecord.exists_head? (h : IsRecord number line) :
    ∃ c, line.head? = some c ∧ c.isDigit = true := by
  obtain ⟨digits, code, hne, hdigits, -, rfl⟩ := h
  obtain ⟨c, digits, rfl⟩ := List.exists_cons_of_ne_nil hne
  exact ⟨c, rfl, hdigits c List.mem_cons_self⟩

theorem takeWhile_isDigit_append {digits code : List Char} (h : ∀ c ∈ digits, c.isDigit = true) :
    (digits ++ ':' :: code).takeWhile Char.isDigit = digits := by
  rw [List.takeWhile_append_of_pos h, List.takeWhile_cons_of_neg (by decide), List.append_nil]

theorem IsRecord.eq (h : IsRecord number line) (h' : IsRecord k line) : number = k := by
  obtain ⟨digits, code, -, hdigits, rfl, rfl⟩ := h
  obtain ⟨digits', code', -, hdigits', rfl, hline⟩ := h'
  rw [← takeWhile_isDigit_append hdigits, hline, takeWhile_isDigit_append hdigits']

/-- **No line is both**, a header and a record. -/
theorem IsHeader.not_isRecord (h : IsHeader file line) : ¬ IsRecord number line := by
  intro hrecord
  obtain ⟨c, hc, hdigit⟩ := hrecord.exists_head?
  rw [h.head?] at hc
  obtain rfl := Option.some.inj hc
  exact absurd hdigit (by decide)

theorem isHeader_iff_isPrefixOf :
    (∃ file, IsHeader file line) ↔ headerMark.isPrefixOf line = true := by
  rw [List.isPrefixOf_iff_prefix]
  constructor
  · rintro ⟨file, rfl⟩
    exact List.prefix_append _ _
  · rintro ⟨name, rfl⟩
    exact ⟨String.ofList name, by rw [IsHeader, String.toList_ofList]⟩

/-- The number of a record is read, unless a 64-bit word cannot hold it. -/
theorem number?_eq_some_iff :
    number? line = some number ↔ IsRecord number line ∧ number < UInt64.size := by
  rw [number?]
  constructor
  · intro h
    split at h
    · next code hrest =>
      obtain ⟨hne, hdigits, hvalue, hlt⟩ := decimalBelow?_eq_some_iff.1 h
      refine ⟨⟨_, code, hne, hdigits, hvalue, ?_⟩, hlt⟩
      rw [← hrest, List.takeWhile_append_dropWhile]
    · exact absurd h (by simp)
  · rintro ⟨⟨digits, code, hne, hdigits, hvalue, rfl⟩, hlt⟩
    have hdecimal : ∀ c ∈ digits, isDecimal c = true := fun c hc =>
      isDecimal_of_isDigit (hdigits c hc)
    have hcolon : ¬ isDecimal ':' = true := by decide
    rw [List.dropWhile_append_of_pos hdecimal, List.takeWhile_append_of_pos hdecimal,
      List.dropWhile_cons_of_neg hcolon, List.takeWhile_cons_of_neg hcolon, List.append_nil]
    exact decimalBelow?_eq_some_iff.2 ⟨hne, hdigits, hvalue, hlt⟩

/-- **Which lines are read as headers.** -/
theorem ofText_eq_header_iff : ofText line = .header file ↔ IsHeader file line := by
  constructor
  · intro h
    rw [ofText] at h
    split at h
    · exact absurd h (by simp)
    · split at h
      · next hmark =>
        obtain ⟨name, rfl⟩ := List.isPrefixOf_iff_prefix.1 hmark
        rw [List.drop_left] at h
        rw [IsHeader, ← DumpLine.header.inj h, String.toList_ofList]
      · split at h <;> exact absurd h (by simp)
  · intro h
    have hnote : ¬ line.head? = some '>' := by simp [h.head?]
    rw [ofText, if_neg hnote, if_pos (isHeader_iff_isPrefixOf.1 ⟨file, h⟩), h, List.drop_left,
      String.ofList_toList]

/-- **Which lines are read as records.** -/
theorem ofText_eq_record_iff :
    ofText line = .record number ↔ IsRecord number line ∧ number < UInt64.size := by
  rw [← number?_eq_some_iff]
  constructor
  · intro h
    rw [ofText] at h
    split at h
    · exact absurd h (by simp)
    · split at h
      · exact absurd h (by simp)
      · split at h
        · next hnumber => rw [hnumber, DumpLine.record.inj h]
        · exact absurd h (by simp)
  · intro h
    have hrecord : IsRecord number line := (number?_eq_some_iff.1 h).1
    obtain ⟨c, hc, hdigit⟩ := hrecord.exists_head?
    have hnote : ¬ line.head? = some '>' := by
      rw [hc]
      rintro ⟨⟩
      exact absurd hdigit (by decide)
    have hmark : ¬ headerMark.isPrefixOf line = true := fun hprefix => by
      obtain ⟨file, hheader⟩ := isHeader_iff_isPrefixOf.2 hprefix
      exact hheader.not_isRecord hrecord
    rw [ofText, if_neg hnote, if_neg hmark, h]

end DumpLine

open DumpLine

/-! ### Headers above records -/

/-- The last header among the lines names the file. -/
def LastHeader (file : String) (lines : List (List Char)) : Prop :=
  ∃ above line below, lines = above ++ line :: below ∧ IsHeader file line ∧
    ∀ l ∈ below, ∀ file, ¬ IsHeader file l

/-- Among the lines there is a record of line `n` of the file, counted from zero: the record has the
number `n + 1`, and the last header above it names the file. -/
def Recorded (file : String) (n : Nat) (lines : List (List Char)) : Prop :=
  ∃ above line below, lines = above ++ line :: below ∧ IsRecord (n + 1) line ∧
    LastHeader file above

/-- Where an element of a list may stand if the last one is given. -/
theorem concat_eq_append_cons {α : Type} {xs above below : List α} {x y : α}
    (h : xs ++ [x] = above ++ y :: below) : (above = xs ∧ y = x ∧ below = []) ∨
      ∃ below', below = below' ++ [x] ∧ xs = above ++ y :: below' := by
  rcases List.append_eq_append_iff.1 h with ⟨gap, rfl, hx⟩ | ⟨gap, rfl, hy⟩
  · obtain ⟨rfl, hcons⟩ | ⟨-, hnil⟩ := List.singleton_eq_append_iff.1 hx
    · obtain ⟨rfl, rfl⟩ := List.cons.inj hcons
      exact Or.inl ⟨List.append_nil xs, rfl, rfl⟩
    · exact absurd hnil (List.cons_ne_nil y below)
  · cases gap with
    | nil =>
      obtain ⟨rfl, rfl⟩ := List.cons.inj hy
      exact Or.inl ⟨(List.append_nil above).symm, rfl, rfl⟩
    | cons z gap =>
      obtain ⟨rfl, rfl⟩ := List.cons.inj hy
      exact Or.inr ⟨gap, rfl, rfl⟩

theorem not_lastHeader_nil : ¬ LastHeader file [] := by
  rintro ⟨above, line, below, h, -⟩
  exact absurd h (by simp)

theorem not_recorded_nil : ¬ Recorded file k [] := by
  rintro ⟨above, line, below, h, -⟩
  exact absurd h (by simp)

theorem lastHeader_concat_of_isHeader (h : IsHeader file' l) :
    LastHeader file (lines ++ [l]) ↔ file = file' := by
  constructor
  · rintro ⟨above, line, below, hlines, hheader, hbelow⟩
    rcases concat_eq_append_cons hlines with ⟨-, rfl, -⟩ | ⟨below', rfl, -⟩
    · exact hheader.eq h
    · exact absurd h (hbelow l (List.mem_append_right _ List.mem_cons_self) file')
  · rintro rfl
    exact ⟨lines, l, [], rfl, h, fun _ hl => absurd hl List.not_mem_nil⟩

theorem lastHeader_concat_of_not (h : ∀ file, ¬ IsHeader file l) :
    LastHeader file (lines ++ [l]) ↔ LastHeader file lines := by
  constructor
  · rintro ⟨above, line, below, hlines, hheader, hbelow⟩
    rcases concat_eq_append_cons hlines with ⟨-, rfl, -⟩ | ⟨below', rfl, rfl⟩
    · exact absurd hheader (h file)
    · exact ⟨above, line, below', rfl, hheader, fun l hl => hbelow l (List.mem_append_left _ hl)⟩
  · rintro ⟨above, line, below, rfl, hheader, hbelow⟩
    refine ⟨above, line, below ++ [l], by simp, hheader, ?_⟩
    exact List.forall_mem_append.2 ⟨hbelow, List.forall_mem_singleton.2 h⟩

theorem recorded_concat : Recorded file k (lines ++ [l]) ↔
    (IsRecord (k + 1) l ∧ LastHeader file lines) ∨ Recorded file k lines := by
  constructor
  · rintro ⟨above, line, below, hlines, hrecord, hlast⟩
    rcases concat_eq_append_cons hlines with ⟨rfl, rfl, -⟩ | ⟨below', rfl, rfl⟩
    · exact Or.inl ⟨hrecord, hlast⟩
    · exact Or.inr ⟨above, line, below', rfl, hrecord, hlast⟩
  · rintro (⟨hrecord, hlast⟩ | ⟨above, line, below, rfl, hrecord, hlast⟩)
    · exact ⟨lines, l, [], rfl, hrecord, hlast⟩
    · exact ⟨above, line, below ++ [l], by simp, hrecord, hlast⟩

/-! ### Readings -/

namespace DumpReading

/-- The reading says what the lines say that were read. -/
structure Tells (r : DumpReading) (lines : List (List Char)) : Prop where
  /-- It knows the file of the last header. -/
  last (file : String) : r.file? = some file ↔ LastHeader file lines
  /-- It has listed the files that have a header. -/
  lists (file : String) : r.map.Lists file ↔ ∃ line ∈ lines, IsHeader file line
  /-- It has the lines that were recorded. -/
  executes (file : String) (n : UInt32) :
    r.map.Executes file n ↔ Recorded file n.toNat lines

variable {r : DumpReading}

theorem tells_nil : Tells {} [] where
  last _ := ⟨fun h => absurd h (by simp), fun h => absurd h not_lastHeader_nil⟩
  lists _ := ⟨fun h => absurd h CoverageMap.not_lists_empty, fun ⟨_, h, _⟩ => absurd h (by simp)⟩
  executes _ _ := ⟨fun h => absurd h CoverageMap.not_executes_empty,
    fun h => absurd h not_recorded_nil⟩

theorem exists_mem_concat_iff (P : List Char → Prop) :
    (∃ line ∈ lines ++ [l], P line) ↔ P l ∨ ∃ line ∈ lines, P line := by
  simp only [List.mem_append, List.mem_singleton, or_and_right, exists_or, exists_eq_left]
  exact or_comm

/-- A header makes its file the one that records belong to. -/
theorem Tells.header (h : r.Tells lines) (hl : IsHeader file' l) :
    (r.step (.header file')).Tells (lines ++ [l]) where
  last file := by
    rw [lastHeader_concat_of_isHeader hl, step, Option.some_inj, eq_comm]
  lists file := by
    have heq : IsHeader file l ↔ file = file' := ⟨fun h' => h'.eq hl, fun heq => heq ▸ hl⟩
    rw [exists_mem_concat_iff, heq, ← h.lists]
    exact CoverageMap.lists_touch
  executes file n := by
    rw [recorded_concat, or_iff_right fun hand => hl.not_isRecord hand.1, ← h.executes]
    exact CoverageMap.executes_touch

/-- A line that is neither a header nor the record of a line of a known file changes nothing. -/
theorem Tells.pass (h : r.Tells lines) (hl : ∀ file, ¬ IsHeader file l)
    (hrecord : ∀ file, ∀ n : UInt32, IsRecord (n.toNat + 1) l → ¬ LastHeader file lines) :
    r.Tells (lines ++ [l]) where
  last file := by rw [lastHeader_concat_of_not hl, h.last]
  lists file := by rw [exists_mem_concat_iff, or_iff_right (hl file), h.lists]
  executes file n := by
    rw [recorded_concat, or_iff_right fun hand => hrecord file n hand.1 hand.2, h.executes]

/-- A record adds a line to the file of the last header. -/
theorem Tells.record (h : r.Tells lines) (hl : IsRecord (k + 1) l) (hk : k < UInt32.size)
    (hfile : r.file? = some file') :
    Tells { r with map := r.map.record file' (.ofNat k) } (lines ++ [l]) := by
  have hheader : ∀ file, ¬ IsHeader file l := fun _ hheader => hheader.not_isRecord hl
  have hlast : LastHeader file' lines := (h.last file').1 hfile
  refine ⟨fun file => ?_, fun file => ?_, fun file n => ?_⟩
  · rw [lastHeader_concat_of_not hheader, ← h.last]
  · -- The file has a header already, so the record lists no new one.
    have hlisted : r.map.Lists file' := by
      obtain ⟨above, line, below, rfl, hline, -⟩ := hlast
      exact (h.lists file').2 ⟨line, by simp, hline⟩
    rw [exists_mem_concat_iff, or_iff_right (hheader file), ← h.lists, CoverageMap.lists_record,
      or_iff_right_iff_imp]
    rintro rfl
    exact hlisted
  · have hthis : IsRecord (n.toNat + 1) l ∧ LastHeader file lines ↔
        file = file' ∧ n = UInt32.ofNat k := by
      rw [← h.last, hfile, Option.some_inj, eq_comm (a := file'), and_comm]
      refine and_congr_right fun _ => ⟨fun hn => ?_, ?_⟩
      · rw [← Nat.succ_inj.1 (hn.eq hl), UInt32.ofNat_toNat]
      · rintro rfl
        rwa [UInt32.toNat_ofNat_of_lt' hk]
    rw [recorded_concat, hthis, ← h.executes]
    exact CoverageMap.executes_record

/-- **What one more line adds.** -/
theorem Tells.step (h : r.Tells lines) (l : List Char) :
    (r.step (ofText l)).Tells (lines ++ [l]) := by
  have hheader (hother : ∀ file, ofText l ≠ .header file) : ∀ file, ¬ IsHeader file l :=
    fun file hl => hother file (ofText_eq_header_iff.2 hl)
  -- The numbers of lines that fit a 32-bit word are read.
  have hrecord (n : UInt32) (hl : IsRecord (n.toNat + 1) l) : ofText l = .record (n.toNat + 1) :=
    ofText_eq_record_iff.2 ⟨hl, Nat.lt_of_le_of_lt (Nat.succ_le_of_lt n.toNat_lt) (by decide)⟩
  cases htext : ofText l with
  | header file => exact h.header (ofText_eq_header_iff.1 htext)
  | note =>
    refine h.pass (hheader (by simp [htext])) fun _ n hl => ?_
    exact absurd ((hrecord n hl).symm.trans htext) (by simp)
  | other =>
    refine h.pass (hheader (by simp [htext])) fun _ n hl => ?_
    exact absurd ((hrecord n hl).symm.trans htext) (by simp)
  | record number =>
    have hl := (ofText_eq_record_iff.1 htext).1
    cases number with
    | zero =>
      refine h.pass (hheader (by simp [htext])) fun _ n hn => ?_
      exact absurd (hn.eq hl) (Nat.succ_ne_zero _)
    | succ k =>
      cases hfile : r.file? with
      | none =>
        have hstep : r.step (.record (k + 1)) = r := by simp only [DumpReading.step, hfile]
        rw [hstep]
        refine h.pass (hheader (by simp [htext])) fun file _ _ hlast => ?_
        exact absurd ((h.last file).2 hlast) (by simp [hfile])
      | some file =>
        by_cases hk : k < UInt32.size
        · have hstep : r.step (.record (k + 1)) =
              { r with map := r.map.record file (.ofNat k) } := by
            simp only [DumpReading.step, hfile, if_pos hk]
          rw [hstep]
          exact h.record hl hk hfile
        · have hstep : r.step (.record (k + 1)) = r := by
            simp only [DumpReading.step, hfile, if_neg hk]
          rw [hstep]
          refine h.pass (hheader (by simp [htext])) fun _ n hn => ?_
          rw [← Nat.succ_inj.1 (hn.eq hl)] at hk
          exact absurd n.toNat_lt hk

/-- **What a whole reading tells.** -/
theorem tells_foldl (lines : List (List Char)) :
    Tells ((lines.map ofText).foldl DumpReading.step {}) lines := by
  induction lines using List.reverseRecOn with
  | nil => exact tells_nil
  | append_singleton lines l ih =>
    rw [List.map_append, List.foldl_append]
    exact ih.step l

end DumpReading

/-! ### Dumps -/

namespace CoverageMap

/-- The lines of a dump, without the blanks at their ends. -/
def dumpLines (dump : List Char) : List (List Char) := (Text.lines dump).map trim

/-- **The map of a dump.** It lists the files that have a header in the dump. A line of a file is
executed exactly if there is a record of it whose closest header above names the file. Nothing else
counts: a line is no header and no record if it starts with `>`, and it is never both. -/
theorem ofDump_iff (dump : List Char) (file : String) (n : UInt32) :
    ((ofDump dump).Lists file ↔ ∃ line ∈ dumpLines dump, IsHeader file line) ∧
      ((ofDump dump).Executes file n ↔ Recorded file n.toNat (dumpLines dump)) ∧
      ∀ line : List Char, (∀ file number, IsHeader file line → ¬ IsRecord number line) ∧
        (line.head? = some '>' → (∀ file, ¬ IsHeader file line) ∧
          ∀ number, ¬ IsRecord number line) := by
  have htells := DumpReading.tells_foldl (dumpLines dump)
  rw [dumpLines, List.map_map] at htells
  refine ⟨htells.lists file, htells.executes file n, fun line => ⟨fun _ _ => ?_, fun hnote => ?_⟩⟩
  · exact IsHeader.not_isRecord
  · refine ⟨fun _ hheader => ?_, fun _ hrecord => ?_⟩
    · exact absurd (hheader.head?.symm.trans hnote) (by decide)
    · obtain ⟨c, hc, hdigit⟩ := hrecord.exists_head?
      obtain rfl := Option.some.inj (hc.symm.trans hnote)
      exact absurd hdigit (by decide)

end CoverageMap

end ScriptSuite
