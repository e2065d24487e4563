import Mathlib.Algebra.Field.Rat
import Mathlib.Algebra.Order.Field.Basic
import Mathlib.Algebra.Order.Ring.Rat
import ScriptSuite.Coverage.Dump
import ScriptSuite.Coverage.Report

/-!
# What a coverage report counts

Lines that can be executed are counted in one pass, which remembers for each line whether it lies in
a block comment. Here the comments are cut out of the lines first, one comment at a time, and what
is left is counted. A comment is closed on the first line that ends with the closing mark; by the
usual rule that may be the line that opens it, but the count only looks for it further down. So a
comment on a single line hides what follows, up to the end of the next comment.

The share of a file is the number of its executed lines over that of its executable lines, or zero
if it has no executable line. The share of a report is the same of the sums, and the sums do not
pass over the files without executable lines: what was executed in them counts, though it has no
part in the share of any file. So the share of a report may be above one if that of no file is.

## Main definitions

* `behindComment`: the lines behind a comment that is open
* `outsideComments`: the lines outside of comments, by the one rule and by the other
* `behindWholeComment?`: the lines behind the first comment that is opened and closed on one line
* `coverageShare`: the share as an exact number
* `FileCoverage.stray`: executed lines that have no part in the share of their file
* `FileCoverage.idle`: executable lines that were not executed

## Main results

* `executableLineCount_eq_countP`: which lines are counted, and when the usual rule has as many
* `coverageShare_le_one_iff`: when a share is at most one
* `FileCoverage.sum_linesCovered_add_idle`: executed and executable lines of several files
* `CoverageLedger.share_report_le_one_iff`: when the share of a report is at most one
-/

namespace ScriptSuite

open Text

variable {line : List Char} {rest lines : List (List Char)} {sameLine : Bool} {covered total : Nat}
  {f : FileCoverage} {files : List FileCoverage} {r : CoverageReport}

/-! ### Comments in trimmed lines -/

/-- A comment is opened on the line. -/
def opensComment (line : List Char) : Bool := ['/', '*'].isPrefixOf line

/-- A comment is closed on the line. -/
def closesComment (line : List Char) : Bool := ['*', '/'].isSuffixOf line

/-- A comment is opened on the line and closed behind that. -/
def isWholeComment (line : List Char) : Bool := opensComment line && closesComment (line.drop 2)

/-- The line is neither empty nor one of the lines that start with `;` or `#`. -/
def isStatement (line : List Char) : Bool :=
  !(line.isEmpty || line.head? = some ';' || line.head? = some '#')

/-- The lines behind a comment that is open; there are none if it is never closed. -/
def behindComment (lines : List (List Char)) : List (List Char) :=
  (lines.dropWhile fun line => !closesComment line).tail

theorem behindComment_of_closes (h : closesComment line = true) :
    behindComment (line :: rest) = rest := by
  rw [behindComment, List.dropWhile_cons_of_neg (by simp [h]), List.tail_cons]

theorem behindComment_of_not_closes (h : closesComment line = false) :
    behindComment (line :: rest) = behindComment rest := by
  rw [behindComment, List.dropWhile_cons_of_pos (by simp [h]), ← behindComment]

theorem length_behindComment_le (lines : List (List Char)) :
    (behindComment lines).length ≤ lines.length := by
  rw [behindComment, List.length_tail]
  exact Nat.le_trans (Nat.sub_le _ _) (List.dropWhile_sublist _).length_le

/-- The lines outside of comments. A comment is closed on the first line that ends with the closing
mark, and that may be the line that opens it only if `sameLine` is set. -/
def outsideComments (sameLine : Bool) : List (List Char) → List (List Char)
  | [] => []
  | line :: rest =>
    if sameLine && isWholeComment line then outsideComments sameLine rest
    else if opensComment line then outsideComments sameLine (behindComment rest)
    else line :: outsideComments sameLine rest
termination_by lines => lines.length
decreasing_by
  · exact Nat.lt_succ_self _
  · exact Nat.lt_succ_of_le (length_behindComment_le rest)
  · exact Nat.lt_succ_self _

/-- The lines behind the first comment that is opened and closed on one line. Comments on more lines
are left behind, with all that is in them. -/
def behindWholeComment? : List (List Char) → Option (List (List Char))
  | [] => none
  | line :: rest =>
    if isWholeComment line then some rest
    else if opensComment line then behindWholeComment? (behindComment rest)
    else behindWholeComment? rest
termination_by lines => lines.length
decreasing_by
  · exact Nat.lt_succ_of_le (length_behindComment_le rest)
  · exact Nat.lt_succ_self _

theorem outsideComments_of_opens (hw : (sameLine && isWholeComment line) = false)
    (ho : opensComment line = true) :
    outsideComments sameLine (line :: rest) = outsideComments sameLine (behindComment rest) := by
  rw [outsideComments, hw, if_neg Bool.false_ne_true, if_pos ho]

theorem outsideComments_of_not_opens (ho : opensComment line = false) :
    outsideComments sameLine (line :: rest) = line :: outsideComments sameLine rest := by
  rw [outsideComments, isWholeComment, ho, Bool.false_and, Bool.and_false,
    if_neg Bool.false_ne_true, if_neg Bool.false_ne_true]

/-! ### The count -/

/-- In a comment the count goes on behind it. -/
theorem executableCount_true (lines : List (List Char)) :
    executableCount true lines = executableCount false (behindComment lines) := by
  induction lines with
  | nil => rfl
  | cons line rest ih =>
    rw [executableCount, if_pos rfl, ← closesComment]
    cases h : closesComment line with
    | true => rw [behindComment_of_closes h, Bool.not_true]
    | false => rw [behindComment_of_not_closes h, Bool.not_false, ih]

/-- **Only lines outside of comments are counted**, where a comment is never closed on the line that
opens it. -/
theorem executableCount_false (lines : List (List Char)) :
    executableCount false lines = (outsideComments false lines).countP isStatement := by
  fun_induction outsideComments false lines with
  | case1 => rfl
  | case2 line rest hw => exact absurd hw (by simp)
  | case3 line rest hw ho ih =>
    rw [executableCount, if_neg Bool.false_ne_true, ← opensComment, if_pos ho,
      executableCount_true, ih]
  | case4 line rest hw ho ih =>
    rw [executableCount, if_neg Bool.false_ne_true, ← opensComment, if_neg ho, ih,
      List.countP_cons, isStatement]
    cases line.isEmpty || line.head? = some ';' || line.head? = some '#' <;> rfl

/-- **When the two rules count the same.** It only matters what stands behind the first comment on a
single line. -/
theorem countP_outsideComments_eq_iff (lines : List (List Char)) :
    (outsideComments false lines).countP isStatement =
        (outsideComments true lines).countP isStatement ↔
      ∀ rest, behindWholeComment? lines = some rest →
        (outsideComments false (behindComment rest)).countP isStatement =
          (outsideComments true rest).countP isStatement := by
  fun_induction behindWholeComment? lines with
  | case1 => simp [outsideComments]
  | case2 line rest hw =>
    have ho : opensComment line = true := (Bool.and_eq_true_iff.1 hw).1
    rw [outsideComments_of_opens (Bool.false_and _) ho, outsideComments, hw]
    simp
  | case3 line rest hw ho ih =>
    rw [Bool.not_eq_true] at hw
    rw [outsideComments_of_opens (Bool.false_and _) ho,
      outsideComments_of_opens (by rw [hw, Bool.and_false]) ho, ih]
  | case4 line rest hw ho ih =>
    rw [Bool.not_eq_true] at ho
    rw [outsideComments_of_not_opens ho, outsideComments_of_not_opens ho, List.countP_cons,
      List.countP_cons, Nat.add_right_cancel_iff, ih]

/-! ### The lines of a source -/

/-- The lines of a source, without the blanks around them. -/
def codeLines (source : String) : List (List Char) := (Text.lines source.toList).map trim

/-- **The lines that are counted** are the statements outside of comments, where a comment is not
closed on the line that opens it. By the rule that closes it there the count is the same exactly if
there are as many statements behind the first comment on a single line as there are behind the next
line below it that ends with the closing mark. -/
theorem executableLineCount_eq_countP (source : String) :
    executableLineCount source =
        (outsideComments false (codeLines source)).countP isStatement ∧
      (executableLineCount source = (outsideComments true (codeLines source)).countP isStatement ↔
        ∀ rest, behindWholeComment? (codeLines source) = some rest →
          (outsideComments false (behindComment rest)).countP isStatement =
            (outsideComments true rest).countP isStatement) := by
  have hcount : executableLineCount source =
      (outsideComments false (codeLines source)).countP isStatement := executableCount_false _
  exact ⟨hcount, hcount ▸ countP_outsideComments_eq_iff _⟩

/-- A source with a comment on its first line and a statement on the second. -/
def noteSource : String := "/* note */\nx := 1\n"

/-- The statement is not counted, though it stands outside of the comment. -/
theorem executableLineCount_noteSource : executableLineCount noteSource = 0 ∧
    (outsideComments true (codeLines noteSource)).countP isStatement = 1 := by
  decide +kernel

/-! ### Shares -/

/-- The share `covered / total` as an exact number, and zero if the total is zero. -/
def coverageShare (covered total : Nat) : ℚ := if total = 0 then 0 else covered / total

theorem coverageShare_le_one_iff :
    coverageShare covered total ≤ 1 ↔ total = 0 ∨ covered ≤ total := by
  rw [coverageShare]
  split
  · next h => exact iff_of_true zero_le_one (Or.inl h)
  · next h =>
    have hpos : (0 : ℚ) < total := Nat.cast_pos.2 (Nat.pos_of_ne_zero h)
    rw [div_le_one hpos, Nat.cast_le, or_iff_right h]

namespace FileCoverage

/-- The share of the executable lines of the file that were executed. -/
def share (f : FileCoverage) : ℚ := coverageShare f.linesCovered f.linesTotal

/-- The number of executed lines of a file without executable lines. -/
def stray (f : FileCoverage) : Nat := if f.linesTotal = 0 then f.linesCovered else 0

/-- The number of executable lines that were not executed. -/
def idle (f : FileCoverage) : Nat := f.linesTotal - f.linesCovered

theorem linesCovered_add_idle (h : f.share ≤ 1) :
    f.linesCovered + f.idle = f.linesTotal + f.stray := by
  rw [idle, stray]
  rcases coverageShare_le_one_iff.1 h with hzero | hle
  · rw [if_pos hzero, hzero, Nat.zero_sub, Nat.add_zero, Nat.zero_add]
  · split <;> omega

theorem sum_cons (count : FileCoverage → Nat) :
    sum count (f :: files) = count f + sum count files := rfl

/-- **Executed and executable lines of several files.** The two sums differ by the lines that were
not executed and by the executed ones of files that have no executable line. -/
theorem sum_linesCovered_add_idle (h : ∀ f ∈ files, f.share ≤ 1) :
    sum (·.linesCovered) files + sum idle files =
      sum (·.linesTotal) files + sum stray files := by
  induction files with
  | nil => rfl
  | cons f files ih =>
    rw [List.forall_mem_cons] at h
    have hfile := linesCovered_add_idle h.1
    have hfiles := ih h.2
    simp only [sum_cons]
    omega

end FileCoverage

namespace CoverageReport

/-- The share of the executable lines of all files that were executed. -/
def share (r : CoverageReport) : ℚ := coverageShare r.linesCovered r.linesTotal

/-- **When the share of a report is at most one**, if that of each file is. -/
theorem share_le_one_iff (h : ∀ f ∈ r.files, f.share ≤ 1) : r.share ≤ 1 ↔
    r.linesTotal = 0 ∨
      FileCoverage.sum FileCoverage.stray r.files ≤ FileCoverage.sum FileCoverage.idle r.files := by
  have hsum := FileCoverage.sum_linesCovered_add_idle h
  rw [share, coverageShare_le_one_iff, linesCovered, linesTotal]
  refine or_congr_right ?_
  omega

/-- The shares of a report are computed from its counts. -/
theorem lineCoverage_ofMap (tempDir : String) (total : String → Nat) (m : CoverageMap) :
    (ofMap tempDir total m).lineCoverage =
        coverageRatio (ofMap tempDir total m).linesCovered (ofMap tempDir total m).linesTotal ∧
      ∀ f ∈ (ofMap tempDir total m).files,
        f.lineCoverage = coverageRatio f.linesCovered f.linesTotal := by
  refine ⟨rfl, fun f hf => ?_⟩
  obtain ⟨⟨path, lines⟩, -, rfl⟩ := List.mem_map.1 hf
  rfl

end CoverageReport

namespace CoverageLedger

/-- **The share of a report on a run** is at most one, if that of each file is, exactly if no file
has executable lines or if there are no more executed lines in the files that have none than there
are lines in the other files that were not executed. -/
theorem share_report_le_one_iff (l : CoverageLedger) (tempDir : String) (total : String → Nat)
    (h : ∀ f ∈ (l.report tempDir total).files, f.share ≤ 1) :
    ((l.report tempDir total).lineCoverage = coverageRatio (l.report tempDir total).linesCovered
        (l.report tempDir total).linesTotal ∧
      ∀ f ∈ (l.report tempDir total).files,
        f.lineCoverage = coverageRatio f.linesCovered f.linesTotal) ∧
    ((l.report tempDir total).share ≤ 1 ↔
      (l.report tempDir total).linesTotal = 0 ∨
        FileCoverage.sum FileCoverage.stray (l.report tempDir total).files ≤
          FileCoverage.sum FileCoverage.idle (l.report tempDir total).files) :=
  ⟨CoverageReport.lineCoverage_ofMap tempDir total l.merged, CoverageReport.share_le_one_iff h⟩

/-- A run of one test that executed lines of two files. -/
def twoFileLedger : CoverageLedger :=
  (∅ : CoverageLedger).record "t.ahk::A.M"
    (.ofDump "---- a.ahk\n001: x\n002: y\n---- b.ahk\n001: z\n".toList)

/-- The number of executable lines if only `b.ahk` can be read, which has `n` of them. -/
def onlySecond (n : Nat) (path : String) : Nat := if path = "b.ahk" then n else 0

theorem share_report_le_one_iff_twoFileLedger :
    (∀ f ∈ (twoFileLedger.report "/tmp" (onlySecond 4)).files, f.share ≤ 1) ∧
      FileCoverage.sum FileCoverage.stray (twoFileLedger.report "/tmp" (onlySecond 4)).files = 2 ∧
      FileCoverage.sum FileCoverage.idle (twoFileLedger.report "/tmp" (onlySecond 4)).files = 3 ∧
      (twoFileLedger.report "/tmp" (onlySecond 4)).share ≤ 1 := by
  have hcounts : ∀ f ∈ (twoFileLedger.report "/tmp" (onlySecond 4)).files,
      f.linesTotal = 0 ∨ f.linesCovered ≤ f.linesTotal := by decide +kernel
  have hshare := fun f hf => coverageShare_le_one_iff.2 (hcounts f hf)
  have hstray : FileCoverage.sum FileCoverage.stray
      (twoFileLedger.report "/tmp" (onlySecond 4)).files = 2 := by decide +kernel
  have hidle : FileCoverage.sum FileCoverage.idle
      (twoFileLedger.report "/tmp" (onlySecond 4)).files = 3 := by decide +kernel
  refine ⟨hshare, hstray, hidle, ?_⟩
  refine (share_report_le_one_iff twoFileLedger "/tmp" (onlySecond 4) hshare).2.2 (Or.inr ?_)
  rw [hstray, hidle]
  exact Nat.le_succ 2

/-- With a single executable line in the second file, the share of the report is three. -/
theorem share_report_twoFileLedger :
    (∀ f ∈ (twoFileLedger.report "/tmp" (onlySecond 1)).files, f.share ≤ 1) ∧
      (twoFileLedger.report "/tmp" (onlySecond 1)).share = 3 := by
  have hcounts : ∀ f ∈ (twoFileLedger.report "/tmp" (onlySecond 1)).files,
      f.linesTotal = 0 ∨ f.linesCovered ≤ f.linesTotal := by decide +kernel
  have hcovered : (twoFileLedger.report "/tmp" (onlySecond 1)).linesCovered = 3 := by
    decide +kernel
  have htotal : (twoFileLedger.report "/tmp" (onlySecond 1)).linesTotal = 1 := by decide +kernel
  refine ⟨fun f hf => coverageShare_le_one_iff.2 (hcounts f hf), ?_⟩
  rw [CoverageReport.share, hcovered, htotal, coverageShare, if_neg Nat.one_ne_zero, Nat.cast_one,
    div_one, Nat.cast_ofNat]

end CoverageLedger

end ScriptSuite
