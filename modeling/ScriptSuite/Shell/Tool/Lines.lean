import ScriptSuite.Shell.Tool.Options
import ScriptSuite.Text.Find

/-!
# Tools on lines

The tools that print files or a part of their lines, in another order or with numbers.
-/

namespace ScriptSuite.Shell

/-! ### Numbers in arguments -/

/-- The number of a text that may have a letter for a multiple behind it. -/
def multipleOf? (s : List Char) : Option Nat :=
  let ds := s.takeWhile Char.isDigit
  let times (n : Nat) : Option Nat := some (decimal ds * n)
  if ds.isEmpty then none
  else
    match toString (s.drop ds.length) with
    | "" => times 1
    | "b" => times 512
    | "k" | "K" | "KiB" => times 1024
    | "kB" | "KB" => times 1000
    | "M" | "MiB" => times (1024 * 1024)
    | "MB" => times (1000 * 1000)
    | "G" | "GiB" => times (1024 * 1024 * 1024)
    | "GB" => times (1000 * 1000 * 1000)
    | _ => none

/-! ### Printing files -/

/-- A character with its number of eight bits shown by characters that can be printed. -/
def caretForm (keepTabs : Bool) (c : Char) : List Char :=
  if c = '\n' || (c = '\t' && keepTabs) then [c]
  else
    let (front, low) := if 128 ≤ c.toNat then (['M', '-'], c.toNat - 128) else ([], c.toNat)
    front ++ if low < 32 then ['^', Char.ofNat (low + 64)]
      else if low = 127 then ['^', '?'] else [Char.ofNat low]

/-- Lines without an empty one behind an empty one. -/
def withoutRepeatedBlanks : List (List Char) → List (List Char)
  | a :: b :: rest =>
    if a = ['\n'] && b = ['\n'] then withoutRepeatedBlanks (b :: rest)
    else a :: withoutRepeatedBlanks (b :: rest)
  | lines => lines

/-- Lines with their numbers; if `filled`, empty lines have none. -/
def numberedLines (filled : Bool) (n : Nat) : List (List Char) → List Char
  | [] => []
  | line :: rest =>
    if filled && line = ['\n'] then line ++ numberedLines filled n rest
    else column 6 n ++ '\t' :: line ++ numberedLines filled (n + 1) rest

/-- Prints files. -/
def cat : Tool :=
  withOptions "cat" (.of "AbeEnstTuv" [("show-all", 'A'), ("number-nonblank", 'b'),
    ("show-ends", 'E'), ("number", 'n'), ("squeeze-blank", 's'), ("show-tabs", 'T'),
    ("show-nonprinting", 'v')]) 1 fun g input disk =>
    let has (letters : List Char) : Bool := letters.any g.has
    let shown (s : List Char) : List Char :=
      let s := if has ['A', 'e', 't', 'v'] then s.flatMap (caretForm true) else s
      let s := if has ['A', 't', 'T'] then s.flatMap fun c => if c = '\t' then ['^', 'I'] else [c]
        else s
      if has ['A', 'e', 'E'] then s.flatMap fun c => if c = '\n' then ['$', '\n'] else [c] else s
    let f (s : List Char) : List Char :=
      let lines := if g.has 's' then withoutRepeatedBlanks (linesOf s) else linesOf s
      if has ['b', 'n'] then
        let parts := numberedLines (g.has 'b') 1 lines
        shown parts
      else shown lines.flatten
    filterTool "cat" quotedIfNeeded f g.operands [] input disk

/-- The texts of files, each under a headline if there are several. -/
def headed (always never : Bool) (count : Nat) (texts : List (List Char × List Char)) : List Char :=
  if always || (1 < count && !never) then
    Text.join ['\n'] (texts.map fun (path, text) =>
      chars "==> " ++ (if path.isEmpty || path = ['-'] then chars "standard input" else path) ++
        chars " <==\n" ++ text)
  else texts.flatMap (·.2)

/-- The arguments with a number behind a dash as the value of an option; the number may have a
letter for bytes behind it. -/
def numberAsOption (letter : Char) (args : List (List Char)) : List (List Char) :=
  match args with
  | ('-' :: d :: ds) :: rest =>
    let number := (d :: ds).takeWhile Char.isDigit
    match (d :: ds).drop number.length with
    | [] => if d.isDigit then ['-', letter] :: number :: rest else args
    | ['c'] => if d.isDigit then ['-', 'c'] :: number :: rest else args
    | _ => args
  | _ => args

/-- The part of a text that the options of `head` or `tail` ask for, or what is wrong with them. The
functions take a number of lines or bytes from the list of them. -/
def partOf (name : String) (g : Given) (lines : List Char → List (List Char) → List (List Char))
    (bytes : List Char → List Char → List Char) : Except (List Char) (List Char → List Char) :=
  let check (kind : String) (value : List Char) : Except (List Char) Unit :=
    let body := match value with
      | '-' :: s | '+' :: s => s
      | s => s
    if (multipleOf? body).isSome then .ok ()
    else .error (chars s!"{name}: invalid number of {kind}: '" ++ value ++ ['\'', '\n'])
  let lineEnd := if g.has 'z' then '\x00' else '\n'
  let cutLines (s : List Char) : List (List Char) :=
    if g.has 'z' then
      let parts := Text.splitOn [lineEnd] s
      (parts.dropLast.map (· ++ [lineEnd])) ++ (parts.getLast?.toList.filter (!·.isEmpty))
    else linesOf s
  match g.lastOf? ['n', 'c'] with
  | some 'c' => do
    let value := (g.value? 'c').getD []
    check "bytes" value
    return bytes value
  | some _ => do
    let value := (g.value? 'n').getD []
    check "lines" value
    return fun s => (lines value (cutLines s)).flatten
  | none => .ok fun s => (lines ['1', '0'] (cutLines s)).flatten

/-- The options of `head` and `tail`. -/
def endForms (letters : String) : OptionForms :=
  .of letters [("lines", 'n'), ("bytes", 'c'), ("quiet", 'q'), ("silent", 'q'), ("verbose", 'v'),
    ("zero-terminated", 'z')]

/-- Prints a part of each file. -/
def printParts (name : String) (g : Given) (part : Except (List Char) (List Char → List Char))
    (input : List Char) (disk : Disk) : Effect :=
  match part with
  | .error err => { disk, status := 1, err }
  | .ok f =>
    let r := readAll name (fun p => quotedSubject "cannot open " p ++ chars " for reading")
      g.operands input disk
    let never := g.lastOf? ['q', 'v'] = some 'q'
    let always := g.lastOf? ['q', 'v'] = some 'v'
    { disk
      out := headed always never g.operands.length (r.texts.map fun (path, t) => (path, f t))
      err := r.err, status := statusOf r.err, left := r.left }

/-- The first items of a list: a number of them, or all but a number behind a dash. -/
def firstItems {α : Type} (value : List Char) (items : List α) : List α :=
  match value with
  | '-' :: n => items.take (items.length - (multipleOf? n).getD 0)
  | '+' :: n | n => items.take ((multipleOf? n).getD 0)

/-- The last items of a list: a number of them, or all from the one of a number behind a plus. -/
def lastItems {α : Type} (value : List Char) (items : List α) : List α :=
  match value with
  | '+' :: n => items.drop ((multipleOf? n).getD 0 - 1)
  | '-' :: n | n => items.drop (items.length - (multipleOf? n).getD 0)

/-- Prints the first lines. The device of zeros has as many bytes as are asked for. -/
def head : Tool := fun args =>
  withOptions "head" (endForms "n:c:qvz") 1 (fun g input disk =>
    if g.operands = [chars "/dev/zero"] then
      { disk, out := List.replicate (((g.value? 'c').bind multipleOf?).getD 0) '\x00' }
    else printParts "head" g (partOf "head" g firstItems firstItems) input disk)
    (numberAsOption 'n' args)

/-- Prints the last lines. -/
def tail : Tool := fun args =>
  let args := match args with
    | ('+' :: n) :: rest =>
      if n.all Char.isDigit && !n.isEmpty then ['-', 'n'] :: ('+' :: n) :: rest else args
    | _ => numberAsOption 'n' args
  withOptions "tail" (endForms "n:c:qvzfF") 1 (fun g input disk =>
    printParts "tail" g (partOf "tail" g lastItems lastItems) input disk) args

/-- Prints lines in reversed order. -/
def tac : Tool :=
  withOptions "tac" (.of "bs:r" [("separator", 's')]) 1 fun g input disk =>
    let separator := match g.value? 's' with
      | some (c :: s) => c :: s
      | _ => ['\n']
    let f (s : List Char) : List Char :=
      let parts := Text.splitOn separator s
      let full := parts.dropLast.map (· ++ separator)
      (full ++ parts.getLast?.toList.filter (!·.isEmpty)).reverse.flatten
    let r := readAll "tac" (fun p => quotedSubject "failed to open " p ++ chars " for reading")
      g.operands input disk
    { disk, out := r.texts.flatMap fun (_, t) => f t
      err := r.err, status := statusOf r.err, left := r.left }

/-- Prints each line backwards. -/
def rev : Tool := fun args =>
  filterTool "rev" (fun p => chars "cannot open " ++ p)
    (fun s => (linesOf s).flatMap fun l =>
      (withoutLineEnd l).reverse ++ l.drop (withoutLineEnd l).length) args args

/-- Prints lines with numbers; unless it is asked for, empty lines have none. -/
def nl : Tool :=
  withOptions "nl" (.of "b:w:s:v:i:n:h:f:d:pl:" [("body-numbering", 'b'), ("number-width", 'w'),
    ("number-separator", 's'), ("starting-line-number", 'v'), ("line-increment", 'i'),
    ("number-format", 'n')]) 1 fun g input disk =>
    let style := (g.value? 'b').getD ['t']
    let number (c : Char) (n : Nat) : Nat := ((g.value? c).map decimal).getD n
    let width := number 'w' 6
    let step := number 'i' 1
    let separator := (g.value? 's').getD ['\t']
    let shown (n : Nat) : List Char :=
      let ds := Nat.toDigits 10 n
      match (g.value? 'n').getD ['r', 'n'] with
      | ['l', 'n'] => ds ++ List.replicate (width - ds.length) ' '
      | ['r', 'z'] => List.replicate (width - ds.length) '0' ++ ds
      | _ => List.replicate (width - ds.length) ' ' ++ ds
    let f (s : List Char) : List Char := ((linesOf s).foldl (fun (out, n) line =>
      let text := withoutLineEnd line
      if style = ['a'] || (style = ['t'] && !text.isEmpty) then
        (out ++ shown n ++ separator ++ text ++ ['\n'], n + step)
      else (out ++ List.replicate (width + separator.length) ' ' ++ text ++ ['\n'], n))
      (([], number 'v' 1) : List Char × Nat)).1
    filterTool "nl" quotedIfNeeded f g.operands [] input disk

/-! ### Counting -/

/-- The number of words in a text. -/
def wordCount (s : List Char) : Nat :=
  let isBlank (c : Char) := c = ' ' || ('\t' ≤ c && c ≤ '\r')
  (s.foldl (fun (n, inWord) c =>
    if isBlank c then (n, false) else if inWord then (n, true) else (n + 1, true))
    ((0, false) : Nat × Bool)).1

/-- The width of the widest line of a text, where a tab leads to the next multiple of eight. -/
def widestLine (s : List Char) : Nat :=
  (s.foldl (fun (widest, n) c =>
    if c = '\n' || c = '\r' || c = '\x0c' then (widest, 0)
    else
      let n := if c = '\t' then (n / 8 + 1) * 8 else if ' ' ≤ c && c < '\x7f' then n + 1 else n
      (max widest n, n)) ((0, 0) : Nat × Nat)).1

/-- Counts lines, words and bytes. The columns are as wide as the size of the files needs, or seven
places for an input that is no file. -/
def wc (inputIsFile : Bool) : Tool :=
  withOptions "wc" (.of "clLmw" [("bytes", 'c'), ("lines", 'l'), ("max-line-length", 'L'),
    ("chars", 'm'), ("words", 'w')]) 1 fun g input disk =>
    let r := readAll "wc" quotedIfNeeded g.operands input disk
    let wanted (c : Char) : Bool := if g.options.isEmpty then c != 'L' && c != 'm' else g.has c
    let counters : List (Char × (List Char → Nat)) :=
      [('l', fun t => t.count '\n'), ('w', wordCount), ('m', List.length), ('c', List.length),
        ('L', widestLine)]
    let counters := counters.filter fun c => wanted c.1
    let rows := r.texts.map fun (path, text) => (path, counters.map fun c => c.2 text)
    let dirs := g.operands.filter fun p => match disk.get (toString p) with
      | .ok (.dir _) => true
      | _ => false
    let rows := rows ++ dirs.map fun p => (p, counters.map fun _ => 0)
    let sums := counters.zipIdx.map fun (c, i) =>
      let column := rows.map fun row => row.2.getD i 0
      column.foldl (if c.1 = 'L' then max else (· + ·)) 0
    let rows' := if g.operands.length ≤ 1 then rows else rows ++ [(chars "total", sums)]
    let size := (r.texts.map fun t => t.2.length).foldl (· + ·) 0
    let width :=
      if rows'.length = 1 && counters.length = 1 then 1
      else if (r.left.isSome && !inputIsFile) || !dirs.isEmpty then 7
      else (Nat.toDigits 10 size).length
    let row (path : List Char) (ns : List Nat) : List Char :=
      Text.join [' '] (ns.map (column width)) ++ (if path.isEmpty then [] else ' ' :: path) ++
        ['\n']
    { disk, out := rows'.flatMap fun (path, ns) => row path ns
      err := r.err, status := statusOf r.err, left := r.left }

/-! ### Folding -/

/-- A line in pieces that are not wider than a width; if `atBlanks`, they end behind blanks where
that is possible. -/
def folded (width : Nat) (atBlanks : Bool) (steps : Nat) (line : List Char) : List Char :=
  match steps with
  | 0 => line
  | steps + 1 =>
    if line.length ≤ width then line
    else
      let front := line.take width
      let kept := (front.reverse.dropWhile fun c => c != ' ' && c != '\t').length
      let n := if atBlanks && 0 < kept then kept else width
      line.take n ++ '\n' :: folded width atBlanks steps (line.drop n)

/-- Prints lines that are not wider than a width. -/
def fold : Tool := fun args =>
  withOptions "fold" (.of "bsw:" [("bytes", 'b'), ("spaces", 's'), ("width", 'w')]) 1
    (fun g input disk =>
      let width := max 1 (((g.value? 'w').map decimal).getD 80)
      let f (s : List Char) : List Char := (linesOf s).flatMap fun l =>
        folded width (g.has 's') l.length (withoutLineEnd l) ++ l.drop (withoutLineEnd l).length
      filterTool "fold" quotedIfNeeded f g.operands [] input disk)
    (numberAsOption 'w' args)

/-- The number of times that `yes` prints its line: more than anything reads. -/
def yesCount : Nat := 20000

/-- Prints a line again and again. -/
def yes : Tool := fun args _ disk =>
  let line := (if args.isEmpty then ['y'] else Text.join [' '] args) ++ ['\n']
  { disk, out := (List.replicate yesCount line).flatten }

end ScriptSuite.Shell
