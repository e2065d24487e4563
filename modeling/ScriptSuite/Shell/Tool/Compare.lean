import ScriptSuite.Shell.Tool.Options
import ScriptSuite.Text.Find

/-!
# Comparing files

The tool that finds the first byte that differs, and the one that tells how the lines of one file
become those of another one.

## Main definitions

* `Shell.Difference.changes`: the changes that turn lines into others.
* `Shell.cmp`, `Shell.diff`: the tools.
-/

namespace ScriptSuite.Shell

/-- The number of the first place where two lists differ, counted from zero. -/
def firstDifference : List Char → List Char → Option Nat
  | a :: s, b :: t => if a = b then (firstDifference s t).map (· + 1) else some 0
  | _, _ => none

/-- Compares two files byte by byte. -/
def cmp : Tool :=
  withOptions "cmp" (.of "bi:ln:s" [("print-bytes", 'b'), ("verbose", 'l'), ("bytes", 'n'),
    ("silent", 's'), ("quiet", 's'), ("ignore-initial", 'i')]) 2 fun g input disk =>
    match g.operands with
    | [] => usageMistake "cmp" 2 (chars "missing operand after 'cmp'") disk
    | a :: others =>
      let b := others.headD ['-']
      match readFile input disk a, readFile input disk b with
      | .error f, _ => { disk, status := 2, err := if g.has 's' then [] else complaint "cmp" a f }
      | _, .error f => { disk, status := 2, err := if g.has 's' then [] else complaint "cmp" b f }
      | .ok s, .ok t =>
        let cut (u : List Char) : List Char :=
          let u := u.drop (((g.value? 'i').map decimal).getD 0)
          match g.value? 'n' with
          | some n => u.take (decimal n)
          | none => u
        let s := cut s
        let t := cut t
        let left := if a = ['-'] || b = ['-'] then some [] else none
        let shorter := if s.length < t.length then a else b
        let length := min s.length t.length
        let lines := (s.take length).count '\n'
        let eof (withLine : Bool) : List Char :=
          if length = 0 then chars "cmp: EOF on " ++ shorter ++ chars " which is empty\n"
          else
            let unfinished := (s.take length).getLast? != some '\n'
            chars "cmp: EOF on " ++ shorter ++ chars s!" after byte {length}" ++
              (if !withLine then []
                else if unfinished then chars s!", in line {lines + 1}"
                else chars s!", line {lines}") ++
              ['\n']
        if s = t then { disk, left }
        else if g.has 's' then { disk, status := 1, left }
        else if g.has 'l' then
          let pairs := ((s.zip t).zipIdx 1).filter fun ((x, y), _) => x != y
          let octal (c : Char) : List Char := column 3 (decimal (Nat.toDigits 8 c.toNat))
          let width := (Nat.toDigits 10 (max s.length t.length)).length
          { disk, status := 1, left
            out := pairs.flatMap fun ((x, y), n) =>
              column width n ++ ' ' :: octal x ++ ' ' :: octal y ++ ['\n']
            err := if s.length = t.length then [] else eof false }
        else
          match firstDifference s t with
          | some n =>
            let line := (s.take n).count '\n' + 1
            { disk, status := 1, left
              out := a ++ ' ' :: b ++
                chars s!" differ: byte {n + 1}, line {line}\n" }
          | none => { disk, status := 1, left, err := eof true }

namespace Difference

/-- A change: some lines of the first file are replaced by some of the second. Places are counted
from zero. -/
structure Change where
  /-- Where the lines of the first file start. -/
  left : Nat
  /-- Their number. -/
  removed : Nat
  /-- Where the lines of the second file start. -/
  right : Nat
  /-- Their number. -/
  added : Nat
deriving DecidableEq, Repr

/-- The lengths of the longest common parts of the ends of two lists: for each end of the second
list the length together with the whole first list, from the row for the first list without its
head. -/
def nextRow (same : List Char → List Char → Bool) (a : List Char) :
    List (List Char) → List Nat → List Nat
  | b :: bs, n :: ns =>
    let rest := nextRow same a bs ns
    let here := if same a b then ns.headD 0 + 1 else max n (rest.headD 0)
    here :: rest
  | _, _ => [0]

/-- The rows for all ends of the first list, the longest one first. -/
def rows (same : List Char → List Char → Bool) (bs : List (List Char)) :
    List (List Char) → List (List Nat)
  | [] => [List.replicate (bs.length + 1) 0]
  | a :: as =>
    let below := rows same bs as
    nextRow same a bs (below.headD []) :: below

/-- The steps that turn lines into others: each line is kept, removed or added. -/
inductive Step where
  /-- Both have the line. -/
  | keep
  /-- Only the first has the line. -/
  | remove
  /-- Only the second has the line. -/
  | add
deriving DecidableEq, Repr

/-- The steps between lines, from the rows of lengths. -/
def steps (same : List Char → List Char → Bool) (fuel : Nat) (as bs : List (List Char))
    (table : List (List Nat)) : List Step :=
  match fuel with
  | 0 => []
  | fuel + 1 =>
    match as, bs with
    | [], bs => bs.map fun _ => .add
    | as, [] => as.map fun _ => .remove
    | a :: as', b :: bs' =>
      if same a b then .keep :: steps same fuel as' bs' (table.tail.map List.tail)
      else
        let below := (table.tail.headD []).headD 0
        let right := ((table.headD []).tail).headD 0
        if right ≤ below then .remove :: steps same fuel as' bs table.tail
        else .add :: steps same fuel as bs' (table.map List.tail)

/-- The changes that steps make, from the place in both files. -/
def changesFrom (i j : Nat) (current : Option Change) : List Step → List Change
  | [] => current.toList
  | .keep :: rest => current.toList ++ changesFrom (i + 1) (j + 1) none rest
  | .remove :: rest =>
    let c := current.getD { left := i, removed := 0, right := j, added := 0 }
    changesFrom (i + 1) j (some { c with removed := c.removed + 1 }) rest
  | .add :: rest =>
    let c := current.getD { left := i, removed := 0, right := j, added := 0 }
    changesFrom i (j + 1) (some { c with added := c.added + 1 }) rest

/-- The changes that turn lines into others. -/
def changes (same : List Char → List Char → Bool) (as bs : List (List Char)) : List Change :=
  changesFrom 0 0 none (steps same (as.length + bs.length + 1) as bs (rows same bs as))

/-- A range of lines: the place in front of it if it is empty. -/
def range (start count : Nat) : List Char :=
  if count = 0 then Nat.toDigits 10 start
  else if count = 1 then Nat.toDigits 10 (start + 1)
  else Nat.toDigits 10 (start + 1) ++ ',' :: Nat.toDigits 10 (start + count)

/-- A line behind a mark, with a remark if it has no line end. -/
def marked (mark : String) (line : List Char) : List Char :=
  chars mark ++ if line.getLast? = some '\n' then line
    else line ++ chars "\n\\ No newline at end of file\n"

/-- A change in the plain form. -/
def Change.plain (c : Change) (as bs : List (List Char)) : List Char :=
  let letter := if c.removed = 0 then 'a' else if c.added = 0 then 'd' else 'c'
  range c.left c.removed ++ letter :: range c.right c.added ++ ['\n'] ++
    ((as.drop c.left).take c.removed).flatMap (marked "< ") ++
    (if letter = 'c' then chars "---\n" else []) ++
    ((bs.drop c.right).take c.added).flatMap (marked "> ")

/-- Changes that are near each other, in groups. -/
def nearby (context : Nat) (cs : List Change) : List (List Change) :=
  cs.splitBy fun a b => b.left ≤ a.left + a.removed + 2 * context

/-- A range of lines in the form with lines around it. -/
def unifiedRange (start count : Nat) : List Char :=
  if count = 1 then Nat.toDigits 10 (start + 1)
  else Nat.toDigits 10 (if count = 0 then start else start + 1) ++ ',' :: Nat.toDigits 10 count

/-- A group of changes with the lines around them. -/
def unified (context : Nat) (as bs : List (List Char)) (cs : List Change) : List Char :=
  match cs.head?, cs.getLast? with
  | some first, some last =>
    let before := min context first.left
    let start := first.left - before
    let stop := min as.length (last.left + last.removed + context)
    let rightStart := first.right - before
    let rightStop := last.right + last.added + (stop - last.left - last.removed)
    let (body, place) := cs.foldl (fun (body, place) c =>
      (body ++ ((as.drop place).take (c.left - place)).flatMap (marked " ") ++
        ((as.drop c.left).take c.removed).flatMap (marked "-") ++
        ((bs.drop c.right).take c.added).flatMap (marked "+"), c.left + c.removed))
      (([], start) : List Char × Nat)
    chars "@@ -" ++ unifiedRange start (stop - start) ++ chars " +" ++
      unifiedRange rightStart (rightStop - rightStart) ++ chars " @@\n" ++ body ++
      ((as.drop place).take (stop - place)).flatMap (marked " ")
  | _, _ => []

/-- A line such that what is not to be told apart is equal. -/
def normalized (g : Given) (line : List Char) : List Char :=
  let isBlank (c : Char) : Bool := c = ' ' || ('\t' ≤ c && c ≤ '\r')
  let line := if g.has 'i' then line.map Char.toLower else line
  if g.has 'w' then line.filter (!isBlank ·)
  else if g.has 'b' then
    Text.join [' '] (((line.splitBy fun a b => isBlank a = isBlank b).filter fun part =>
      !(part.head?.any isBlank)))
  else line

end Difference

/-- Tells how the lines of a file become those of another one. -/
def diff : Tool :=
  let forms := OptionForms.of "qsiwbBruU:caNE" [("brief", 'q'), ("report-identical-files", 's'),
    ("ignore-case", 'i'), ("ignore-all-space", 'w'), ("ignore-space-change", 'b'),
    ("ignore-blank-lines", 'B'), ("recursive", 'r'), ("text", 'a'), ("new-file", 'N')]
  let forms := { forms with words := forms.words ++
    [("unified", 'u', OptionValue.optional), ("label", 'L', OptionValue.required)] }
  let forms := { forms with letters := forms.letters ++ [('L', OptionValue.required)] }
  withOptions "diff" forms 2 fun g input disk =>
    match g.operands with
    | [] => usageMistake "diff" 2 (chars "missing operand after 'diff'") disk
    | [a] => usageMistake "diff" 2 (chars "missing operand after '" ++ a ++ ['\'']) disk
    | a :: b :: others =>
      if let extra :: _ := others then
        usageMistake "diff" 2 (chars "extra operand '" ++ extra ++ ['\'']) disk
      else
        let inside (dir file : List Char) : List Char :=
          match disk.get (toString dir) with
          | .ok (.dir _) => dir ++ '/' :: basename file []
          | _ => dir
        let isDir (p : List Char) : Bool := match disk.get (toString p) with
          | .ok (.dir _) => true
          | _ => false
        let (x, y) := if isDir a && !isDir b then (inside a b, b)
          else if isDir b && !isDir a then (a, inside b a) else (a, b)
        let read (p : List Char) : Except DiskFailure (List Char) :=
          match readFile input disk p with
          | .error .missing => if g.has 'N' then .ok [] else .error .missing
          | r => r
        let left := if a = ['-'] || b = ['-'] then some [] else none
        match read x, read y with
        | .error f, .error e =>
          { disk, status := 2, left, err := complaint "diff" x f ++ complaint "diff" y e }
        | .error f, _ => { disk, status := 2, left, err := complaint "diff" x f }
        | _, .error f => { disk, status := 2, left, err := complaint "diff" y f }
        | .ok s, .ok t =>
          let as := linesOf s
          let bs := linesOf t
          let same (p q : List Char) : Bool := Difference.normalized g p = Difference.normalized g q
          let cs := Difference.changes same as bs
          if cs.isEmpty then
            { disk, left
              out := if g.has 's' then
                chars "Files " ++ x ++ chars " and " ++ y ++ chars " are identical\n" else [] }
          else if g.has 'q' then
            { disk, status := 1, left
              out := chars "Files " ++ x ++ chars " and " ++ y ++ chars " differ\n" }
          else if g.has 'u' || g.has 'U' then
            let context := match (g.value? 'U').orElse fun _ => g.value? 'u' with
              | some (c :: n) => decimal (c :: n)
              | _ => 3
            let label (n : Nat) (path : List Char) : List Char :=
              ((g.values 'L')[n]?).getD (path ++ chars "\t1970-01-01 00:00:00.000000000 +0000")
            { disk, status := 1, left
              out := chars "--- " ++ label 0 x ++ chars "\n+++ " ++ label 1 y ++ '\n' ::
                (Difference.nearby context cs).flatMap (Difference.unified context as bs) }
          else { disk, status := 1, left, out := cs.flatMap fun c => c.plain as bs }

end ScriptSuite.Shell
