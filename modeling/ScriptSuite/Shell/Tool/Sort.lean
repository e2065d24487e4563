import ScriptSuite.Decimal.Scientific
import ScriptSuite.Shell.Regex
import ScriptSuite.Shell.Tool.Options
import ScriptSuite.Text.Find

/-!
# Sorting lines

Lines are compared by keys: parts of them that are found by counting fields, compared as texts, as
numbers or in other ways. Lines whose keys are equal are compared as a whole, unless they are to
stay in order.

## Main definitions

* `Shell.SortKey`: the keys.
* `Shell.SortRule`: how lines are compared.
* `Shell.sort`, `Shell.uniq`, `Shell.comm`: the tools.
-/

namespace ScriptSuite.Shell

/-- A part of a line by which it is compared. Places are counted from zero. -/
structure SortKey where
  /-- The field where the key starts. -/
  field : Nat := 0
  /-- The character of the field where the key starts. -/
  char : Nat := 0
  /-- The field where the key ends and the number of its characters that are part of the key; zero
  stands for all of them. Without an end the key goes on to the end of the line. -/
  stop : Option (Nat × Nat) := none
  /-- The letters of the ways to compare. -/
  flags : List Char := []
  /-- Whether blanks at the end of the key count from its first character on. -/
  skipsAtStop : Bool := false
deriving DecidableEq, Repr

/-- How lines are compared. -/
structure SortRule where
  /-- The keys, the first one first. -/
  keys : List SortKey := []
  /-- The character between fields; without one, blanks start a field. -/
  tab : Option Char := none
  /-- The letters of the ways to compare whole lines. -/
  flags : List Char := []
  /-- Whether lines with equal keys stay in order. -/
  stable : Bool := false
  /-- Whether of lines with equal keys only the first is kept. -/
  unique : Bool := false
deriving Repr

namespace SortKey

/-- Whether a character is a blank. -/
def isBlank (c : Char) : Bool := c = ' ' || c = '\t' || c = '\n'

/-- A line from a field on. -/
def fromField (tab : Option Char) : Nat → List Char → List Char
  | 0, s => s
  | n + 1, s =>
    match tab with
    | some t => fromField tab n ((s.dropWhile (· != t)).drop 1)
    | none => fromField tab n ((s.dropWhile isBlank).dropWhile (!isBlank ·))

/-- The number of characters up to the end of a field. -/
def lengthToEnd (tab : Option Char) (fields : Nat) (s : List Char) : Nat :=
  match tab with
  | some t =>
    let behind := fromField tab fields s
    let front := s.length - behind.length
    -- the separator behind the last field is not part of it
    if 0 < fields && (s.take front).getLast? = some t then front - 1 else front
  | none => s.length - (fromField tab fields s).length

/-- The key of a line. -/
def of (k : SortKey) (tab : Option Char) (line : List Char) : List Char :=
  let start := fromField tab k.field line
  let start := if k.flags.contains 'b' then start.dropWhile isBlank else start
  let start := start.drop k.char
  match k.stop with
  | none => start
  | some (field, 0) =>
    start.take (lengthToEnd tab (field + 1) line - (line.length - start.length))
  | some (field, count) =>
    let last := fromField tab field line
    let last := if k.skipsAtStop then last.dropWhile isBlank else last
    let stop := min line.length (line.length - last.length + count)
    start.take (stop - (line.length - start.length))

end SortKey

/-! ### Ways to compare -/

/-- The order of two texts. -/
def textOrder (a b : List Char) : Ordering :=
  if a = b then .eq else if dictionaryLe a b then .lt else .gt

/-- The order of two numbers. -/
def natOrder (a b : Nat) : Ordering :=
  if a < b then .lt else if a = b then .eq else .gt

/-- The number at the front of a text as a sign, digits in front of the point and digits behind
it. -/
def decimalParts (s : List Char) : Bool × List Char × List Char :=
  let s := s.dropWhile SortKey.isBlank
  let (negative, s) := match s with
    | '-' :: s => (true, s)
    | s => (false, s)
  let whole := s.takeWhile Char.isDigit
  let part := match s.drop whole.length with
    | '.' :: s => s.takeWhile Char.isDigit
    | _ => []
  (negative, whole.dropWhile (· = '0'), (part.reverse.dropWhile (· = '0')).reverse)

/-- The order of the numbers at the front of two texts. -/
def decimalOrder (a b : List Char) : Ordering :=
  let (m, x, p) := decimalParts a
  let (n, y, q) := decimalParts b
  let m := m && !(x.isEmpty && p.isEmpty)
  let n := n && !(y.isEmpty && q.isEmpty)
  let size : Ordering := ((natOrder x.length y.length).then (textOrder x y)).then (textOrder p q)
  match m, n with
  | true, false => .lt
  | false, true => .gt
  | false, false => size
  | true, true => size.swap

/-- The order of floats: what is no float comes first, and then what is no number. -/
def floatOrder (a b : List Char) : Ordering :=
  let rank (x : Option Float) : Nat := match x with
    | none => 0
    | some x => if x.isNaN then 1 else 2
  let x := (Decimal.leadingFloat? a).map (·.1)
  let y := (Decimal.leadingFloat? b).map (·.1)
  (natOrder (rank x) (rank y)).then
    (let u := x.getD 0
     let v := y.getD 0
     if u < v then .lt else if v < u then .gt else .eq)

/-- The place of a letter for a multiple in the order of the multiples. -/
def multipleRank (s : List Char) : Nat :=
  let s := s.dropWhile SortKey.isBlank
  let s := s.dropWhile fun c => c = '-' || c.isDigit || c = '.'
  match s with
  | c :: _ =>
    let letters := ['K', 'M', 'G', 'T', 'P', 'E', 'Z', 'Y', 'R', 'Q']
    match letters.findIdx? (· = if c = 'k' then 'K' else c) with
    | some i => i + 1
    | none => 0
  | [] => 0

/-- The order of numbers with letters for multiples. -/
def multipleOrder (a b : List Char) : Ordering :=
  let (m, _, _) := decimalParts a
  let (n, _, _) := decimalParts b
  let size := natOrder (multipleRank a) (multipleRank b)
  match m, n with
  | true, false => .lt
  | false, true => .gt
  | false, false => size.then (decimalOrder a b)
  | true, true => size.swap.then (decimalOrder a b)

/-- The number of the month that a text starts with, or zero. -/
def monthRank (s : List Char) : Nat :=
  let names := ["JAN", "FEB", "MAR", "APR", "MAY", "JUN", "JUL", "AUG", "SEP", "OCT", "NOV", "DEC"]
  let word := ((s.dropWhile SortKey.isBlank).take 3).map Char.toUpper
  ((names.findIdx? fun n => n.toList = word).map (· + 1)).getD 0

/-- The place of a character in names with version numbers: a tilde comes before the end, letters
come before all else. -/
def versionRank (c : Option Char) : Nat :=
  match c with
  | none => 1
  | some c =>
    if c = '~' then 0 else if c.isDigit then 1 else if c.isAlpha then c.toNat else c.toNat + 256

/-- The order of names with version numbers: runs of digits count as numbers. -/
def versionOrder (steps : Nat) (a b : List Char) : Ordering :=
  match steps with
  | 0 => .eq
  | steps + 1 =>
    if a.isEmpty && b.isEmpty then .eq
    else
      let isText (s : List Char) : Bool := s.head?.any (!·.isDigit)
      if isText a || isText b then
        let x := a.head?
        let y := b.head?
        (natOrder (versionRank x) (versionRank y)).then
          (versionOrder steps (if isText a then a.drop 1 else a) (if isText b then b.drop 1 else b))
      else
        let x := (a.takeWhile Char.isDigit).dropWhile (· = '0')
        let y := (b.takeWhile Char.isDigit).dropWhile (· = '0')
        ((natOrder x.length y.length).then (textOrder x y)).then
          (versionOrder steps (a.dropWhile Char.isDigit) (b.dropWhile Char.isDigit))

/-- The order of two texts in the way that letters tell. -/
def orderBy (flags : List Char) (a b : List Char) : Ordering :=
  let has (c : Char) : Bool := flags.contains c
  let plain (s : List Char) : List Char :=
    let s := if has 'd' then s.filter fun c => c.isAlphanum || SortKey.isBlank c else s
    let s := if has 'i' then s.filter fun c => ' ' ≤ c && c ≤ '~' else s
    if has 'f' then s.map Char.toUpper else s
  let found :=
    if has 'n' then decimalOrder a b
    else if has 'g' then floatOrder a b
    else if has 'h' then multipleOrder a b
    else if has 'M' then natOrder (monthRank a) (monthRank b)
    else if has 'V' then versionOrder (a.length + b.length + 1) a b
    else textOrder (plain a) (plain b)
  if has 'r' then found.swap else found

namespace SortRule

/-- The order of two lines by their keys; without keys it is that of the whole lines, in the ways
that the rule tells. -/
def keyOrder (r : SortRule) (a b : List Char) : Ordering :=
  let ways := r.flags.filter fun c => c != 'r' && c != 'b'
  if r.keys.isEmpty then
    if ways.isEmpty then .eq
    else
      let trim (s : List Char) := if r.flags.contains 'b' then s.dropWhile SortKey.isBlank else s
      orderBy r.flags (trim a) (trim b)
  else
    r.keys.foldl (fun found k =>
      found.then
        (let k := if k.flags.isEmpty && !k.skipsAtStop then
            { k with flags := r.flags, skipsAtStop := r.flags.contains 'b' } else k
         orderBy k.flags (k.of r.tab a) (k.of r.tab b))) .eq

/-- The order of two lines. -/
def order (r : SortRule) (a b : List Char) : Ordering :=
  let hasKeys := !r.keys.isEmpty || r.flags.any fun c => c != 'r' && c != 'b'
  let whole :=
    if (r.stable || r.unique) && hasKeys then .eq
    else
      let trim (s : List Char) :=
        if !hasKeys && r.flags.contains 'b' then s.dropWhile SortKey.isBlank else s
      let found := (textOrder (trim a) (trim b)).then (textOrder a b)
      if r.flags.contains 'r' then found.swap else found
  (r.keyOrder a b).then whole

/-- Lines in order. -/
def sorted (r : SortRule) (lines : List (List Char)) : List (List Char) :=
  lines.mergeSort fun a b => r.order a b != .gt

/-- Lines that are in order without those that are equal to the one before. -/
def withoutEqual (r : SortRule) : List (List Char) → List (List Char)
  | [] => []
  | a :: rest =>
    match withoutEqual r rest with
    | b :: others => if r.order a b = .eq then a :: others else a :: b :: others
    | [] => [a]

end SortRule

namespace SortRule

/-- The options. -/
def forms : OptionForms :=
  let forms := OptionForms.of "bdfgiMhnRrVcCmo:sS:t:T:uzk:" [("ignore-leading-blanks", 'b'),
    ("dictionary-order", 'd'), ("ignore-case", 'f'), ("general-numeric-sort", 'g'),
    ("ignore-nonprinting", 'i'), ("month-sort", 'M'), ("human-numeric-sort", 'h'),
    ("numeric-sort", 'n'), ("random-sort", 'R'), ("reverse", 'r'), ("version-sort", 'V'),
    ("merge", 'm'), ("output", 'o'), ("stable", 's'), ("buffer-size", 'S'),
    ("field-separator", 't'), ("temporary-directory", 'T'), ("unique", 'u'),
    ("zero-terminated", 'z'), ("key", 'k')]
  { forms with words := forms.words ++
      [("check", 'c', .optional), ("parallel", '1', .required), ("random-source", '1', .required),
        ("batch-size", '1', .required), ("debug", '2', .none), ("sort", '3', .required)] }

/-- The letters of the ways to compare. -/
def flagLetters : List Char := ['b', 'd', 'f', 'g', 'i', 'M', 'h', 'n', 'R', 'r', 'V']

/-- A place in a key: a field with a character of it, and letters. -/
def place? (whole : List Char) (isStop : Bool) (s : List Char) :
    Except (List Char) (Nat × Nat × List Char × List Char) :=
  let ds := s.takeWhile Char.isDigit
  let about (text : String) (part : List Char) :
      Except (List Char) (Nat × Nat × List Char × List Char) :=
    .error (chars text ++ ['\''] ++ part ++ ['\''])
  if ds.isEmpty then
    about (if isStop then "invalid number after ',': invalid count at start of "
      else "invalid number at field start: invalid count at start of ") s
  else if decimal ds = 0 then
    about "field number is zero: invalid field specification " whole
  else
    let rest := s.drop ds.length
    let (char, rest) : Option Nat × List Char := match rest with
      | '.' :: t =>
        let cs := t.takeWhile Char.isDigit
        (some (decimal cs), t.drop cs.length)
      | t => (none, t)
    if char = some 0 && !isStop then
      about "character offset is zero: invalid field specification " whole
    else
      let flags := rest.takeWhile flagLetters.contains
      .ok (decimal ds - 1, char.getD (if isStop then 0 else 1), flags, rest.drop flags.length)

/-- The key that an argument tells. -/
def key? (s : List Char) : Except (List Char) SortKey := do
  let (field, char, flags, rest) ← place? s false s
  match rest with
  | [] => return { field, char := char - 1, flags }
  | ',' :: t =>
    let (stopField, stopChar, more, rest) ← place? s true t
    unless rest.isEmpty do
      throw (chars "stray character in field spec: invalid field specification '" ++ s ++ ['\''])
    return {
      field, char := char - 1, stop := some (stopField, stopChar)
      flags := flags ++ more.filter (· != 'b'), skipsAtStop := more.contains 'b' }
  | _ => throw (chars "stray character in field spec: invalid field specification '" ++ s ++ ['\''])

/-- The character between fields that an option tells. -/
def tab? (g : Given) : Except (List Char) (Option Char) :=
  match g.value? 't' with
  | none => .ok none
  | some [] => .error (chars "empty tab")
  | some [c] => .ok (some c)
  | some ['\\', '0'] => .ok (some '\x00')
  | some s => .error (chars "multi-character tab '" ++ s ++ ['\''])

/-- The letter of a way to compare with a long name. -/
def wayOf (s : List Char) : List Char :=
  match toString s with
  | "general-numeric" => ['g']
  | "human-numeric" => ['h']
  | "month" => ['M']
  | "numeric" => ['n']
  | "version" => ['V']
  | _ => []

/-- How lines are compared. -/
def rule? (g : Given) : Except (List Char) SortRule := do
  let keys ← (g.values 'k').mapM key?
  return {
    keys, tab := ← tab? g
    flags := flagLetters.filter g.has ++ (g.values '3').flatMap wayOf
    stable := g.has 's', unique := g.has 'u' }

end SortRule

/-- Prints sorted lines. -/
def sort : Tool := withOptions "sort" SortRule.forms 2 fun g input disk =>
  match SortRule.rule? g with
  | .error text => { disk, status := 2, err := chars "sort: " ++ text ++ ['\n'] }
  | .ok rule =>
    let lineEnd := if g.has 'z' then '\x00' else '\n'
    let r := readAll "sort" (fun p => chars "cannot read: " ++ quotedIfNeeded p) g.operands input
      disk
    let linesIn (t : List Char) : List (List Char) :=
      let parts := Text.splitOn [lineEnd] t
      if parts.getLast? = some [] then parts.dropLast else parts
    let left := r.left
    if !r.err.isEmpty then { disk, err := r.err, status := 2, left }
    else if g.has 'c' || g.has 'C' then
      let path := match r.texts.head? with
        | some (c :: s, _) => c :: s
        | _ => ['-']
      let lines := linesIn (r.texts.flatMap (·.2))
      let bad := (lines.zip lines.tail).zipIdx.find? fun ((a, b), _) =>
        match rule.order a b with
        | .gt => true
        | .eq => rule.unique
        | .lt => false
      match bad with
      | none => { disk, left }
      | some ((_, b), i) =>
        { disk, status := 1, left
          err := if g.has 'C' || (g.value? 'c').any fun v => v = chars "quiet" || v = chars "silent"
            then []
            else chars "sort: " ++ path ++ chars s!":{i + 2}: disorder: " ++ b ++ ['\n'] }
    else
      let groups := r.texts.map fun t => linesIn t.2
      let lines :=
        if g.has 'm' then groups.foldl (fun a b => a.merge b fun x y => rule.order x y != .gt) []
        else rule.sorted groups.flatten
      let lines := if rule.unique then rule.withoutEqual lines else lines
      let text := lines.flatMap (· ++ [lineEnd])
      match g.value? 'o' with
      | none => { disk, out := text, left }
      | some path =>
        match disk.write (toString path) (toBytes text) with
        | .ok disk => { disk, left }
        | .error f =>
          { disk, status := 2, left, err := complaint "sort" (chars "open failed: " ++ path) f }

/-! ### Repeated lines -/

/-- Lines in groups of those that follow each other and have the same key. -/
def groupsBy (key : List Char → List Char) (lines : List (List Char)) : List (List (List Char)) :=
  lines.splitBy fun a b => key a = key b

/-- Prints lines without repetitions. -/
def uniq : Tool :=
  let forms := OptionForms.of "cdDuif:s:w:z" [("count", 'c'), ("repeated", 'd'), ("unique", 'u'),
    ("ignore-case", 'i'), ("skip-fields", 'f'), ("skip-chars", 's'), ("check-chars", 'w'),
    ("zero-terminated", 'z')]
  let forms := { forms with words := forms.words ++
    [("all-repeated", 'D', .optional), ("group", '1', .optional)] }
  withOptions "uniq" forms 1 fun g input disk =>
    let number (c : Char) : Nat := ((g.value? c).map decimal).getD 0
    let lineEnd := if g.has 'z' then '\x00' else '\n'
    let key (line : List Char) : List Char :=
      let skipped := Regex.repeated (fun s => (s.dropWhile SortKey.isBlank).dropWhile
        (!SortKey.isBlank ·)) (number 'f') line
      let rest := skipped.drop (number 's')
      let rest := if g.has 'w' then rest.take (number 'w') else rest
      if g.has 'i' then rest.map Char.toLower else rest
    let f (s : List Char) : List Char :=
      let parts := Text.splitOn [lineEnd] s
      let lines := if parts.getLast? = some [] then parts.dropLast else parts
      let groups := groupsBy key lines
      let block (b : List (List Char)) : List Char := b.flatMap (· ++ [lineEnd])
      if g.has '1' then Text.join [lineEnd] (groups.map block)
      else if g.has 'D' then
        let repeated := groups.filter fun b => 1 < b.length
        match (g.value? 'D').map toString with
        | some "separate" => Text.join [lineEnd] (repeated.map block)
        | some "prepend" => repeated.flatMap fun b => lineEnd :: block b
        | _ => repeated.flatMap block
      else
        (groups.filter fun b =>
          (!g.has 'd' || 1 < b.length) && (!g.has 'u' || b.length = 1)).flatMap
          fun b =>
            (if g.has 'c' then column 7 b.length ++ [' '] else []) ++ b.headD [] ++ [lineEnd]
    match g.operands with
    | [source, target] =>
      let e := filterTool "uniq" quotedIfNeeded f [source] [] input disk
      if target = ['-'] then e
      else
        match disk.write (toString target) (toBytes e.out) with
        | .ok disk => { e with disk, out := [] }
        | .error f => { e with out := [], status := 1, err := complaint "uniq" target f }
    | paths => filterTool "uniq" quotedIfNeeded f (paths.take 1) [] input disk

/-! ### Common lines -/

/-- The lines of two sorted lists, each with the number of its column: one for those of the first
list only, two for those of the second, three for those of both. -/
def commonLines (steps : Nat) (a b : List (List Char)) : List (Nat × List Char) :=
  match steps with
  | 0 => []
  | steps + 1 =>
    match a, b with
    | [], b => b.map fun l => (2, l)
    | a, [] => a.map fun l => (1, l)
    | x :: a, y :: b =>
      match textOrder x y with
      | .lt => (1, x) :: commonLines steps a (y :: b)
      | .gt => (2, y) :: commonLines steps (x :: a) b
      | .eq => (3, x) :: commonLines steps a b

/-- Compares two sorted files line by line. -/
def comm : Tool :=
  let forms := OptionForms.of "123z" []
  let forms := { forms with words :=
    [("output-delimiter", 'o', .required), ("total", 't', .none), ("check-order", 'c', .none),
      ("nocheck-order", 'n', .none), ("zero-terminated", 'z', .none)] }
  withOptions "comm" forms 1 fun g input disk =>
    match g.operands with
    | [] => missingOperand "comm" disk
    | [a] => usageMistake "comm" 1 (chars "missing operand after '" ++ a ++ ['\'']) disk
    | [a, b] =>
      match readFile input disk a, readFile input disk b with
      | .error f, _ => { disk, status := 1, err := complaint "comm" (quotedIfNeeded a) f }
      | _, .error f => { disk, status := 1, err := complaint "comm" (quotedIfNeeded b) f }
      | .ok s, .ok t =>
        let x := (linesOf s).map withoutLineEnd
        let y := (linesOf t).map withoutLineEnd
        let isSorted (l : List (List Char)) : Bool :=
          (l.zip l.tail).all fun (a, b) => dictionaryLe a b
        let rows := commonLines (x.length + y.length + 1) x y
        let between := match g.value? 'o' with
          | some d => if d.isEmpty then ['\x00'] else d
          | none => ['\t']
        let shows (n : Nat) : Bool := !g.has (Char.ofNat ('0'.toNat + n))
        let indent (n : Nat) : List Char :=
          (((List.range n).drop 1).filter shows).flatMap fun _ => between
        let count (n : Nat) : List Char := Nat.toDigits 10 (rows.filter fun r => r.1 = n).length
        let out := rows.flatMap fun (n, l) => if shows n then indent n ++ l ++ ['\n'] else []
        let total := if g.has 't' then
            Text.join between [count 1, count 2, count 3, chars "total"] ++ ['\n']
          else []
        let bad (n : Nat) (l : List (List Char)) : List Char :=
          if isSorted l then [] else chars s!"comm: file {n} is not in sorted order\n"
        let err := bad 1 x ++ bad 2 y
        { disk, out := out ++ total
          err := if err.isEmpty then [] else err ++ chars "comm: input is not in sorted order\n"
          status := statusOf err
          left := if a = ['-'] || b = ['-'] then some [] else none }
    | _ :: _ :: c :: _ => usageMistake "comm" 1 (chars "extra operand '" ++ c ++ ['\'']) disk

end ScriptSuite.Shell
