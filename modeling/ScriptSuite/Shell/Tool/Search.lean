import ScriptSuite.Shell.Regex.Parser
import ScriptSuite.Shell.Tool.Options

/-!
# Finding lines

The tool that prints the lines in which an expression matches, perhaps with the lines around them.

## Main definitions

* `Shell.Search`: what is looked for.
* `Shell.Search.select`: the lines of a text that are found, with the lines around them.
* `Shell.grep`: the tool.
-/

namespace ScriptSuite.Shell

/-- What is looked for. -/
structure Search where
  /-- The expression. -/
  regex : Regex
  /-- Whether only whole words count. -/
  words : Bool := false
  /-- Whether only whole lines count. -/
  lines : Bool := false
  /-- Whether the other lines are asked for. -/
  negated : Bool := false

namespace Search

/-- The ends of the matches that start at a place, largest first. -/
def stopsAt (q : Search) (text : Array Char) (place : Nat) : List Nat :=
  if q.regex.refersBack then ((q.regex.matchAt? text place).map Regex.Match.stop).toList
  else ((q.regex.stops text [place]).eraseDups).mergeSort fun a b => b ≤ a

/-- The first match from a place on. -/
def find? (q : Search) (text : Array Char) (start : Nat) : Option (Nat × Nat) :=
  let counts (a b : Nat) : Bool :=
    (!q.lines || (a = 0 && b = text.size)) &&
      (!q.words || !((Regex.charBefore text a).any isWordChar || (text[b]?).any isWordChar))
  (List.range' start (text.size + 1 - start)).findSome? fun a =>
    ((q.stopsAt text a).find? (counts a)).map fun b => (a, b)

/-- Whether a line is found. -/
def holds (q : Search) (line : List Char) : Bool :=
  (q.find? line.toArray 0).isSome != q.negated

/-- The matches in a line that are not empty. -/
def parts (q : Search) (text : Array Char) (steps start : Nat) : List (Nat × Nat) :=
  match steps with
  | 0 => []
  | steps + 1 =>
    match q.find? text start with
    | none => []
    | some (a, b) =>
      if a < b then (a, b) :: q.parts text steps b else q.parts text steps (a + 1)

/-- A line of a text. -/
structure Line where
  /-- The text. -/
  text : List Char
  /-- Its number. -/
  number : Nat
  /-- Its place in the text. -/
  offset : Nat
  /-- Whether it is found. -/
  found : Bool

/-- The lines of a text, up to the last one that counts: of the lines that are found only `limit`
do, and `behind` lines may follow them. -/
def linesFrom (q : Search) (limit behind number offset : Nat) : List (List Char) → List Line
  | [] => []
  | text :: rest =>
    if limit = 0 then
      match behind with
      | 0 => []
      | behind + 1 =>
        let found := q.holds text
        -- another line that would be found ends what follows the last one
        if found then []
        else { text, number, offset, found } ::
          linesFrom q 0 behind (number + 1) (offset + text.length + 1) rest
    else
      let found := q.holds text
      { text, number, offset, found } ::
        linesFrom q (if found then limit - 1 else limit) behind (number + 1)
          (offset + text.length + 1) rest

/-- The lines that are found and those around them, in groups of neighbours. -/
def select (before behind : Nat) (lines : List Line) : List (List Line) :=
  let chosen := lines.zipIdx.filter fun (l, i) =>
    l.found || ((lines.drop (i - behind)).take (min i behind)).any (·.found) ||
      ((lines.drop (i + 1)).take before).any (·.found)
  (chosen.splitBy fun a b => a.2 + 1 = b.2).map fun g => g.map (·.1)

end Search

namespace Grep

/-- The options. -/
def forms : OptionForms :=
  .of "EFGPe:f:iyvwxzsm:bnHhoqarRLlcA:B:C:TZUI" [("extended-regexp", 'E'), ("fixed-strings", 'F'),
    ("basic-regexp", 'G'), ("perl-regexp", 'P'), ("regexp", 'e'), ("file", 'f'),
    ("ignore-case", 'i'), ("invert-match", 'v'), ("word-regexp", 'w'), ("line-regexp", 'x'),
    ("null-data", 'z'), ("no-messages", 's'), ("max-count", 'm'), ("byte-offset", 'b'),
    ("line-number", 'n'), ("with-filename", 'H'), ("no-filename", 'h'), ("only-matching", 'o'),
    ("quiet", 'q'), ("silent", 'q'), ("text", 'a'), ("recursive", 'r'),
    ("dereference-recursive", 'R'), ("files-without-match", 'L'), ("files-with-matches", 'l'),
    ("count", 'c'), ("after-context", 'A'), ("before-context", 'B'), ("context", 'C'),
    ("initial-tab", 'T'), ("null", 'Z'), ("binary", 'U'), ("line-buffered", 'U')]

/-- The options with those that have long names only, under letters of their own. -/
def allForms : OptionForms :=
  { forms with words := forms.words ++
      [("include", '1', .required), ("exclude", '2', .required), ("exclude-dir", '3', .required),
        ("label", '4', .required), ("color", '5', .optional), ("colour", '5', .optional),
        ("no-ignore-case", '6', .none), ("binary-files", '7', .required)] }

/-- The arguments with each number behind a dash turned into the number of lines around. -/
def numbersAsContext (args : List (List Char)) : List (List Char) :=
  args.map fun arg => match arg with
    | '-' :: d :: ds => if (d :: ds).all Char.isDigit then '-' :: 'C' :: d :: ds else arg
    | _ => arg

/-- The expressions of patterns, each on a line of its own, as one. -/
def regexOf? (dialect : Option Regex.Dialect) (patterns : List (List Char)) :
    Except Regex.Problem (Option Regex) := do
  let one (p : List Char) : Except Regex.Problem Regex :=
    match dialect with
    | some d => Regex.parse d (d != .basic) p
    | none => .ok (.ofText p)
  let rs ← (patterns.flatMap (Text.splitOn ['\n'])).mapM one
  match rs with
  | [] => return none
  | r :: rest => return some (rest.foldl .either r)

/-- The expression that `grep` takes for the classes of another dialect. -/
def withClasses (s : List Char) : List Char :=
  match s with
  | '\\' :: 'd' :: s => chars "[0-9]" ++ withClasses s
  | '\\' :: 'D' :: s => chars "[^0-9]" ++ withClasses s
  | '\\' :: c :: s => '\\' :: c :: withClasses s
  | '(' :: '?' :: ':' :: s => '(' :: withClasses s
  | c :: s => c :: withClasses s
  | [] => []

/-- What stands in a file or a directory, with the paths of the files. -/
def filesBelow (path : List Char) : FileTree → List (List Char × List UInt8)
  | .file bytes _ => [(path, bytes)]
  | t => (t.files []).map fun (way, bytes) =>
      (path ++ (if path.isEmpty || path.getLast? = some '/' then [] else ['/']) ++
        Text.join ['/'] (way.map ofString), bytes)

/-- A file to be searched: its name, and its text or why there is none. -/
structure Subject where
  /-- The name. -/
  name : List Char
  /-- The text. -/
  text : Except DiskFailure (List Char)
  /-- Whether it was found in a directory. -/
  inside : Bool := false

/-- Whether a name is chosen by patterns for names. -/
def isChosen (g : Given) (name : List Char) : Bool :=
  let holds (p : List Char) : Bool :=
    Pattern.holds (Pattern.ofMarked (p.length + 1) (p.map fun c => (false, c))) (basename name [])
  let included := g.values '1'
  (included.isEmpty || included.any holds) && !(g.values '2').any holds

/-- The files that are searched. -/
def subjects (g : Given) (paths : List (List Char)) (input : List Char) (disk : Disk) :
    List Subject :=
  let deep := g.has 'r' || g.has 'R'
  let below (path shown : List Char) : Option (List Subject) :=
    match disk.get (toString path) with
    | .ok (.dir entries) =>
      let inDirs (name : List Char) : Bool :=
        ((Text.splitOn ['/'] name).dropLast).any fun part => (g.values '3').any fun p =>
          Pattern.holds (Pattern.ofMarked (p.length + 1) (p.map fun c => (false, c))) part
      some (((filesBelow shown (.dir entries)).filter fun (name, _) =>
        isChosen g name && !inDirs (name.drop shown.length)).map fun (name, bytes) =>
          { name, text := .ok (ofBytes bytes), inside := true })
    | _ => none
  if paths.isEmpty then
    if deep then (below ['.'] []).getD [] else [{ name := [], text := .ok input }]
  else
    paths.flatMap fun path =>
      let single : List Subject :=
        [{ name := if path = ['-'] then [] else path, text := readFile input disk path }]
      if deep then (below path path).getD single
      else if path != ['-'] && !isChosen g path then [] else single

/-- What a file is called in what is printed. -/
def Subject.shown (g : Given) (s : Subject) : List Char :=
  if s.name.isEmpty then (g.value? '4').getD (chars "(standard input)") else s.name

/-- The number of lines that an option asks for. -/
def countOf (g : Given) (letters : List Char) : Nat :=
  match g.options.reverse.find? fun o => letters.contains o.1 with
  | some (_, value) => decimal value
  | none => 0

/-- What is found in a file: how many lines, and what is printed of them. -/
def report (g : Given) (q : Search) (named : Bool) (s : Subject) (text : List Char) :
    Nat × List Char :=
  let lineEnd := if g.has 'z' then '\x00' else '\n'
  let parts := Text.splitOn [lineEnd] text
  let parts := if parts.getLast? = some [] then parts.dropLast else parts
  let limit := match g.value? 'm' with
    | some n => if n.head? = some '-' then parts.length + 1 else decimal n
    | none => parts.length + 1
  let behind := countOf g ['A', 'C']
  let lines := q.linesFrom limit behind 1 0 parts
  let count := (lines.filter (·.found)).length
  let fileEnd := if g.has 'Z' then '\x00' else '\n'
  let shown := s.shown g
  let start (l : Search.Line) (offset : Nat) (mark : Char) : List Char :=
    let mark' := if g.has 'T' then [mark, '\t'] else [mark]
    (if named then shown ++ (if g.has 'Z' then ['\x00'] else [mark]) else []) ++
      (if g.has 'n' then Nat.toDigits 10 l.number ++ [mark] else []) ++
      (if g.has 'b' then Nat.toDigits 10 offset ++ [mark] else []) ++
      (if g.has 'T' && (named || g.has 'n' || g.has 'b') then mark'.drop 1 else [])
  let whole (l : Search.Line) : List Char :=
    start l l.offset (if l.found then ':' else '-') ++ l.text ++ [lineEnd]
  let pieces (l : Search.Line) : List Char :=
    if !l.found || q.negated then []
    else
      let array := l.text.toArray
      (q.parts array (array.size + 1) 0).flatMap fun (a, b) =>
        start l (l.offset + a) ':' ++ (array.extract a b).toList ++ [lineEnd]
  let out :=
    if g.has 'q' then []
    else if g.has 'L' then (if count = 0 then shown ++ [fileEnd] else [])
    else if g.has 'l' then (if count = 0 then [] else shown ++ [fileEnd])
    else if g.has 'c' then
      (if named then shown ++ [if g.has 'Z' then '\x00' else ':'] else []) ++
        Nat.toDigits 10 count ++ ['\n']
    else if text.contains '\x00' && !g.has 'a' && !g.has 'z' then
      (if count = 0 then [] else chars "grep: " ++ shown ++ chars ": binary file matches\n")
    else
      let before := countOf g ['B', 'C']
      let groups := Search.select before behind lines
      let line := if g.has 'o' then pieces else whole
      let blocks := groups.map fun b => b.flatMap line
      if before + behind = 0 || g.has 'o' then blocks.flatten
      else Text.join ['-', '-', '\n'] blocks
  (count, out)

/-- The line that tells how the tool is used. -/
def usage : List Char := chars "Usage: grep [OPTION]... PATTERNS [FILE]...\n"

/-- Whether a text is a class of characters without the brackets around it. -/
def isBareClass (s : List Char) : Bool :=
  match s with
  | '[' :: ':' :: s => (chars ":]").isSuffixOf s && 3 < s.length
  | _ => false

end Grep

/-- Finds lines. -/
def grep : Tool := fun args input disk =>
  let fail (text : List Char) : Effect :=
    { disk, status := 2, err := chars "grep: " ++ text ++ ['\n'] }
  match Grep.allForms.read (Grep.numbersAsContext args) with
  | .error mistake =>
    { disk, status := 2
      err := chars "grep: " ++ mistake.message ++ '\n' :: Grep.usage ++ helpAdvice "grep" }
  | .ok g =>
    let given := g.options.filter fun o => o.1 = 'e' || o.1 = 'f'
    let (patterns, paths) : List (Except (List Char × DiskFailure) (List (List Char))) × _ :=
      if given.isEmpty then ((g.operands.take 1).map fun p => .ok [p], g.operands.drop 1)
      else (given.map fun (kind, value) =>
        if kind = 'e' then .ok [value]
        else match readFile input disk value with
          | .ok text => .ok ((linesOf text).map withoutLineEnd)
          | .error f => .error (value, f), g.operands)
    let badNumber := (g.options.filter fun o => ['A', 'B', 'C'].contains o.1).find? fun o =>
      o.2.isEmpty || !o.2.all Char.isDigit
    let badCount := (g.value? 'm').any fun n => (integer? n).isNone
    match patterns.mapM id, badNumber with
    | _, some (_, n) => fail (n ++ chars ": invalid context length argument")
    | .error (path, f), _ => fail (path ++ chars s!": {f.reason}")
    | .ok patterns, none =>
      if patterns.isEmpty then { disk, status := 2, err := Grep.usage ++ helpAdvice "grep" }
      else if badCount then fail (chars "invalid max count")
      else
        let kind := (g.lastOf? ['E', 'F', 'G', 'P']).getD 'G'
        let dialect : Option Regex.Dialect :=
          if kind = 'F' then none else if kind = 'G' then some .basic else some .extended
        let patterns := if kind = 'P' then patterns.flatten.map Grep.withClasses
          else patterns.flatten
        if dialect.isSome && patterns.any Grep.isBareClass then
          fail (chars "character class syntax is [[:space:]], not [:space:]")
        else
          match Grep.regexOf? dialect patterns with
          | .error problem => fail (chars problem.message)
          | .ok regex =>
            let ignoring := (g.lastOf? ['i', 'y', '6']).any (· != '6')
            let regex := regex.getD (.oneOf { negated := false, ranges := [] })
            let q : Search := {
              regex := if ignoring then regex.ignoringCase else regex
              words := g.has 'w' && !g.has 'x', lines := g.has 'x', negated := g.has 'v' }
            let subjects := Grep.subjects g paths input disk
            let named := match g.lastOf? ['H', 'h'] with
              | some c => c = 'H'
              | none => 1 < paths.length || subjects.any (·.inside)
            let results := subjects.map fun s => (s, s.text.map (Grep.report g q named s))
            let found := results.any fun (_, r) => match r with
              | .ok (count, _) => 0 < count
              | .error _ => false
            let failed := results.any fun (_, r) => match r with
              | .ok _ => false
              | .error _ => true
            { disk
              out := results.flatMap fun (_, r) => (r.toOption.map (·.2)).getD []
              err := if g.has 's' then [] else results.flatMap fun (s, r) => match r with
                | .error f => complaint "grep" s.name f
                | .ok _ => []
              status := if failed && !(g.has 'q' && found) then 2 else if found then 0 else 1
              left := if paths.isEmpty || paths.contains ['-'] then some [] else none }

end ScriptSuite.Shell
