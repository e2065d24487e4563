import ScriptSuite.Shell.Tool.Sort

/-!
# Tools on columns

The tools that cut lines into parts or put lines of several files side by side.
-/

namespace ScriptSuite.Shell

/-! ### Parts of lines -/

/-- A list of places such as `1,3-5`: ranges with both ends, of which the last may be open. -/
abbrev PlaceList := List (Nat × Option Nat)

namespace PlaceList

/-- Whether a place is in the list. -/
def has (l : PlaceList) (n : Nat) : Bool :=
  l.any fun (low, high) => low ≤ n && high.all (n ≤ ·)

/-- The complaint about a place that is no number. -/
def badValue (kind : String) (s : List Char) : List Char :=
  chars (if kind = "field" then "invalid field value '" else "invalid byte/character position '") ++
    s ++ ['\'']

/-- The list that a text tells; `kind` is what is counted. -/
def of (kind : String) (s : List Char) : Except (List Char) PlaceList :=
  (Text.splitOn [','] s).flatMap (Text.splitOn [' ']) |>.mapM fun item =>
    let number (t : List Char) : Except (List Char) Nat :=
      if !t.all Char.isDigit then .error (badValue kind t)
      else if decimal t = 0 then
        .error (chars (if kind = "field" then "fields are numbered from 1"
          else "byte/character positions are numbered from 1"))
      else .ok (decimal t)
    match Text.cut ['-'] item with
    | none => do
      let n ← number item
      return (n, some n)
    | some ([], []) => .error (chars "invalid range with no endpoint: -")
    | some (low, high) => do
      let a ← if low.isEmpty then pure 1 else number low
      if high.isEmpty then return (a, none)
      else
        let b ← number high
        if b < a then throw (chars "invalid decreasing range")
        return (a, some b)

end PlaceList

/-- The items of a list that are chosen, in runs of neighbours. -/
def chosenRuns {α : Type} (chosen : Nat → Bool) (items : List α) : List (List α) :=
  let marked := (items.zipIdx 1).filter fun (_, n) => chosen n
  (marked.splitBy fun a b => a.2 + 1 = b.2).map fun run => run.map (·.1)

/-- Prints parts of lines. -/
def cut : Tool :=
  let forms := OptionForms.of "b:c:d:f:nsz" [("bytes", 'b'), ("characters", 'c'),
    ("delimiter", 'd'), ("fields", 'f'), ("only-delimited", 's'), ("zero-terminated", 'z')]
  let forms := { forms with words := forms.words ++
    [("output-delimiter", 'o', .required), ("complement", '!', .none)] }
  withOptions "cut" forms 1 fun g input disk =>
    let lists := g.options.filter fun o => ['b', 'c', 'f'].contains o.1
    let byFields := g.has 'f'
    let misuse (text : String) : Effect := usageMistake "cut" 1 (chars text) disk
    let delimiter := (g.value? 'd').getD ['\t']
    match lists with
    | [] => misuse "you must specify a list of bytes, characters, or fields"
    | _ :: _ :: _ => misuse "only one list may be specified"
    | [(_, list)] =>
      if 1 < delimiter.length then misuse "the delimiter must be a single character"
      else if g.has 'd' && !byFields then
        misuse "an input delimiter may be specified only when operating on fields"
      else if g.has 's' && !byFields then
        misuse "suppressing non-delimited lines makes sense\n\tonly when operating on fields"
      else
        match PlaceList.of (if byFields then "field" else "byte") list with
        | .error text => usageMistake "cut" 1 text disk
        | .ok places =>
          let chosen (n : Nat) : Bool := places.has n != g.has '!'
          let lineEnd := if g.has 'z' then '\x00' else '\n'
          let d := delimiter.headD '\x00'
          let line (s : List Char) : List (List Char) :=
            if byFields then
              if s.contains d then
                let fields := ((Text.splitOn [d] s).zipIdx 1).filter fun (_, n) => chosen n
                [Text.join ((g.value? 'o').getD [d]) (fields.map (·.1))]
              else if g.has 's' then [] else [s]
            else
              let runs := if g.has 'o' then
                  -- places that are told one by one stay apart
                  let starts := places.map (·.1)
                  let marked := (s.zipIdx 1).filter fun (_, n) => chosen n
                  let apart (b : Char × Nat) : Bool :=
                    starts.contains b.2 && !(places.any fun p => p.1 < b.2 && p.2.all (b.2 ≤ ·))
                  (marked.splitBy fun a b => a.2 + 1 = b.2 && !apart b).map
                    fun run => run.map (·.1)
                else chosenRuns chosen s
              [Text.join ((g.value? 'o').getD []) runs]
          let f (s : List Char) : List Char :=
            let parts := Text.splitOn [lineEnd] s
            let parts := if parts.getLast? = some [] then parts.dropLast else parts
            (parts.flatMap line).flatMap (· ++ [lineEnd])
          filterTool "cut" quotedIfNeeded f g.operands [] input disk

/-! ### Lines side by side -/

/-- The delimiters that a text tells, one after the other; a zero behind a backslash is none. -/
def delimitersOf : List Char → List (List Char)
  | [] => []
  | '\\' :: c :: s =>
    (match c with
      | '0' => []
      | 'n' => ['\n']
      | 't' => ['\t']
      | c => [c]) :: delimitersOf s
  | c :: s => [c] :: delimitersOf s

/-- Texts with delimiters between them, which are used in turn. -/
def joinInTurn (delimiters : List (List Char)) (texts : List (List Char)) : List Char :=
  let count := max 1 delimiters.length
  (texts.zipIdx.map fun (t, i) =>
    if i = 0 then t else (delimiters[(i - 1) % count]?).getD [] ++ t).flatten

/-- Puts the lines of files side by side, or those of each file on one line. -/
def paste : Tool :=
  let forms := OptionForms.of "d:sz" [("delimiters", 'd'), ("serial", 's'),
    ("zero-terminated", 'z')]
  withOptions "paste" forms 1
    fun g input disk =>
      let delimiters := match g.value? 'd' with
        | some d => delimitersOf d
        | none => [['\t']]
      let paths := if g.operands.isEmpty then [['-']] else g.operands
      let r := readAll "paste" quotedIfNeeded paths input disk
      let linesIn (t : List Char) : List (List Char) := (linesOf t).map withoutLineEnd
      let dashes := (paths.filter (· = ['-'])).length
      -- the input gives its lines in turn to all places where it is named
      let columns := (r.texts.foldl (fun (columns, nth) (path, t) =>
        if path = ['-'] && !g.has 's' then
          let own := (linesIn t).zipIdx.filter fun (_, i) => i % dashes = nth
          (columns ++ [own.map (·.1)], nth + 1)
        else (columns ++ [linesIn t], nth)) (([], 0) : List (List (List Char)) × Nat)).1
      let out :=
        if g.has 's' then columns.flatMap fun c => joinInTurn delimiters c ++ ['\n']
        else
          let height := (columns.map List.length).foldl max 0
          (List.range height).flatMap fun i =>
            joinInTurn delimiters (columns.map fun column => (column[i]?).getD []) ++ ['\n']
      if !r.err.isEmpty && !g.has 's' then { disk, err := r.err, status := 1, left := r.left }
      else { disk, out, err := r.err, status := statusOf r.err, left := r.left }

/-! ### Joining -/

/-- The fields of a line. -/
def fieldsIn (tab : Option Char) (line : List Char) : List (List Char) :=
  match tab with
  | some t => Text.splitOn [t] line
  | none => (line.splitBy fun a b => SortKey.isBlank a = SortKey.isBlank b).filter fun part =>
      !(part.head?.any SortKey.isBlank)

/-- The pairs of lines of two sorted lists that have the same key, and the lines without a
partner. -/
def joinedRows (steps : Nat) (a b : List (List Char × List (List Char))) :
    List (Option (List (List Char)) × Option (List (List Char))) :=
  match steps with
  | 0 => []
  | steps + 1 =>
    match a, b with
    | [], b => b.map fun l => (none, some l.2)
    | a, [] => a.map fun l => (some l.2, none)
    | x :: a', y :: b' =>
      match textOrder x.1 y.1 with
      | .lt => (some x.2, none) :: joinedRows steps a' b
      | .gt => (none, some y.2) :: joinedRows steps a b'
      | .eq =>
        let left := a.takeWhile fun l => l.1 = x.1
        let right := b.takeWhile fun l => l.1 = x.1
        left.flatMap (fun l => right.map fun r => (some l.2, some r.2)) ++
          joinedRows steps (a.drop left.length) (b.drop right.length)

/-- Joins the lines of two sorted files that have the same key. -/
def joinFiles : Tool :=
  withOptions "join" (.of "a:v:e:1:2:j:o:t:iz" []) 1 fun g input disk =>
    match g.operands with
    | [] => missingOperand "join" disk
    | [a] => usageMistake "join" 1 (chars "missing operand after '" ++ a ++ ['\'']) disk
    | a :: b :: _ =>
      match readFile input disk a, readFile input disk b with
      | .error f, _ => { disk, status := 1, err := complaint "join" (quotedIfNeeded a) f }
      | _, .error f => { disk, status := 1, err := complaint "join" (quotedIfNeeded b) f }
      | .ok s, .ok t =>
        let tab := (g.value? 't').bind List.head?
        let number (c : Char) : Nat :=
          ((g.value? c).orElse fun _ => g.value? 'j').elim 1 decimal - 1
        let rows (n : Nat) (s : List Char) : List (List Char × List (List Char)) :=
          (linesOf s).map fun l =>
            let fields := fieldsIn tab (withoutLineEnd l)
            let key := (fields[n]?).getD []
            (if g.has 'i' then key.map Char.toLower else key, fields)
        let m := number '1'
        let n := number '2'
        let x := rows m s
        let y := rows n t
        let found := joinedRows (x.length + y.length + 1) x y
        let missing := (g.value? 'e').getD []
        let fill (f : List Char) : List Char := if f.isEmpty then missing else f
        let shows (file : Char) : Bool := (g.values 'a' ++ g.values 'v').contains [file]
        let wanted := found.filter fun row => match row with
          | (some _, some _) => !g.has 'v'
          | (some _, none) => shows '1'
          | _ => shows '2'
        let line (row : Option (List (List Char)) × Option (List (List Char))) : List (List Char) :=
          let l := row.1.getD []
          let r := row.2.getD []
          let key := if row.1.isSome then (l[m]?).getD [] else (r[n]?).getD []
          match g.value? 'o' with
          | some spec =>
            if spec = chars "auto" then [key] ++ l.eraseIdx m ++ r.eraseIdx n
            else
              ((Text.splitOn [','] spec).flatMap (Text.splitOn [' '])).map fun item =>
                match item with
                | ['0'] => fill key
                | '1' :: '.' :: i => fill ((l[decimal i - 1]?).getD [])
                | '2' :: '.' :: i => fill ((r[decimal i - 1]?).getD [])
                | _ => []
          | none => [key] ++ (l.eraseIdx m).map fill ++ (r.eraseIdx n).map fill
        let between := [tab.getD ' ']
        { disk, out := wanted.flatMap fun row => Text.join between (line row) ++ ['\n']
          left := if a = ['-'] || b = ['-'] then some [] else none }

/-! ### Tabs -/

/-- The next place behind a place that a tab leads to. -/
def nextStop (stops : List Nat) (place : Nat) : Nat :=
  match stops with
  | [n] => if n = 0 then place + 1 else (place / n + 1) * n
  | stops => ((stops.find? fun s => place < s).getD (place + 1))

/-- The places that tabs lead to. -/
def tabStops (g : Given) : List Nat :=
  match g.value? 't' with
  | some list => ((Text.splitOn [','] list).flatMap (Text.splitOn [' '])).map decimal
  | none => [8]

/-- Prints spaces in the place of tabs. -/
def expandTabs : Tool :=
  withOptions "expand" (.of "it:" [("initial", 'i'), ("tabs", 't')]) 1 fun g input disk =>
    let stops := tabStops g
    let line (s : List Char) : List Char := (s.foldl (fun (out, place, blank) c =>
      if c = '\t' && (blank || !g.has 'i') then
        let next := nextStop stops place
        (out ++ List.replicate (next - place) ' ', next, blank)
      else (out ++ [c], place + 1, blank && (c = ' ' || c = '\t')))
      (([], 0, true) : List Char × Nat × Bool)).1
    filterTool "expand" quotedIfNeeded (fun s => (linesOf s).flatMap line) g.operands [] input disk

/-- Prints tabs in the place of spaces. -/
def unexpandTabs : Tool :=
  withOptions "unexpand" (.of "at:f" [("all", 'a'), ("tabs", 't'), ("first-only", 'f')]) 1
    fun g input disk =>
      let stops := tabStops g
      let all := (g.has 'a' || g.has 't') && !g.has 'f'
      let line (s : List Char) : List Char :=
        let (out, pending, _, _) := s.foldl (fun (out, pending, place, blank) c =>
          if c = ' ' && (blank || all) then
            let next := place + 1
            if next = nextStop stops place && !(pending = 0) then (out ++ ['\t'], 0, next, blank)
            else (out, pending + 1, next, blank)
          else if c = '\t' && (blank || all) then (out ++ ['\t'], 0, nextStop stops place, blank)
          else (out ++ List.replicate pending ' ' ++ [c], 0, place + 1, false))
          (([], 0, 0, true) : List Char × Nat × Nat × Bool)
        out ++ List.replicate pending ' '
      filterTool "unexpand" quotedIfNeeded (fun s => (linesOf s).flatMap line) g.operands []
        input disk

end ScriptSuite.Shell
