import ScriptSuite.Disk.Basic
import ScriptSuite.Shell.Printf
import ScriptSuite.Shell.Sed.Rule

/-!
# Editing lines

The rules of a script are applied to one line after the other. What they change is the space, which
starts as the line and is printed at the end of the rules; what they keep from line to line is the
hold.

## Main definitions

* `Sed.Setting`: how a script is applied.
* `Sed.World`: what changes while it is applied.
* `Sed.World.edit`: the world after all lines.
-/

namespace ScriptSuite.Shell.Sed

/-- How a script is applied. -/
structure Setting where
  /-- The rules. -/
  rules : Array Rule
  /-- Whether lines are printed only if a rule says so. -/
  quiet : Bool := false
  /-- The character behind each line. -/
  lineEnd : Char := '\n'
  /-- The width of lines in which all characters can be told. -/
  width : Nat := 70

/-- A line that is read. -/
structure InputLine where
  /-- The text. -/
  text : List Char
  /-- Whether a line end follows it. -/
  ended : Bool
  /-- The name of the file. -/
  file : List Char

/-- Something that is printed behind the line. -/
inductive Queued where
  /-- A text. -/
  | text (s : List Char)
  /-- A file. -/
  | file (path : List Char)

/-- A stream or file that is written to. -/
structure Output where
  /-- Its name; none for the output of the program. -/
  name : List Char
  /-- What was written, last character first. -/
  written : List Char := []
  /-- Whether a line end is missing. -/
  owed : Bool := false

/-- What changes while a script is applied. -/
structure World where
  /-- The disk. -/
  disk : Disk
  /-- The lines to come. -/
  input : List InputLine
  /-- The number of the line. -/
  number : Nat := 0
  /-- The space. -/
  space : List Char := []
  /-- Whether a line end follows the space. -/
  ended : Bool := true
  /-- The name of the file. -/
  file : List Char := ['-']
  /-- The hold. -/
  hold : List Char := []
  /-- What is printed behind the line. -/
  queue : List Queued := []
  /-- Whether something was replaced since the line was read. -/
  replaced : Bool := false
  /-- The rules whose ranges are open, with the numbers of their last lines if those are known. -/
  ranges : List (Nat × Option Nat) := []
  /-- The expression that was used last. -/
  lastRegex : Option Regex := none
  /-- The outputs. -/
  outputs : List Output := [{ name := [] }]
  /-- What is left of the files that are read line by line. -/
  readers : List (List Char × List (List Char)) := []

/-- How the rules end for a line. -/
inductive Ending where
  /-- At the end of the script: the line may be printed. -/
  | finished
  /-- The line is not printed. -/
  | deleted
  /-- The rules start again without another line. -/
  | again
  /-- No more lines are read. -/
  | stopped (status : Nat)
  /-- The rules do not end. -/
  | endless
deriving DecidableEq, Repr

namespace World

/-! ### Printing -/

/-- Writes a text to an output; a missing line end is written first. -/
def write (w : World) (name text : List Char) (owed : Bool) : World :=
  let outputs := if w.outputs.any fun o => o.name = name then w.outputs
    else w.outputs ++ [{ name := name }]
  { w with outputs := outputs.map fun o =>
      if o.name = name then
        { o with written := text.reverse ++ (if o.owed then ['\n'] else []) ++ o.written, owed }
      else o }

/-- The name under which a file is written to. -/
def outputName (path : List Char) : List Char :=
  if path = chars "/dev/stdout" then [] else path

/-- Writes a text with the line end that the line has. -/
def writeLine (w : World) (o : Setting) (name text : List Char) : World :=
  w.write name (text ++ if w.ended then [o.lineEnd] else []) (!w.ended)

/-- Prints what was to be printed behind the line. -/
def flush (w : World) : World :=
  let w' := w.queue.foldl (fun w q => match q with
    | .text s => if s.isEmpty then w else w.write [] s false
    | .file path =>
      match w.disk.read (toString path) with
      | .ok bytes => if bytes.isEmpty then w else w.write [] (ofBytes bytes) false
      | .error _ => w) w
  { w' with queue := [] }

/-! ### Reading -/

/-- Reads the next line, if there is one, into the space or behind it. -/
def readLine? (w : World) (o : Setting) (behind : Bool) : Option World :=
  match w.input with
  | [] => none
  | line :: input =>
    let w := w.flush
    some { w with
      input
      number := w.number + 1
      space := if behind then w.space ++ o.lineEnd :: line.text else line.text
      ended := line.ended
      file := line.file
      replaced := false }

/-- Whether an address names the line. -/
def names (w : World) : Address → Bool × World
  | .line n => (w.number = n, w)
  | .step first distance =>
    (if distance = 0 then w.number = first
      else first ≤ w.number && (w.number - first) % distance = 0, w)
  | .last => (w.input.isEmpty, w)
  | .matching r =>
    match r.or w.lastRegex with
    | some r => (r.occursIn w.space, { w with lastRegex := some r })
    | none => (false, w)

/-- The number of the last line of a range that starts here, if it is known. -/
def lastOfRange (w : World) : RangeEnd → Option Nat
  | .address (.line n) => some n
  | .lines n => some (w.number + n)
  | .multiple n =>
    some (if n = 0 then w.number else (w.number + n - 1) / n * n)
  | .address _ => none

/-- Whether the rule of a number, which has a selection, is for the line. -/
def selects (w : World) (index : Nat) : Selection → Bool × World
  | .all => (true, w)
  | .one a => w.names a
  | .range start stop =>
    let close (w : World) : World := { w with ranges := w.ranges.filter fun p => p.1 != index }
    let begin (w : World) : Bool × World :=
      let (b, w) := w.names start
      if !b then (false, w)
      else
        let last := w.lastOfRange stop
        if last.any (· ≤ w.number) then (true, w)
        else (true, { w with ranges := (index, last) :: w.ranges })
    match w.ranges.find? fun p => p.1 = index with
    | none => begin w
    | some (_, some last) =>
      if last < w.number then begin (close w)
      else (true, if w.number = last then close w else w)
    | some (_, none) =>
      match stop with
      | .address a =>
        let (b, w) := w.names a
        (true, if b then close w else w)
      | _ => (true, w)

end World

/-! ### Replacing -/

/-- A text behind changes of case: `all` is the change of all letters, `next` that of the next
one. -/
def cased (all next : Option CaseChange) (s : List Char) : List Char :=
  let change (kind : Option CaseChange) (c : Char) : Char :=
    match kind with
    | some .upper | some .upperNext => c.toUpper
    | some .lower | some .lowerNext => c.toLower
    | _ => c
  match s with
  | [] => []
  | c :: rest => change (next.or all) c :: rest.map (change all)

/-- The text of pieces for a match. -/
def fill (text : Array Char) (m : Regex.Match) (all next : Option CaseChange) :
    List Piece → List Char
  | [] => []
  | .char c :: rest => cased all next [c] ++ fill text m all none rest
  | .group index :: rest =>
    let s := m.group text index
    cased all next s ++ fill text m all (if s.isEmpty then next else none) rest
  | .case change :: rest =>
    match change with
    | .upper | .lower => fill text m (some change) next rest
    | .upperNext | .lowerNext => fill text m all (some change) rest
    | .stop => fill text m none none rest

/-- A text with the matches replaced that a substitution asks for, if there is one. -/
def Substitution.apply? (s : Substitution) (r : Regex) (space : List Char) : Option (List Char) :=
  let text := space.toArray
  let found := (r.matchesIn text).drop (s.count - 1)
  let found := if s.all then found else found.take 1
  if found.isEmpty then none
  else
    let (out, place) := found.foldl (fun (out, place) m =>
      (out ++ (text.extract place m.start).toList ++ fill text m none none s.value, m.stop))
      (([], 0) : List Char × Nat)
    some (out ++ (text.extract place text.size).toList)

/-! ### Showing -/

/-- A character such that it can be told from all others. -/
def shown (c : Char) : List Char :=
  match c with
  | '\\' => ['\\', '\\']
  | '\x07' => ['\\', 'a']
  | '\x08' => ['\\', 'b']
  | '\x0c' => ['\\', 'f']
  | '\n' => ['\\', 'n']
  | '\r' => ['\\', 'r']
  | '\t' => ['\\', 't']
  | '\x0b' => ['\\', 'v']
  | c =>
    if ' ' ≤ c && c ≤ '~' then [c]
    else
      let ds := Nat.toDigits 8 c.toNat
      '\\' :: (List.replicate (3 - ds.length) '0' ++ ds)

/-- A text such that all its characters can be told, in lines that end in a backslash and are not
wider than `width`; a width of at most one sets no limit. -/
def shownLines (width : Nat) (s : List Char) : List Char :=
  let (out, _) := s.foldl (fun (out, used) c =>
    let t := shown c
    if 1 < width && width - 1 < used + t.length then (out ++ ['\\', '\n'] ++ t, t.length)
    else (out ++ t, used + t.length)) (([], 0) : List Char × Nat)
  out ++ ['$', '\n']

/-! ### Applying rules -/

/-- The place behind the end of the block that starts in front of a place. -/
def behindBlock (rules : Array Rule) (steps place depth : Nat) : Nat :=
  match steps with
  | 0 => place
  | steps + 1 =>
    match (rules[place]?).map Rule.deed with
    | none => place
    | some .openBlock => behindBlock rules steps (place + 1) (depth + 1)
    | some .closeBlock =>
      if depth = 0 then place + 1 else behindBlock rules steps (place + 1) (depth - 1)
    | some _ => behindBlock rules steps (place + 1) depth

/-- The place of a mark; without a name it is the end of the rules. -/
def placeOf (rules : Array Rule) (name : List Char) : Nat :=
  if name.isEmpty then rules.size
  else
    (rules.findIdx? fun r => match r.deed with
      | .label n => n = name
      | _ => false).getD rules.size

/-- The first line of a text, and what follows it if there are more. -/
def firstLine (s : List Char) : List Char × Option (List Char) :=
  let line := s.takeWhile (· != '\n')
  (line, (s.drop line.length).tail?)

/-- What a deed leads to: the world, and the place of the next rule or the end of the rules. -/
abbrev Progress := World × Except Ending Nat

/-- Does what a rule does; `place` is where the next rule stands. -/
def World.perform (w : World) (o : Setting) (place : Nat) (inRange : Bool) : Deed → Progress
  | .openBlock | .closeBlock | .label _ | .nothing => (w, .ok place)
  | .jump kind name =>
    let jumps := match kind with
      | .always => true
      | .ifReplaced => w.replaced
      | .unlessReplaced => !w.replaced
    let w := if kind = .always then w else { w with replaced := false }
    (w, .ok (if jumps then placeOf o.rules name else place))
  | .append text => ({ w with queue := w.queue ++ [.text text] }, .ok place)
  | .insert text => (if text.isEmpty then w else w.write [] text false, .ok place)
  | .change text => (if inRange || text.isEmpty then w else w.write [] text false, .error .deleted)
  | .delete => (w, .error .deleted)
  | .deleteFirst =>
    match firstLine w.space with
    | (_, some rest) => ({ w with space := rest }, .error .again)
    | (_, none) => (w, .error .deleted)
  | .print => (w.writeLine o [] w.space, .ok place)
  | .printFirst => (w.write [] ((firstLine w.space).1 ++ ['\n']) false, .ok place)
  | .list width => (w.write [] (shownLines (width.getD o.width) w.space) false, .ok place)
  | .number => (w.write [] (Nat.toDigits 10 w.number ++ ['\n']) false, .ok place)
  | .fileName => (w.write [] (w.file ++ ['\n']) false, .ok place)
  | .get => ({ w with space := w.hold }, .ok place)
  | .getBehind => ({ w with space := w.space ++ o.lineEnd :: w.hold }, .ok place)
  | .hold => ({ w with hold := w.space }, .ok place)
  | .holdBehind => ({ w with hold := w.hold ++ o.lineEnd :: w.space }, .ok place)
  | .exchange => ({ w with space := w.hold, hold := w.space }, .ok place)
  | .empty => ({ w with space := [] }, .ok place)
  | .next =>
    if w.input.isEmpty then (w, .error .finished)
    else
      let w := if o.quiet then w else w.writeLine o [] w.space
      ((w.readLine? o false).getD w, .ok place)
  | .nextBehind =>
    match w.readLine? o true with
    | none => (w, .error .finished)
    | some w => (w, .ok place)
  | .quit printing status =>
    let w := if printing then
        (if o.quiet then w else w.writeLine o [] w.space).flush
      else w
    (w, .error (.stopped status))
  | .readFile path => ({ w with queue := w.queue ++ [.file path] }, .ok place)
  | .readLine path =>
    let lines := match w.readers.find? fun r => r.1 = path with
      | some (_, lines) => lines
      | none => ((w.disk.read (toString path)).toOption.map fun b => linesOf (ofBytes b)).getD []
    let w := { w with readers := (path, lines.tail) :: w.readers.filter fun r => r.1 != path }
    match lines with
    | [] => (w, .ok place)
    | line :: _ =>
      ({ w with queue := w.queue ++ [.text (line.takeWhile (· != '\n') ++ ['\n'])] }, .ok place)
  | .writeFile path => (w.writeLine o (World.outputName path) w.space, .ok place)
  | .writeLine path =>
    (w.write (World.outputName path) ((firstLine w.space).1 ++ ['\n']) false, .ok place)
  | .substitute s =>
    match s.regex.or w.lastRegex with
    | none => (w, .ok place)
    | some r =>
      let w := { w with lastRegex := some r }
      match s.apply? r w.space with
      | none => (w, .ok place)
      | some space =>
        let w := { w with space, replaced := true }
        let w := if s.printing then w.writeLine o [] space else w
        (match s.file with
          | some path => w.writeLine o (World.outputName path) space
          | none => w, .ok place)
  | .translate pairs =>
    let change (c : Char) : Char := ((pairs.find? fun p => p.1 = c).map (·.2)).getD c
    ({ w with space := w.space.map change }, .ok place)

/-- Applies the rules from a place on. -/
def World.apply (w : World) (o : Setting) (steps place : Nat) : World × Ending :=
  match steps with
  | 0 => (w, .endless)
  | steps + 1 =>
    match o.rules[place]? with
    | none => (w, .finished)
    | some rule =>
      let (selected, w) := w.selects place rule.selection
      if selected = rule.negated then
        let next := match rule.deed with
          | .openBlock => behindBlock o.rules o.rules.size (place + 1) 0
          | _ => place + 1
        w.apply o steps next
      else
        let inRange := !rule.negated && w.ranges.any fun p => p.1 = place
        match w.perform o (place + 1) inRange rule.deed with
        | (w, .ok next) => w.apply o steps next
        | (w, .error ending) => (w, ending)

/-- How many rules may be applied to a line. -/
def ruleLimit : Nat := 200000

/-- Applies the rules to all lines; `again` tells whether the space is to be worked on without
reading a line. Gives the status, or none if the rules do not end. -/
def World.cycles (w : World) (o : Setting) (steps : Nat) (again : Bool) : World × Option Nat :=
  match steps with
  | 0 => (w, none)
  | steps + 1 =>
    match if again then some w else w.readLine? o false with
    | none => (w, some 0)
    | some w =>
      match w.apply o ruleLimit 0 with
      | (w, .finished) =>
        let w := if o.quiet then w else w.writeLine o [] w.space
        w.flush.cycles o steps false
      | (w, .deleted) => w.flush.cycles o steps false
      | (w, .again) => w.flush.cycles o steps true
      | (w, .stopped status) => (w, some status)
      | (w, .endless) => (w, none)

/-- The files that rules write to. -/
def Setting.files (o : Setting) : List (List Char) :=
  (o.rules.toList.filterMap fun r => match r.deed with
    | .writeFile path | .writeLine path | .substitute { file := some path, .. } =>
      some (World.outputName path)
    | _ => none).filter (!·.isEmpty)

/-- The ranges that are open before the first line: those that start at the line zero. -/
def Setting.opened (o : Setting) : List (Nat × Option Nat) :=
  o.rules.toList.zipIdx.filterMap fun (r, index) => match r.selection with
    | .range (.line 0) _ => some (index, none)
    | _ => none

/-- Applies the rules to all lines. Gives the status, or none if the rules do not end. -/
def World.edit (w : World) (o : Setting) : World × Option Nat :=
  ({ w with ranges := o.opened ++ w.ranges }).cycles o (4 * w.input.length + ruleLimit) false

end ScriptSuite.Shell.Sed
