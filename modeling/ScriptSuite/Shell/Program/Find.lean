import ScriptSuite.Shell.Pattern
import ScriptSuite.Shell.Program.Basic
import ScriptSuite.Shell.Regex.Parser
import ScriptSuite.Shell.Tool.Listing

/-!
# Finding files

The program that goes through trees of files and asks the questions of an expression about each
place. Some of the questions do something: they print the path, remove the place or start a program.

## Main definitions

* `Shell.Question`: the expressions.
* `Shell.Question.Reader`: reading an expression.
* `Shell.Question.ask`: the answer about a place.
* `Shell.find`: the program.
-/

namespace ScriptSuite.Shell

/-- How a number is compared with a given one. -/
inductive Comparison where
  /-- It is less. -/
  | less
  /-- It is the same. -/
  | same
  /-- It is greater. -/
  | greater
deriving DecidableEq, Repr

/-- Whether a number is as it should be. -/
def Comparison.holds (c : Comparison) (n given : Nat) : Bool :=
  match c with
  | less => n < given
  | same => n = given
  | greater => given < n

/-- A question about a place. -/
inductive Question where
  /-- Always the same answer. -/
  | always (answer : Bool)
  /-- Whether the last component of the path, or all of it, is like a pattern. -/
  | named (whole ignoringCase : Bool) (pattern : Pattern)
  /-- Whether the path is what a regular expression stands for. -/
  | matching (r : Regex)
  /-- Whether it is one of the kinds. -/
  | kind (letters : List Char)
  /-- How large it is in units. -/
  | size (c : Comparison) (n unit : Nat)
  /-- How old it is in units of milliseconds. -/
  | age (c : Comparison) (n unit : Nat)
  /-- Whether it was changed after a moment. -/
  | newer (m : Moment)
  /-- Whether it is empty. -/
  | empty
  /-- Whether its mode has the bits: all of them, some of them, or just them. -/
  | mode (how : Char) (bits : Nat)
  /-- Prints the path and a character. -/
  | print (stop : Char)
  /-- Prints the facts in a format. -/
  | printf (format : List Char)
  /-- Removes the place. -/
  | delete
  /-- Starts a program for the place, in its directory or not. -/
  | start (inside : Bool) (fields : List (List Char))
  /-- Collects the place for a program. -/
  | collect (index : Nat)
  /-- Does not go into the directory. -/
  | prune
  /-- Ends the search. -/
  | quit
  /-- The opposite. -/
  | not (q : Question)
  /-- Both, the second one only if it matters. -/
  | and (q r : Question)
  /-- One of both, the second one only if it matters. -/
  | or (q r : Question)
  /-- Both, with the answer to the second one. -/
  | list (q r : Question)

namespace Question

/-- Whether a question does something that makes printing the path unneeded. -/
def acts : Question → Bool
  | print _ | printf _ | delete | start .. | collect _ => true
  | not q => q.acts
  | and q r | or q r | list q r => q.acts || r.acts
  | _ => false

/-! ### Reading -/

/-- What is read of an expression. -/
structure Progress where
  /-- The arguments that are left. -/
  rest : List (List Char)
  /-- The least depth. -/
  least : Nat := 0
  /-- The greatest depth. -/
  greatest : Option Nat := none
  /-- Whether what is in a directory comes first. -/
  depthFirst : Bool := false
  /-- The programs that collect places. -/
  collectors : List (List (List Char)) := []

/-- Reading an expression may fail with a complaint. -/
abbrev Reader := StateT Progress (Except (List Char))

namespace Reader

/-- The argument of a question. -/
def argument (name : List Char) : Reader (List Char) := do
  match (← get).rest with
  | a :: rest =>
    modify fun p => { p with rest }
    return a
  | [] => throw (chars "missing argument to \x60" ++ name ++ ['\''])

/-- A number with a sign that tells how it is compared. -/
def comparison (name text : List Char) : Reader (Comparison × Nat) := do
  let (c, ds) : Comparison × List Char := match text with
    | '+' :: s => (.greater, s)
    | '-' :: s => (.less, s)
    | s => (.same, s)
  if ds.isEmpty || !ds.all Char.isDigit then
    throw (chars "invalid argument \x60" ++ text ++ chars "' to \x60" ++ name ++ ['\''])
  return (c, decimal ds)

/-- A number of levels. -/
def levels (name : List Char) : Reader Nat := do
  let text ← argument name
  if text.isEmpty || !text.all Char.isDigit then
    throw (chars "Expected a positive decimal integer argument to " ++ name ++ chars ", but got " ++
      quoted text)
  return decimal text

/-- The pattern of a text in which backslashes quote. -/
def patternOf (text : List Char) : Pattern :=
  let rec marked : List Char → List (Bool × Char)
    | '\\' :: c :: s => (true, c) :: marked s
    | c :: s => (false, c) :: marked s
    | [] => []
  Pattern.ofMarked (text.length + 1) (marked text)

/-- A program with its arguments, up to a semicolon, or to a plus behind the mark of a place. -/
def command (name : List Char) : Reader Question := do
  let rest := (← get).rest
  let stop? := (rest.zip (([] : List Char) :: rest)).findIdx? fun (a, before) =>
    a = [';'] || (a = ['+'] && before = ['\x7b', '\x7d'])
  match stop? with
  | none => throw (chars "missing argument to \x60" ++ name ++ ['\''])
  | some i =>
    let fields := rest.take i
    if fields.isEmpty then throw (chars "missing argument to \x60" ++ name ++ ['\''])
    modify fun p => { p with rest := rest.drop (i + 1) }
    if rest[i]? = some [';'] then
      return .start (name = chars "-execdir" || name = chars "-okdir") fields
    else
      let index := (← get).collectors.length
      modify fun p => { p with collectors := p.collectors ++ [fields.dropLast] }
      return .collect index

/-- A size with its unit. -/
def size (text : List Char) : Reader Question := do
  let (body, unit) := match text.getLast? with
    | some 'c' => (text.dropLast, 1)
    | some 'w' => (text.dropLast, 2)
    | some 'b' => (text.dropLast, 512)
    | some 'k' => (text.dropLast, 1024)
    | some 'M' => (text.dropLast, 1048576)
    | some 'G' => (text.dropLast, 1073741824)
    | _ => (text, 512)
  let (c, n) ← comparison (chars "-size") body
  return .size c n unit

/-- The question of a name. -/
def question (d : Disk) (name : List Char) : Reader Question := do
  let pattern (whole ignoringCase : Bool) : Reader Question := do
    let text ← argument name
    let text := if ignoringCase then text.map Char.toLower else text
    return .named whole ignoringCase (patternOf text)
  match toString name with
  | "-name" => pattern false false
  | "-iname" => pattern false true
  | "-path" | "-wholename" => pattern true false
  | "-ipath" | "-iwholename" => pattern true true
  | "-regex" | "-iregex" =>
    match Regex.parse .basic true (← argument name) with
    | .ok r => return .matching (if name = chars "-iregex" then r.ignoringCase else r)
    | .error p => throw (chars p.message)
  | "-type" | "-xtype" =>
    let letters := (← argument name).filter (· != ',')
    match letters.find? fun c => !(['b', 'c', 'd', 'p', 'f', 'l', 's'].contains c) with
    | some c => throw (chars "Unknown argument to " ++ name ++ chars ": " ++ [c])
    | none => return .kind letters
  | "-size" => size (← argument name)
  | "-mtime" | "-atime" | "-ctime" =>
    let (c, n) ← comparison name (← argument name)
    return .age c n 86400000
  | "-mmin" | "-amin" | "-cmin" =>
    let (c, n) ← comparison name (← argument name)
    return .age c n 60000
  | "-newer" | "-anewer" | "-cnewer" =>
    let path ← argument name
    match d.locate (toString path) with
    | .ok way => return .newer (d.noteOf way).changed
    | .error f => throw (quoted path ++ chars s!": {f.reason}")
  | "-newermt" =>
    let text ← argument name
    match Moment.read? d.now text with
    | some m => return .newer m
    | none =>
      throw (chars "I cannot figure out how to interpret " ++ quoted text ++
        chars " as a date or time")
  | "-empty" => return .empty
  | "-perm" =>
    let text ← argument name
    let (how, text) := match text with
      | '-' :: s => ('-', s)
      | '/' :: s => ('/', s)
      | s => ('=', s)
    match Mode.change? false 0 text with
    | some bits => return .mode how bits
    | none => throw (chars "invalid mode " ++ quoted text)
  | "-executable" => return .mode '/' 0o111
  | "-readable" | "-writable" | "-true" => return .always true
  | "-false" => return .always false
  | "-print" => return .print '\n'
  | "-print0" => return .print '\x00'
  | "-printf" => return .printf (← argument name)
  | "-ls" => return .printf (chars "%i %k %M %n root root %s %p\n")
  | "-delete" =>
    modify fun p => { p with depthFirst := true }
    return .delete
  | "-exec" | "-execdir" | "-ok" | "-okdir" => command name
  | "-prune" => return .prune
  | "-quit" => return .quit
  | "-depth" | "-d" =>
    modify fun p => { p with depthFirst := true }
    return .always true
  | "-maxdepth" =>
    let n ← levels name
    modify fun p => { p with greatest := some n }
    return .always true
  | "-mindepth" =>
    let n ← levels name
    modify fun p => { p with least := n }
    return .always true
  | "-xdev" | "-mount" | "-noleaf" | "-daystart" | "-follow" | "-warn" | "-nowarn"
  | "-ignore_readdir_race" => return .always true
  | "-regextype" | "-user" | "-group" | "-uid" | "-gid" | "-links" =>
    discard (argument name)
    return .always true
  | _ =>
    if name.head? = some '-' then
      throw (chars "unknown predicate \x60" ++ name ++ ['\''])
    else
      throw (chars "paths must precede expression: \x60" ++ name ++ ['\''])

end Reader

mutual

/-- Reads questions between commas. -/
def readList (d : Disk) (steps : Nat) : Reader Question :=
  match steps with
  | 0 => throw []
  | steps + 1 => do
    let q ← readOr d steps
    match (← get).rest with
    | [','] :: rest =>
      modify fun p => { p with rest }
      return .list q (← readList d steps)
    | _ => return q

/-- Reads questions of which one has to hold. -/
def readOr (d : Disk) (steps : Nat) : Reader Question :=
  match steps with
  | 0 => throw []
  | steps + 1 => do
    let q ← readAnd d steps
    match (← get).rest with
    | name :: rest =>
      if name = chars "-o" || name = chars "-or" then
        modify fun p => { p with rest }
        return .or q (← readOr d steps)
      else return q
    | [] => return q

/-- Reads questions all of which have to hold. -/
def readAnd (d : Disk) (steps : Nat) : Reader Question :=
  match steps with
  | 0 => throw []
  | steps + 1 => do
    let q ← readOne d steps
    match (← get).rest with
    | [] => return q
    | name :: rest =>
      if name = chars "-a" || name = chars "-and" then
        modify fun p => { p with rest }
        return .and q (← readAnd d steps)
      else if [chars "-o", chars "-or", [','], [')']].contains name then return q
      else return .and q (← readAnd d steps)

/-- Reads a single question. -/
def readOne (d : Disk) (steps : Nat) : Reader Question :=
  match steps with
  | 0 => throw []
  | steps + 1 => do
    match (← get).rest with
    | [] => throw (chars "invalid expression; expected to find a question")
    | name :: rest =>
      modify fun p => { p with rest }
      if name = ['!'] || name = chars "-not" then return .not (← readOne d steps)
      else if name = ['('] then
        let q ← readList d steps
        match (← get).rest with
        | [')'] :: rest =>
          modify fun p => { p with rest }
          return q
        | _ =>
          throw (chars "invalid expression; I was expecting to find a ')' somewhere but did " ++
            chars "not see one.")
      else Reader.question d name

end

/-! ### Answers -/

/-- A place that questions are asked about. -/
structure Place where
  /-- The path that the search started with. -/
  root : List Char
  /-- The path. -/
  path : List Char
  /-- The way. -/
  way : List String
  /-- How deep it is below the start. -/
  depth : Nat

/-- What is known of a search. -/
structure Hunt where
  /-- The places for each of the programs that collect them, last one first. -/
  collected : List (Nat × List Char) := []
  /-- Whether the directory is not gone into. -/
  pruned : Bool := false
  /-- Whether the search is over. -/
  isDone : Bool := false
  /-- The status. -/
  status : Nat := 0

/-- The steps of a search. -/
abbrev Search := StateT Hunt Action

/-- What stands for a letter in a format of this program. -/
def fieldOf (p : Place) (f : PlaceFacts) (c : Char) : List Char :=
  match c with
  | 'p' => p.path
  | 'f' => basename p.path []
  | 'h' => dirname p.path
  | 'P' => ((p.path.drop p.root.length).dropWhile (· = '/'))
  | 'H' => p.root
  | 'd' => Nat.toDigits 10 p.depth
  | 'y' | 'Y' => [if f.kind = '-' then 'f' else f.kind]
  | 'm' => Mode.octal 1 f.mode
  | 'M' => f.modeText
  | 's' => Nat.toDigits 10 f.size
  | 'k' => Nat.toDigits 10 f.blocks
  | 'b' => Nat.toDigits 10 (2 * f.blocks)
  | 'n' => Nat.toDigits 10 f.links
  | 'u' | 'g' => chars "root"
  | 'U' | 'G' | 'i' => ['0']
  | 'l' => (f.link.map ofString).getD []
  | 't' => f.changed.format 100 (chars "%a %b %e %H:%M:%S.%N0 %Y")
  | '%' => ['%']
  | c => ['%', c]

/-- Facts in a format of this program. -/
def printed (p : Place) (f : PlaceFacts) : List Char → List Char
  | [] => []
  | '%' :: 'T' :: '@' :: rest => digits f.changed.seconds ++ chars ".0000000000" ++ printed p f rest
  | '%' :: 'T' :: c :: rest => f.changed.format 100 ['%', c] ++ printed p f rest
  | '%' :: c :: rest => fieldOf p f c ++ printed p f rest
  | '\\' :: 'n' :: rest => '\n' :: printed p f rest
  | '\\' :: 't' :: rest => '\t' :: printed p f rest
  | '\\' :: '0' :: rest => '\x00' :: printed p f rest
  | '\\' :: '\\' :: rest => '\\' :: printed p f rest
  | c :: rest => c :: printed p f rest

/-- A complaint of the program. -/
def complainOf (text : List Char) : Search Unit := do
  (write 2 (chars "find: " ++ text ++ ['\n']) : Action Unit)
  modify fun h => { h with status := 1 }

/-- Starts a program; true if it succeeds. -/
def started (host : Host) (fields : List (List Char)) : Search Bool := do
  match ← (host.start fields : Action (Option DiskFailure)) with
  | some f =>
    (write 2 (chars "find: " ++ quoted (fields.headD []) ++ chars s!": {f.reason}\n") : Action Unit)
    return false
  | none => return (← (get : Action Session)).status = 0

/-- A text with a path in the place of each mark. -/
def withPath (path : List Char) : List Char → List Char
  | '\x7b' :: '\x7d' :: s => path ++ withPath path s
  | c :: s => c :: withPath path s
  | [] => []

/-- The answer about a place. -/
def ask (host : Host) (p : Place) : Question → Search Bool
  | always answer => return answer
  | named whole ignoringCase pattern => do
    let text := if whole then p.path else basename p.path []
    return Pattern.holds pattern (if ignoringCase then text.map Char.toLower else text)
  | matching r => do
    let text := p.path.toArray
    return (r.matchAt? text 0).any fun m => m.stop = text.size
  | kind letters => do
    let d := (← (get : Action Session)).present
    let f := PlaceFacts.ofWay d p.path p.way ((d.tree.at? p.way).getD (.dir []))
    return letters.contains (if f.kind = '-' then 'f' else f.kind)
  | size c n unit => do
    let d := (← (get : Action Session)).present
    let f := PlaceFacts.ofWay d p.path p.way ((d.tree.at? p.way).getD (.dir []))
    return c.holds ((f.size + unit - 1) / unit) n
  | age c n unit => do
    let d := (← (get : Action Session)).present
    return c.holds ((d.now - (d.noteOf p.way).changed).toNat / unit) n
  | newer m => do
    let d := (← (get : Action Session)).disk
    return decide (m < (d.noteOf p.way).changed)
  | empty => do
    let d := (← (get : Action Session)).disk
    return match d.tree.at? p.way with
      | some (.file bytes _) => bytes.isEmpty
      | some (.dir entries) => entries.isEmpty
      | none => false
  | mode how bits => do
    let d := (← (get : Action Session)).disk
    let m := d.modeOf p.way
    return match how with
      | '-' => (m &&& bits) = bits
      | '/' => bits = 0 || (m &&& bits) != 0
      | _ => m = bits
  | print stop => do
    (say (p.path ++ [stop]) : Action Unit)
    return true
  | printf format => do
    let d := (← (get : Action Session)).present
    let f := PlaceFacts.ofWay d p.path p.way ((d.tree.at? p.way).getD (.dir []))
    (say (printed p f format) : Action Unit)
    return true
  | delete => do
    let d := (← (get : Action Session)).present
    match d.tree.at? p.way with
    | some (.dir (_ :: _)) =>
      complainOf (chars "cannot delete " ++ quoted p.path ++ chars ": Directory not empty")
      return false
    | some _ =>
      if p.depth = 0 && (p.path = ['.'] || p.way = d.cwd) then return true
      else
        match d.remove (Disk.pathOf p.way) with
        | .ok disk =>
          (modify fun s => { s with disk := { disk with now := s.disk.now } } : Action Unit)
          return true
        | .error f =>
          complainOf (chars "cannot delete " ++ quoted p.path ++ chars s!": {f.reason}")
          return false
    | none => return false
  | start inside fields => do
    let path := if inside then ['.', '/'] ++ basename p.path [] else p.path
    let fields := fields.map (withPath path)
    if inside then
      let before := (← (get : Action Session)).disk.cwd
      (modify fun s => { s with disk := { s.disk with cwd := p.way.dropLast } } : Action Unit)
      let ok ← started host fields
      (modify fun s => { s with disk := { s.disk with cwd := before } } : Action Unit)
      return ok
    else started host fields
  | collect index => do
    modify fun h => { h with collected := (index, p.path) :: h.collected }
    return true
  | prune => do
    modify fun h => { h with pruned := true }
    return true
  | quit => do
    modify fun h => { h with isDone := true }
    return true
  | not q => do return !(← ask host p q)
  | and q r => do
    if ← ask host p q then
      if (← get).isDone then return true else ask host p r
    else return false
  | or q r => do if ← ask host p q then return true else ask host p r
  | list q r => do
    discard (ask host p q)
    ask host p r

/-- How a tree is gone through. -/
structure Route where
  /-- The host. -/
  host : Host
  /-- The question about each place. -/
  question : Question
  /-- The least depth. -/
  least : Nat
  /-- The greatest depth. -/
  greatest : Option Nat
  /-- Whether what is in a directory comes first. -/
  depthFirst : Bool

mutual

/-- Goes through a tree. -/
def visit (r : Route) (p : Place) (steps : Nat) : Search Unit :=
  match steps with
  | 0 => return
  | steps + 1 => do
    if (← get).isDone then return
    let asked : Search Unit := do
      if r.least ≤ p.depth then discard (ask r.host p r.question)
    modify fun h => { h with pruned := false }
    unless r.depthFirst do asked
    let enters := !(← get).pruned && r.greatest.all (p.depth < ·)
    if enters then
      match (← (get : Action Session)).disk.tree.at? p.way with
      | some (.dir entries) => visitAll r p steps (entries.map (·.1))
      | _ => pure ()
    if r.depthFirst then
      unless (← get).isDone do asked

/-- Goes through the entries of a directory. -/
def visitAll (r : Route) (p : Place) (steps : Nat) (names : List String) : Search Unit :=
  match steps with
  | 0 => return
  | steps + 1 =>
    match names with
    | [] => return
    | name :: rest => do
      let path := (if p.path.getLast? = some '/' then p.path else p.path ++ ['/']) ++ ofString name
      let way := p.way ++ [name]
      if ((← (get : Action Session)).disk.tree.at? way).isSome then
        visit r { p with path, way, depth := p.depth + 1 } steps
      visitAll r p steps rest

end

end Question

open Question in
/-- Finds files. -/
def find : Program := fun host args => do
  let args := args.dropWhile fun a => [chars "-H", chars "-L", chars "-P"].contains a
  let isPath (a : List Char) : Bool :=
    !(a.head? = some '-' && 1 < a.length) && a != ['!'] && a != ['('] && a != [')'] && a != [',']
  let paths := args.takeWhile isPath
  let d := (← get).present
  let rest := args.drop paths.length
  let read : Except (List Char) (Question × Progress) :=
    if rest.isEmpty then .ok (.always true, { rest := [] })
    else (readList d (4 * rest.length + 4)).run { rest }
  let roots := if paths.isEmpty then [['.']] else paths
  match read with
  | .error text =>
    write 2 (chars "find: " ++ text ++ ['\n'])
    setStatus 1
  | .ok (_, { rest := extra :: _, .. }) =>
    write 2 (chars "find: invalid expression; you have used a binary operator '" ++ extra ++
      chars "' with nothing before it.\n")
    setStatus 1
  | .ok (q, p) =>
    let q := if q.acts then q else .and q (.print '\n')
    let input := (← get).input
    let route : Route := {
      host, question := q, least := p.least, greatest := p.greatest, depthFirst := p.depthFirst }
    let search : Question.Search Unit := do
      for root in roots do
        match (← (get : Action Session)).disk.locate (toString root) with
        | .ok way =>
          visit route { root, path := root, way, depth := 0 } 100000
        | .error f => complainOf (quoted root ++ chars s!": {f.reason}")
      for (fields, index) in p.collectors.zipIdx do
        let places := ((← get).collected.filter fun c => c.1 = index).reverse.map (·.2)
        unless places.isEmpty do
          unless ← started host (fields ++ places) do
            modify fun h => { h with status := 1 }
    let (_, hunt) ← search.run {}
    modify fun s => { s with input }
    setStatus hunt.status

end ScriptSuite.Shell
