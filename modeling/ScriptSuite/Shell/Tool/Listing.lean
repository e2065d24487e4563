import ScriptSuite.Shell.Tool.Mode

/-!
# Listing files

The tools that tell which files there are and what is known of them.

## Main definitions

* `Shell.PlaceFacts`: what is told about a place.
* `Shell.ls`, `Shell.stat`: the tools.
-/

namespace ScriptSuite.Shell

/-- What is told about a place. -/
structure PlaceFacts where
  /-- The name that it is shown with. -/
  name : List Char
  /-- What is there. -/
  tree : FileTree
  /-- Who may do what with it. -/
  mode : Nat
  /-- When it was changed. -/
  changed : Moment
  /-- The path that it stands for, if it does. -/
  link : Option String

namespace PlaceFacts

/-- The facts of a place with a name. -/
def ofWay (d : Disk) (name : List Char) (way : List String) (t : FileTree) : PlaceFacts :=
  { name, tree := t, mode := d.modeOf way, changed := (d.noteOf way).changed
    link := (d.noteOf way).link }

/-- The number of bytes. -/
def size (f : PlaceFacts) : Nat :=
  match f.link, f.tree with
  | some target, _ => target.utf8ByteSize
  | none, .file bytes _ => bytes.length
  | none, .dir _ => 4096

/-- The number of names. -/
def links (f : PlaceFacts) : Nat :=
  match f.tree with
  | .file .. => 1
  | .dir entries => 2 + (entries.filter fun e => e.2.isDir).length

/-- The number of blocks of 1024 bytes. -/
def blocks (f : PlaceFacts) : Nat := if f.link.isSome then 0 else 4 * ((f.size + 4095) / 4096)

/-- The letter of its kind. -/
def kind (f : PlaceFacts) : Char :=
  if f.link.isSome then 'l' else if f.tree.isDir then 'd' else '-'

/-- Its mode in letters, with its kind in front. -/
def modeText (f : PlaceFacts) : List Char :=
  f.kind :: if f.link.isSome then chars "rwxrwxrwx" else Mode.text f.mode

/-- The mark behind its name that tells its kind. -/
def mark (g : Given) (f : PlaceFacts) : List Char :=
  if f.tree.isDir && (g.has 'F' || g.has 'p') then ['/']
  else if !g.has 'F' then []
  else if f.link.isSome then ['@']
  else if f.mode &&& 0o111 != 0 then ['*']
  else []

end PlaceFacts

namespace Listing

/-- Facts in the order of a listing. -/
def sorted (g : Given) (facts : List PlaceFacts) : List PlaceFacts :=
  let byName (a b : PlaceFacts) : Bool := dictionaryLe a.name b.name
  let facts := if g.has 'U' || g.has 'f' then facts else facts.mergeSort byName
  let facts := match g.lastOf? ['t', 'S', 'X', 'U'] with
    | some 't' => facts.mergeSort fun a b => b.changed ≤ a.changed
    | some 'S' => facts.mergeSort fun a b => b.size ≤ a.size
    | some 'X' =>
      let ending (f : PlaceFacts) : List Char :=
        if f.name.contains '.' then (f.name.reverse.takeWhile (· != '.')).reverse else []
      facts.mergeSort fun a b => dictionaryLe (ending a) (ending b)
    | _ => facts
  if g.has 'r' then facts.reverse else facts

/-- A text on the right of a column. -/
def onRight (width : Nat) (s : List Char) : List Char :=
  List.replicate (width - s.length) ' ' ++ s

/-- A name as it is shown. -/
def shown (g : Given) (f : PlaceFacts) : List Char :=
  let name := if g.has 'Q' then '"' :: f.name ++ ['"'] else f.name
  name ++ f.mark g

/-- The width of the widest text. -/
def widest (texts : List (List Char)) : Nat :=
  texts.foldl (fun w t => max w t.length) 0

/-- A size in a unit that makes it short. -/
def shortSize (n : Nat) : List Char :=
  let units := ['K', 'M', 'G', 'T']
  if n < 1024 then Nat.toDigits 10 n
  else
    let rec scale (n : Nat) : List Char → List Char
      | [] => Nat.toDigits 10 n
      | u :: rest =>
        if n < 10 * 1024 then
          let tenths := (10 * n + 1023) / 1024
          if tenths < 100 then
            Nat.toDigits 10 (tenths / 10) ++ '.' :: Nat.toDigits 10 (tenths % 10) ++ [u]
          else Nat.toDigits 10 ((n + 1023) / 1024) ++ [u]
        else if n < 1024 * 1024 then Nat.toDigits 10 ((n + 1023) / 1024) ++ [u]
        else scale ((n + 1023) / 1024) rest
    scale n units

/-- The lines of long form. -/
def longLines (g : Given) (now : Moment) (facts : List PlaceFacts) : List (List Char) :=
  let sizeText (f : PlaceFacts) : List Char :=
    if g.has 'h' then shortSize f.size else Nat.toDigits 10 f.size
  let wide := widest (facts.map sizeText)
  let links := widest (facts.map fun f => Nat.toDigits 10 f.links)
  facts.map fun f =>
    let isRecent := f.changed ≤ now && now - f.changed < 15778476000
    let time := f.changed.format 100 (if isRecent then chars "%b %e %H:%M" else chars "%b %e  %Y")
    let owner := if g.has 'n' then "0" else "root"
    let owners := (if g.has 'g' then [] else chars (owner ++ " ")) ++
      (if g.has 'o' then [] else chars (owner ++ " "))
    f.modeText ++ ' ' :: onRight links (Nat.toDigits 10 f.links) ++ ' ' :: owners ++
      onRight wide (sizeText f) ++ ' ' :: time ++ ' ' :: shown g f ++
      (f.link.map fun target => chars " -> " ++ ofString target).getD []

/-- Facts as a listing. -/
def block (g : Given) (now : Moment) (facts : List PlaceFacts) : List Char :=
  let long := g.has 'l' || g.has 'n' || g.has 'g' || g.has 'o'
  let sizes := facts.map fun f => Nat.toDigits 10 f.blocks
  let wide := widest sizes
  let line (f : PlaceFacts) (text : List Char) : List Char :=
    (if g.has 's' then onRight wide (Nat.toDigits 10 f.blocks) ++ [' '] else []) ++ text
  if long then ((facts.zip (longLines g now facts)).map fun (f, l) => line f l ++ ['\n']).flatten
  else if g.has 'm' && !g.has '1' then
    if facts.isEmpty then [] else Text.join [',', ' '] (facts.map (shown g)) ++ ['\n']
  else if (g.has 'C' || g.has 'x') && !g.has '1' then
    if facts.isEmpty then [] else Text.join [' ', ' '] (facts.map (shown g)) ++ ['\n']
  else (facts.map fun f => line f (shown g f) ++ ['\n']).flatten

/-- The entries of a directory that are listed. -/
def entries (g : Given) (d : Disk) (way : List String) (list : List (String × FileTree)) :
    List PlaceFacts :=
  let all := g.has 'a' || g.has 'f'
  let ofName (name : String) (w : List String) (t : FileTree) : PlaceFacts :=
    .ofWay d (ofString name) w t
  let own := if all && !(g.lastOf? ['a', 'A'] = some 'A') then
      [ofName "." way (.dir list),
        ofName ".." way.dropLast ((d.tree.at? way.dropLast).getD (.dir []))]
    else []
  let others := list.filter fun e => all || g.has 'A' ||
    (e.1.toList.head? != some '.' && !(g.has 'B' && e.1.toList.getLast? = some '~'))
  sorted g (own ++ others.map fun e => ofName e.1 (way ++ [e.1]) e.2)

/-- The blocks of a directory and, if asked for, of those in it. -/
def directory (g : Given) (d : Disk) (headed : Bool) (steps : Nat) (path : List Char)
    (way : List String) : List (List Char) :=
  match steps with
  | 0 => []
  | steps + 1 =>
    match d.tree.at? way with
    | some (.dir list) =>
      let facts := entries g d way list
      let long := g.has 'l' || g.has 'n' || g.has 'g' || g.has 'o' || g.has 's'
      let blocks := facts.foldl (fun n f => n + f.blocks) 0
      let total := if long then chars "total " ++ Nat.toDigits 10 blocks ++ ['\n'] else []
      let here := (if headed then path ++ [':', '\n'] else []) ++ total ++ block g d.now facts
      let inner := if !g.has 'R' then [] else
        facts.filter fun f => f.tree.isDir && f.name != ['.'] && f.name != ['.', '.']
      here :: inner.flatMap fun f =>
        let below := (if path.getLast? = some '/' then path else path ++ ['/']) ++ f.name
        directory g d true steps below (way ++ [toString f.name])
    | _ => []

end Listing

/-- Lists files and directories. -/
def ls : Tool :=
  let forms := OptionForms.of "aAbBcCdDfFgGhHiI:klLmnNopqQrRsStT:uUvw:xXZ1" [("all", 'a'),
    ("almost-all", 'A'), ("directory", 'd'), ("human-readable", 'h'), ("numeric-uid-gid", 'n'),
    ("no-group", 'G'), ("quote-name", 'Q'), ("reverse", 'r'), ("recursive", 'R'), ("size", 's'),
    ("ignore", 'I')]
  let forms := { forms with words := forms.words ++
    [("color", '2', OptionValue.optional), ("classify", 'F', .optional), ("sort", '3', .required),
      ("time", '4', .required), ("time-style", '5', .required), ("format", '6', .required),
      ("group-directories-first", '7', .none), ("full-time", '8', .none),
      ("indicator-style", '9', .required), ("quoting-style", '0', .required)] }
  withOptions "ls" forms 2 fun g _ disk =>
    let g := match (g.value? '3').map toString with
      | some "time" => { g with options := g.options ++ [('t', [])] }
      | some "size" => { g with options := g.options ++ [('S', [])] }
      | some "none" => { g with options := g.options ++ [('U', [])] }
      | some "extension" => { g with options := g.options ++ [('X', [])] }
      | _ => g
    let paths := if g.operands.isEmpty then [['.']] else g.operands
    let found := paths.map fun path => (path, disk.locate (toString path))
    let err := found.flatMap fun (path, r) => match r with
      | .error f => complaint "ls" (quotedSubject "cannot access " path) f
      | .ok way =>
        if Disk.asksForDirectory (toString path) && !(disk.tree.at? way).any (·.isDir) then
          complaint "ls" (quotedSubject "cannot access " path) .notDirectory
        else []
    let facts := found.filterMap fun (path, r) =>
      match r with
      | .ok way => (disk.tree.at? way).map fun t => (PlaceFacts.ofWay disk path way t, way)
      | .error _ => none
    let asFiles := facts.filter fun (f, _) => g.has 'd' || !f.tree.isDir
    let dirs := facts.filter fun (f, _) => !(g.has 'd' || !f.tree.isDir)
    let files := Listing.sorted g (asFiles.map (·.1))
    let order := Listing.sorted g (dirs.map (·.1))
    let headed := 1 < paths.length || g.has 'R'
    let blocks := (if files.isEmpty then [] else [Listing.block g disk.now files]) ++
      order.flatMap fun f =>
        let way := ((dirs.find? fun p => p.1.name = f.name).map (·.2)).getD []
        Listing.directory g disk headed 1000 f.name way
    { disk, out := Text.join ['\n'] blocks, err, status := if err.isEmpty then 0 else 2 }

/-- What stands for a letter in the format of facts. -/
def PlaceFacts.field (f : PlaceFacts) (c : Char) : List Char :=
  let number (n : Nat) : List Char := Nat.toDigits 10 n
  match c with
  | 'n' => f.name
  | 'N' => quoted f.name
  | 's' => number f.size
  | 'a' => Mode.octal 1 (if f.link.isSome then 0o777 else f.mode)
  | 'A' => f.modeText
  | 'F' =>
    chars (if f.link.isSome then "symbolic link" else if f.tree.isDir then "directory"
      else if f.size = 0 then "regular empty file" else "regular file")
  | 'f' => Nat.toDigits 16 ((if f.tree.isDir then 0o40000 else 0o100000) + f.mode)
  | 'U' | 'G' => chars "root"
  | 'u' | 'g' => ['0']
  | 'h' => number f.links
  | 'b' => number (2 * f.blocks)
  | 'B' => chars "512"
  | 'o' => chars "4096"
  | 'm' => ['/']
  | 't' | 'T' => ['0']
  | 'X' | 'Y' | 'Z' => digits f.changed.seconds
  | 'W' => ['0']
  | 'w' => ['-']
  | 'x' | 'y' | 'z' => f.changed.format 100 (chars "%F %T.%N %z")
  | '%' => ['%']
  | _ => ['?']

/-- Facts in a format. -/
def PlaceFacts.print (escapes : Bool) (f : PlaceFacts) : List Char → List Char
  | [] => []
  | '%' :: c :: rest => f.field c ++ print escapes f rest
  | '\\' :: 'n' :: rest => (if escapes then ['\n'] else ['\\', 'n']) ++ print escapes f rest
  | '\\' :: 't' :: rest => (if escapes then ['\t'] else ['\\', 't']) ++ print escapes f rest
  | '\\' :: '\\' :: rest => (if escapes then ['\\'] else ['\\', '\\']) ++ print escapes f rest
  | c :: rest => c :: print escapes f rest

/-- Tells what is known of places, in a format. -/
def stat : Tool :=
  let forms := OptionForms.of "Lfc:t" [("dereference", 'L'), ("file-system", 'f'),
    ("format", 'c'), ("terse", 't')]
  let forms := { forms with words := forms.words ++ [("printf", 'p', OptionValue.required)] }
  withOptions "stat" forms 1 fun g _ disk =>
    if g.operands.isEmpty then usageMistake "stat" 1 (chars "missing operand") disk
    else
      let show? (d : Disk) (path : List Char) : Except (List Char) (Disk × List Char) := do
        let way ← orBecause "cannot statx " path (d.locate (toString path))
        let f := PlaceFacts.ofWay d path way ((d.tree.at? way).getD (.dir []))
        match g.value? 'c', g.value? 'p' with
        | _, some format => return (d, f.print true format)
        | some format, none => return (d, f.print false format ++ ['\n'])
        | none, none =>
          return (d, f.print true (chars "  File: %n\n  Size: %s\tBlocks: %b\tIO Block: %o   %F\n"))
      changer "stat" show? g.operands disk

end ScriptSuite.Shell
