import ScriptSuite.Shell.Sed.Edit
import ScriptSuite.Shell.Sed.Parser
import ScriptSuite.Shell.Tool.Options

/-!
# The stream editor

The tool that applies an editing script to files or its input.
-/

namespace ScriptSuite.Shell

namespace Sed

/-- The options. -/
def forms : OptionForms :=
  .of "ne:f:Eri::sl:uz" [("quiet", 'n'), ("silent", 'n'), ("expression", 'e'), ("file", 'f'),
    ("regexp-extended", 'E'), ("in-place", 'i'), ("separate", 's'), ("line-length", 'l'),
    ("unbuffered", 'u'), ("null-data", 'z'), ("zero-terminated", 'z'), ("posix", 'u'),
    ("debug", 'u'), ("sandbox", 'u'), ("follow-symlinks", 'u')]

/-- How the tool is used. -/
def usage : List String :=
  ["Usage: sed [OPTION]... \x7bscript-only-if-no-other-script\x7d [input-file]..."]

/-- The effect of a complaint with the account of how the tool is used behind it. -/
def misused (complaint : List Char) (disk : Disk) : Effect :=
  { disk, status := 1, err := complaint ++ usage.flatMap fun l => l.toList ++ ['\n'] }

/-- Where a mistake is found: the number of the expression and that of the character in it. -/
def placeOfMistake (number : Nat) (used : Nat) : List (List Char) → Nat × Nat
  | [] => (number, used)
  | e :: rest =>
    if used ≤ e.length || rest.isEmpty then (number, used)
    else placeOfMistake (number + 1) (used - e.length - 1) rest

/-- The complaint about a mistake in expressions. -/
def Mistake.account (m : Mistake) (expressions : List (List Char)) : List Char :=
  let place (number used : Nat) : List Char :=
    chars s!"-e expression #{number}, char {used}: "
  let whole := (Text.join ['\n'] expressions).length
  chars "sed: " ++ (match m.left with
    | some left =>
      let (number, used) := placeOfMistake 1 (whole - left) expressions
      place number used
    | none => if (chars "can't find").isPrefixOf m.message then [] else place 1 0) ++
    m.message ++ ['\n']

/-- Whether a rule uses an expression that no rule has given before. -/
def lacksExpression (rules : List Rule) : Bool :=
  let regexOf (r : Rule) : Option (Option Regex) :=
    match r.selection, r.deed with
    | .one (.matching r), _ | .range (.matching r) _, _ => some r
    | _, .substitute s => some s.regex
    | _, _ => none
  match rules.findSome? regexOf with
  | some none => true
  | _ => false

/-- The lines of a file. -/
def inputLines (lineEnd : Char) (file text : List Char) : List InputLine :=
  let parts := Text.splitOn [lineEnd] text
  let full := parts.dropLast.map fun t => { text := t, ended := true, file }
  match parts.getLast? with
  | some (c :: s) => full ++ [{ text := c :: s, ended := false, file }]
  | _ => full

/-- What was written to an output. -/
def World.outputText (w : World) (name : List Char) : List Char :=
  ((w.outputs.find? fun o => o.name = name).map fun o => o.written.reverse).getD []

/-- The disk after what was written to files. -/
def World.written (w : World) (files : List (List Char)) : Disk :=
  files.foldl (fun d path =>
    if path = chars "/dev/stderr" then d
    else ((d.write (toString path) (toBytes (w.outputText path))).toOption).getD d) w.disk

/-- The name of the copy of a file: a star in the suffix stands for the name. -/
def backupName (suffix path : List Char) : List Char :=
  if suffix.contains '*' then suffix.flatMap fun c => if c = '*' then path else [c]
  else path ++ suffix

end Sed

/-- How long a program takes that does not end. -/
def forever : Nat := 1000000000000000

/-- Edits lines. -/
def sed : Tool := fun args input disk =>
  match Sed.forms.read args with
  | .error mistake => Sed.misused (chars "sed: " ++ mistake.message ++ ['\n']) disk
  | .ok g =>
    let sources := g.options.filter fun o => o.1 = 'e' || o.1 = 'f'
    let (sources, paths) :=
      if sources.isEmpty then (g.operands.take 1 |>.map fun a => ('e', a), g.operands.drop 1)
      else (sources, g.operands)
    let opened := sources.map fun (kind, value) =>
      if kind = 'f' then (readFile input disk value).map fun text =>
        if text.getLast? = some '\n' then text.dropLast else text
      else .ok value
    let unreadable := (sources.zip opened).findSome? fun ((_, path), r) => match r with
      | .error f => some (path, f)
      | .ok _ => none
    match sources, unreadable with
    | [], _ => Sed.misused [] disk
    | _, some (path, f) =>
      { disk, status := 1
        err := chars "sed: couldn't open file " ++ path ++ chars s!": {f.reason}\n" }
    | _, none =>
      let expressions := opened.filterMap Except.toOption
      let dialect : Regex.Dialect := if g.has 'E' || g.has 'r' then .extended else .basic
      match Sed.parse dialect (Text.join ['\n'] expressions) with
      | .error mistake => { disk, status := 1, err := mistake.account expressions }
      | .ok rules =>
        if Sed.lacksExpression rules then
          { disk, status := 1
            err := chars "sed: -e expression #1, char 0: no previous regular expression\n" }
        else
          let lineEnd := if g.has 'z' then '\x00' else '\n'
          let silent := (expressions.head?.map fun e => e = ['#', 'n'] ||
            ['#', 'n', '\n'].isPrefixOf e).getD false
          let o : Sed.Setting := {
            rules := rules.toArray, quiet := g.has 'n' || silent, lineEnd
            width := ((g.value? 'l').map decimal).getD 70 }
          let r := readAll "sed" (fun p => chars "can't read " ++ p) paths input disk
          let status := if r.err.isEmpty then 0 else 2
          let texts := r.texts.map fun (path, text) => (if path.isEmpty then ['-'] else path, text)
          let start (disk : Disk) (lines : List Sed.InputLine) : Sed.World :=
            { disk, input := lines }
          if g.has 'i' then
            texts.foldl (fun e (path, text) =>
              let (w, ended) := (start e.disk (Sed.inputLines lineEnd path text)).edit o
              let d := w.written o.files
              let save (d : Disk) (path text : List Char) : Disk :=
                ((d.write (toString path) (toBytes text)).toOption).getD d
              let suffix := (g.value? 'i').getD []
              let d := if suffix.isEmpty then d else save d (Sed.backupName suffix path) text
              { e with
                disk := save d path (w.outputText [])
                status := max e.status (ended.getD 0)
                time := if ended.isNone then forever else e.time })
              { disk, err := r.err, status }
          else
            let groups := texts.map fun (path, text) => Sed.inputLines lineEnd path text
            let groups := if g.has 's' then groups else [groups.flatten]
            let (w, ended) := groups.foldl (fun (w, ended) lines =>
              match ended with
              | some 0 =>
                ({ w with input := lines, number := 0 } : Sed.World).edit o
              | _ => (w, ended)) (start disk [], some 0)
            { disk := w.written o.files
              out := w.outputText []
              err := r.err ++ w.outputText (chars "/dev/stderr")
              status := match ended with
                | some 0 => status
                | some n => n
                | none => 0
              time := if ended.isNone then forever else 0
              left := r.left }

end ScriptSuite.Shell
