import ScriptSuite.Shell.Tool.Mode

/-!
# Copying and moving files

The tools that put files into other places. The last operand is the place, or a directory that the
files get their places in; several files need a directory.

## Main definitions

* `Shell.Placement`: where files go to.
* `Shell.copyTo`: a copy of a tree.
* `Shell.cp`, `Shell.mv`, `Shell.ln`: the tools.
-/

namespace ScriptSuite.Shell

/-- Where files go to. -/
structure Placement where
  /-- The files. -/
  sources : List (List Char)
  /-- The place, or the directory of the places. -/
  target : List Char
  /-- Whether it is a directory that they go into. -/
  into : Bool

namespace Placement

/-- Whether a path is that of a directory. -/
def isDirectory (d : Disk) (path : List Char) : Bool :=
  match d.get (toString path) with
  | .ok (.dir _) => true
  | _ => false

/-- Reads where files go to: the letter `t` names a directory, and `T` says that the last operand is
no directory to go into. -/
def read (name : String) (g : Given) (d : Disk) : Except Effect Placement :=
  let fail (text : List Char) : Except Effect Placement :=
    .error { disk := d, status := 1, err := chars name ++ chars ": " ++ text ++ ['\n'] }
  match g.value? 't' with
  | some target =>
    if g.operands.isEmpty then .error (usageMistake name 1 (chars "missing file operand") d)
    else
      match d.get (toString target) with
      | .ok (.dir _) => .ok { sources := g.operands, target, into := true }
      | .ok _ => fail (because "target directory " target .notDirectory)
      | .error f => fail (because "target directory " target f)
  | none =>
    match g.operands.reverse with
    | [] => .error (usageMistake name 1 (chars "missing file operand") d)
    | [only] =>
      let problem := chars "missing destination file operand after " ++ quoted only
      .error (usageMistake name 1 problem d)
    | target :: sources =>
      if g.has 'T' then
        match sources with
        | [_] => .ok { sources, target, into := false }
        | _ => .error (usageMistake name 1 (chars "extra operand " ++ quoted target) d)
      else if isDirectory d target then .ok { sources := sources.reverse, target, into := true }
      else if sources.length = 1 then .ok { sources, target, into := false }
      else
        match d.get (toString target) with
        | .ok _ => fail (because "target " target .notDirectory)
        | .error f => fail (because "target " target f)

/-- The place of a file. -/
def placeOf (p : Placement) (source : List Char) : List Char :=
  if !p.into then p.target
  else
    let name := basename source []
    if name = ['.'] || name = ['.', '.'] then p.target
    else if p.target.getLast? = some '/' then p.target ++ name
    else p.target ++ '/' :: name

/-- A tool that puts each file into its place. -/
def each (p : Placement) (name : String) (d : Disk)
    (act : Disk → List Char → List Char → Except (List Char) (Disk × List Char)) : Effect :=
  changer name (fun d source => act d source (p.placeOf source)) p.sources d

end Placement

/-! ### Copying -/

/-- What is told about a file that went to a place. -/
def arrow (source place : List Char) : List Char :=
  quoted source ++ chars " -> " ++ quoted place

mutual

/-- Copies a tree to a place; what is told about it stands behind it. -/
def copyTo (g : Given) (source place : List Char) (way : List String) (d : Disk) :
    FileTree → Except (List Char) (Disk × List Char)
  | .file bytes runnable => do
    let p := toString place
    let existing := d.get p
    let note := d.noteOf way
    let keeps := g.has 'p' || g.has 'a'
    let isOlder : Bool := match d.locate p with
      | .ok there => decide (note.changed ≤ (d.noteOf there).changed)
      | .error _ => false
    let told := if g.has 'v' then arrow source place ++ ['\n'] else []
    match existing with
    | .ok (.dir _) =>
      throw (chars "cannot overwrite directory " ++ quoted place ++ chars " with non-directory")
    | .ok (.file ..) => do
      if g.has 'n' then return (d, [])
      else if g.has 'u' && isOlder then return (d, [])
      else
        let d ← orBecause "cannot create regular file " place (d.write p bytes)
        let there ← orBecause "cannot create regular file " place (d.locate p)
        return (if keeps then (d.withNote there note).withMode there (d.modeOf way) else d, told)
    | .error .missing =>
      if Disk.asksForDirectory p then
        throw (because "cannot create regular file " place .notDirectory)
      let d ← orBecause "cannot create regular file " place (d.write p bytes)
      let there ← orBecause "cannot create regular file " place (d.locate p)
      let d := { d with tree := FileTree.put (.file bytes runnable) there d.tree }
      let d := if note.mode.isSome then d.withMode there (d.modeOf way) else d
      let kept := if keeps then d.withNote there { d.noteOf there with changed := note.changed }
        else d
      return (kept, told)
    | .error f => throw (because "cannot create regular file " place f)
  | .dir entries => do
    let p := toString place
    match d.get p with
    | .ok (.file ..) =>
      throw (chars "cannot overwrite non-directory " ++ quoted place ++ chars " with directory " ++
        quoted source)
    | .ok (.dir _) => copyAll g source place way d entries
    | .error _ =>
      let d ← orBecause "cannot create directory " place (d.makeDirectory p)
      let told := if g.has 'v' then arrow source place ++ ['\n'] else []
      let (d, more) ← copyAll g source place way d entries
      let there ← orBecause "cannot create directory " place (d.locate p)
      let note := d.noteOf way
      let d := if g.has 'p' || g.has 'a' then d.withNote there note else d
      return (d, told ++ more)

/-- Copies the entries of a directory into a place. -/
def copyAll (g : Given) (source place : List Char) (way : List String) (d : Disk) :
    List (String × FileTree) → Except (List Char) (Disk × List Char)
  | [] => .ok (d, [])
  | (name, t) :: rest => do
    let behind (path : List Char) : List Char :=
      (if path.getLast? = some '/' then path else path ++ ['/']) ++ ofString name
    let (d, told) ← copyTo g (behind source) (behind place) (way ++ [name]) d t
    let (d, more) ← copyAll g source place way d rest
    return (d, told ++ more)

end

/-- Copies files. -/
def cp : Tool :=
  let forms := OptionForms.of "abdfiHlLnPprRsS:t:Tuvxz" [("archive", 'a'), ("force", 'f'),
    ("no-clobber", 'n'), ("recursive", 'r'), ("target-directory", 't'),
    ("no-target-directory", 'T'), ("update", 'u'), ("verbose", 'v')]
  let forms := { forms with words := forms.words ++ [("preserve", 'p', OptionValue.optional)] }
  withOptions "cp" forms 1 fun g _ disk =>
    match Placement.read "cp" g disk with
    | .error e => e
    | .ok p =>
      let deep := g.has 'r' || g.has 'R' || g.has 'a'
      p.each "cp" disk fun d source place => do
        let way ← orBecause "cannot stat " source (d.locate (toString source))
        let there := (d.locate (toString place)).toOption
        match d.tree.at? way with
        | some (.dir entries) =>
          if !deep then throw (chars "-r not specified; omitting directory " ++ quoted source)
          else
            let parent := (d.locate (toString (dirname place))).toOption
            if there = some way && !p.into then
              throw (quoted source ++ chars " and " ++ quoted place ++ chars " are the same file")
            else if there.any (way.isPrefixOf ·) ||
                (there.isNone && parent.any (way.isPrefixOf ·)) then
              throw (chars "cannot copy a directory, " ++ quoted source ++
                chars ", into itself, " ++ quoted place)
            else copyTo g source place way d (.dir entries)
        | some t =>
          if there = some way then
            throw (quoted source ++ chars " and " ++ quoted place ++ chars " are the same file")
          else if Disk.asksForDirectory (toString source) then
            throw (because "cannot stat " source .notDirectory)
          else copyTo g source place way d t
        | none => throw (because "cannot stat " source .missing)

/-! ### Moving -/

/-- The notes of a disk after what is at a place has gone to another one. -/
def movedNotes (way there : List String) (notes : List (List String × PlaceNote)) :
    List (List String × PlaceNote) :=
  (notes.filter fun n => !there.isPrefixOf n.1).map fun (w, note) =>
    if way.isPrefixOf w then (there ++ w.drop way.length, note) else (w, note)

/-- Gives files another place. -/
def mv : Tool :=
  let forms := OptionForms.of "bfinS:t:Tuvz" [("force", 'f'), ("no-clobber", 'n'),
    ("target-directory", 't'), ("no-target-directory", 'T'), ("update", 'u'), ("verbose", 'v')]
  withOptions "mv" forms 1 fun g _ disk =>
    match Placement.read "mv" g disk with
    | .error e => e
    | .ok p =>
      p.each "mv" disk fun d source place => do
        let way ← orBecause "cannot stat " source (d.locate (toString source))
        let t := (d.tree.at? way).getD (.dir [])
        let target := toString place
        let fail (f : DiskFailure) : List Char :=
          chars "cannot move " ++ quoted source ++ chars " to " ++ quoted place ++
            chars s!": {f.reason}"
        let trimmed := toString ((place.reverse.dropWhile (· = '/')).reverse)
        if Disk.asksForDirectory target && !t.isDir && !d.exists? trimmed then
          throw (fail .notDirectory)
        let finish (there : List String) : Disk × List Char :=
          let notes := movedNotes way there d.notes
          let tree := FileTree.put t there (FileTree.erase way d.tree)
          let moved := { d with tree, notes }
          let moved := moved.withNote there (d.noteOf way)
          ((moved.changing way.dropLast).changing there.dropLast,
            if g.has 'v' then chars "renamed " ++ arrow source place ++ ['\n'] else [])
        match d.locate trimmed with
        | .ok there =>
          let existing := (d.tree.at? there).getD (.dir [])
          if there = way then
            throw (quoted source ++ chars " and " ++ quoted place ++ chars " are the same file")
          else if g.has 'n' then throw (chars "not replacing " ++ quoted place)
          else if g.has 'u' && (d.noteOf way).changed ≤ (d.noteOf there).changed then return (d, [])
          else if way.isPrefixOf there then
            throw (chars "cannot move " ++ quoted source ++
              chars " to a subdirectory of itself, " ++ quoted place)
          else
            match existing, t with
            | .file .., .dir _ =>
              throw (chars "cannot overwrite non-directory " ++ quoted place ++
                chars " with directory " ++ quoted source)
            | .dir _, .file .. =>
              throw (chars "cannot overwrite directory " ++ quoted place ++
                chars " with non-directory")
            | .dir (_ :: _), .dir _ => throw (because "cannot overwrite " place .notEmpty)
            | _, _ => return finish there
        | .error _ =>
          match d.locate (toString (dirname place)) with
          | .error f => throw (fail f)
          | .ok dir =>
            if way.isPrefixOf dir then
              throw (chars "cannot move " ++ quoted source ++
                chars " to a subdirectory of itself, " ++ quoted place)
            else if !((d.tree.at? dir).any (·.isDir)) then throw (fail .notDirectory)
            else return finish (dir ++ [toString (basename place [])])

/-! ### Second names -/

/-- Gives files a second name: what is there by then can be found under both. -/
def ln : Tool :=
  let forms := OptionForms.of "bdfFiLnPrsS:t:Tv" [("force", 'f'), ("symbolic", 's'),
    ("verbose", 'v'), ("target-directory", 't'), ("no-target-directory", 'T'),
    ("no-dereference", 'n')]
  withOptions "ln" forms 1 fun g _ disk =>
    let g := match g.operands with
      | [only] => if g.has 't' then g else { g with operands := [only, ['.']] }
      | _ => g
    match Placement.read "ln" g disk with
    | .error e => e
    | .ok p =>
      let kind := if g.has 's' then "symbolic" else "hard"
      p.each "ln" disk fun d source place => do
        let base := if g.has 's' && source.head? != some '/' then
            (dirname place ++ '/' :: source) else source
        let t? := (d.get (toString base)).toOption
        if !g.has 's' then
          match d.get (toString source) with
          | .ok (.dir _) => throw (source ++ chars ": hard link not allowed for directory")
          | .error f => throw (because "failed to access " source f)
          | .ok _ => pure ()
        if d.exists? (toString place) && !g.has 'f' then
          throw (because s!"failed to create {kind} link " place .alreadyThere)
        let d ← orBecause s!"failed to create {kind} link " place (d.write (toString place) [])
        let there ← orBecause s!"failed to create {kind} link " place (d.locate (toString place))
        let d := match t? with
          | some t => { d with tree := FileTree.put t there d.tree }
          | none => d
        let d := if g.has 's' then
            d.withNote there { d.noteOf there with link := some (toString source) } else d
        return (d, if g.has 'v' then
          quoted place ++ chars (if g.has 's' then " -> " else " => ") ++ quoted source ++ ['\n']
          else [])

end ScriptSuite.Shell
