import ScriptSuite.Shell.Tool.Files

/-!
# Tools on paths

The tools that take paths apart and tell where they lead.

## Main definitions

* `Shell.wayOf`: where a path leads, though some of it may be missing.
* `Shell.realpath`, `Shell.readlink`, `Shell.basenames`, `Shell.dirnames`: the tools.
-/

namespace ScriptSuite.Shell

/-- How much of a path has to be there. -/
inductive Needed where
  /-- All of it. -/
  | all
  /-- All but the last name. -/
  | front
  /-- Nothing. -/
  | nothing
deriving DecidableEq, Repr

/-- The way of a path by its names alone. -/
def lexicalWay (d : Disk) (path : List Char) : List String :=
  let start := if path.head? = some '/' then [] else d.cwd
  (Path.segments path).foldl (fun way segment =>
    if segment = [] || segment = ['.'] then way
    else if segment = ['.', '.'] then way.dropLast
    else way ++ [toString segment]) start

/-- Where a path leads, though some of it may be missing. -/
def wayOf (d : Disk) (needed : Needed) (path : List Char) : Except DiskFailure (List String) :=
  if path.isEmpty then .error .missing
  else
    let linked (way : List String) : List String :=
      match (d.noteOf way).link with
      | some target => lexicalWay { d with cwd := way.dropLast } (ofString target)
      | none => way
    match d.locate (toString path) with
    | .ok way => .ok (linked way)
    | .error f =>
      match needed with
      | .all => .error f
      | .nothing => .ok (lexicalWay d path)
      | .front =>
        let trimmed := (path.reverse.dropWhile (· = '/')).reverse
        match d.locate (toString (dirname trimmed)) with
        | .ok way =>
          if (d.tree.at? way).any (·.isDir) then .ok (way ++ [toString (basename trimmed [])])
          else .error .notDirectory
        | .error f => .error f

/-- A way from a directory to another place. -/
def relativeWay (base way : List String) : List Char :=
  let common := ((base.zip way).takeWhile fun (a, b) => a = b).length
  let parts := List.replicate (base.length - common) ['.', '.'] ++ (way.drop common).map ofString
  if parts.isEmpty then ['.'] else Text.join ['/'] parts

/-- Prints where paths lead from the root. -/
def realpath : Tool :=
  let forms := OptionForms.of "eLmPqsz" [("canonicalize-existing", 'e'),
    ("canonicalize-missing", 'm'), ("quiet", 'q'), ("strip", 's'), ("no-symlinks", 's'),
    ("zero", 'z')]
  let forms := { forms with words := forms.words ++
    [("relative-to", 'r', OptionValue.required), ("relative-base", 'b', .required)] }
  withOptions "realpath" forms 1 fun g _ disk =>
    if g.operands.isEmpty then usageMistake "realpath" 1 (chars "missing operand") disk
    else
      let needed : Needed := if g.has 'e' then .all else if g.has 'm' then .nothing else .front
      let show? : PlaceChange := fun d path =>
        match wayOf d needed path with
        | .ok way =>
          let text := match g.value? 'r' with
            | some base => relativeWay (lexicalWay d base) way
            | none => ofString (Disk.pathOf way)
          .ok (d, text ++ [if g.has 'z' then '\x00' else '\n'])
        | .error f => .error (quotedIfNeeded path ++ chars s!": {f.reason}")
      let e := changer "realpath" show? g.operands disk
      { e with err := if g.has 'q' then [] else e.err }

/-- Prints the paths that others stand for, or where they lead from the root. -/
def readlink : Tool :=
  let forms := OptionForms.of "efmnqsvz" [("canonicalize", 'f'), ("canonicalize-existing", 'e'),
    ("canonicalize-missing", 'm'), ("no-newline", 'n'), ("quiet", 'q'), ("silent", 's'),
    ("zero", 'z')]
  withOptions "readlink" forms 1 fun g _ disk =>
    if g.operands.isEmpty then usageMistake "readlink" 1 (chars "missing operand") disk
    else
      let stop := if g.has 'n' && g.operands.length = 1 then []
        else if g.has 'z' then ['\x00'] else ['\n']
      let show? : PlaceChange := fun d path =>
        let found : Except DiskFailure (List Char) := match g.lastOf? ['e', 'f', 'm'] with
          | none =>
            match (d.locate (toString path)).toOption.bind fun way => (d.noteOf way).link with
            | some target => .ok (ofString target)
            | none => .error .missing
          | some c =>
            let needed : Needed := if c = 'e' then .all else if c = 'm' then .nothing else .front
            (wayOf d needed path).map fun way => ofString (Disk.pathOf way)
        match found with
        | .ok text => .ok (d, text ++ stop)
        | .error f => .error (quotedIfNeeded path ++ chars s!": {f.reason}")
      let e := changer "readlink" show? g.operands disk
      { e with err := if g.has 'v' then e.err else [] }

/-- Prints the last components of paths. -/
def basenames : Tool :=
  let forms := OptionForms.of "+as:z" [("multiple", 'a'), ("suffix", 's'), ("zero", 'z')]
  withOptions "basename" forms 1 fun g _ disk =>
    let stop := if g.has 'z' then '\x00' else '\n'
    let many := g.has 'a' || g.has 's'
    match g.operands with
    | [] => usageMistake "basename" 1 (chars "missing operand") disk
    | paths =>
      if many then
        { disk, out := paths.flatMap fun p => basename p ((g.value? 's').getD []) ++ [stop] }
      else
        match paths with
        | [path] => { disk, out := basename path [] ++ [stop] }
        | [path, suffix] => { disk, out := basename path suffix ++ [stop] }
        | paths =>
          usageMistake "basename" 1 (chars "extra operand " ++ quoted ((paths[2]?).getD [])) disk

/-- Prints paths without their last components. -/
def dirnames : Tool :=
  withOptions "dirname" (.of "z" [("zero", 'z')]) 1 fun g _ disk =>
    let stop := if g.has 'z' then '\x00' else '\n'
    if g.operands.isEmpty then usageMistake "dirname" 1 (chars "missing operand") disk
    else { disk, out := g.operands.flatMap fun p => dirname p ++ [stop] }

end ScriptSuite.Shell
