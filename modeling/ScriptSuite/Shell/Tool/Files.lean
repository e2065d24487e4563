import ScriptSuite.Shell.Moment
import ScriptSuite.Shell.Tool.Options
import ScriptSuite.Text.Find

/-!
# Making and removing files

The tools that make and remove files and directories, and that change when a file was changed.

## Main definitions

* `Shell.changer`: a tool that changes one place after the other.
* `Shell.touch`, `Shell.mkdir`, `Shell.rm`, `Shell.rmdir`, `Shell.tee`, `Shell.truncate`,
  `Shell.mktemp`: the tools.
-/

namespace ScriptSuite.Shell

/-- What a tool does to a place: the disk behind it and what is told about it, or why it cannot be
done. -/
abbrev PlaceChange := Disk → List Char → Except (List Char) (Disk × List Char)

/-- A tool that changes one place after the other. -/
def changer (name : String) (change : PlaceChange) (paths : List (List Char)) (disk : Disk) :
    Effect :=
  paths.foldl (fun e path =>
    match change e.disk path with
    | .ok (disk, text) => { e with disk, out := e.out ++ text }
    | .error text =>
      { e with err := e.err ++ chars name ++ chars ": " ++ text ++ ['\n'], status := 1 }) { disk }

/-- What is said of a place when something cannot be done with it. -/
def because (deed : String) (path : List Char) (f : DiskFailure) : List Char :=
  quotedSubject deed path ++ chars s!": {f.reason}"

/-- Takes over a result, or says why there is none. -/
def orBecause {α : Type} (deed : String) (path : List Char) :
    Except DiskFailure α → Except (List Char) α
  | .ok a => .ok a
  | .error f => .error (because deed path f)

/-- The paths up to the end of each component of a path. -/
def stagesOf (path : List Char) : List (List Char) :=
  let parts := Path.segments path
  ((List.range parts.length).filter fun i => parts[i]? != some []).map fun i =>
    Text.join ['/'] (parts.take (i + 1))

/-! ### Times -/

/-- Makes files that do not exist, and changes when the others were changed. -/
def touch : Tool :=
  let forms := OptionForms.of "acd:fhmr:t:" [("no-create", 'c'), ("date", 'd'),
    ("no-dereference", 'h'), ("reference", 'r')]
  let forms := { forms with words := forms.words ++ [("time", 'T', OptionValue.required)] }
  withOptions "touch" forms 1 fun g _ disk =>
    let moment : Except (List Char) (Option Moment) :=
      match g.value? 'd', g.value? 't', g.value? 'r' with
      | some text, _, _ =>
        match Moment.read? disk.now text with
        | some m => .ok (some m)
        | none => .error (chars "invalid date format " ++ quoted text)
      | none, some text, _ =>
        match Moment.ofStamp? disk.now text with
        | some m => .ok (some m)
        | none => .error (chars "invalid date format " ++ quoted text)
      | none, none, some path =>
        match disk.locate (toString path) with
        | .ok way => .ok (some (disk.noteOf way).changed)
        | .error f => .error (because "failed to get attributes of " path f)
      | none, none, none => .ok none
    match moment with
    | .error text => { disk, status := 1, err := chars "touch: " ++ text ++ ['\n'] }
    | .ok moment =>
      if g.operands.isEmpty then usageMistake "touch" 1 (chars "missing file operand") disk
      else
        let change : PlaceChange := fun d path => do
          let p := toString path
          let stamped (d : Disk) (way : List String) : Disk :=
            d.withNote way { d.noteOf way with changed := moment.getD d.now }
          match d.locate p with
          | .ok way => return (stamped d way, [])
          | .error .missing =>
            if g.has 'c' then return (d, [])
            else if Disk.asksForDirectory p then throw (because "setting times of " path .missing)
            else
              let d ← orBecause "cannot touch " path (d.write p [])
              let way ← orBecause "cannot touch " path (d.locate p)
              return (stamped d way, [])
          | .error f => throw (because "cannot touch " path f)
        changer "touch" change g.operands disk

/-! ### Directories -/

/-- Makes directories. -/
def mkdir : Tool :=
  let forms := OptionForms.of "m:pvZ" [("mode", 'm'), ("parents", 'p'), ("verbose", 'v')]
  withOptions "mkdir" forms 1 fun g _ disk =>
    if g.operands.isEmpty then usageMistake "mkdir" 1 (chars "missing operand") disk
    else
      let account (path : List Char) : List Char :=
        if g.has 'v' then chars "mkdir: created directory " ++ quoted path ++ ['\n'] else []
      let make : PlaceChange := fun d path =>
        if g.has 'p' then
          (stagesOf path).foldlM (fun (d, told) stage => do
            match d.get (toString stage) with
            | .ok (.dir _) => return (d, told)
            | .ok (.file ..) =>
              throw (because "cannot create directory " stage
                (if stage.length < path.length then .notDirectory else .alreadyThere))
            | .error _ =>
              let d ← orBecause "cannot create directory " path (d.makeDirectory (toString stage))
              return (d, told ++ account stage)) (d, [])
        else if d.exists? (toString path) then
          .error (because "cannot create directory " path .alreadyThere)
        else do
          let d ← orBecause "cannot create directory " path (d.makeDirectory (toString path))
          return (d, account path)
      changer "mkdir" make g.operands disk

/-- Removes empty directories. -/
def rmdir : Tool :=
  let forms := OptionForms.of "pv" [("parents", 'p'), ("verbose", 'v')]
  let forms := { forms with
    words := forms.words ++ [("ignore-fail-on-non-empty", 'n', OptionValue.none)] }
  withOptions "rmdir" forms 1 fun g _ disk =>
    if g.operands.isEmpty then usageMistake "rmdir" 1 (chars "missing operand") disk
    else
      let delete (d : Disk) (path : List Char) : Except DiskFailure Disk :=
        match d.get (toString path) with
        | .ok (.dir []) => d.remove (toString path)
        | .ok (.dir _) => .error .notEmpty
        | .ok (.file ..) => .error .notDirectory
        | .error f => .error f
      let change : PlaceChange := fun d path =>
        let stages := if g.has 'p' then (stagesOf path).reverse else [path]
        stages.foldlM (fun (d, told) stage => do
          match delete d stage with
          | .ok d =>
            return (d, told ++ if g.has 'v' then
              chars "rmdir: removing directory, " ++ quoted stage ++ ['\n'] else [])
          | .error .notEmpty =>
            if g.has 'n' then return (d, told)
            else throw (because "failed to remove " stage .notEmpty)
          | .error f => throw (because "failed to remove " stage f)) (d, [])
      changer "rmdir" change g.operands disk

/-! ### Removing -/

mutual

/-- All paths in a tree, those in a directory in front of the directory itself, with whether they
are those of directories. -/
def pathsIn (path : List Char) : FileTree → List (List Char × Bool)
  | .file .. => [(path, false)]
  | .dir entries => pathsInAll path entries ++ [(path, true)]

/-- All paths in the entries of a directory. -/
def pathsInAll (path : List Char) : List (String × FileTree) → List (List Char × Bool)
  | [] => []
  | (name, t) :: rest => pathsIn (path ++ '/' :: ofString name) t ++ pathsInAll path rest

end

/-- Removes files. -/
def rm : Tool :=
  let forms := OptionForms.of "dfiIrRv" [("dir", 'd'), ("force", 'f'), ("recursive", 'r'),
    ("verbose", 'v')]
  let forms := { forms with words := forms.words ++
    [("interactive", '1', OptionValue.optional), ("one-file-system", '2', OptionValue.none),
      ("no-preserve-root", '3', OptionValue.none), ("preserve-root", '4', OptionValue.optional)] }
  withOptions "rm" forms 1 fun g _ disk =>
    let deep := g.has 'r' || g.has 'R'
    let delete : PlaceChange := fun d path =>
      let last := basename path []
      let removed (d : Disk) (t : FileTree) : Except (List Char) (Disk × List Char) := do
        let d ← orBecause "cannot remove " path (d.remove (toString path))
        let path := if 1 < path.length && path.getLast? = some '/' then path.dropLast else path
        let told := (pathsIn path t).flatMap fun (p, isDir) =>
          chars (if isDir then "removed directory " else "removed ") ++ quoted p ++ ['\n']
        return (d, if g.has 'v' then told else [])
      match d.get (toString path) with
      | .ok (.dir entries) =>
        if deep then
          if last = ['.'] || last = ['.', '.'] then
            .error (chars "refusing to remove '.' or '..' directory: skipping " ++ quoted path)
          else removed d (.dir entries)
        else if g.has 'd' then
          if entries.isEmpty then removed d (.dir [])
          else .error (because "cannot remove " path .notEmpty)
        else .error (because "cannot remove " path .isDirectory)
      | .ok t => removed d t
      | .error f =>
        if g.has 'f' && (f = .missing || f = .notDirectory) then .ok (d, [])
        else .error (because "cannot remove " path f)
    if g.operands.isEmpty && !g.has 'f' then usageMistake "rm" 1 (chars "missing operand") disk
    else changer "rm" delete g.operands disk

/-! ### Writing -/

/-- Copies its input to files and prints it. -/
def tee : Tool :=
  let forms := OptionForms.of "aip" [("append", 'a'), ("ignore-interrupts", 'i')]
  let forms := { forms with words := forms.words ++ [("output-error", 'o', OptionValue.optional)] }
  withOptions "tee" forms 1 fun g input disk =>
    let put : PlaceChange := fun d path => do
      if path = chars "/dev/null" then return (d, [])
      let p := toString path
      let before : List UInt8 := if g.has 'a' then ((d.read p).toOption).getD [] else []
      match d.write p (before ++ toBytes input) with
      | .ok d => return (d, [])
      | .error f => throw (quotedIfNeeded path ++ chars s!": {f.reason}")
    let extra := (g.operands.filter fun p => p = chars "/dev/stdout").flatMap fun _ => input
    let e := changer "tee" put (g.operands.filter fun p => p != chars "/dev/stdout") disk
    { e with out := input ++ extra, left := some [] }

/-- Gives files a length: what is missing is filled with zeros. -/
def truncate : Tool :=
  let forms := OptionForms.of "cor:s:" [("no-create", 'c'), ("size", 's'), ("reference", 'r')]
  withOptions "truncate" forms 1 fun g _ disk =>
    let sized (bytes : List UInt8) (n : Nat) : List UInt8 :=
      bytes.take n ++ List.replicate (n - bytes.length) 0
    match g.value? 's' with
    | none =>
      usageMistake "truncate" 1 (chars "you must specify either '--size' or '--reference'") disk
    | some size =>
      let sign := size.takeWhile fun c => ['+', '-', '<', '>', '/', '%'].contains c
      let text := size.drop sign.length
      let ds := text.takeWhile Char.isDigit
      let factor? : Option Nat := match toString (text.drop ds.length) with
        | "" => some 1
        | "K" | "k" | "KiB" => some 1024
        | "M" | "MiB" => some 1048576
        | "KB" | "kB" => some 1000
        | "MB" => some 1000000
        | _ => none
      match if ds.isEmpty then none else factor? with
      | none =>
        { disk, status := 1, err := chars "truncate: Invalid number: " ++ quoted size ++ ['\n'] }
      | some factor =>
        let n := decimal ds * factor
        if g.operands.isEmpty then usageMistake "truncate" 1 (chars "missing file operand") disk
        else
          let change : PlaceChange := fun d path => do
            let p := toString path
            match d.read p with
            | .ok bytes =>
              let length := bytes.length
              let target := match sign with
                | ['+'] => length + n
                | ['-'] => length - n
                | ['<'] => min length n
                | ['>'] => max length n
                | ['/'] => if n = 0 then length else length / n * n
                | ['%'] => if n = 0 then length else (length + n - 1) / n * n
                | _ => n
              return (← orBecause "cannot open " path (d.write p (sized bytes target)), [])
            | .error .missing =>
              if g.has 'c' then return (d, [])
              else
                let target := if sign = ['-'] || sign = ['<'] then 0 else n
                match d.write p (sized [] target) with
                | .ok d => return (d, [])
                | .error f =>
                  throw (quotedSubject "cannot open " path ++ chars s!" for writing: {f.reason}")
            | .error f =>
              throw (quotedSubject "cannot open " path ++ chars s!" for writing: {f.reason}")
          changer "truncate" change g.operands disk

/-- The letters of a number in names of files. -/
def nameLetters (count n : Nat) : List Char :=
  let letters := "abcdefghijklmnopqrstuvwxyzABCDEFGHIJKLMNOPQRSTUVWXYZ0123456789".toList
  ((List.range count).map fun i =>
    (letters[(n / Nat.pow 7 i + 11 * i) % 62]?).getD 'x').reverse

/-- Makes a new file, or directory, that did not exist, and prints its path. The last letters `X` of
a template are replaced by others. -/
def mktemp : Tool :=
  let forms := OptionForms.of "dp:qtu" [("directory", 'd'), ("quiet", 'q'), ("dry-run", 'u')]
  let forms := { forms with words := forms.words ++
    [("tmpdir", 'p', OptionValue.optional), ("suffix", 's', OptionValue.required)] }
  withOptions "mktemp" forms 1 fun g _ disk =>
    match g.operands with
    | _ :: _ :: _ => usageMistake "mktemp" 1 (chars "too many templates") disk
    | operands =>
      let template := operands.headD (chars "tmp.XXXXXXXXXX")
      let suffix := (g.value? 's').getD ((template.reverse.takeWhile (· != 'X')).reverse)
      let body := if (g.value? 's').isSome then template
        else template.take (template.length - suffix.length)
      let count := (body.reverse.takeWhile (· = 'X')).length
      let inTemp := operands.isEmpty || g.has 't' || g.has 'p'
      let given := (g.value? 'p').getD []
      let dir := if inTemp then (if given.isEmpty then chars "/tmp" else given) ++ ['/'] else []
      if count < 3 then
        { disk, status := 1
          err := chars "mktemp: too few X's in template " ++ quoted template ++ ['\n'] }
      else
        let candidates := (List.range 200).map fun n =>
          dir ++ body.take (body.length - count) ++
            nameLetters count (disk.notes.length + 31 * n + 5) ++ suffix
        match candidates.find? fun p => !disk.exists? (toString p) with
        | none => { disk, status := 1, err := chars "mktemp: failed to create file\n" }
        | some path =>
          let made := if g.has 'u' then .ok disk
            else if g.has 'd' then disk.makeDirectory (toString path)
            else disk.write (toString path) []
          match made with
          | .ok disk => { disk, out := path ++ ['\n'] }
          | .error f =>
            { disk, status := 1
              err := chars "mktemp: failed to create " ++
                chars (if g.has 'd' then "directory" else "file") ++ chars " via template " ++
                quoted (dir ++ template) ++ chars s!": {f.reason}\n" }

end ScriptSuite.Shell
