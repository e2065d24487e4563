import ScriptSuite.Path
import ScriptSuite.Text.Utf8

/-!
# Files and directories

A program sees a tree of directories and files and works in one of the directories. All of it is a
plain value: to change a file is to make a new tree.

Names in a path are looked up one after the other, starting at the root or in the working
directory. Every place in front of a slash must be a directory, and `..` leads to the directory
above, or to the root itself at the root.

## Main definitions

* `FileTree`: a file or a directory with what is in it.
* `Disk`: the whole tree and the working directory.
* `DiskFailure`: why a place cannot be used.
* `Disk.locate`, `Disk.readText`, `Disk.write`: look-up, reading and writing.
-/

namespace ScriptSuite

/-- A file, or a directory with what is in it. -/
inductive FileTree where
  /-- A file with its bytes; `runnable` if it may be run as a program. -/
  | file (bytes : List UInt8) (runnable : Bool)
  /-- A directory with its entries by name. -/
  | dir (entries : List (String × FileTree))

instance : Inhabited FileTree := ⟨.dir []⟩

/-- Why a place cannot be used. -/
inductive DiskFailure where
  /-- There is nothing of this name. -/
  | missing
  /-- The file may not be used in this way. -/
  | denied
  /-- Something that is no directory stands where a directory must be. -/
  | notDirectory
  /-- A directory stands where a file must be. -/
  | isDirectory
  /-- There is something of this name already. -/
  | alreadyThere
  /-- The directory is not empty. -/
  | notEmpty
  /-- The file is no program. -/
  | noProgram
  /-- A name is longer than 255 bytes. -/
  | nameTooLong
  /-- The path holds the character zero. -/
  | zeroInPath
  /-- An argument of a program holds the character zero. -/
  | zeroInArgument
  /-- The file holds bytes that are no text. -/
  | notText
deriving DecidableEq, Repr

namespace DiskFailure

/-- What a failure is called. -/
def reason : DiskFailure → String
  | missing => "No such file or directory"
  | denied => "Permission denied"
  | notDirectory => "Not a directory"
  | isDirectory => "Is a directory"
  | alreadyThere => "File exists"
  | notEmpty => "Directory not empty"
  | noProgram => "Exec format error"
  | nameTooLong => "File name too long"
  | zeroInPath => "file name contained an unexpected NUL byte"
  | zeroInArgument => "nul byte found in provided data"
  | notText => "stream did not contain valid UTF-8"

/-- The number of a failure, if the system knows it. -/
def number? : DiskFailure → Option Nat
  | missing => some 2
  | noProgram => some 8
  | denied => some 13
  | alreadyThere => some 17
  | notDirectory => some 20
  | isDirectory => some 21
  | nameTooLong => some 36
  | notEmpty => some 39
  | zeroInPath | zeroInArgument | notText => none

/-- The text of a failure. -/
def message (f : DiskFailure) : String :=
  match f.number? with
  | some n => s!"{f.reason} (os error {n})"
  | none => f.reason

end DiskFailure

namespace FileTree

/-- The entry of a directory. -/
def child? (name : String) : FileTree → Option FileTree
  | file .. => none
  | dir entries => (entries.find? fun e => e.1 = name).map (·.2)

/-- Whether it is a directory. -/
def isDir : FileTree → Bool
  | dir _ => true
  | file .. => false

/-- The part of a tree at the end of a way through directories. -/
def at? : List String → FileTree → Option FileTree
  | [], t => some t
  | name :: rest, t => (t.child? name).bind (at? rest)

/-- The entries with the given one in the place of the one of its name, or at the end. -/
def setEntry (name : String) (t : FileTree) : List (String × FileTree) → List (String × FileTree)
  | [] => [(name, t)]
  | e :: rest => if e.1 = name then (name, t) :: rest else e :: setEntry name t rest

/-- The tree with `t` at the end of a way; directories on the way that do not exist are made. -/
def put (t : FileTree) : List String → FileTree → FileTree
  | [], _ => t
  | name :: rest, dir entries =>
    dir (setEntry name (put t rest (((dir entries).child? name).getD (dir []))) entries)
  | name :: rest, file .. => dir [(name, put t rest (dir []))]

/-- The tree without what is at the end of a way. -/
def erase : List String → FileTree → FileTree
  | [name], dir entries => dir (entries.filter fun e => e.1 != name)
  | name :: rest, dir entries =>
    match (dir entries).child? name with
    | some t => dir (setEntry name (erase rest t) entries)
    | none => dir entries
  | _, t => t

mutual

/-- All files with the ways to them. -/
def files (way : List String) : FileTree → List (List String × List UInt8)
  | file bytes _ => [(way, bytes)]
  | dir entries => filesOf way entries

/-- All files in the entries of a directory. -/
def filesOf (way : List String) : List (String × FileTree) → List (List String × List UInt8)
  | [] => []
  | (name, t) :: rest => t.files (way ++ [name]) ++ filesOf way rest

end

end FileTree

/-- What is known of a place besides what is there. -/
structure PlaceNote where
  /-- When it was changed, in milliseconds from the start of the year 1970. -/
  changed : Int
  /-- What may be done with it, if that is not the usual. -/
  mode : Option Nat := none
  /-- The path that it stands for, if it does. -/
  link : Option String := none
deriving Repr

/-- A tree of files with a working directory. -/
structure Disk where
  /-- What is below the root. -/
  tree : FileTree
  /-- The way from the root to the working directory. -/
  cwd : List String
  /-- The time, in milliseconds from the start of the year 1970. -/
  now : Int := 1748779201000
  /-- What is known of places, the one changed last in front. -/
  notes : List (List String × PlaceNote) := []
  /-- What nobody may do with new places, as bits. -/
  mask : Nat := 0o022

namespace Disk

/-- What is known of a place; a place without a note was there from the start. -/
def noteOf (d : Disk) (way : List String) : PlaceNote :=
  ((d.notes.find? fun n => n.1 = way).map (·.2)).getD { changed := 1748779200000 }

/-- The disk with a note of a place. -/
def withNote (d : Disk) (way : List String) (note : PlaceNote) : Disk :=
  { d with notes := (way, note) :: d.notes.filter fun n => n.1 != way }

/-- The disk after a place was changed. -/
def changing (d : Disk) (way : List String) : Disk :=
  d.withNote way { d.noteOf way with changed := d.now }

/-- The disk with something new at a place, which changes the directory as well. -/
def placing (d : Disk) (way : List String) (t : FileTree) : Disk :=
  let d := { d with tree := FileTree.put t way d.tree }
  let all := if t.isDir then 0o777 else 0o666
  let mode := if d.mask = 0o022 then none else some (all - (all &&& d.mask))
  (d.withNote way { changed := d.now, mode }).changing way.dropLast

/-- The path of a place. -/
def pathOf (way : List String) : String :=
  "/" ++ "/".intercalate way

/-- The path of the working directory. -/
def cwdPath (d : Disk) : String := pathOf d.cwd

/-- Takes one name of a path, from a place that exists. -/
def enter (d : Disk) (way : List String) (segment : List Char) :
    Except DiskFailure (List String) :=
  match d.tree.at? way with
  | some (.dir entries) =>
    if segment = [] ∨ segment = ['.'] then .ok way
    else if segment = ['.', '.'] then .ok way.dropLast
    else
      let name := String.ofList segment
      if 255 < name.utf8ByteSize then .error .nameTooLong
      else if entries.any fun e => e.1 = name then .ok (way ++ [name])
      else .error .missing
  | some (.file ..) => .error .notDirectory
  | none => .error .missing

/-- The way to the place that a path names. -/
def locate (d : Disk) (path : String) : Except DiskFailure (List String) :=
  if path.isEmpty then .error .missing
  else if path.toList.contains '\x00' then .error .zeroInPath
  else
    (Path.segments path.toList).foldlM d.enter (if Path.isAbsolute path then [] else d.cwd)

/-- What a path names. -/
def get (d : Disk) (path : String) : Except DiskFailure FileTree := do
  match d.tree.at? (← d.locate path) with
  | some t => return t
  | none => throw .missing

/-- Whether a path names anything. -/
def exists? (d : Disk) (path : String) : Bool :=
  (d.get path).toBool

/-- The bytes of a file. -/
def read (d : Disk) (path : String) : Except DiskFailure (List UInt8) := do
  match ← d.get path with
  | .file bytes _ => return bytes
  | .dir _ => throw .isDirectory

/-- The text of a file. -/
def readText (d : Disk) (path : String) : Except DiskFailure String := do
  match Utf8.decode? (← d.read path) with
  | some s => return String.ofList s
  | none => throw .notText

/-- The disk with another working directory. -/
def enterDirectory (d : Disk) (path : String) : Except DiskFailure Disk := do
  let way ← d.locate path
  match d.tree.at? way with
  | some (.dir _) => return { d with cwd := way }
  | some (.file ..) => throw .notDirectory
  | none => throw .missing

/-- Whether a path ends in a name with slashes behind it, so that it can only be that of a
directory. -/
def asksForDirectory (path : String) : Bool :=
  let segments := Path.segments path.toList
  match segments.getLast?, segments.reverse.find? (!·.isEmpty) with
  | some [], some s => s != ['.'] && s != ['.', '.']
  | _, _ => false

/-- The disk with other bytes in a file, which is made if it does not exist. -/
def write (d : Disk) (path : String) (bytes : List UInt8) : Except DiskFailure Disk := do
  if path.isEmpty then throw .missing
  if path.toList.contains '\x00' then throw .zeroInPath
  let segments := Path.segments path.toList
  let segments := if asksForDirectory path then
      (segments.reverse.dropWhile (·.isEmpty)).reverse else segments
  let dir ← segments.dropLast.foldlM d.enter (if Path.isAbsolute path then [] else d.cwd)
  match segments.getLast?, d.tree.at? dir with
  | some name, some (.dir _) =>
    if asksForDirectory path then throw .isDirectory
    match d.enter dir name with
    | .ok way =>
      match d.tree.at? way with
      | some (.file _ runnable) =>
        let d := { d with tree := FileTree.put (.file bytes runnable) way d.tree }
        return d.changing way
      | _ => throw .isDirectory
    | .error .missing =>
      let way := dir ++ [String.ofList name]
      return d.placing way (.file bytes false)
    | .error f => throw f
  | _, _ => throw .notDirectory

/-- The disk with a new directory. -/
def makeDirectory (d : Disk) (path : String) : Except DiskFailure Disk := do
  let segments := (Path.segments path.toList).filter (!·.isEmpty)
  let dir ← segments.dropLast.foldlM d.enter (if Path.isAbsolute path then [] else d.cwd)
  match segments.getLast?, d.tree.at? dir with
  | some name, some (.dir _) =>
    return d.placing (dir ++ [String.ofList name]) (.dir [])
  | none, _ => throw .missing
  | _, _ => throw .notDirectory

/-- The disk without a file or directory. -/
def remove (d : Disk) (path : String) : Except DiskFailure Disk := do
  let way ← d.locate path
  let d := { d with tree := FileTree.erase way d.tree, notes := d.notes.filter fun n => n.1 != way }
  return d.changing way.dropLast

end Disk

end ScriptSuite
