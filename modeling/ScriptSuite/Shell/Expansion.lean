import ScriptSuite.Shell.Pattern
import ScriptSuite.Shell.Session

/-!
# Fields

What the words of a command are replaced by is cut into fields. Quoted text is never cut; of what
took the place of an unquoted part, the characters that stand between fields are left out. A field
with unquoted pattern characters stands for the files that the pattern stands for, if there are any.

## Main definitions

* `Shell.Atom`: a part of what a word is replaced by.
* `Shell.fieldsFrom`: the fields of atoms.
* `Shell.filesOf`: the files that a field stands for.
-/

namespace ScriptSuite.Shell

/-- A part of what a word is replaced by. -/
inductive Atom where
  /-- A character that was quoted or not. -/
  | char (quoted : Bool) (c : Char)
  /-- Blanks between two fields. -/
  | gap
  /-- The end of a field, be it empty. -/
  | stop
  /-- A place where a quoted text may be empty. -/
  | mark
deriving DecidableEq, Repr

/-- A text as atoms. -/
def atoms (quoted : Bool) (s : List Char) : List Atom :=
  s.map (.char quoted)

/-- Whether a character counts as a blank between fields. -/
def isSeparatingBlank (separators : List Char) (c : Char) : Bool :=
  separators.contains c && [' ', '\t', '\n'].contains c

/-- The atoms without gaps beside the ends of fields; `last` is the atom in front. -/
def mergeGaps (last : Atom) : List Atom → List Atom
  | [] => []
  | .gap :: rest =>
    if last = .stop || rest.head? = some .stop || rest.head? = some .gap then mergeGaps last rest
    else .gap :: mergeGaps .gap rest
  | a :: rest => a :: mergeGaps a rest

/-- Atoms with their unquoted text cut at separators. -/
def cutAtoms (separators : List Char) (as : List Atom) : List Atom :=
  mergeGaps .mark <| as.map fun
    | .char false c =>
      if isSeparatingBlank separators c then .gap
      else if separators.contains c then .stop
      else .char false c
    | a => a

/-- A value as atoms; an unquoted value is cut at separators. -/
def valueAtoms (quoted : Bool) (separators : List Char) (s : List Char) : List Atom :=
  if quoted then .mark :: atoms true s else cutAtoms separators (atoms false s)

/-- The fields of atoms; `current` is the field that is being built, last character first. -/
def fieldsFrom (current : Option (List (Bool × Char))) :
    List Atom → List (List (Bool × Char))
  | [] => (current.map List.reverse).toList
  | .gap :: rest => (current.map List.reverse).toList ++ fieldsFrom none rest
  | .stop :: rest => (current.getD []).reverse :: fieldsFrom none rest
  | .mark :: rest => fieldsFrom (some (current.getD [])) rest
  | .char quoted c :: rest => fieldsFrom (some ((quoted, c) :: current.getD [])) rest

/-- The characters of atoms with their marks; what stands between fields counts as a space. -/
def marked (as : List Atom) : List (Bool × Char) :=
  as.filterMap fun
    | .char quoted c => some (quoted, c)
    | .gap | .stop => some (true, ' ')
    | .mark => none

/-- The text of atoms. -/
def plainText (as : List Atom) : List Char :=
  (marked as).map (·.2)

/-- The pattern of marked characters. -/
def patternOfMarked (s : List (Bool × Char)) : Pattern :=
  Pattern.ofMarked (s.length + 1) s

/-- The pattern of atoms. -/
def patternOf (as : List Atom) : Pattern :=
  patternOfMarked (marked as)

/-- All arguments as atoms. -/
def argumentAtoms (quoted : Bool) (separators : List Char) (args : List (List Char)) : List Atom :=
  List.flatten ((args.map (valueAtoms quoted separators)).intersperse [.gap])

/-- A text without line ends behind it and without zeros. -/
def dropLineEnds (s : List Char) : List Char :=
  ((s.filter (· != '\x00')).reverse.dropWhile (· = '\n')).reverse

/-! ### Files -/

/-- Whether marked characters hold an unquoted pattern character. -/
def isPattern (s : List (Bool × Char)) : Bool :=
  s.any fun (quoted, c) => !quoted && ['*', '?', '['].contains c

/-- The names in a directory. -/
def namesIn (d : Disk) (dir : List Char) : List (List Char) :=
  match d.get (toString (if dir.isEmpty then ['.'] else dir)) with
  | .ok (.dir entries) => (entries.map fun e => ofString e.1).mergeSort dictionaryLe
  | _ => []

/-- The places below a directory that a part of a path stands for. A pattern stands for a hidden
name only if it starts with the dot itself. -/
def placesIn (d : Disk) (dir : List Char) (part : List (Bool × Char)) : List (List Char) :=
  if isPattern part then
    let pattern := patternOfMarked part
    let dotted := (part.head?.map (·.2)) = some '.'
    let names := (if dotted then [['.'], ['.', '.']] else []) ++ namesIn d dir
    (names.filter fun name =>
      (dotted || name.head? != some '.') && pattern.holds name).map (dir ++ ·)
  else [dir ++ part.map (·.2)]

/-- The places that the parts of a path stand for. -/
def placesFrom (d : Disk) (dir : List Char) : List (List (Bool × Char)) → List (List Char)
  | [] => []
  | [part] => (placesIn d dir part).filter fun path => d.exists? (toString path)
  | part :: rest =>
    (placesIn d dir part).flatMap fun path => placesFrom d (path ++ ['/']) rest

/-- The parts of a path between its slashes. -/
def pathParts : List (Bool × Char) → List (List (Bool × Char))
  | [] => [[]]
  | c :: rest =>
    if c.2 = '/' then [] :: pathParts rest
    else
      match pathParts rest with
      | [] => [[c]]
      | part :: parts => (c :: part) :: parts

/-- The files that a field stands for, or its text. -/
def filesOf (d : Disk) (field : List (Bool × Char)) : List (List Char) :=
  let text := field.map (·.2)
  if isPattern field then
    match placesFrom d [] (pathParts field) with
    | [] => [text]
    | places => places
  else [text]

end ScriptSuite.Shell
