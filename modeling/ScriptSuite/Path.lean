/-!
# Paths

A path is a text in which slashes separate names. Read from left to right it is a list of
*components*: the root, if the text starts with a slash; a leading `.`; and then names and `..`.
Repeated slashes, later dots and slashes at the end make no component, but stay in the text: the
parent of a path is a part of the text in front of it, not a new text.

## Main definitions

* `Path.components`: the components of a path.
* `Path.parent?`, `Path.fileName?`, `Path.extension?`: parts of the text.
* `Path.join`: a path seen from a directory.
* `Path.normalize`: a path with each `.` dropped and each `..` taken together with the component
  in front of it.
-/

namespace ScriptSuite.Path

/-- A component of a path. -/
inductive Component where
  /-- The root directory. -/
  | root
  /-- The directory itself; only in front of a path. -/
  | current
  /-- The directory above. -/
  | parent
  /-- A name. -/
  | name (s : List Char)
deriving DecidableEq, Repr

/-- The texts between the slashes. -/
def segments : List Char → List (List Char)
  | [] => [[]]
  | c :: s =>
    if c = '/' then [] :: segments s
    else
      match segments s with
      | [] => [[c]]
      | p :: ps => (c :: p) :: ps

/-- The component of a segment that is not the first one; empty segments and dots make none. -/
def Component.ofSegment? (s : List Char) : Option Component :=
  if s = [] ∨ s = ['.'] then none
  else if s = ['.', '.'] then some .parent
  else some (.name s)

/-- The components of a path, from left to right. -/
def components (path : String) : List Component :=
  match segments path.toList with
  | [] => []
  | first :: rest =>
    let lead :=
      if first = [] then (if rest.isEmpty then none else some Component.root)
      else if first = ['.'] then some .current
      else Component.ofSegment? first
    lead.toList ++ rest.filterMap Component.ofSegment?

/-- Whether a path starts at the root. -/
def isAbsolute (path : String) : Bool :=
  path.toList.head? = some '/'

/-! ### Parts of the text -/

/-- How many characters of a path stand for the root or for a leading dot. -/
def leadLength : List Char → Nat
  | '/' :: _ => 1
  | ['.'] => 1
  | '.' :: '/' :: _ => 1
  | _ => 0

/-- A reversed text without the segments at its front that make no component. -/
def skipSilent (r : List Char) : List Char :=
  let segment := r.takeWhile (· != '/')
  match _h : r.drop segment.length with
  | [] => if (Component.ofSegment? segment.reverse).isSome then r else []
  | _ :: rest => if (Component.ofSegment? segment.reverse).isSome then r else skipSilent rest
termination_by r.length
decreasing_by
  have := congrArg List.length _h
  simp only [List.length_drop, List.length_cons] at this
  omega

/-- The last component of a path behind its lead, reversed, and the reversed text in front of it;
`none` if there is no component behind the lead. -/
def lastSegment? (path : List Char) : Option (List Char × List Char) :=
  let r := skipSilent (path.drop (leadLength path)).reverse
  if r.isEmpty then none
  else
    let segment := r.takeWhile (· != '/')
    some (segment.reverse, skipSilent (r.drop (segment.length + 1)))

/-- The text in front of the last component; the root and the empty path have none. -/
def parent? (path : String) : Option String :=
  let s := path.toList
  match lastSegment? s with
  | some (_, front) => some (String.ofList (s.take (leadLength s) ++ front.reverse))
  | none => if s.head? = some '.' then some "" else none

/-- The last component, if it is a name. -/
def fileName? (path : String) : Option String := do
  let (segment, _) ← lastSegment? path.toList
  if segment = ['.', '.'] then none else some (String.ofList segment)

/-- What follows the last dot of the last component, if some name stands before the dot. -/
def extension? (path : String) : Option String := do
  let name := (← fileName? path).toList.reverse
  match name.dropWhile (· != '.') with
  | _ :: _ :: _ => some (String.ofList (name.takeWhile (· != '.')).reverse)
  | _ => none

/-- The path seen from the directory `dir`: an absolute path is kept. -/
def join (dir path : String) : String :=
  if isAbsolute path then path
  else if dir.isEmpty || dir.toList.getLast? = some '/' then dir ++ path
  else dir ++ "/" ++ path

/-- Whether the components of `base` are the first ones of `path`. -/
def startsWith (path base : String) : Bool :=
  (components base).isPrefixOf (components path)

/-! ### Normal form -/

/-- The text of components in reversed order. -/
def ofReversed : List Component → List Char
  | [] => []
  | [c] => text c
  | c :: d :: rest =>
    ofReversed (d :: rest) ++ (if rest.isEmpty ∧ d = .root then [] else ['/']) ++ text c
where
  /-- The text of one component. -/
  text : Component → List Char
    | .root => ['/']
    | .current => ['.']
    | .parent => ['.', '.']
    | .name s => s

/-- Adds a component to a reversed path: a dot adds nothing, and `..` takes the component in front
away unless that is the root or there is none. -/
def foldComponent (reversed : List Component) : Component → List Component
  | .current => reversed
  | .parent =>
    match reversed with
    | [] => [.parent]
    | [.root] => [.parent, .root]
    | _ :: rest => rest
  | c => c :: reversed

/-- The path with each `.` dropped and each `..` taken together with the component in front. -/
def normalize (path : String) : String :=
  String.ofList (ofReversed ((components path).foldl foldComponent []))

/-! ### Order -/

/-- The rank of a kind of component: the root comes first and names come last. -/
def Component.rank : Component → Nat
  | .root => 0
  | .current => 1
  | .parent => 2
  | .name _ => 3

/-- The order of components: by kind, and names by their characters. -/
def Component.lt (a b : Component) : Bool :=
  match a, b with
  | .name s, .name t => decide (s < t)
  | a, b => a.rank < b.rank

/-- Whether one list of components comes before another or is equal to it. -/
def componentsLe : List Component → List Component → Bool
  | [], _ => true
  | _ :: _, [] => false
  | a :: as, b :: bs => a.lt b || (!b.lt a && componentsLe as bs)

/-- Whether one path comes before another in the component-wise order or has the same
components. -/
def le (p q : String) : Bool :=
  componentsLe (components p) (components q)

end ScriptSuite.Path
