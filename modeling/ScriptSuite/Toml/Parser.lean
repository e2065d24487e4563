import ScriptSuite.Toml.Number

/-!
# Reading TOML

A text is a list of lines; each is empty, or a key with a value, or the header of a table. Only
arrays and strings run over several lines.

There is a limit to how many brackets are open at once and to how many parts a key has. The readers
of values also get a number of steps that is an upper bound for the depth of the recursion, and
`Toml.parse?` provides enough of them for its text.

## Main definitions

* `Toml.maxDepth`: the limit.
* `Toml.Statement`: a line that is not empty.
* `Toml.parse?`: the entries of the document of a text.
-/

namespace ScriptSuite.Toml

/-! ### Blanks -/

/-- What follows blanks on a line. -/
def skipBlanks (s : List Char) : List Char :=
  s.dropWhile isSpacing

/-- What follows blanks, breaks and comments; a carriage return belongs to a break, and a comment
holds text only. -/
def skipLines? (inComment : Bool) : List Char → Option (List Char)
  | [] => some []
  | '\r' :: '\n' :: s => skipLines? false s
  | c :: s =>
    if c = '\n' then skipLines? false s
    else if inComment then if isText c then skipLines? true s else none
    else if isSpacing c then skipLines? false s
    else if c = '#' then skipLines? true s
    else some (c :: s)

/-- Whether a line may end here: behind blanks there is a break, a comment or the end of the
text. -/
def mayEnd (s : List Char) : Bool :=
  match skipBlanks s with
  | [] => true
  | '#' :: _ => true
  | s => (break? s).isSome

/-! ### Keys -/

/-- Whether a character may stand in a key without quotes. -/
def isKeyChar (c : Char) : Bool :=
  c.isAlphanum || c = '_' || c = '-'

/-- Reads a part of a key. -/
def keyPart? (s : List Char) : Option (String × List Char) :=
  if s.head?.any fun c => c = '"' || c = '\'' then
    (lineString? s).map fun (text, rest) => (String.ofList text, rest)
  else
    let name := s.takeWhile isKeyChar
    if name.isEmpty then none else some (String.ofList name, s.drop name.length)

/-- Reads one or more parts of a key with dots between them, and blanks around all of them. -/
def keyParts? (steps : Nat) (s : List Char) : Option (List String × List Char) :=
  match steps with
  | 0 => none
  | steps + 1 => do
    let (part, s) ← keyPart? (skipBlanks s)
    match skipBlanks s with
    | '.' :: s =>
      let (parts, s) ← keyParts? steps s
      return (part :: parts, s)
    | s => return ([part], s)

/-- How many arrays and tables in brackets may be open at once, and how many parts a key may
have. -/
def maxDepth : Nat := 79

/-- Reads a key. -/
def key? (steps : Nat) (s : List Char) : Option (List String × List Char) :=
  (keyParts? steps s).filter fun (path, _) => path.length ≤ maxDepth

/-! ### Values -/

mutual

/-- Reads a value; `depth` more brackets may be open at once. -/
def value? (steps depth : Nat) (s : List Char) : Option (Toml × List Char) :=
  match steps with
  | 0 => none
  | steps + 1 =>
    match s with
    | '[' :: s =>
      if depth = 0 then none
      else (items? steps (depth - 1) s).map fun (items, s) => (array items, s)
    | '\x7b' :: s =>
      if depth = 0 then none
      else (entries? steps (depth - 1) [] true s).map fun (entries, s) =>
        (table .braces entries, s)
    | '"' :: _ | '\'' :: _ => (string? s).map fun (text, s) => (string (String.ofList text), s)
    | s =>
      let (text, s) := word s
      (ofWord? text).map fun v => (v, s)

/-- Reads the items of an array up to the closing bracket. -/
def items? (steps depth : Nat) (s : List Char) : Option (List Toml × List Char) :=
  match steps with
  | 0 => none
  | steps + 1 => do
    match ← skipLines? false s with
    | ']' :: s => return ([], s)
    | s =>
      let (item, s) ← value? steps depth s
      match ← skipLines? false s with
      | ']' :: s => return ([item], s)
      | ',' :: s =>
        let (items, s) ← items? steps depth s
        return (item :: items, s)
      | _ => none

/-- Reads the entries of a table in braces up to the closing brace. -/
def entries? (steps depth : Nat) (t : Entries) (mayClose : Bool) (s : List Char) :
    Option (Entries × List Char) :=
  match steps with
  | 0 => none
  | steps + 1 =>
    match skipBlanks s with
    | '\x7d' :: s => if mayClose then some (t, s) else none
    | s => do
      let (path, s) ← key? steps s
      match s with
      | '=' :: s =>
        let (v, s) ← value? steps depth (skipBlanks s)
        let t ← setDotted? path v t
        match skipBlanks s with
        | '\x7d' :: s => return (t, s)
        | ',' :: s => entries? steps depth t false s
        | _ => none
      | _ => none

end

/-! ### Documents -/

/-- A line that is not empty. -/
inductive Statement where
  /-- A key with a value. -/
  | entry (path : List String) (v : Toml)
  /-- The header of a table. -/
  | header (path : List String)
  /-- The header of a table in an array. -/
  | element (path : List String)

/-- Reads a line that is not empty. -/
def statement? (steps : Nat) (s : List Char) : Option (Statement × List Char) := do
  match s with
  | '[' :: '[' :: s =>
    match ← key? steps s with
    | (path, ']' :: ']' :: s) => return (.element path, s)
    | _ => none
  | '[' :: s =>
    match ← key? steps s with
    | (path, ']' :: s) => return (.header path, s)
    | _ => none
  | s =>
    match ← key? steps s with
    | (path, '=' :: s) =>
      let (v, s) ← value? steps maxDepth (skipBlanks s)
      return (.entry path v, s)
    | _ => none

/-- Reads the lines of a text. -/
def statements? (steps : Nat) (s : List Char) : Option (List Statement) :=
  match steps with
  | 0 => none
  | steps + 1 => do
    match ← skipLines? false s with
    | [] => return []
    | s =>
      let (first, s) ← statement? steps s
      if mayEnd s then return first :: (← statements? steps s) else none

/-- The entries of a document after one more line; `path` is the header that is in force. -/
def perform? (state : List String × Entries) : Statement → Option (List String × Entries)
  | .entry path v => (modify? (setDotted? path v) state.1 state.2).map fun t => (state.1, t)
  | .header path => (openTable? path state.2).map fun t => (path, t)
  | .element path => (addTable? path state.2).map fun t => (path, t)

/-- The entries of the document of a text. A byte order mark in front does not count. -/
def parse? (text : List Char) : Option Entries := do
  let s := if text.head? = some '\uFEFF' then text.tail else text
  let lines ← statements? (3 * s.length + 3) s
  let (_, t) ← lines.foldlM perform? ([], [])
  return t

end ScriptSuite.Toml
