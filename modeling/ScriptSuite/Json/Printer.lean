import ScriptSuite.Json.Basic

/-!
# Writing JSON

Two layouts are in use. The *compact* one has no spaces at all. The *pretty* one puts every item
and member on a line of its own, two spaces deeper than the array or object around it, with a space
behind the colon; an empty array or object stays in one piece.
-/

namespace ScriptSuite.Json

/-- A spelling between quotes. -/
def quoted (spelling : List Char) : List Char :=
  '"' :: spelling ++ ['"']

/-- The literal of a truth value. -/
def boolLiteral (b : Bool) : List Char :=
  if b then ['t', 'r', 'u', 'e'] else ['f', 'a', 'l', 's', 'e']

mutual

/-- The compact layout. -/
def compact : Json → List Char
  | .null => ['n', 'u', 'l', 'l']
  | .bool b => boolLiteral b
  | .num literal => literal
  | .str spelling => quoted spelling
  | .arr items => '[' :: compactItems items ++ [']']
  | .obj members => '{' :: compactMembers members ++ ['}']

/-- The items of an array with commas between them. -/
def compactItems : List Json → List Char
  | [] => []
  | [v] => compact v
  | v :: rest => compact v ++ ',' :: compactItems rest

/-- The members of an object with commas between them. -/
def compactMembers : List (List Char × Json) → List Char
  | [] => []
  | [(name, v)] => quoted name ++ ':' :: compact v
  | (name, v) :: rest => quoted name ++ ':' :: compact v ++ ',' :: compactMembers rest

end

/-- A line break and the spaces of depth `n`. -/
def newline (n : Nat) : List Char :=
  '\n' :: List.replicate (2 * n) ' '

mutual

/-- The pretty layout of a document that starts at depth `n`. -/
def prettyAt (n : Nat) : Json → List Char
  | .null => ['n', 'u', 'l', 'l']
  | .bool b => boolLiteral b
  | .num literal => literal
  | .str spelling => quoted spelling
  | .arr [] => ['[', ']']
  | .arr (v :: rest) => '[' :: prettyItems (n + 1) (v :: rest) ++ newline n ++ [']']
  | .obj [] => ['{', '}']
  | .obj (m :: rest) => '{' :: prettyMembers (n + 1) (m :: rest) ++ newline n ++ ['}']

/-- The items of an array, each on a line of depth `n`. -/
def prettyItems (n : Nat) : List Json → List Char
  | [] => []
  | [v] => newline n ++ prettyAt n v
  | v :: rest => newline n ++ prettyAt n v ++ ',' :: prettyItems n rest

/-- The members of an object, each on a line of depth `n`. -/
def prettyMembers (n : Nat) : List (List Char × Json) → List Char
  | [] => []
  | [(name, v)] => newline n ++ quoted name ++ ':' :: ' ' :: prettyAt n v
  | (name, v) :: rest =>
    newline n ++ quoted name ++ ':' :: ' ' :: prettyAt n v ++ ',' :: prettyMembers n rest

end

/-- The pretty layout. -/
def pretty (v : Json) : List Char :=
  prettyAt 0 v

end ScriptSuite.Json
