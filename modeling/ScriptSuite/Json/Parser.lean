import ScriptSuite.Json.Token

/-!
# Reading a JSON text

The tokens of a text are taken one by one. What has been read of the arrays and objects that are
still open is kept on a stack, innermost first, so no nesting is too deep. After each token the
reader knows what may come next; a token that may not come next ends the reading.

## Main definitions

* `Json.parse?`: the document that a text spells.
-/

namespace ScriptSuite.Json

/-- An array or object that is still open. -/
inductive Frame where
  /-- An array with the items read so far, last first. -/
  | arr (items : List Json)
  /-- An object with the members read so far, last first, at a place between members. -/
  | obj (members : List (List Char × Json))
  /-- An object at the value of the member `name`. -/
  | value (members : List (List Char × Json)) (name : List Char)

/-- How far the reading of a text has come. -/
inductive Reading where
  /-- A value must come. -/
  | value (pending : List Frame)
  /-- The first item of an array or the end of the array must come. -/
  | firstItem (pending : List Frame)
  /-- The first member of an object or the end of the object must come. -/
  | firstMember (pending : List Frame)
  /-- A member must come, for the object with these members. -/
  | member (members : List (List Char × Json)) (pending : List Frame)
  /-- The colon behind a member's name must come. -/
  | colon (members : List (List Char × Json)) (name : List Char) (pending : List Frame)
  /-- A comma or the end of the innermost array or object must come. -/
  | separator (innermost : Frame) (pending : List Frame)
  /-- The document is complete. -/
  | done (v : Json)

/-- Hands a complete value to the innermost open array or object. -/
def Reading.deliver (v : Json) : List Frame → Reading
  | [] => .done v
  | .arr items :: k => .separator (.arr (v :: items)) k
  | .obj members :: k => .separator (.obj members) k
  | .value members name :: k => .separator (.obj ((name, v) :: members)) k

/-- Starts a value with the given token. -/
def Reading.start? (t : Token) (k : List Frame) : Option Reading :=
  match t with
  | .null => some (deliver .null k)
  | .bool b => some (deliver (.bool b) k)
  | .num literal => some (deliver (.num literal) k)
  | .str spelling => some (deliver (.str spelling) k)
  | .openArr => some (.firstItem k)
  | .openObj => some (.firstMember k)
  | _ => none

/-- Takes one token. -/
def Reading.step? : Reading → Token → Option Reading
  | .value k, t => start? t k
  | .firstItem k, .closeArr => some (deliver (.arr []) k)
  | .firstItem k, t => start? t (.arr [] :: k)
  | .firstMember k, .closeObj => some (deliver (.obj []) k)
  | .firstMember k, .str name => some (.colon [] name k)
  | .member members k, .str name => some (.colon members name k)
  | .colon members name k, .colon => some (.value (.value members name :: k))
  | .separator (.arr items) k, .comma => some (.value (.arr items :: k))
  | .separator (.arr items) k, .closeArr => some (deliver (.arr items.reverse) k)
  | .separator (.obj members) k, .comma => some (.member members k)
  | .separator (.obj members) k, .closeObj => some (deliver (.obj members.reverse) k)
  | _, _ => none

/-- The document that a text spells. -/
def parse? (s : List Char) : Option Json := do
  let tokens ← tokens? s
  match ← tokens.foldlM Reading.step? (.value []) with
  | .done v => some v
  | _ => none

end ScriptSuite.Json
