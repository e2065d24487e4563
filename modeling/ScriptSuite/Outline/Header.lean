import ScriptSuite.Text.Blank
import ScriptSuite.Text.Find
import ScriptSuite.Text.Word

/-!
# Declaration headers

What a single line says on its own. Three kinds of line matter to an outline:

* a *directive* line, which holds the words that leave the next declaration out;
* a *class header*: the word `class`, a name, perhaps `extends` and the name of the base, perhaps
  the opening brace, with nothing behind it but blanks;
* a *method header*: a name and an empty parameter list, then either nothing, or an opening brace
  that is the last character of the line, or an arrow with any text behind it.

Blanks may stand in front of a header and between its parts, and must stand where two words would
run together otherwise. Nothing is known of strings and comments.

## Main definitions

* `ClassHeader.ofLine?`, `MethodHeader.ofLine?`: the header on a line, if there is one.
* `isIgnoreDirective`: whether a line leaves the next declaration out.
-/

namespace ScriptSuite

open Text

/-- The words that leave the next declaration out of the outline. -/
def ignoreMarker : String := ";@ahkunit-ignore"

/-- Whether a line leaves the next declaration out. -/
def isIgnoreDirective (line : List Char) : Bool :=
  contains ignoreMarker.toList line

/-- The word in front of a text, and what follows it; the word may be empty. -/
def wordAndRest (s : List Char) : List Char × List Char :=
  (s.takeWhile isWord, s.dropWhile isWord)

/-- What follows the given word and one or more blanks, if the text starts with them. -/
def afterKeyword? (keyword : String) (s : List Char) : Option (List Char) :=
  if keyword.toList.isPrefixOf s then
    match s.drop keyword.toList.length with
    | c :: rest => if isBlank c then some (trimStart rest) else none
    | [] => none
  else none

/-- The header of a class declaration. -/
structure ClassHeader where
  /-- The name of the class. -/
  name : String
  /-- Whether the opening brace stands on the line of the header. -/
  opens : Bool
deriving DecidableEq, Repr

namespace ClassHeader

/-- Reads what may stand behind the names: blanks, at most one opening brace, blanks. -/
def ending? (s : List Char) : Option Bool :=
  match trimStart s with
  | [] => some false
  | c :: rest => if c = '{' ∧ isAllBlank rest then some true else none

/-- Reads what may stand behind the name of the class; the name of a base is not kept. -/
def tail? (s : List Char) : Option Bool :=
  match s with
  | c :: rest =>
    if isBlank c then
      match afterKeyword? "extends" (trimStart rest) with
      | some s =>
        let (base, s) := wordAndRest s
        if base.isEmpty then none else ending? s
      | none => ending? rest
    else ending? s
  | [] => some false

/-- The class header on a line, if there is one. -/
def ofLine? (line : List Char) : Option ClassHeader := do
  let s ← afterKeyword? "class" (trimStart line)
  let (name, s) := wordAndRest s
  if name.isEmpty then none
  else return { name := String.ofList name, opens := (← tail? s) }

end ClassHeader

/-- What the line of a method header says about the body. -/
inductive MethodBody where
  /-- Nothing; a brace may open on a later line. -/
  | later
  /-- The body starts with the brace at the end of the line. -/
  | braced
  /-- The body is the expression behind the arrow. -/
  | arrow
deriving DecidableEq, Repr

/-- The header of a method without parameters. -/
structure MethodHeader where
  /-- The name of the method. -/
  name : String
  /-- What the line says about the body. -/
  body : MethodBody
deriving DecidableEq, Repr

namespace MethodHeader

/-- Reads what may stand behind the parameter list. -/
def body? (s : List Char) : Option MethodBody :=
  match trimStart s with
  | [] => some .later
  | ['{'] => some .braced
  | '=' :: '>' :: _ => some .arrow
  | _ => none

/-- What follows an empty parameter list, if the text starts with one. -/
def afterParameters? (s : List Char) : Option (List Char) :=
  match trimStart s with
  | '(' :: s =>
    match trimStart s with
    | ')' :: s => some s
    | _ => none
  | _ => none

/-- The method header on a line, if there is one. -/
def ofLine? (line : List Char) : Option MethodHeader :=
  let (name, s) := wordAndRest (trimStart line)
  if name.isEmpty then none
  else do
    let s ← afterParameters? s
    return { name := String.ofList name, body := (← body? s) }

end MethodHeader

end ScriptSuite
