/-!
# XML documents

Documents as far as reports need them: elements with attributes that hold either nothing, or text,
or other elements. An element with elements in it is laid out over several lines, each two spaces
deeper than the element around it; all others take one line.

A text may hold characters that no XML document may hold. Each of them is replaced by the
replacement character; the five characters with a meaning of their own are written as entities.

## Main definitions

* `Xml`: the documents.
* `Xml.escape`: the written form of a text.
* `Xml.render`: the written form of a document.
-/

namespace ScriptSuite

/-- An element. -/
inductive Xml where
  /-- An element with nothing in it. -/
  | empty (name : String) (attributes : List (String × String))
  /-- An element with text in it. -/
  | text (name : String) (attributes : List (String × String)) (content : String)
  /-- An element with elements in it. -/
  | branch (name : String) (attributes : List (String × String)) (children : List Xml)

namespace Xml

/-- Whether a document may hold a character. -/
def isAllowed (c : Char) : Bool :=
  c = '\t' || c = '\n' || c = '\r' || (0x20 ≤ c.toNat && c ≠ '\uFFFE' && c ≠ '\uFFFF')

/-- The written form of a character. -/
def escapeChar (c : Char) : List Char :=
  if c = '&' then ['&', 'a', 'm', 'p', ';']
  else if c = '<' then ['&', 'l', 't', ';']
  else if c = '>' then ['&', 'g', 't', ';']
  else if c = '"' then ['&', 'q', 'u', 'o', 't', ';']
  else if c = '\'' then ['&', 'a', 'p', 'o', 's', ';']
  else if isAllowed c then [c]
  else ['\uFFFD']

/-- The written form of a text. -/
def escape (s : String) : List Char :=
  s.toList.flatMap escapeChar

/-- The written form of attributes, each with a space in front. -/
def renderAttributes (attributes : List (String × String)) : List Char :=
  attributes.flatMap fun (name, value) =>
    ' ' :: name.toList ++ ['=', '"'] ++ escape value ++ ['"']

/-- A tag with its name and what follows the name. -/
def tag (name : String) (rest : List Char) : List Char :=
  '<' :: name.toList ++ rest

/-- The closing tag. -/
def closing (name : String) : List Char :=
  ['<', '/'] ++ name.toList ++ ['>']

mutual

/-- The lines of an element at a depth. -/
def renderAt (depth : Nat) : Xml → List Char
  | empty name attributes =>
    List.replicate (2 * depth) ' ' ++ tag name (renderAttributes attributes ++ ['/', '>', '\n'])
  | text name attributes content =>
    List.replicate (2 * depth) ' ' ++ tag name (renderAttributes attributes ++ ['>']) ++
      escape content ++ closing name ++ ['\n']
  | branch name attributes children =>
    List.replicate (2 * depth) ' ' ++ tag name (renderAttributes attributes ++ ['>', '\n']) ++
      renderAll (depth + 1) children ++
      List.replicate (2 * depth) ' ' ++ closing name ++ ['\n']

/-- The lines of several elements at a depth. -/
def renderAll (depth : Nat) : List Xml → List Char
  | [] => []
  | x :: rest => renderAt depth x ++ renderAll depth rest

end

/-- The written form of a document with its declaration. -/
def render (x : Xml) : String :=
  String.ofList ("<?xml version=\"1.0\" encoding=\"UTF-8\"?>\n".toList ++ renderAt 0 x)

end Xml

end ScriptSuite
