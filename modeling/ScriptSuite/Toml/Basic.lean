/-!
# TOML documents

A document is a table. Tables come about in four ways, and the way decides what may be added to a
table later on:

* a table in braces is complete;
* a table with a header of its own is complete but for tables below it;
* a table that only occurs inside the header of another may still get a header;
* a table that occurs inside a dotted key gets more keys by dotted keys only.

A header in double brackets adds a table to an array of tables, and what is added to the array
further below is added to its last table.

## Main definitions

* `Toml`: values and tables.
* `Toml.setDotted?`, `Toml.openTable?`, `Toml.addTable?`: the three ways to add to a table.
-/

namespace ScriptSuite

/-- How a table comes about. -/
inductive TableOrigin where
  /-- It is written in braces. -/
  | braces
  /-- It has a header. -/
  | header
  /-- It occurs inside the header of another table. -/
  | implied
  /-- It occurs inside a dotted key. -/
  | dotted
deriving DecidableEq, Repr

/-- A TOML value. -/
inductive Toml where
  /-- A string. -/
  | string (text : String)
  /-- An integer. -/
  | integer (n : Int)
  /-- A truth value. -/
  | boolean (b : Bool)
  /-- A float, by its literal. -/
  | float (literal : List Char)
  /-- A date, a time or both, by its literal. -/
  | moment (literal : List Char)
  /-- An array. -/
  | array (items : List Toml)
  /-- A table. -/
  | table (origin : TableOrigin) (entries : List (String × Toml))
  /-- An array of tables that have headers. -/
  | tables (elements : List (List (String × Toml)))

namespace Toml

/-- The entries of a table. -/
abbrev Entries := List (String × Toml)

/-- The value of a key. -/
def get? (key : String) (t : Entries) : Option Toml :=
  (t.find? fun e => e.1 = key).map (·.2)

/-- The table with another value for a key, in the place of the old one or at the end. -/
def set (key : String) (v : Toml) : Entries → Entries
  | [] => [(key, v)]
  | e :: rest => if e.1 = key then (key, v) :: rest else e :: set key v rest

/-- Adds a value under a dotted key to the table of its first part, with the given parts behind
that. The tables on the way must be new, or made by headers and dotted keys below them, and the last
of them must be made by a dotted key. -/
def setBelow? (key : String) (path : List String) (v : Toml) (t : Entries) : Option Entries :=
  match path with
  | [] => none
  | next :: path =>
    let into (isDotted : Bool) (inner : Entries) : Option Entries :=
      if !path.isEmpty then setBelow? next path v inner
      else if !isDotted || (get? next inner).isSome then none
      else some (set next v inner)
    match get? key t with
    | none => (into true []).map fun inner => set key (table .dotted inner) t
    | some (table .dotted inner) =>
      (into true inner).map fun inner => set key (table .dotted inner) t
    | some (table .implied inner) =>
      (into false inner).map fun inner => set key (table .implied inner) t
    | some (tables elements) => do
      let inner ← into false (← elements.getLast?)
      return set key (tables (elements.dropLast ++ [inner])) t
    | some _ => none

/-- Adds a value under a dotted key. -/
def setDotted? (path : List String) (v : Toml) (t : Entries) : Option Entries :=
  match path with
  | [] => none
  | [key] => if (get? key t).isSome then none else some (set key v t)
  | key :: path => setBelow? key path v t

/-- Changes the table at the end of a path of headers; tables on the way that do not exist are
made, and of an array of tables the last one is meant. -/
def modify? (f : Entries → Option Entries) : List String → Entries → Option Entries
  | [], t => f t
  | key :: path, t =>
    match get? key t with
    | none => (modify? f path []).map fun inner => set key (table .implied inner) t
    | some (table .braces _) => none
    | some (table origin inner) =>
      (modify? f path inner).map fun inner => set key (table origin inner) t
    | some (tables elements) => do
      let inner ← modify? f path (← elements.getLast?)
      return set key (tables (elements.dropLast ++ [inner])) t
    | some _ => none

/-- Gives a table a header: it must be new, or have occurred inside other headers only. -/
def openTable? (path : List String) (t : Entries) : Option Entries := do
  let key ← path.getLast?
  modify? (fun t =>
    match get? key t with
    | none => some (set key (table .header []) t)
    | some (table .implied inner) => some (set key (table .header inner) t)
    | some _ => none) path.dropLast t

/-- Adds a table to an array of tables, which may be new. -/
def addTable? (path : List String) (t : Entries) : Option Entries := do
  let key ← path.getLast?
  modify? (fun t =>
    match get? key t with
    | none => some (set key (tables [[]]) t)
    | some (tables elements) => some (set key (tables (elements ++ [[]])) t)
    | some _ => none) path.dropLast t

end Toml

end ScriptSuite
