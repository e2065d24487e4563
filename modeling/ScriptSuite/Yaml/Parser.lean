import ScriptSuite.Yaml.Scalar

/-!
# Reading YAML

The reader understands documents of plain and quoted scalars in sequences and mappings, either laid
out in columns or in brackets. Tags, anchors, aliases, block scalars, explicit keys and directives
are refused, and so is a text with more than one document.

In a layout by columns, the items of a sequence and the keys of a mapping stand in one column, and
what belongs to them stands in later columns. The sequence that belongs to a key may also stand in
the column of the key. A key takes one line, colon included, and may not be too long.

All readers get a number of steps that is an upper bound for the depth of the recursion, and
`Yaml.parse?` provides enough of them for its text.

## Main definitions

* `Yaml.parse?`: the document of a text.
-/

namespace ScriptSuite.Yaml

mutual

/-- Reads a scalar or something in brackets, from its first character on. -/
def compactAt? (steps : Nat) (inBrackets : Bool) (margin : Nat) (p : Place) :
    Option (Yaml × Place) :=
  match steps with
  | 0 => none
  | steps + 1 =>
    if p.isEnd then none
    else if p.rest.head? = some '[' then
      (itemsAt? steps margin (p.past 1 false)).map fun (items, q) => (sequence items, q)
    else if p.rest.head? = some '\x7b' then
      (entriesAt? steps margin (p.past 1 false)).map fun (entries, q) => (mapping entries, q)
    else scalarAt? inBrackets margin p

/-- Reads a value behind a colon in brackets. -/
def valueAt? (steps : Nat) (margin : Nat) (p : Place) : Option (Yaml × Place) :=
  match steps with
  | 0 => none
  | steps + 1 =>
    let p := p.skip true
    if p.rest.head?.any fun c => c = ',' || c = ']' || c = '\x7d' then some (blank, p)
    else (compactAt? steps true margin p).map fun (v, q) => (v, q.skip true)

/-- Reads something in brackets and the value behind it, if there is one. -/
def pairAt? (steps : Nat) (margin : Nat) (p : Place) : Option (Yaml × Option Yaml × Place) :=
  match steps with
  | 0 => none
  | steps + 1 => do
    let (key, q) ← compactAt? steps true margin p
    let q := q.skip true
    if q.rest.head? = some ':' && p.isKeyUpTo q then
      let (value, r) ← valueAt? steps margin (q.past 1 false)
      return (key, some value, r)
    else return (key, none, q)

/-- Reads the items up to the closing bracket. An item with a value is a mapping of one entry. -/
def itemsAt? (steps : Nat) (margin : Nat) (p : Place) : Option (List Yaml × Place) :=
  match steps with
  | 0 => none
  | steps + 1 => do
    let p := p.skip true
    if p.rest.head? = some ']' then return ([], p.past 1 false)
    else
      let (key, value, q) ← pairAt? steps margin p
      let item := match value with
        | some value => mapping [(key, value)]
        | none => key
      if q.rest.head? = some ']' then return ([item], q.past 1 false)
      else if q.rest.head? = some ',' then
        let (items, r) ← itemsAt? steps margin (q.past 1 false)
        return (item :: items, r)
      else none

/-- Reads the entries up to the closing brace. An entry may lack its value. -/
def entriesAt? (steps : Nat) (margin : Nat) (p : Place) : Option (List (Yaml × Yaml) × Place) :=
  match steps with
  | 0 => none
  | steps + 1 => do
    let p := p.skip true
    if p.rest.head? = some '\x7d' then return ([], p.past 1 false)
    else
      let (key, value, q) ← pairAt? steps margin p
      let entry := (key, value.getD blank)
      if q.rest.head? = some '\x7d' then return ([entry], q.past 1 false)
      else if q.rest.head? = some ',' then
        let (entries, r) ← entriesAt? steps margin (q.past 1 false)
        return (entry :: entries, r)
      else none

end

mutual

/-- Reads a node that belongs to something in column `column`; the whole document belongs to column
`-1`. The place behind it is that of the next thing to read. -/
def nodeAt? (steps : Nat) (column : Int) (ofKey : Bool) (p : Place) : Option (Yaml × Place) :=
  match steps with
  | 0 => none
  | steps + 1 =>
    let p := p.skip false
    if p.isEnd then some (blank, p)
    else if p.fresh && p.atDash then
      if column < p.column || (ofKey && column = p.column) then
        (listAt? steps p.column (column = p.column) p).map fun (items, q) => (sequence items, q)
      else some (blank, p)
    else if p.fresh && p.column ≤ column then some (blank, p)
    else do
      let (node, q) ← compactAt? steps false (column + 1).toNat p
      let q := q.skip false
      if q.atColon && p.isKeyUpTo q then
        if p.fresh then
          let (entries, r) ← tableAt? steps p.column node (q.past 1 false)
          return (mapping entries, r)
        else none
      else return (node, q)

/-- Reads the items of a sequence in a column, from a dash on. The end of a sequence in the column
of its key may be followed by a key in the same column. -/
def listAt? (steps : Nat) (column : Nat) (ofKey : Bool) (p : Place) :
    Option (List Yaml × Place) :=
  match steps with
  | 0 => none
  | steps + 1 => do
    let (item, q) ← nodeAt? steps column false (p.past 1 true)
    if q.isEnd || (q.fresh && q.column < column) then return ([item], q)
    else if q.fresh && q.column = column then
      if q.atDash then
        let (items, r) ← listAt? steps column ofKey q
        return (item :: items, r)
      else if ofKey then return ([item], q)
      else none
    else none

/-- Reads the entries of a mapping in a column, from behind the colon of the first key on. -/
def tableAt? (steps : Nat) (column : Nat) (key : Yaml) (p : Place) :
    Option (List (Yaml × Yaml) × Place) :=
  match steps with
  | 0 => none
  | steps + 1 => do
    let (value, q) ← nodeAt? steps column true p
    if q.isEnd || (q.fresh && q.column < column) then return ([(key, value)], q)
    else if q.fresh && q.column = column && !q.atDash then
      let (next, r) ← compactAt? steps false (column + 1) q
      let r := r.skip false
      if r.atColon && q.isKeyUpTo r then
        let (entries, e) ← tableAt? steps column next (r.past 1 false)
        return ((key, value) :: entries, e)
      else none
    else none

end

/-- Whether nothing but markers for the end of a document follows. -/
def endsAt (steps : Nat) (p : Place) : Bool :=
  match steps with
  | 0 => false
  | steps + 1 =>
    p.rest.isEmpty ||
      (p.column = 0 && p.rest.head? = some '.' && startsWithMarker p.rest &&
        endsAt steps ((p.past 3 false).skip false))

/-- The document of a text. -/
def parse? (text : List Char) : Option Yaml := do
  let s ← prepare? text
  let steps := 4 * s.length + 4
  let p := (Place.start s).skip false
  let marked := p.isEnd && !p.rest.isEmpty
  if marked && p.rest.head? = some '.' then none
  else
    let (node, q) ← nodeAt? steps (-1) false (if marked then p.past 3 false else p)
    if endsAt steps q then return node else none

end ScriptSuite.Yaml
