import ScriptSuite.Text.Lines

/-!
# Places in a YAML text

The structure of a YAML text depends on the columns in which things stand, so a reader knows the
line and the column of its place. A place is *fresh* while nothing that could not be followed by a
key stands before it on its line. A byte order mark may stand at the start of every line and takes
up a column.

## Main definitions

* `Yaml.Place`: a place and the text behind it.
* `Yaml.Place.skip`: the place of the next thing to read.
* `Yaml.Place.isKeyUpTo`: whether something may be a key.
* `Yaml.prepare?`: the text to read.
-/

namespace ScriptSuite.Yaml

/-- Whether a character ends a line. -/
def isBreak (c : Char) : Bool :=
  c = '\n' || c = '\u2028' || c = '\u2029'

/-- Whether a character is a space or a tab. -/
def isSpacing (c : Char) : Bool :=
  c = ' ' || c = '\t'

/-- Whether a text may stand in a document. -/
def isPrintable (c : Char) : Bool :=
  let n := c.toNat
  n == 0x09 || n == 0x0A || n == 0x0D || (0x20 ≤ n && n ≤ 0x7E) || n == 0x85 ||
    (0xA0 ≤ n && n ≤ 0xFFFD) || 0x10000 ≤ n

/-- The text to read: all ways to end a line but two are made one. A text with characters that may
not stand in a document is refused. -/
def prepare? (s : List Char) : Option (List Char) :=
  if s.all isPrintable then
    some ((Text.unifyBreaks s).map fun c => if c = '\u0085' then '\n' else c)
  else none

/-- Whether a text starts with a blank or a break, or is empty. -/
def startsApart (s : List Char) : Bool :=
  s.head?.all fun c => isSpacing c || isBreak c

/-- Whether a text starts with one of the two markers around documents. -/
def startsWithMarker : List Char → Bool
  | '-' :: '-' :: '-' :: s => startsApart s
  | '.' :: '.' :: '.' :: s => startsApart s
  | _ => false

/-- A place in a text. -/
structure Place where
  /-- The line. -/
  line : Nat
  /-- The column. -/
  column : Nat
  /-- Whether a key may follow. -/
  fresh : Bool
  /-- The text behind the place. -/
  rest : List Char

namespace Place

/-- The start of a text. -/
def start (s : List Char) : Place where
  line := 0
  column := 0
  fresh := true
  rest := s

/-- The place behind the next `n` characters, none of which ends a line. -/
def past (n : Nat) (fresh : Bool) (p : Place) : Place :=
  { p with column := p.column + n, fresh, rest := p.rest.drop n }

/-- Whether the document ends at a place. -/
def isEnd (p : Place) : Bool :=
  p.rest.isEmpty || (p.column = 0 && startsWithMarker p.rest)

/-- Whether the dash of a sequence follows. -/
def atDash (p : Place) : Bool :=
  p.rest.head? = some '-' && startsApart p.rest.tail

/-- Whether the colon behind a key follows, outside brackets. -/
def atColon (p : Place) : Bool :=
  p.rest.head? = some ':' && startsApart p.rest.tail

/-- Passes over blanks, breaks, comments and marks at the start of a line. Outside brackets a break
makes the place fresh, and no tab may stand in a fresh place. -/
def skipFrom (inBrackets fresh inComment : Bool) (line column : Nat) : List Char → Place
  | [] => { line, column, fresh, rest := [] }
  | c :: s =>
    if c = '\uFEFF' && column = 0 then skipFrom inBrackets fresh inComment line 1 s
    else if isBreak c then skipFrom inBrackets (fresh || !inBrackets) false (line + 1) 0 s
    else if inComment || c = ' ' || (c = '\t' && (inBrackets || !fresh)) then
      skipFrom inBrackets fresh inComment line (column + 1) s
    else if c = '#' then skipFrom inBrackets fresh true line (column + 1) s
    else { line, column, fresh, rest := c :: s }

/-- The place of the next thing to read. -/
def skip (inBrackets : Bool) (p : Place) : Place :=
  skipFrom inBrackets p.fresh false p.line p.column p.rest

/-- How many bytes of a line a key and the blanks behind it may take up. -/
def keyLimit : Nat := 1024

/-- Whether what starts at `p` may be a key if its colon stands at `q`: it takes one line and is not
too long. -/
def isKeyUpTo (p q : Place) : Bool :=
  q.line = p.line &&
    (p.rest.take (q.column - p.column)).foldl (fun n c => n + c.utf8Size) 0 ≤ keyLimit

end Place

end ScriptSuite.Yaml
