import ScriptSuite.Shell.Regex

/-!
# Reading regular expressions

In the basic dialect groups, bounds and alternatives need a backslash; in the extended one they do
not. The dialect of `awk` is an extended one whose backslashes also work in brackets and stand for
characters that cannot be written otherwise.

## Main definitions

* `Shell.Regex.Dialect`: the dialects.
* `Shell.Regex.Problem`: why a text is no expression.
* `Shell.Regex.parse`: the expression of a text.
-/

namespace ScriptSuite.Shell.Regex

/-- A way to write expressions. -/
inductive Dialect where
  /-- Signs need a backslash. -/
  | basic
  /-- Signs need no backslash. -/
  | extended
  /-- Signs need no backslash, and a backslash works in brackets too. -/
  | escaping
deriving DecidableEq, Repr

/-- Why a text is no expression. -/
inductive Problem where
  /-- A bracket is not closed. -/
  | openBracket
  /-- A group is not closed. -/
  | openGroup
  /-- A group is closed that was not opened. -/
  | strayGroupEnd
  /-- A bound is not closed. -/
  | openBounds
  /-- A bound is no range of numbers. -/
  | badBounds
  /-- A range of characters ends before it starts. -/
  | badRange
  /-- There is no class of this name. -/
  | badClass
  /-- The text ends in a backslash. -/
  | lastBackslash
  /-- A group is referred to that was not opened. -/
  | badReference
  /-- There is nothing to repeat. -/
  | nothingToRepeat
  /-- The expression is too big. -/
  | tooBig
deriving DecidableEq, Repr

/-- What a problem is called. -/
def Problem.message : Problem → String
  | openBracket => "Unmatched [, [^, [:, [., or [="
  | openGroup => "Unmatched ( or \\("
  | strayGroupEnd => "Unmatched ) or \\)"
  | openBounds => "Unmatched \\\x7b"
  | badBounds => "Invalid content of \\\x7b\\\x7d"
  | badRange => "Invalid range end"
  | badClass => "Invalid character class name"
  | lastBackslash => "Trailing backslash"
  | badReference => "Invalid back reference"
  | nothingToRepeat => "Invalid preceding regular expression"
  | tooBig => "Regular expression too big"

/-- What is left of a text, and what is known of the text in front. -/
structure Progress where
  /-- The text. -/
  rest : List Char
  /-- Whether the end of a group may stand for itself where no group is open. -/
  tolerant : Bool := false
  /-- The number of groups that were opened. -/
  groups : Nat := 0
  /-- The number of groups that are open. -/
  depth : Nat := 0

/-- A reader of expressions. -/
abbrev Reader := StateT Progress (Except Problem)

namespace Reader

/-- What is left of the text. -/
def rest : Reader (List Char) := do return (← get).rest

/-- Whether the end of a group stands for itself. -/
def isPlainEnd : Reader Bool := do
  let p ← get
  return p.tolerant && p.depth = 0

/-- Goes on with a text. -/
def goTo (s : List Char) : Reader Unit := modify fun p => { p with rest := s }

end Reader

/-! ### Brackets -/

/-- The character at the front of brackets, and what follows it. -/
def bracketChar (escaping : Bool) (s : List Char) : Except Problem (Char × List Char) :=
  match s with
  | '[' :: '.' :: c :: '.' :: ']' :: s | '[' :: '=' :: c :: '=' :: ']' :: s => .ok (c, s)
  | '\\' :: c :: s =>
    if escaping then .ok ((match c with | 'n' => '\n' | 't' => '\t' | c => c), s)
    else .ok ('\\', c :: s)
  | c :: s => .ok (c, s)
  | [] => .error .openBracket

/-- The ranges in brackets up to the closing bracket, which does not close when it comes first. -/
def brackets (escaping : Bool) (steps : Nat) (first : Bool) (s : List Char) :
    Except Problem (List (Char × Char) × List Char) :=
  match steps with
  | 0 => .error .openBracket
  | steps + 1 =>
    match s with
    | [] => .error .openBracket
    | '[' :: ':' :: s => do
      match Text.cut [':', ']'] s with
      | some (name, s) =>
        let ranges := CharSet.named (String.ofList name)
        if ranges.isEmpty then throw .badClass
        let (others, s) ← brackets escaping steps false s
        return (ranges ++ others, s)
      | none => throw .openBracket
    | c :: rest => do
      if c = ']' && !first then return ([], rest)
      let (low, s) ← bracketChar escaping s
      match s with
      | '-' :: d :: rest =>
        if d = ']' then
          let (others, s) ← brackets escaping steps false s
          return ((low, low) :: others, s)
        else
          let (high, s) ← bracketChar escaping (d :: rest)
          if high < low then throw .badRange
          let (others, s) ← brackets escaping steps false s
          return ((low, high) :: others, s)
      | s =>
        let (others, s) ← brackets escaping steps false s
        return ((low, low) :: others, s)

/-- The set behind an opening bracket, and what follows the closing one. -/
def bracketSet (escaping : Bool) (s : List Char) : Except Problem (CharSet × List Char) := do
  let (negated, s) := match s with
    | '^' :: s => (true, s)
    | s => (false, s)
  let (ranges, s) ← brackets escaping (s.length + 1) true s
  return ({ negated, ranges }, s)

/-! ### Repetitions -/

/-- The largest bound. -/
def boundLimit : Nat := 32767

/-- The bounds behind an opening brace, and what follows the closing one. -/
def bounds (closing s : List Char) : Except Problem ((Nat × Option Nat) × List Char) :=
  match Text.cut closing s with
  | none => .error .openBounds
  | some (inner, rest) =>
    let low := inner.takeWhile Char.isDigit
    let range : Option (Nat × Option Nat) := match inner.drop low.length with
      | [] => if low.isEmpty then none else some (decimal low, some (decimal low))
      | ',' :: high =>
        if !high.all Char.isDigit then none
        else some (decimal low, if high.isEmpty then none else some (decimal high))
      | _ => none
    match range with
    | none => .error .badBounds
    | some (low, high) =>
      if high.any (· < low) then .error .badBounds
      else if boundLimit < high.getD low then .error .tooBig
      else .ok ((low, high), rest)

/-- The repetition at the front of a text, and what follows it. -/
def repetition? (d : Dialect) (s : List Char) :
    Except Problem (Option ((Nat × Option Nat) × List Char)) :=
  let braces (closing s : List Char) : Except Problem (Option ((Nat × Option Nat) × List Char)) :=
    (bounds closing s).map some
  match s with
  | '*' :: s => .ok (some ((0, none), s))
  | '\\' :: c :: s =>
    if d != .basic then .ok none
    else if c = '+' then .ok (some ((1, none), s))
    else if c = '?' then .ok (some ((0, some 1), s))
    else if c = '\x7b' then braces ['\\', '\x7d'] s
    else .ok none
  | c :: s =>
    if d = .basic then .ok none
    else if c = '+' then .ok (some ((1, none), s))
    else if c = '?' then .ok (some ((0, some 1), s))
    else if c = '\x7b' then
      -- a brace that is no bound stands for itself
      match braces ['\x7d'] s with
      | .error .tooBig => .error .tooBig
      | .error _ => .ok none
      | r => r
    else .ok none
  | [] => .ok none

/-! ### Expressions -/

/-- Whether a text starts with a sign that ends a branch; the end of a group may be `plain`. -/
def endsBranch (d : Dialect) (plain : Bool) (s : List Char) : Bool :=
  let isSign (c : Char) : Bool := c = '|' || (c = ')' && !plain)
  match s with
  | [] => true
  | '\\' :: c :: _ => d = .basic && isSign c
  | c :: _ => d != .basic && isSign c

/-- What follows a sign at the front of a text, with a backslash in the basic dialect. -/
def passSign? (d : Dialect) (sign : Char) (s : List Char) : Option (List Char) :=
  match s with
  | '\\' :: c :: s => if d = .basic && c = sign then some s else none
  | c :: s => if d != .basic && c = sign then some s else none
  | [] => none

/-- What a backslash and a character stand for, if that is not the character itself. -/
def escaped? (c : Char) : Option Regex :=
  let wordRanges := [('a', 'z'), ('A', 'Z'), ('0', '9'), ('_', '_')]
  let blankRanges := [(' ', ' '), ('\t', '\r')]
  match c with
  | 'w' => some (.oneOf { negated := false, ranges := wordRanges })
  | 'W' => some (.oneOf { negated := true, ranges := wordRanges })
  | 's' => some (.oneOf { negated := false, ranges := blankRanges })
  | 'S' => some (.oneOf { negated := true, ranges := blankRanges })
  | 'b' => some (.edge .word)
  | 'B' => some (.edge .noWord)
  | '<' => some (.edge .wordStart)
  | '>' => some (.edge .wordStop)
  | '\x60' => some (.edge .textStart)
  | '\'' => some (.edge .textStop)
  | _ => none

/-- What a backslash in front of a text stands for in the escaping dialect, and what follows it. -/
def escapedText (s : List Char) : Char × List Char :=
  match s with
  | 'n' :: s => ('\n', s)
  | 't' :: s => ('\t', s)
  | 'r' :: s => ('\r', s)
  | 'f' :: s => ('\x0c', s)
  | 'v' :: s => ('\x0b', s)
  | 'a' :: s => ('\x07', s)
  | 'b' :: s => ('\x08', s)
  | c :: s => (c, s)
  | [] => ('\\', [])

/-- Parts one behind the other, of which the last one comes first. -/
def sequence (parts : List Regex) : Regex :=
  match parts with
  | [] => .empty
  | [r] => r
  | r :: rest => rest.foldl (fun behind part => .next part behind) r

mutual

/-- Reads alternatives. -/
def alternatives (d : Dialect) (steps : Nat) : Reader Regex :=
  match steps with
  | 0 => throw .tooBig
  | steps + 1 => do
    let first ← branch d steps []
    match passSign? d '|' (← Reader.rest) with
    | some s =>
      Reader.goTo s
      return .either first (← alternatives d steps)
    | none => return first

/-- Reads the parts of an alternative; `parts` are those read so far, last one first. -/
def branch (d : Dialect) (steps : Nat) (parts : List Regex) : Reader Regex :=
  match steps with
  | 0 => throw .tooBig
  | steps + 1 => do
    let s ← Reader.rest
    if endsBranch d (← Reader.isPlainEnd) s then
      if d = .escaping && parts.isEmpty then
        throw (if s.isEmpty && 0 < (← get).depth then .openGroup else .nothingToRepeat)
      return sequence parts
    let isFirst := match parts with
      | [] => true
      | [.edge .textStart] => d = .basic
      | _ => false
    match ← repetition? d s, parts with
    | some ((low, high), rest), part :: others =>
      if isFirst then
        Reader.goTo s.tail
        branch d steps (.char '*' :: parts)
      else
        Reader.goTo rest
        branch d steps (.times low high part :: others)
    | some (_, rest), [] =>
      if d = .basic then
        unless s.head? = some '*' do throw .nothingToRepeat
        Reader.goTo s.tail
        branch d steps [.char '*']
      else
        if d = .escaping then throw .nothingToRepeat
        Reader.goTo rest
        branch d steps parts
    | none, _ =>
      let part ← atom d steps isFirst
      branch d steps (part :: parts)

/-- Reads a part; `isFirst` tells whether it is the first one of its alternative. -/
def atom (d : Dialect) (steps : Nat) (isFirst : Bool) : Reader Regex :=
  match steps with
  | 0 => throw .tooBig
  | steps + 1 => do
    let s ← Reader.rest
    match passSign? d '(' s with
    | some inner =>
      let index := (← get).groups + 1
      modify fun p => { p with rest := inner, groups := index, depth := p.depth + 1 }
      let body ← alternatives d steps
      match passSign? d ')' (← Reader.rest) with
      | some s =>
        modify fun p => { p with rest := s, depth := p.depth - 1 }
        return .group index body
      | none => throw .openGroup
    | none =>
      match s with
      | '\\' :: rest =>
        if rest.isEmpty then throw .lastBackslash
        if d = .escaping then
          let (c, s) := escapedText rest
          Reader.goTo s
          return .char c
        let c := rest.headD '\\'
        Reader.goTo rest.tail
        if '1' ≤ c && c ≤ '9' then
          let index := c.toNat - '0'.toNat
          if (← get).groups < index then throw .badReference
          return .same index
        return (escaped? c).getD (.char c)
      | '[' :: s =>
        let (set, s) ← bracketSet (d = .escaping) s
        Reader.goTo s
        return .oneOf set
      | '.' :: s =>
        Reader.goTo s
        return .any
      | '^' :: s =>
        Reader.goTo s
        return if d != .basic || isFirst then .edge .textStart else .char '^'
      | '$' :: s =>
        Reader.goTo s
        return if d != .basic || endsBranch d false s then .edge .textStop else .char '$'
      | c :: s =>
        Reader.goTo s
        return .char c
      | [] => return .empty

end

/-- The expression of a text. In the escaping dialect nothing but the whole may be empty. The end of
a group that was not opened is a mistake, unless the reader is `tolerant` about it. -/
def parse (d : Dialect) (tolerant : Bool) (s : List Char) : Except Problem Regex := do
  if s.isEmpty then return .empty
  let (r, p) ← alternatives d (4 * s.length + 8) { rest := s, tolerant }
  if p.rest.isEmpty then return r else throw .strayGroupEnd

end ScriptSuite.Shell.Regex
