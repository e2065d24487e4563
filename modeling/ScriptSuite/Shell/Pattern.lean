import ScriptSuite.Text.Find

/-!
# Patterns

In the patterns of a shell `?` stands for any character, `*` for any text, and brackets for one of
the characters in them. What was quoted stands for itself.

## Main definitions

* `Shell.CharSet`: the characters in brackets.
* `Shell.Pattern`: the patterns; `Pattern.holds` tells what they stand for.
* `Shell.cutFront`, `Shell.cutBack`: the part of a text behind, or in front of, what a pattern
  stands for.
-/

namespace ScriptSuite.Shell

/-- The characters in brackets, as ranges with both ends. -/
structure CharSet where
  /-- Whether the set has all characters but those in the ranges. -/
  negated : Bool
  /-- The ranges. -/
  ranges : List (Char × Char)
deriving DecidableEq, Repr

namespace CharSet

/-- Whether a set has a character. -/
def holds (s : CharSet) (c : Char) : Bool :=
  s.negated != s.ranges.any fun (low, high) => low ≤ c && c ≤ high

/-- The ranges of a class of characters. -/
def named (name : String) : List (Char × Char) :=
  let lower := ('a', 'z')
  let upper := ('A', 'Z')
  let digit := ('0', '9')
  match name with
  | "lower" => [lower]
  | "upper" => [upper]
  | "alpha" => [lower, upper]
  | "digit" => [digit]
  | "alnum" => [lower, upper, digit]
  | "xdigit" => [digit, ('a', 'f'), ('A', 'F')]
  | "blank" => [(' ', ' '), ('\t', '\t')]
  | "space" => [(' ', ' '), ('\t', '\r')]
  | "punct" => [('!', '/'), (':', '@'), ('[', '\x60'), ('\x7b', '~')]
  | "cntrl" => [('\x00', '\x1f'), ('\x7f', '\x7f')]
  | "print" => [(' ', '~')]
  | "graph" => [('!', '~')]
  | _ => []

/-- Reads ranges up to the closing bracket, which does not close when it comes first. -/
def rangesFrom? (steps : Nat) (first : Bool) (s : List Char) :
    Option (List (Char × Char) × List Char) :=
  match steps with
  | 0 => none
  | steps + 1 =>
    match s with
    | [] => none
    | '[' :: ':' :: s =>
      match Text.cut [':', ']'] s with
      | some (name, s) =>
        (rangesFrom? steps false s).map fun (rs, s) => (named (String.ofList name) ++ rs, s)
      | none => none
    | c :: s =>
      if c = ']' && !first then some ([], s)
      else
        match s with
        | '-' :: d :: s' =>
          if d = ']' then (rangesFrom? steps false s).map fun (rs, s) => ((c, c) :: rs, s)
          else (rangesFrom? steps false s').map fun (rs, s) => ((c, d) :: rs, s)
        | s => (rangesFrom? steps false s).map fun (rs, s) => ((c, c) :: rs, s)

/-- The set behind an opening bracket, and what follows the closing one. -/
def read? (s : List Char) : Option (CharSet × List Char) :=
  let (negated, s) := match s with
    | '!' :: s | '^' :: s => (true, s)
    | s => (false, s)
  (rangesFrom? (s.length + 1) true s).map fun (ranges, s) => ({ negated, ranges }, s)

end CharSet

/-- A part of a pattern. -/
inductive PatternPart where
  /-- The character itself. -/
  | char (c : Char)
  /-- Any character. -/
  | any
  /-- Any text. -/
  | many
  /-- One of some characters. -/
  | oneOf (set : CharSet)
deriving DecidableEq, Repr

/-- A pattern. -/
abbrev Pattern := List PatternPart

namespace Pattern

/-- The pattern of characters, each with a mark that tells whether it was quoted. -/
def ofMarked (steps : Nat) (s : List (Bool × Char)) : Pattern :=
  match steps, s with
  | 0, _ | _, [] => []
  | steps + 1, (quoted, c) :: s =>
    if quoted then .char c :: ofMarked steps s
    else if c = '?' then .any :: ofMarked steps s
    else if c = '*' then .many :: ofMarked steps s
    else if c = '[' then
      match CharSet.read? (s.map (·.2)) with
      | some (set, rest) => .oneOf set :: ofMarked steps (s.drop (s.length - rest.length))
      | none => .char c :: ofMarked steps s
    else .char c :: ofMarked steps s

/-- The ends of a text that are left when a front of it is what the pattern stands for, longest
front first. -/
def behind : Pattern → List Char → List (List Char)
  | [], s => [s]
  | .many :: p, s => ends (behind p) s
  | .char d :: p, c :: s => if c = d then behind p s else []
  | .any :: p, _ :: s => behind p s
  | .oneOf set :: p, c :: s => if set.holds c then behind p s else []
  | _ :: _, [] => []
where
  /-- What a function finds at each place of a text, the last place first. -/
  ends (f : List Char → List (List Char)) : List Char → List (List Char)
    | [] => f []
    | c :: s => ends f s ++ f (c :: s)

/-- Whether a text is what the pattern stands for. -/
def holds (p : Pattern) (s : List Char) : Bool :=
  (behind p s).any (·.isEmpty)

end Pattern

/-- The end of a text behind a front that is what a pattern stands for; the text if there is no such
front. -/
def cutFront (longest : Bool) (p : Pattern) (s : List Char) : List Char :=
  let lengths := (Pattern.behind p s).map (·.length)
  let pick := if longest then lengths.min? else lengths.max?
  match pick with
  | some n => s.drop (s.length - n)
  | none => s

/-- The front of a text before an end that is what a pattern stands for; the text if there is no
such end. -/
def cutBack (longest : Bool) (p : Pattern) (s : List Char) : List Char :=
  let places := (List.range (s.length + 1)).filter fun n => Pattern.holds p (s.drop n)
  match (if longest then places.head? else places.getLast?) with
  | some n => s.take n
  | none => s

end ScriptSuite.Shell
