import ScriptSuite.Shell.Bytes
import ScriptSuite.Shell.Pattern

/-!
# Regular expressions

The tools of a shell look for regular expressions in texts. The leftmost match counts, and of all
that start there the longest one.

Where a match may end is computed for all ways to match at once, as a set of places: the set for a
repetition grows until it has no new place. Only the texts of groups ask for a single way, which is
looked for by trying longer repetitions first. An expression that refers back to a group has no such
sets; there the first way that is found counts.

## Main definitions

* `Shell.Regex`: the expressions.
* `Shell.Regex.stops`: the places where matches end.
* `Shell.Regex.find?`: the first match in a text from a place on.
* `Shell.Regex.findAll`: the matches that do not overlap.
-/

namespace ScriptSuite.Shell

/-- A condition on the place between two characters. -/
inductive Edge where
  /-- The start of the text. -/
  | textStart
  /-- The end of the text. -/
  | textStop
  /-- The start of a line. -/
  | lineStart
  /-- The end of a line. -/
  | lineStop
  /-- The start of a word. -/
  | wordStart
  /-- The end of a word. -/
  | wordStop
  /-- The start or the end of a word. -/
  | word
  /-- Neither the start nor the end of a word. -/
  | noWord
deriving DecidableEq, Repr

/-- Whether a character may be part of a word. -/
def isWordChar (c : Char) : Bool := c.isAlphanum || c = '_'

/-- Whether a condition holds between two characters, of which either may be missing. -/
def Edge.holds (before after : Option Char) (e : Edge) : Bool :=
  let left := before.any isWordChar
  let right := after.any isWordChar
  match e with
  | textStart => before.isNone
  | textStop => after.isNone
  | lineStart => before.all (· = '\n')
  | lineStop => after.all (· = '\n')
  | wordStart => !left && right
  | wordStop => left && !right
  | word => left != right
  | noWord => left == right

/-- A regular expression. -/
inductive Regex where
  /-- Nothing. -/
  | empty
  /-- The character itself. -/
  | char (c : Char)
  /-- Any character. -/
  | any
  /-- One of some characters. -/
  | oneOf (set : CharSet)
  /-- A place that satisfies a condition. -/
  | edge (e : Edge)
  /-- One expression and then another. -/
  | next (first second : Regex)
  /-- One of two expressions. -/
  | either (first second : Regex)
  /-- An expression between two numbers of times. -/
  | times (low : Nat) (high : Option Nat) (body : Regex)
  /-- An expression whose match is kept under a number. -/
  | group (index : Nat) (body : Regex)
  /-- What the group of a number matched. -/
  | same (index : Nat)
deriving Inhabited

namespace CharSet

/-- The set with the lower and the upper case of each of its letters. -/
def ignoringCase (s : CharSet) : CharSet :=
  let inside (c : Char) : Bool := s.ranges.any fun (low, high) => low ≤ c && c ≤ high
  let more := (List.range 26).filterMap fun i =>
    let lower := Char.ofNat ('a'.toNat + i)
    if inside lower || inside lower.toUpper then
      some [(lower, lower), (lower.toUpper, lower.toUpper)]
    else none
  { s with ranges := s.ranges ++ more.flatten }

end CharSet

namespace Regex

/-- The expression that matches letters in either case. -/
def ignoringCase : Regex → Regex
  | char c =>
    if c.isAlpha then
      oneOf { negated := false, ranges := [(c.toLower, c.toLower), (c.toUpper, c.toUpper)] }
    else char c
  | oneOf set => oneOf set.ignoringCase
  | next first second => next first.ignoringCase second.ignoringCase
  | either first second => either first.ignoringCase second.ignoringCase
  | times low high body => times low high body.ignoringCase
  | group index body => group index body.ignoringCase
  | r => r

/-- The expression whose `^` and `$` stand for the starts and ends of lines. -/
def byLines : Regex → Regex
  | edge .textStart => edge .lineStart
  | edge .textStop => edge .lineStop
  | next first second => next first.byLines second.byLines
  | either first second => either first.byLines second.byLines
  | times low high body => times low high body.byLines
  | group index body => group index body.byLines
  | r => r

/-- The expression that matches a text and nothing else. -/
def ofText (s : List Char) : Regex :=
  s.foldr (fun c r => next (char c) r) empty

/-- Whether a group is kept. -/
def hasGroups : Regex → Bool
  | group .. | same _ => true
  | next first second | either first second => first.hasGroups || second.hasGroups
  | times _ _ body => body.hasGroups
  | _ => false

/-- Whether the expression refers back to a group. -/
def refersBack : Regex → Bool
  | same _ => true
  | next first second | either first second => first.refersBack || second.refersBack
  | times _ _ body | group _ body => body.refersBack
  | _ => false

/-- The number of groups. -/
def groupCount : Regex → Nat
  | group _ body => body.groupCount + 1
  | next first second | either first second => first.groupCount + second.groupCount
  | times _ _ body => body.groupCount
  | _ => 0

/-! ### Where matches end -/

/-- Does something a number of times. -/
def repeated {α : Type} (f : α → α) : Nat → α → α
  | 0, a => a
  | n + 1, a => repeated f n (f a)

/-- The places that a number of steps lead to, `fresh` being the places that the last step added. -/
def spread (f : List Nat → List Nat) : Nat → List Nat → List Nat → List Nat
  | 0, seen, _ => seen
  | n + 1, seen, fresh =>
    let fresh := ((f fresh).filter (!seen.contains ·)).eraseDups
    if fresh.isEmpty then seen else spread f n (seen ++ fresh) fresh

/-- The places behind those that hold a character of some kind. -/
def passing (text : Array Char) (p : Char → Bool) (starts : List Nat) : List Nat :=
  starts.filterMap fun i => if text[i]?.any p then some (i + 1) else none

/-- The character in front of a place. -/
def charBefore (text : Array Char) (i : Nat) : Option Char :=
  if i = 0 then none else text[i - 1]?

/-- The places where the matches that start at some places end. -/
def stops (text : Array Char) : Regex → List Nat → List Nat
  | .empty, starts => starts
  | .char c, starts => passing text (· = c) starts
  | .any, starts => passing text (fun _ => true) starts
  | .oneOf set, starts => passing text set.holds starts
  | .edge e, starts => starts.filter fun i => e.holds (charBefore text i) text[i]?
  | .next first second, starts => stops text second (stops text first starts)
  | .either first second, starts => (stops text first starts ++ stops text second starts).eraseDups
  | .times low high body, starts =>
    let least := repeated (stops text body) low starts
    spread (stops text body) ((high.map (· - low)).getD (text.size + 1)) least least
  | .group _ body, starts => stops text body starts
  | .same _, _ => []

/-! ### The texts of groups -/

/-- A match in progress. -/
structure Cursor where
  /-- The place in the text. -/
  place : Nat
  /-- The groups with their starts and ends, the last match of each first. -/
  groups : List (Nat × Nat × Nat) := []

/-- Something to match. -/
inductive Task where
  /-- An expression. -/
  | expression (r : Regex)
  /-- The end of a group that started at a place. -/
  | closing (index start : Nat)
  /-- More of a repetition, if something was matched since a place. -/
  | again (low : Nat) (high : Option Nat) (body : Regex) (start : Nat)

/-- Matches tasks one after the other such that the match ends at a place that is asked for. -/
def run (text : Array Char) (ending : Nat → Bool) (steps : Nat) (tasks : List Task) (s : Cursor) :
    Option Cursor :=
  match steps with
  | 0 => none
  | steps + 1 =>
    let one (p : Char → Bool) (tasks : List Task) : Option Cursor :=
      if text[s.place]?.any p then run text ending steps tasks { s with place := s.place + 1 }
      else none
    match tasks with
    | [] => if ending s.place then some s else none
    | .closing index start :: tasks =>
      run text ending steps tasks { s with groups := (index, start, s.place) :: s.groups }
    | .again low high body start :: tasks =>
      if start < s.place then run text ending steps (.expression (.times low high body) :: tasks) s
      else none
    | .expression r :: tasks =>
      match r with
      | .empty => run text ending steps tasks s
      | .char d => one (· = d) tasks
      | .any => one (fun _ => true) tasks
      | .oneOf set => one set.holds tasks
      | .edge e =>
        if e.holds (charBefore text s.place) text[s.place]? then run text ending steps tasks s
        else none
      | .next first second =>
        run text ending steps (.expression first :: .expression second :: tasks) s
      | .either first second =>
        (run text ending steps (.expression first :: tasks) s).or
          (run text ending steps (.expression second :: tasks) s)
      | .group index body =>
        run text ending steps (.expression body :: .closing index s.place :: tasks) s
      | .same index =>
        match s.groups.find? fun g => g.1 = index with
        | some (_, start, stop) =>
          let length := stop - start
          if text.extract s.place (s.place + length) = text.extract start stop then
            run text ending steps tasks { s with place := s.place + length }
          else none
        | none => none
      | .times (low + 1) high body =>
        run text ending steps
          (.expression body :: .expression (.times low (high.map (· - 1)) body) :: tasks) s
      | .times 0 high body =>
        if high = some 0 then run text ending steps tasks s
        else
          (run text ending steps (.expression body ::
            .again 0 (high.map (· - 1)) body s.place :: tasks) s).or (run text ending steps tasks s)

/-- The size of an expression. -/
def size : Regex → Nat
  | .next r q | .either r q => r.size + q.size + 1
  | .times low _ r => (low + 1) * (r.size + 1) + 1
  | .group _ r => r.size + 2
  | _ => 1

/-! ### Matches -/

/-- A match in a text. -/
structure Match where
  /-- Where it starts. -/
  start : Nat
  /-- Where it ends. -/
  stop : Nat
  /-- The groups with their starts and ends. -/
  groups : List (Nat × Nat × Nat) := []

/-- The part of a text that the group of a number matched; the group zero is the whole match. -/
def Match.group (m : Match) (text : Array Char) (index : Nat) : List Char :=
  if index = 0 then (text.extract m.start m.stop).toList
  else
    match m.groups.find? fun g => g.1 = index with
    | some (_, start, stop) => (text.extract start stop).toList
    | none => []

/-- The match that starts at a place. -/
def matchAt? (r : Regex) (text : Array Char) (start : Nat) : Option Match :=
  let steps := (2 * r.size + 4) * (text.size + 2)
  let way (ending : Nat → Bool) : Option Match :=
    (run text ending steps [.expression r] { place := start }).map fun c =>
      { start, stop := c.place, groups := c.groups }
  if r.refersBack then way fun _ => true
  else
    (r.stops text [start]).max?.bind fun stop =>
      if r.hasGroups then way (· = stop) else some { start, stop }

/-- The first match from a place on. -/
def find? (r : Regex) (text : Array Char) (start : Nat) : Option Match :=
  (List.range' start (text.size + 1 - start)).findSome? (r.matchAt? text)

/-- Whether there is a match. -/
def occursIn (r : Regex) (text : List Char) : Bool :=
  (r.find? text.toArray 0).isSome

/-- The matches from a place on that do not overlap. An empty one does not follow directly behind
the last one, which ended at `last`. -/
def findAll (r : Regex) (text : Array Char) (steps start : Nat) (last : Option Nat) : List Match :=
  match steps with
  | 0 => []
  | steps + 1 =>
    match r.find? text start with
    | none => []
    | some m =>
      if m.start < m.stop then m :: findAll r text steps m.stop (some m.stop)
      else if last = some m.start then findAll r text steps (m.start + 1) none
      else m :: findAll r text steps (m.start + 1) none

/-- The matches in a text. -/
def matchesIn (r : Regex) (text : Array Char) : List Match :=
  r.findAll text (2 * text.size + 2) 0 none

end Regex

end ScriptSuite.Shell
