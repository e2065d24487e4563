import ScriptSuite.Text.Find

/-!
# Globs

A glob describes a set of paths. `?` stands for any character and `*` for any characters, slashes
included. `**` must be a whole component: with a slash behind it, it stands for nothing or for any
characters that end in a slash, and at the end for any rest. `[...]` stands for one of the
characters and ranges in the brackets and `[!...]` for any other; there is at least one of them, so
a bracket that comes first does not close.

Whether a letter is a capital does not matter, as far as ASCII goes. A range ignores case only if
both its ends are letters.

## Main definitions

* `Glob.parse?`: the glob of a text, or the place and kind of a mistake.
* `Glob.holds`: whether a path belongs to the set.
-/

namespace ScriptSuite

/-- A character or range in brackets. -/
inductive GlobRange where
  /-- A single character. -/
  | single (c : Char)
  /-- All characters between two, ends included. -/
  | span (low high : Char)
deriving DecidableEq, Repr

/-- A part of a glob. -/
inductive GlobPart where
  /-- The character itself. -/
  | char (c : Char)
  /-- Any character. -/
  | anyChar
  /-- Any characters. -/
  | anyChars
  /-- Any components. -/
  | anyComponents
  /-- One of the characters in brackets. -/
  | oneOf (ranges : List GlobRange)
  /-- A character that is not in brackets. -/
  | noneOf (ranges : List GlobRange)
deriving DecidableEq, Repr

/-- What is wrong with a glob. -/
inductive GlobMistake where
  /-- More than two stars stand together. -/
  | stars
  /-- Two stars are not a whole component. -/
  | component
  /-- A bracket is not closed. -/
  | range
deriving DecidableEq, Repr

/-- A mistake and its place, counted in characters. -/
structure GlobError where
  /-- The place. -/
  position : Nat
  /-- What is wrong. -/
  mistake : GlobMistake
deriving DecidableEq, Repr

/-- The text for a mistake. -/
def GlobMistake.message : GlobMistake → String
  | stars => "wildcards are either regular `*` or recursive `**`"
  | component => "recursive wildcards must form a single path component"
  | range => "invalid range pattern"

/-- The text for a mistake with its place. -/
def GlobError.message (e : GlobError) : String :=
  s!"Pattern syntax error near position {e.position}: {e.mistake.message}"

/-- A compiled glob. -/
structure Glob where
  /-- The parts, from left to right. -/
  parts : List GlobPart
deriving DecidableEq, Repr

namespace Glob

/-! ### Reading -/

/-- The characters and ranges in brackets. -/
def ranges : List Char → List GlobRange
  | low :: '-' :: high :: s => .span low high :: ranges s
  | c :: s => .single c :: ranges s
  | [] => []

/-- The text up to the first closing bracket behind the first character, and what follows it. -/
def bracketed? : List Char → Option (List Char × List Char)
  | [] => none
  | c :: s => (Text.cut [']'] s).map fun (body, rest) => (c :: body, rest)

/-- The part behind an opening bracket and what follows it. -/
def rangePart? : List Char → Option (GlobPart × List Char)
  | '!' :: s => (bracketed? s).map fun (body, rest) => (.noneOf (ranges body), rest)
  | s => (bracketed? s).map fun (body, rest) => (.oneOf (ranges body), rest)

/-- The parts read so far, last first, with `**` added; next to another `**` it adds nothing. -/
def addComponents : List GlobPart → List GlobPart
  | .anyComponents :: second :: rest => .anyComponents :: second :: rest
  | parts => .anyComponents :: parts

/-- Reads the text from a place on. `before` is the character in front and `parts` holds the parts
read so far, last first. -/
def parseFrom (position : Nat) (before : Option Char) (parts : List GlobPart) (s : List Char) :
    Except GlobError (List GlobPart) :=
  match s with
  | [] => .ok parts.reverse
  | '?' :: s => parseFrom (position + 1) (some '?') (.anyChar :: parts) s
  | '*' :: '*' :: '*' :: _ => .error { position := position + 2, mistake := .stars }
  | '*' :: '*' :: s =>
    if before.all (· = '/') then
      match s with
      | [] => .ok (addComponents parts).reverse
      | c :: s =>
        if c = '/' then parseFrom (position + 3) (some '/') (addComponents parts) s
        else .error { position := position + 2, mistake := .component }
    else .error { position := position - 1, mistake := .component }
  | '*' :: s => parseFrom (position + 1) (some '*') (.anyChars :: parts) s
  | '[' :: s =>
    match rangePart? s with
    | some (part, rest) =>
      if rest.length < s.length then
        parseFrom (position + 1 + (s.length - rest.length)) (some ']') (part :: parts) rest
      else .error { position, mistake := .range }
    | none => .error { position, mistake := .range }
  | c :: s => parseFrom (position + 1) (some c) (.char c :: parts) s
termination_by s.length
decreasing_by all_goals (simp only [List.length_cons]; omega)

/-- The glob of a text. -/
def parse? (text : String) : Except GlobError Glob :=
  (parseFrom 0 none [] text.toList).map Glob.mk

/-! ### Matching -/

/-- Whether two characters are equal when the case of ASCII letters does not matter. -/
def sameChar (a b : Char) : Bool :=
  a = b || (a.toNat < 128 && b.toNat < 128 && a.toLower = b.toLower)

/-- Whether a character lies in a range. -/
def GlobRange.holds (c : Char) : GlobRange → Bool
  | .single d => sameChar c d
  | .span low high =>
    (low.isAlpha && high.isAlpha && low.toLower ≤ c.toLower && c.toLower ≤ high.toLower) ||
      (low ≤ c && c ≤ high)

/-- Whether a part that stands for one character stands for the given one. -/
def standsFor (c : Char) : GlobPart → Bool
  | .char d => sameChar c d
  | .anyChar => true
  | .oneOf ranges => ranges.any (GlobRange.holds c)
  | .noneOf ranges => !ranges.any (GlobRange.holds c)
  | .anyChars | .anyComponents => false

/-- How an attempt to match ends. -/
inductive Attempt where
  /-- The text matches. -/
  | matched
  /-- This attempt fails. -/
  | failed
  /-- The text is too short, so attempts that leave less of it must fail too. -/
  | tooShort
deriving DecidableEq, Repr

/-- Attempts to match at each place of a text, from left to right; with `onlyComponents` set, at its
start, behind each slash and at its end only. -/
def attemptAll (attempt : List Char → Attempt) (onlyComponents atStart : Bool) :
    List Char → Attempt
  | [] => attempt []
  | c :: s =>
    let here := if onlyComponents && !atStart then .failed else attempt (c :: s)
    match here with
    | .failed => attemptAll attempt onlyComponents (c = '/') s
    | other => other

/-- Attempts to match a whole text. -/
def attempt : List GlobPart → List Char → Attempt
  | [], [] => .matched
  | [], _ :: _ => .failed
  | .anyChars :: parts, s => attemptAll (attempt parts) false true s
  | .anyComponents :: parts, s => attemptAll (attempt parts) true true s
  | _ :: _, [] => .tooShort
  | part :: parts, c :: s => if standsFor c part then attempt parts s else .failed

/-- Whether a path belongs to the set; backslashes in it are slashes. -/
def holds (g : Glob) (path : String) : Bool :=
  attempt g.parts (Text.forwardSlashes path.toList) = .matched

end Glob

end ScriptSuite
