import ScriptSuite.Shell.Regex

/-!
# Editing rules

An editing script is a list of rules that are applied to each line of a text, one after the other. A
rule says which lines it is for and what it does. Braces around rules make a block, which is passed
over as a whole by the lines that it is not for.

## Main definitions

* `Sed.Address`, `Sed.Selection`: which lines a rule is for.
* `Sed.Deed`: what a rule does.
* `Sed.Rule`: the rules.
-/

namespace ScriptSuite.Shell.Sed

/-- What names lines. -/
inductive Address where
  /-- The line of a number. -/
  | line (n : Nat)
  /-- The line of a number, and each line a number of lines behind one. -/
  | step (first distance : Nat)
  /-- The last line. -/
  | last
  /-- The lines in which an expression matches; without one it is the expression that was used
  last. -/
  | matching (r : Option Regex)

/-- Where a range of lines ends. -/
inductive RangeEnd where
  /-- At a line that an address names. -/
  | address (a : Address)
  /-- A number of lines behind the first one. -/
  | lines (n : Nat)
  /-- At a line whose number is a multiple. -/
  | multiple (n : Nat)

/-- Which lines a rule is for. -/
inductive Selection where
  /-- All lines. -/
  | all
  /-- The lines that an address names. -/
  | one (a : Address)
  /-- The lines from one that an address names up to an end. -/
  | range (start : Address) (stop : RangeEnd)

/-- A change of the case of letters. -/
inductive CaseChange where
  /-- All letters from here on are upper case. -/
  | upper
  /-- All letters from here on are lower case. -/
  | lower
  /-- The next letter is upper case. -/
  | upperNext
  /-- The next letter is lower case. -/
  | lowerNext
  /-- Letters are left as they are from here on. -/
  | stop
deriving DecidableEq, Repr

/-- A part of the text that takes the place of a match. -/
inductive Piece where
  /-- A character. -/
  | char (c : Char)
  /-- What a group matched; the group zero is the whole match. -/
  | group (index : Nat)
  /-- A change of the case of what follows. -/
  | case (change : CaseChange)
deriving DecidableEq, Repr

/-- A substitution: matches of an expression are replaced. -/
structure Substitution where
  /-- The expression; without one it is the expression that was used last. -/
  regex : Option Regex
  /-- What takes the place of a match. -/
  value : List Piece
  /-- The number of the first match that is replaced. -/
  count : Nat := 1
  /-- Whether the matches behind it are replaced too. -/
  all : Bool := false
  /-- Whether the line is printed afterwards. -/
  printing : Bool := false
  /-- The file that the line is written to afterwards. -/
  file : Option (List Char) := none

/-- When a rule goes on elsewhere. -/
inductive JumpKind where
  /-- Always. -/
  | always
  /-- If something was replaced since the line was read. -/
  | ifReplaced
  /-- If nothing was replaced since the line was read. -/
  | unlessReplaced
deriving DecidableEq, Repr

/-- What a rule does. The space holds the line; the hold keeps a text from line to line. -/
inductive Deed where
  /-- Starts a block. -/
  | openBlock
  /-- Ends a block. -/
  | closeBlock
  /-- Marks a place under a name. -/
  | label (name : List Char)
  /-- Goes on behind the mark of a name, or at the end of the script without a name. -/
  | jump (kind : JumpKind) (name : List Char)
  /-- Prints a text behind the line. -/
  | append (text : List Char)
  /-- Prints a text in front of the line. -/
  | insert (text : List Char)
  /-- Puts a text in the place of the lines. -/
  | change (text : List Char)
  /-- Goes on with the next line. -/
  | delete
  /-- Takes away the first line of the space, and starts again if there are more. -/
  | deleteFirst
  /-- Prints the space. -/
  | print
  /-- Prints the first line of the space. -/
  | printFirst
  /-- Prints the space such that all its characters can be told. -/
  | list (width : Option Nat)
  /-- Prints the number of the line. -/
  | number
  /-- Prints the name of the file. -/
  | fileName
  /-- Puts the hold into the space. -/
  | get
  /-- Puts the hold behind the space. -/
  | getBehind
  /-- Puts the space into the hold. -/
  | hold
  /-- Puts the space behind the hold. -/
  | holdBehind
  /-- Exchanges the space and the hold. -/
  | exchange
  /-- Empties the space. -/
  | empty
  /-- Prints the space and reads the next line. -/
  | next
  /-- Puts the next line behind the space. -/
  | nextBehind
  /-- Stops, with the line printed or not. -/
  | quit (printing : Bool) (status : Nat)
  /-- Prints a file behind the line. -/
  | readFile (path : List Char)
  /-- Prints the next line of a file behind the line. -/
  | readLine (path : List Char)
  /-- Writes the space to a file. -/
  | writeFile (path : List Char)
  /-- Writes the first line of the space to a file. -/
  | writeLine (path : List Char)
  /-- Replaces matches. -/
  | substitute (s : Substitution)
  /-- Puts characters in the place of others. -/
  | translate (pairs : List (Char × Char))
  /-- Nothing. -/
  | nothing

/-- A rule. -/
structure Rule where
  /-- Which lines it is for. -/
  selection : Selection
  /-- Whether it is for all other lines instead. -/
  negated : Bool
  /-- What it does. -/
  deed : Deed

end ScriptSuite.Shell.Sed
