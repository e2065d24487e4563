import ScriptSuite.Text.Find

/-!
# Shell scripts

An interpreter may itself be a shell script. A script is a list of commands; a command is built from
words, and a word from parts that are replaced when it is evaluated. A part knows whether it was
quoted: what replaces an unquoted part is split at blanks.

A shell works on bytes. Its texts are lists of characters of which each stands for the byte of its
number.

## Main definitions

* `Shell.Part`, `Shell.Word`: the words.
* `Shell.Command`: the commands.
-/

namespace ScriptSuite.Shell

/-- What a redirection does with a file or stream. -/
inductive RedirectKind where
  /-- Reads from a file. -/
  | read
  /-- Writes to a file, which is emptied before. -/
  | write
  /-- Writes to a file, which is emptied even where files are to be kept. -/
  | overwrite
  /-- Writes to the end of a file. -/
  | append
  /-- Does what another stream does. -/
  | copy
  /-- Reads a text that is part of the script, by its number. -/
  | here (index : Nat)
deriving DecidableEq, Repr

/-- When a word stands in for a parameter. -/
inductive Fallback where
  /-- In the place of a missing value. -/
  | instead
  /-- In the place of a missing value, which it also becomes. -/
  | assign
  /-- As the message of an error about a missing value. -/
  | complain
  /-- In the place of a value that is there. -/
  | whenPresent
deriving DecidableEq, Repr

mutual

/-- A part of a word. -/
inductive Part where
  /-- A text. -/
  | literal (quoted : Bool) (text : List Char)
  /-- The home of a user; without a name it is that of the user who runs the shell. -/
  | home (name : List Char)
  /-- The value of a parameter. -/
  | parameter (quoted : Bool) (name : List Char) (change : Change)
  /-- What a command prints. -/
  | output (quoted : Bool) (body : Command)
  /-- The value of an expression. -/
  | arithmetic (quoted : Bool) (expression : List Part)

/-- What becomes of the value of a parameter. -/
inductive Change where
  /-- Nothing. -/
  | same
  /-- Its length takes its place. -/
  | length
  /-- A word may stand in for it; `orEmpty` if an empty value counts as missing. -/
  | fallback (orEmpty : Bool) (kind : Fallback) (word : List Part)
  /-- A front that matches a pattern is cut off. -/
  | cutFront (longest : Bool) (pattern : List Part)
  /-- An end that matches a pattern is cut off. -/
  | cutBack (longest : Bool) (pattern : List Part)

/-- A redirection of a stream. -/
inductive Redirect where
  /-- The stream of the given number is redirected. -/
  | mk (stream : Nat) (kind : RedirectKind) (target : List Part)

/-- A command. -/
inductive Command where
  /-- Assignments, and words of which the first names a command. -/
  | simple (line : Nat) (assignments : List (List Char × List Part)) (words : List (List Part))
      (redirects : List Redirect)
  /-- Commands of which each reads what the one before it prints. -/
  | pipeline (commands : List Command)
  /-- A command whose result is turned around. -/
  | negation (body : Command)
  /-- The second command follows only if the first succeeds. -/
  | andThen (first second : Command)
  /-- The second command follows only if the first fails. -/
  | orElse (first second : Command)
  /-- Commands one after the other. -/
  | sequence (commands : List Command)
  /-- A command that is not waited for. -/
  | background (body : Command)
  /-- A choice by the result of a command. -/
  | choice (condition body : Command) (otherwise : Option Command)
  /-- A loop as long as a command succeeds, or fails. -/
  | loop (whileTrue : Bool) (condition body : Command)
  /-- A loop over words, or over the arguments. -/
  | each (line : Nat) (name : List Char) (words : Option (List (List Part))) (body : Command)
  /-- A choice by patterns. -/
  | select (line : Nat) (word : List Part) (clauses : List (List (List Part) × Command))
  /-- Redirections of a whole command. -/
  | redirected (line : Nat) (body : Command) (redirects : List Redirect)
  /-- A command whose effects on the shell are undone. -/
  | subshell (body : Command)
  /-- The definition of a function. -/
  | function (name : List Char) (body : Command)

end

/-- A word. -/
abbrev Word := List Part

namespace Word

/-- The word with the home at its front, if it starts with an unquoted tilde. The name of the user
goes up to a slash; if there is none, it is all of the word. -/
def withHome : Word → Word
  | .literal false ('~' :: text) :: rest =>
    let name := text.takeWhile (· != '/')
    let behind := text.drop name.length
    if behind.isEmpty && !rest.isEmpty then .literal false ('~' :: text) :: rest
    else .home name :: (if behind.isEmpty then rest else .literal false behind :: rest)
  | w => w

/-- The word with its unquoted texts cut at colons, which become parts of their own. -/
def cutColons (w : Word) : Word :=
  w.flatMap fun
    | .literal false text =>
      ((Text.splitOn [':'] text).map fun piece => Part.literal false piece).intersperse
        (.literal false [':'])
    | part => [part]

/-- The parts with homes in the places of unquoted tildes behind colons, and at the front if that is
the `start` of a value. -/
def homesFrom (start : Bool) : Word → Word
  | [] => []
  | .literal false text :: rest =>
    let ends := match rest with
      | [] | .literal false [':'] :: _ => true
      | _ => false
    let here := if start && (ends || text.contains '/') then withHome [.literal false text]
      else [.literal false text]
    here ++ homesFrom (text = [':']) rest
  | part :: rest => part :: homesFrom false rest

/-- The parts of a value that is assigned: there may be homes at its front and behind colons. -/
def withHomes (w : Word) : Word :=
  homesFrom true (cutColons w)

/-- The word with an unquoted text in front. -/
def literalFront (text : List Char) (w : Word) : Word := .literal false text :: w

/-- The word as one whose values are not cut into fields. -/
def whole (w : Word) : Word :=
  w.map fun
    | .literal _ text => .literal true text
    | .parameter _ name change => .parameter true name change
    | .output _ body => .output true body
    | .arithmetic _ expression => .arithmetic true expression
    | part => part

/-- The text of a word without any quotes and replacements, if it is one. -/
def bare? : Word → Option (List Char)
  | [.literal false text] => some text
  | _ => none

end Word

end ScriptSuite.Shell
