import ScriptSuite.Shell.Regex

/-!
# Programs that work on records

A program is a list of rules. A rule has a pattern, which is asked about each record, and
statements, which are done for those that it holds for. A record is cut into fields.

## Main definitions

* `Awk.Expression`, `Awk.Place`: the expressions, and what can be assigned to.
* `Awk.Statement`: the statements.
* `Awk.Rule`, `Awk.Routine`, `Awk.Program`: rules, functions and programs.
-/

namespace ScriptSuite.Shell.Awk

/-- A name of a variable or a function. -/
abbrev Name := List Char

/-- An operation on two values. -/
inductive Operation where
  /-- The sum. -/
  | add
  /-- The difference. -/
  | subtract
  /-- The product. -/
  | multiply
  /-- The quotient. -/
  | divide
  /-- The remainder. -/
  | remainder
  /-- The power. -/
  | power
  /-- Both texts, one behind the other. -/
  | join
  /-- Whether the first is less. -/
  | less
  /-- Whether the first is not greater. -/
  | atMost
  /-- Whether both are the same. -/
  | same
  /-- Whether they are not. -/
  | different
  /-- Whether the first is greater. -/
  | greater
  /-- Whether the first is not less. -/
  | atLeast
deriving DecidableEq, Repr

/-- Where a line is read from. -/
inductive LineSource where
  /-- From the records of the program. -/
  | records
  /-- From a file. -/
  | file
  /-- From the output of a command. -/
  | command
deriving DecidableEq, Repr

mutual

/-- An expression. -/
inductive Expression where
  /-- A number. -/
  | number (x : Float)
  /-- A text. -/
  | text (s : List Char)
  /-- Whether the record has something that a regular expression stands for. -/
  | record (r : Regex)
  /-- The value of a place. -/
  | value (p : Place)
  /-- The value that is assigned to a place, after an operation on the one before if there is
  one. -/
  | assign (operation : Option Operation) (p : Place) (e : Expression)
  /-- One of two values. -/
  | choice (condition first second : Expression)
  /-- An operation. -/
  | operate (operation : Operation) (a b : Expression)
  /-- Whether both hold. -/
  | both (a b : Expression)
  /-- Whether one holds. -/
  | either (a b : Expression)
  /-- Whether it does not hold. -/
  | no (e : Expression)
  /-- The opposite number. -/
  | negate (e : Expression)
  /-- The number. -/
  | plus (e : Expression)
  /-- Whether a text has something that a regular expression stands for. -/
  | like (expected : Bool) (e pattern : Expression)
  /-- Whether an array has a key. -/
  | member (keys : List Expression) (array : Name)
  /-- Adds to the number of a place; the value is that before or that behind. -/
  | step (before : Bool) (difference : Int) (p : Place)
  /-- The value of a function of the program. -/
  | call (name : Name) (arguments : List Expression)
  /-- The value of a function that every program has. -/
  | standard (name : String) (arguments : List Expression)
  /-- Reads a line: one if there was one, zero at the end, and less if it cannot be read. -/
  | line (source : LineSource) (from? : Option Expression) (p : Option Place)
  /-- A value in parentheses. -/
  | grouped (e : Expression)
  /-- Values in parentheses. -/
  | several (es : List Expression)

/-- What can be assigned to. -/
inductive Place where
  /-- A variable. -/
  | named (name : Name)
  /-- A field of the record. -/
  | field (index : Expression)
  /-- An element of an array. -/
  | element (array : Name) (keys : List Expression)

end

instance : Inhabited Expression := ⟨.text []⟩

instance : Inhabited Place := ⟨.named []⟩

/-- Where output goes to. -/
inductive Outlet where
  /-- To the front of a file. -/
  | file
  /-- To the end of a file. -/
  | append
  /-- To a command. -/
  | command
deriving DecidableEq, Repr

/-- A statement. -/
inductive Statement where
  /-- Finds a value for what it does. -/
  | expression (e : Expression)
  /-- Prints values, or the record if there are none. -/
  | print (es : List Expression) (outlet : Option (Outlet × Expression))
  /-- Prints a format with values. -/
  | printf (es : List Expression) (outlet : Option (Outlet × Expression))
  /-- One of two statements. -/
  | choice (condition : Expression) (first : Statement) (second : Option Statement)
  /-- A loop that asks first. -/
  | whileLoop (condition : Expression) (body : Statement)
  /-- A loop that asks behind. -/
  | doLoop (body : Statement) (condition : Expression)
  /-- A loop with a start and a step. -/
  | forLoop (start : Option Statement) (condition : Option Expression) (step : Option Statement)
      (body : Statement)
  /-- A loop over the keys of an array. -/
  | each (name array : Name) (body : Statement)
  /-- Statements one after the other. -/
  | block (statements : List Statement)
  /-- Goes to the next record. -/
  | next
  /-- Goes to the next file. -/
  | nextFile
  /-- Ends the program. -/
  | exit (e : Option Expression)
  /-- Ends a function. -/
  | giveBack (e : Option Expression)
  /-- Ends a loop. -/
  | leave
  /-- Ends a round of a loop. -/
  | again
  /-- Removes an element, or all of them. -/
  | delete (array : Name) (keys : Option (List Expression))

instance : Inhabited Statement := ⟨.block []⟩

/-- When the statements of a rule are done. -/
inductive Pattern where
  /-- Before the first record. -/
  | start
  /-- Behind the last record. -/
  | finish
  /-- For every record. -/
  | every
  /-- For the records that an expression holds for. -/
  | holds (e : Expression)
  /-- From a record that the first expression holds for to one that the second one holds for. -/
  | range (first last : Expression)

/-- A rule. -/
structure Rule where
  /-- When its statements are done. -/
  pattern : Pattern
  /-- The statements; none prints the record. -/
  body : Option Statement

/-- A function of a program. -/
structure Routine where
  /-- The name. -/
  name : Name
  /-- The names of the parameters. -/
  parameters : List Name
  /-- The statements. -/
  body : Statement

/-- A program. -/
structure Program where
  /-- The rules. -/
  rules : List Rule := []
  /-- The functions. -/
  routines : List Routine := []

end ScriptSuite.Shell.Awk
