import ScriptSuite.Text.Find
import ScriptSuite.Text.Word
import ScriptSuite.Toml.Basic
import ScriptSuite.Toml.Text

/-!
# TOML numbers, dates and times

All of them are words of letters, digits and a few signs, so a word is taken as a whole and then
understood. Between digits there may be single underscores. Integers have 64 bits with a sign, and
a float must not be too large to be one.

## Main definitions

* `Toml.integer?`, `Toml.isFloat`, `Toml.isMoment`: the words of each kind.
* `Toml.ofWord?`: the value of a word.
-/

namespace ScriptSuite.Toml

open Text

/-- The digits of a text in which single underscores may stand between digits. -/
def bareDigits? (isDigit : Char → Bool) (s : List Char) : Option (List Char) :=
  let groups := splitOn ['_'] s
  if groups.all fun g => !g.isEmpty && g.all isDigit then some groups.flatten else none

/-- The value of digits to a base. -/
def digits? (base : Nat) (s : List Char) : Option Nat := do
  let isDigit (c : Char) := (Json.hexValue? c).any (· < base)
  let ds ← bareDigits? isDigit s
  return ds.foldl (fun n c => base * n + (Json.hexValue? c).getD 0) 0

/-- A sign, if there is one, and what follows it. -/
def signed : List Char → Bool × List Char
  | '-' :: s => (true, s)
  | '+' :: s => (false, s)
  | s => (false, s)

/-- The value of decimal digits without needless zeros in front. -/
def decimal? (s : List Char) : Option Nat :=
  match s with
  | '0' :: _ :: _ => none
  | _ => digits? 10 s

/-- The value of an integer word. -/
def integer? (s : List Char) : Option Int :=
  let unsigned? (n : Nat) : Option Int := if n < UInt64.size / 2 then some n else none
  match s with
  | '0' :: 'x' :: s => (digits? 16 s).bind unsigned?
  | '0' :: 'o' :: s => (digits? 8 s).bind unsigned?
  | '0' :: 'b' :: s => (digits? 2 s).bind unsigned?
  | s => do
    let (negative, ds) := signed s
    let n ← decimal? ds
    if negative then if n ≤ UInt64.size / 2 then some (-n) else none else unsigned? n

/-- Whether `m * 10 ^ e` is too large to be a float: nearer to `2 ^ 1024` than to the largest
float. -/
def isTooLarge (m : Nat) (e : Int) : Bool :=
  let size := (Nat.toDigits 10 m).length + e
  if m = 0 || size < 300 then false
  else if 400 < size then true
  else
    let bound := Nat.pow 2 1024 - Nat.pow 2 970
    if 0 ≤ e then bound ≤ m * Nat.pow 10 e.toNat else bound * Nat.pow 10 e.natAbs ≤ m

/-- Whether a word is a float. -/
def isFloat (s : List Char) : Bool :=
  let (negative, s) := signed s
  if s = ['i', 'n', 'f'] || s = ['n', 'a', 'n'] then true
  else
    let isMark (c : Char) := c = 'e' || c = 'E'
    let number := s.takeWhile (!isMark ·)
    let power := s.drop number.length
    let whole := number.takeWhile (· != '.')
    let part := number.drop whole.length
    let exponent? :=
      if power.isEmpty then some 0
      else
        let (down, ds) := signed power.tail
        (digits? 10 ds).map fun n => if down then -(n : Int) else (n : Int)
    match decimal? whole, bareDigits? Char.isDigit part.tail, exponent? with
    | some m, some ds, some e =>
      !part.isEmpty &&
        (negative || !isTooLarge (ds.foldl (fun n c => 10 * n + (c.toNat - 48)) m) (e - ds.length))
    | some m, none, some e => part.isEmpty && !power.isEmpty && (negative || !isTooLarge m e)
    | _, _, _ => false

/-! ### Dates and times -/

/-- A number of exactly `n` digits and what follows it. -/
def fixedDigits? (n : Nat) (s : List Char) : Option (Nat × List Char) :=
  let ds := s.take n
  if ds.length = n && ds.all Char.isDigit then
    some (ds.foldl (fun n c => 10 * n + (c.toNat - 48)) 0, s.drop n)
  else none

/-- The text behind a character. -/
def behind? (c : Char) : List Char → Option (List Char)
  | [] => none
  | d :: s => if c = d then some s else none

/-- The number of days of a month. -/
def daysOfMonth (year month : Nat) : Nat :=
  if month = 2 then
    if year % 4 = 0 && (year % 100 ≠ 0 || year % 400 = 0) then 29 else 28
  else if [4, 6, 9, 11].contains month then 30
  else 31

/-- What follows a date. -/
def date? (s : List Char) : Option (List Char) := do
  let (year, s) ← fixedDigits? 4 s
  let (month, s) ← fixedDigits? 2 (← behind? '-' s)
  let (day, s) ← fixedDigits? 2 (← behind? '-' s)
  if 1 ≤ month ∧ month ≤ 12 ∧ 1 ≤ day ∧ day ≤ daysOfMonth year month then some s else none

/-- What follows hours and minutes. -/
def minutes? (s : List Char) : Option (List Char) := do
  let (hour, s) ← fixedDigits? 2 s
  let (minute, s) ← fixedDigits? 2 (← behind? ':' s)
  if hour ≤ 23 ∧ minute ≤ 59 then some s else none

/-- What follows a time. -/
def time? (s : List Char) : Option (List Char) := do
  let (second, s) ← fixedDigits? 2 (← behind? ':' (← minutes? s))
  if 60 < second then none
  else
    match s with
    | '.' :: s =>
      let ds := s.takeWhile Char.isDigit
      if ds.isEmpty then none else some (s.drop ds.length)
    | s => some s

/-- Whether a text is an offset from universal time, or empty. -/
def isOffset : List Char → Bool
  | [] => true
  | ['Z'] | ['z'] => true
  | '+' :: s | '-' :: s => minutes? s = some []
  | _ => false

/-- Whether a text is a date. -/
def isDate (s : List Char) : Bool := date? s = some []

/-- Whether a word is a date, a time or both. -/
def isMoment (s : List Char) : Bool :=
  time? s = some [] ||
    match date? s with
    | some [] => true
    | some (c :: s) => (c = 'T' || c = 't' || c = ' ') && (time? s).any isOffset
    | none => false

/-! ### Words -/

/-- Whether a character may stand in a word. -/
def isWordChar (c : Char) : Bool :=
  c.isAlphanum || c = '+' || c = '-' || c = '_' || c = '.' || c = ':'

/-- A word and what follows it. A date and a time may have a space between them. -/
def word (s : List Char) : List Char × List Char :=
  let first := s.takeWhile isWordChar
  let rest := s.drop first.length
  match rest with
  | ' ' :: c :: s =>
    if isDate first && c.isDigit then
      let second := (c :: s).takeWhile isWordChar
      (first ++ ' ' :: second, (c :: s).drop second.length)
    else (first, rest)
  | _ => (first, rest)

/-- The value of a word. -/
def ofWord? (s : List Char) : Option Toml :=
  if s = ['t', 'r', 'u', 'e'] then some (boolean true)
  else if s = ['f', 'a', 'l', 's', 'e'] then some (boolean false)
  else if isMoment s then some (moment s)
  else if isFloat s then some (float s)
  else (integer? s).map integer

end ScriptSuite.Toml
