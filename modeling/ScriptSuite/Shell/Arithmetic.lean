import ScriptSuite.Shell.Bytes
import ScriptSuite.Shell.Parser

/-!
# Expressions

The expressions of a shell are those of integers with 64 bits: what does not fit is wrapped. A name
stands for the value of a variable, and an assignment changes it.

## Main definitions

* `Shell.Lexeme`: the parts of an expression.
* `Shell.evaluate`: the value of an expression and the variables after it.
-/

namespace ScriptSuite.Shell

/-- Variables by name. -/
abbrev Variables := List (List Char × List Char)

namespace Variables

/-- The value of a variable. -/
def get? (vars : Variables) (name : List Char) : Option (List Char) :=
  (vars.find? fun v => v.1 = name).map (·.2)

/-- The variables with another value for one of them. -/
def set (name value : List Char) (vars : Variables) : Variables :=
  (name, value) :: vars.filter fun v => v.1 != name

/-- The variables without one of them. -/
def erase (name : List Char) (vars : Variables) : Variables :=
  vars.filter fun v => v.1 != name

end Variables

/-- Why an expression has no value. -/
inductive ArithmeticProblem where
  /-- A value is missing. -/
  | noValue
  /-- Something follows the expression. -/
  | noEnd
  /-- A sign is missing. -/
  | noSign (sign : String)
  /-- A division by zero. -/
  | zeroDivision
  /-- The value of a variable is no number. -/
  | badNumber (value : List Char)
deriving DecidableEq, Repr

/-- The complaint about an expression. -/
def ArithmeticProblem.message (p : ArithmeticProblem) (expression : List Char) : List Char :=
  let about (reason : String) : List Char :=
    chars ("arithmetic expression: " ++ reason ++ ": \"") ++ expression ++ ['"']
  match p with
  | noValue => about "expecting primary"
  | noEnd => about "expecting EOF"
  | noSign sign => about ("expecting '" ++ sign ++ "'")
  | zeroDivision => about "division by zero"
  | badNumber value => chars "Illegal number: " ++ value

/-- A part of an expression. -/
inductive Lexeme where
  /-- A number. -/
  | number (n : Int)
  /-- A name. -/
  | name (s : List Char)
  /-- A sign. -/
  | sign (s : String)
  /-- Anything else. -/
  | other (c : Char)
deriving DecidableEq, Repr

/-- The signs, such that no sign stands behind one that it starts with. -/
def arithmeticSigns : List String :=
  ["<<=", ">>=", "<<", ">>", "<=", ">=", "==", "!=", "&&", "||", "+=", "-=", "*=", "/=", "%=", "&=",
    "|=", "^=", "<", ">", "=", "!", "~", "+", "-", "*", "/", "%", "&", "|", "^", "?", ":", "(", ")"]

/-- The value of digits to a base. -/
def digitsValue? (base : Nat) (s : List Char) : Option Nat :=
  s.foldlM (fun n c =>
    let d := if c.isDigit then c.toNat - 48 else if c.isLower then c.toNat - 87 else c.toNat - 55
    if d < base then some (base * n + d) else none) 0

/-- The digits at the front of a text that make a number, with their base and what follows them: to
base 16 behind `0x`, to base 8 behind `0`, and else to base 10. -/
def numberParts (s : List Char) : Nat × List Char × List Char :=
  let cut (base : Nat) (p : Char → Bool) (s : List Char) : Nat × List Char × List Char :=
    (base, s.takeWhile p, s.dropWhile p)
  let isHex (c : Char) : Bool := c.isDigit || ('a' ≤ c && c ≤ 'f') || ('A' ≤ c && c ≤ 'F')
  match s with
  | '0' :: x :: c :: rest =>
    if (x = 'x' || x = 'X') && isHex c then cut 16 isHex (c :: rest)
    else cut 8 (fun c => '0' ≤ c && c ≤ '7') s
  | '0' :: _ => cut 8 (fun c => '0' ≤ c && c ≤ '7') s
  | _ => cut 10 Char.isDigit s

/-- The number at the front of a text that starts with a digit, and what follows it. A number that
is too large counts as the largest one. -/
def leadingNumber (s : List Char) : Int × List Char :=
  let (base, ds, rest) := numberParts s
  (min ((digitsValue? base ds).getD 0) (UInt64.size / 2 - 1), rest)

/-- The integer at the front of a text, behind blanks, however large it is, and what follows it. -/
def unboundedInteger (s : List Char) : Int × List Char :=
  let isBlank (c : Char) : Bool := c = ' ' || ('\t' ≤ c && c ≤ '\r')
  let start := s.dropWhile isBlank
  let (negative, body) := match start with
    | '-' :: rest => (true, rest)
    | '+' :: rest => (false, rest)
    | rest => (false, rest)
  if (body.head?.map Char.isDigit).getD false then
    let (base, ds, rest) := numberParts body
    let n : Int := (digitsValue? base ds).getD 0
    (if negative then -n else n, rest)
  else (0, s)

/-- An integer, or the nearest one of 64 bits. -/
def bounded (n : Int) : Int :=
  max (-(UInt64.size / 2 : Int)) (min n (UInt64.size / 2 - 1))

/-- The integer at the front of a text, behind blanks, and what follows it. One that does not fit
counts as the nearest one that does. -/
def leadingInteger (s : List Char) : Int × List Char :=
  let (n, rest) := unboundedInteger s
  (bounded n, rest)

/-- The integer that a text spells, with blanks around it. -/
def spacedInteger? (s : List Char) : Option Int :=
  let (n, rest) := leadingInteger s
  if rest.length < s.length && rest.all fun c => c = ' ' || ('\t' ≤ c && c ≤ '\r') then some n
  else none

/-- The parts of an expression. -/
def lexemes (steps : Nat) (s : List Char) : List Lexeme :=
  match steps with
  | 0 => []
  | steps + 1 =>
    match s with
    | [] => []
    | c :: rest =>
      if c = ' ' || c = '\t' || c = '\n' then lexemes steps rest
      else if c.isDigit then
        let (n, rest) := leadingNumber s
        .number n :: lexemes steps rest
      else if isNameStart c then
        let word := s.takeWhile isNameChar
        .name word :: lexemes steps (s.drop word.length)
      else
        match arithmeticSigns.find? fun sign => sign.toList.isPrefixOf s with
        | some sign => .sign sign :: lexemes steps (s.drop sign.length)
        | none => .other c :: lexemes steps rest

/-- An integer with 64 bits. -/
def wrap (n : Int) : Int := Int.bmod n UInt64.size

/-- One for truth and zero for falsehood. -/
def truth (b : Bool) : Int := if b then 1 else 0

/-- The strength of a sign between two values; stronger signs come first. -/
def strength? (sign : String) : Option Nat :=
  let levels : List (List String) :=
    [["||"], ["&&"], ["|"], ["^"], ["&"], ["==", "!="], ["<", "<=", ">", ">="], ["<<", ">>"],
      ["+", "-"], ["*", "/", "%"]]
  levels.findIdx? (·.contains sign)

/-- The value of a sign between two values; there is none of a division by zero. -/
def combine? (sign : String) (a b : Int) : Option Int :=
  let bits (f : Nat → Nat → Nat) : Int :=
    wrap (f (a % UInt64.size).toNat (b % UInt64.size).toNat)
  match sign with
  | "||" => some (truth (a != 0 || b != 0))
  | "&&" => some (truth (a != 0 && b != 0))
  | "|" => some (bits (· ||| ·))
  | "^" => some (bits (· ^^^ ·))
  | "&" => some (bits (· &&& ·))
  | "==" => some (truth (a == b))
  | "!=" => some (truth (a != b))
  | "<" => some (truth (a < b))
  | "<=" => some (truth (a ≤ b))
  | ">" => some (truth (b < a))
  | ">=" => some (truth (b ≤ a))
  | "<<" => some (wrap (a <<< (b % 64).toNat))
  | ">>" => some (a >>> (b % 64).toNat)
  | "+" => some (wrap (a + b))
  | "-" => some (wrap (a - b))
  | "*" => some (wrap (a * b))
  | "/" => if b = 0 then none else some (wrap (a.tdiv b))
  | "%" => if b = 0 then none else some (a.tmod b)
  | _ => none

/-- The value of a variable in an expression; a missing or empty one counts as zero. -/
def variableValue (vars : Variables) (name : List Char) : Except ArithmeticProblem Int :=
  match (vars.get? name).getD [] with
  | [] => .ok 0
  | s =>
    match spacedInteger? s with
    | some n => .ok n
    | none => .error (.badNumber s)

/-- A reader of an expression, which may change variables. -/
abbrev Calculation := StateT (List Lexeme × Variables) (Except ArithmeticProblem)

namespace Calculation

/-- Passes over a sign, if it follows. -/
def passSign (sign : String) : Calculation Bool := do
  let (rest, vars) ← get
  if rest.head? = some (.sign sign) then
    set (rest.tail, vars)
    return true
  else return false

mutual

/-- Reads an assignment or a choice. -/
def whole (steps : Nat) : Calculation Int :=
  match steps with
  | 0 => throw .noValue
  | steps + 1 => do
    match ← get with
    | (.name name :: .sign sign :: rest, vars) =>
      if sign = "=" then
        set (rest, vars)
        assign name (← whole steps)
      else if sign.endsWith "=" && (strength? sign).isNone then
        set (rest, vars)
        let b ← whole steps
        match combine? (sign.dropEnd 1).toString (← variableValue vars name) b with
        | some n => assign name n
        | none => throw .zeroDivision
      else choice steps
    | _ => choice steps

/-- Reads a choice between two values, or a plain value. -/
def choice (steps : Nat) : Calculation Int :=
  match steps with
  | 0 => throw .noValue
  | steps + 1 => do
    let condition ← operand steps
    let n ← chain steps 0 condition
    if ← passSign "?" then
      let a ← whole steps
      if ← passSign ":" then
        let b ← choice steps
        return if n != 0 then a else b
      else throw (.noSign ":")
    else return n

/-- Reads signs of at least the given strength with the values behind them. -/
def chain (steps : Nat) (level : Nat) (a : Int) : Calculation Int :=
  match steps with
  | 0 => throw .noValue
  | steps + 1 => do
    let (rest, vars) ← get
    match rest with
    | .sign sign :: rest =>
      match strength? sign with
      | some s =>
        if s < level then return a
        else
          set (rest, vars)
          let b ← operand steps
          let b ← chain steps (s + 1) b
          match combine? sign a b with
          | some n => chain steps level n
          | none => throw .zeroDivision
      | none => return a
    | _ => return a

/-- Reads a value with the signs in front of it. -/
def operand (steps : Nat) : Calculation Int :=
  match steps with
  | 0 => throw .noValue
  | steps + 1 => do
    let (rest, vars) ← get
    match rest with
    | .number n :: rest => set (rest, vars); return wrap n
    | .name name :: rest =>
      set (rest, vars)
      return wrap (← variableValue vars name)
    | .sign "(" :: rest =>
      set (rest, vars)
      let n ← whole steps
      if ← passSign ")" then return n else throw (.noSign ")")
    | .sign "-" :: rest => set (rest, vars); return wrap (-(← operand steps))
    | .sign "+" :: rest => set (rest, vars); operand steps
    | .sign "!" :: rest => set (rest, vars); return truth ((← operand steps) == 0)
    | .sign "~" :: rest => set (rest, vars); return -1 - (← operand steps)
    | _ => throw .noValue

/-- Gives a variable a value. -/
def assign (name : List Char) (n : Int) : Calculation Int := do
  modify fun (rest, vars) => (rest, vars.set name (digits n))
  return n

end

end Calculation

/-- The value of an expression and the variables after it; an empty expression has the value
zero. -/
def evaluate (vars : Variables) (s : List Char) : Except ArithmeticProblem (Int × Variables) := do
  let ls := lexemes (s.length + 1) s
  if ls.isEmpty then return (0, vars)
  let (n, rest, vars) ← Calculation.whole (4 * ls.length + 4) (ls, vars)
  if rest.isEmpty then return (n, vars) else throw .noEnd

end ScriptSuite.Shell
