import ScriptSuite.Text.Word

/-!
# Reading decimals as floats

The digits of a literal make a significand of 64 bits as long as they fit; all digits behind those
count as powers of ten only. The float is the significand, multiplied with or divided by the power
of ten. This is a single rounding for literals of up to fifteen digits with small exponents.

## Main definitions

* `Decimal.Scaled.ofLiteral`: the significand and the power of ten of a literal.
* `Decimal.read?`: the float of a literal, unless it is too large.
-/

namespace ScriptSuite.Decimal

/-- A significand and a power of ten. -/
structure Scaled where
  /-- The significand. -/
  significand : Nat
  /-- The power of ten. -/
  power : Int
deriving DecidableEq, Repr

/-- Takes the digits in front of the point: those that do not fit raise the power. -/
def takeWhole (x : Scaled) : List Char → Scaled
  | [] => x
  | c :: s =>
    let n := 10 * x.significand + (c.toNat - '0'.toNat)
    if x.power = 0 && n < UInt64.size then takeWhole { x with significand := n } s
    else takeWhole { x with power := x.power + 1 } s

/-- Takes the digits behind the point, up to the first that does not fit. -/
def takePart (x : Scaled) : List Char → Scaled
  | [] => x
  | c :: s =>
    let n := 10 * x.significand + (c.toNat - '0'.toNat)
    if n < UInt64.size then takePart { significand := n, power := x.power - 1 } s
    else x

/-- The value of an exponent with its letter in front; zero if there is none. -/
def exponent : List Char → Int
  | _ :: '-' :: ds => -((Text.decimalFrom? 0 ds).getD 0 : Nat)
  | _ :: '+' :: ds => ((Text.decimalFrom? 0 ds).getD 0 : Nat)
  | _ :: ds => ((Text.decimalFrom? 0 ds).getD 0 : Nat)
  | [] => 0

/-- The significand and the power of ten of an unsigned literal. -/
def Scaled.ofLiteral (literal : List Char) : Scaled :=
  let whole := takeWhole { significand := 0, power := 0 } (literal.takeWhile Char.isDigit)
  match literal.dropWhile Char.isDigit with
  | '.' :: s =>
    let x := takePart whole (s.takeWhile Char.isDigit)
    { x with power := x.power + exponent (s.dropWhile Char.isDigit) }
  | s => { whole with power := whole.power + exponent s }

/-- The largest power of ten that is a float. -/
def largestPower : Nat := 308

/-- A float times a power of ten, unless it is too large. -/
def scale? (f : Float) (power : Int) : Option Float :=
  if f == 0 then some f
  else if 0 ≤ power then
    if power ≤ largestPower then
      let g := f * Float.ofScientific 1 false power.toNat
      if g.isInf then none else some g
    else none
  else if -largestPower ≤ power then some (f / Float.ofScientific 1 false power.natAbs)
  else scale? (f / Float.ofScientific 1 false largestPower) (power + largestPower)
termination_by power.natAbs
decreasing_by simp only [largestPower] at *; omega

/-- The float of an unsigned literal, unless it is too large. -/
def read? (literal : List Char) : Option Float :=
  let x := Scaled.ofLiteral literal
  scale? x.significand.toUInt64.toFloat x.power

end ScriptSuite.Decimal
