/-!
# Floats as exact numbers

A finite float is `± m · 2 ^ q` with natural `m`. What is printed of a float is computed from these
numbers in exact arithmetic.

## Main definitions

* `Binary.ofFloat?`: the exact value of a finite float.
* `roundDiv`: a quotient rounded to the nearest integer, ties to even.
-/

namespace ScriptSuite

/-- The exact value `± mantissa · 2 ^ exponent` of a finite float. -/
structure Binary where
  /-- Whether the sign is set; zero has a sign too. -/
  negative : Bool
  /-- The factor in front of the power of two. -/
  mantissa : Nat
  /-- The exponent of two. -/
  exponent : Int
  /-- Whether the next smaller float is only half as far away as the next larger one. -/
  narrowBelow : Bool
deriving DecidableEq, Repr

namespace Binary

/-- The exact value of a float, unless it is infinite or no number. -/
def ofFloat? (x : Float) : Option Binary :=
  let bits := x.toBits.toNat
  let negative := decide (bits / Nat.pow 2 63 = 1)
  let biased : Nat := bits / Nat.pow 2 52 % Nat.pow 2 11
  let part : Nat := bits % Nat.pow 2 52
  if biased = 2047 then none
  else if biased = 0 then
    some { negative, mantissa := part, exponent := -1074, narrowBelow := false }
  else
    some {
      negative, mantissa := Nat.pow 2 52 + part, exponent := (biased : Int) - 1075
      narrowBelow := decide (part = 0 ∧ biased ≠ 1) }

end Binary

/-- The quotient rounded to the nearest integer; a tie goes to the even one. -/
def roundDiv (num den : Nat) : Nat :=
  let floor := num / den
  let rest := 2 * (num % den)
  if rest < den then floor
  else if rest = den then floor + floor % 2
  else floor + 1

end ScriptSuite
