import ScriptSuite.Decimal.Fixed

/-!
# Decimals with an exponent

A float is written with one digit in front of the point, a given number of places behind it, and a
power of ten. As for fixed places the exact value is rounded to the nearest such decimal, a tie to
the one with an even last digit.

## Main definitions

* `Scientific.ofBinary`: the digits and the power of ten.
* `Decimal.scientific`, `Decimal.positional`, `Decimal.general`: three ways to write a float without
  its sign; the last one takes the shorter of the other two and leaves out zeros at the end.
* `Decimal.hexadecimal`: the digits to base 16 with a power of two.
* `Decimal.leadingFloat?`: the float at the front of a text.
-/

namespace ScriptSuite

/-- A decimal with its first digit in front of the point. -/
structure Scientific where
  /-- The digits, the first one in front of the point. -/
  digits : List Char
  /-- The power of ten. -/
  exponent : Int
deriving DecidableEq, Repr

/-- The value without its sign, as a quotient. -/
def Binary.fraction (b : Binary) : Nat × Nat :=
  if 0 ≤ b.exponent then (b.mantissa * Nat.pow 2 b.exponent.toNat, 1)
  else (b.mantissa, Nat.pow 2 (-b.exponent).toNat)

namespace Scientific

/-- The power of ten of the first digit of a quotient: below one it is the least number of times
that the quotient has to be multiplied by ten. -/
def leadingPower (num den : Nat) : Int :=
  if num = 0 then 0
  else if den ≤ num then ((Nat.toDigits 10 (num / den)).length : Int) - 1
  else -((Nat.toDigits 10 ((den + num - 1) / num - 1)).length : Int)

/-- The decimal with a given number of places that is nearest to a quotient. -/
def ofFraction (places num den : Nat) : Scientific :=
  let power := leadingPower num den
  let shift : Int := places - power
  let n :=
    if 0 ≤ shift then roundDiv (num * Nat.pow 10 shift.toNat) den
    else roundDiv num (den * Nat.pow 10 (-shift).toNat)
  if Nat.pow 10 (places + 1) ≤ n then
    { digits := Decimal.paddedDigits (places + 1) (n / 10), exponent := power + 1 }
  else { digits := Decimal.paddedDigits (places + 1) n, exponent := power }

/-- The decimal with a given number of places that is nearest to a float. -/
def ofBinary (places : Nat) (b : Binary) : Scientific :=
  let (num, den) := b.fraction
  ofFraction places num den

end Scientific

namespace Decimal

/-- Digits with a point behind the first ones; without places the point is left out, unless it is to
be `kept`. -/
def pointed (kept : Bool) (whole part : List Char) : List Char :=
  whole ++ if part.isEmpty && !kept then [] else '.' :: part

/-- An exponent with its sign and at least `width` digits. -/
def signedExponent (width : Nat) (e : Int) : List Char :=
  (if e < 0 then '-' else '+') :: paddedDigits width e.natAbs

/-- The decimal with a given number of places and a power of ten. -/
def scientific (kept : Bool) (places : Nat) (b : Binary) : List Char :=
  let s := Scientific.ofBinary places b
  pointed kept (s.digits.take 1) (s.digits.drop 1) ++ 'e' :: signedExponent 2 s.exponent

/-- The decimal with a given number of places. -/
def positional (kept : Bool) (places : Nat) (b : Binary) : List Char :=
  let ds := paddedDigits (places + 1) (scaled places b)
  pointed kept (ds.take (ds.length - places)) (ds.drop (ds.length - places))

/-- Digits without the zeros at their end. -/
def withoutZeros (ds : List Char) : List Char :=
  (ds.reverse.dropWhile (· = '0')).reverse

/-- The decimal with a given number of digits: with a power of ten if that is less than `-4` or not
less than the number of digits. Zeros at the end are left out, unless they are to be `kept`. -/
def general (kept : Bool) (count : Nat) (b : Binary) : List Char :=
  let count := max 1 count
  let s := Scientific.ofBinary (count - 1) b
  let strip (ds : List Char) : List Char := if kept then ds else withoutZeros ds
  if s.exponent < -4 || (count : Int) ≤ s.exponent then
    pointed kept (s.digits.take 1) (strip (s.digits.drop 1)) ++ 'e' :: signedExponent 2 s.exponent
  else
    let places := ((count : Int) - 1 - s.exponent).toNat
    let ds := paddedDigits (places + 1) (scaled places b)
    pointed kept (ds.take (ds.length - places)) (strip (ds.drop (ds.length - places)))

/-- The digits to base 16, of which one stands in front of the point, with a power of two. -/
def hexadecimal (kept : Bool) (places : Option Nat) (b : Binary) : List Char :=
  let one := Nat.pow 2 52
  let power : Int :=
    if b.mantissa = 0 then 0 else b.exponent + 52
  let (n, width) := match places with
    | some p =>
      if p < 13 then (roundDiv b.mantissa (Nat.pow 16 (13 - p)), p)
      else (b.mantissa * Nat.pow 16 (p - 13), p)
    | none => (b.mantissa, 13)
  let unit := if width < 13 then Nat.pow 16 width else one * Nat.pow 16 (width - 13)
  let ds := Nat.toDigits 16 (n % unit)
  let ds := List.replicate (width - ds.length) '0' ++ ds
  let part := if width = 0 then [] else if places.isSome then ds else withoutZeros ds
  ['0', 'x'] ++ pointed kept (Nat.toDigits 16 (n / unit)) part ++ 'p' :: signedExponent 1 power

/-! ### Reading -/

/-- The power of ten beyond which no float is told from zero or infinity. -/
def exponentLimit : Nat := 2000

/-- The float that is nearest to a decimal. -/
def nearest (negative : Bool) (digits : Nat) (exponent : Int) : Float :=
  let length : Int := (Nat.toDigits 10 digits).length
  let x :=
    if digits = 0 || length + exponent < -exponentLimit then 0.0
    else if exponentLimit < length + exponent then 1.0 / 0.0
    else if 0 ≤ exponent then Float.ofScientific digits false exponent.toNat
    else Float.ofScientific digits true (-exponent).toNat
  if negative then -x else x

/-- The number that digits spell. -/
def natOfDigits (ds : List Char) : Nat :=
  ds.foldl (fun n c => 10 * n + (c.toNat - '0'.toNat)) 0

/-- The decimal at the front of a text that may have a point and a power of ten, with what follows
it; none if no digit is there. -/
def leadingDecimal? (negative : Bool) (s : List Char) : Option (Float × List Char) :=
  let whole := s.takeWhile Char.isDigit
  let rest := s.drop whole.length
  let (part, rest) := match rest with
    | '.' :: rest => (rest.takeWhile Char.isDigit, rest.dropWhile Char.isDigit)
    | rest => ([], rest)
  if whole.isEmpty && part.isEmpty then none
  else
    let power : Option (Int × List Char) := match rest with
      | e :: rest =>
        if e = 'e' || e = 'E' then
          let (below, ds) := match rest with
            | '-' :: ds => (true, ds)
            | '+' :: ds => (false, ds)
            | ds => (false, ds)
          let digits := ds.takeWhile Char.isDigit
          let n : Int := min (natOfDigits digits) (10 * exponentLimit)
          if digits.isEmpty then none else some (if below then -n else n, ds.drop digits.length)
        else none
      | [] => none
    let (power, rest) := power.getD (0, rest)
    some (nearest negative (natOfDigits (whole ++ part)) (power - part.length), rest)

/-- The value of a digit to base 16. -/
def hexValue (c : Char) : Nat :=
  if c.isDigit then c.toNat - '0'.toNat else c.toLower.toNat - 'a'.toNat + 10

/-- Whether a character is a digit to base 16. -/
def isHexDigit (c : Char) : Bool :=
  c.isDigit || ('a' ≤ c && c ≤ 'f') || ('A' ≤ c && c ≤ 'F')

/-- The number at the front of a text whose digits are to base 16 and that may have a point and a
power of two, with what follows it; none if no digit is there. -/
def leadingHexadecimal? (negative : Bool) (s : List Char) : Option (Float × List Char) :=
  let whole := s.takeWhile isHexDigit
  let rest := s.drop whole.length
  let (part, rest) := match rest with
    | '.' :: rest => (rest.takeWhile isHexDigit, rest.dropWhile isHexDigit)
    | rest => ([], rest)
  if whole.isEmpty && part.isEmpty then none
  else
    let power : Option (Int × List Char) := match rest with
      | p :: rest =>
        if p = 'p' || p = 'P' then
          let (below, ds) := match rest with
            | '-' :: ds => (true, ds)
            | '+' :: ds => (false, ds)
            | ds => (false, ds)
          let digits := ds.takeWhile Char.isDigit
          let n : Int := min (natOfDigits digits) (10 * exponentLimit)
          if digits.isEmpty then none else some (if below then -n else n, ds.drop digits.length)
        else none
      | [] => none
    let (power, rest) := power.getD (0, rest)
    let n := (whole ++ part).foldl (fun n c => 16 * n + hexValue c) 0
    let x := (nearest false n 0).scaleB (power - 4 * (part.length : Int))
    some (if negative then -x else x, rest)

/-- The float at the front of a text that may be infinite or no number, behind blanks and a sign,
with what follows it; none if there is no float. -/
def leadingFloat? (s : List Char) : Option (Float × List Char) :=
  let s := s.dropWhile fun c => c = ' ' || ('\t' ≤ c && c ≤ '\r')
  let (negative, s) := match s with
    | '-' :: s => (true, s)
    | '+' :: s => (false, s)
    | s => (false, s)
  let signed (x : Float) : Float := if negative then -x else x
  let word (w : String) : Bool := (s.take w.length).map Char.toLower = w.toList
  if word "infinity" then some (signed (1.0 / 0.0), s.drop 8)
  else if word "inf" then some (signed (1.0 / 0.0), s.drop 3)
  else if word "nan" then some (signed (0.0 / 0.0), s.drop 3)
  else
    match s with
    | '0' :: x :: rest =>
      ((if x = 'x' || x = 'X' then leadingHexadecimal? negative rest else none)).or
        (leadingDecimal? negative s)
    | s => leadingDecimal? negative s

end Decimal

end ScriptSuite
