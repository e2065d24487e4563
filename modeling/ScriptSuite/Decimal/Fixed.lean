import ScriptSuite.Decimal.Binary

/-!
# Decimals with fixed places

A float is written with a given number of places behind the point. The exact value is rounded to
the nearest such decimal, a tie to the one with an even last digit, and the sign of a zero is kept.
-/

namespace ScriptSuite.Decimal

/-- The digits of `n`, with zeros in front up to the given width. -/
def paddedDigits (width n : Nat) : List Char :=
  let ds := Nat.toDigits 10 n
  List.replicate (width - ds.length) '0' ++ ds

/-- The value times `10 ^ places`, rounded. -/
def scaled (places : Nat) (b : Binary) : Nat :=
  if 0 ≤ b.exponent then b.mantissa * Nat.pow 2 b.exponent.toNat * Nat.pow 10 places
  else roundDiv (b.mantissa * Nat.pow 10 places) (Nat.pow 2 (-b.exponent).toNat)

/-- The decimal with the given number of places, at least one; a float that is not finite has a word
instead. -/
def fixed (places : Nat) (x : Float) : String :=
  match Binary.ofFloat? x with
  | none => if x.isNaN then "NaN" else if x < 0 then "-inf" else "inf"
  | some b =>
    let ds := paddedDigits (places + 1) (scaled places b)
    let whole := ds.take (ds.length - places)
    String.ofList
      ((if b.negative then ['-'] else []) ++ whole ++ '.' :: ds.drop (ds.length - places))

/-- The decimal with the given number of places, with spaces in front up to the given width. -/
def fixedRight (width places : Nat) (x : Float) : String :=
  let s := fixed places x
  String.ofList (List.replicate (width - s.length) ' ') ++ s

/-- A number of milliseconds in seconds. -/
def seconds (milliseconds : Nat) : Float :=
  milliseconds.toUInt64.toFloat / 1000

end ScriptSuite.Decimal
