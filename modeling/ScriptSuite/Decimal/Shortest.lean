import ScriptSuite.Decimal.Binary

/-!
# Shortest decimals

Of all decimals that read back as a given float the one with the fewest digits is written, and of
those the one nearest to the float. The reals that read back as a float form an interval around it,
which reaches half way to its neighbours and holds its ends exactly if the mantissa is even. For
each number of digits only the two neighbours of the float on that decimal grid have to be tried.

## Main definitions

* `Decimal.shortestDigits`: the digits, which do not end in zero, and the power of ten they count.
* `Decimal.shortest`: the written form.
-/

namespace ScriptSuite.Decimal

/-- An interval of reals around a float, over a common denominator. -/
structure Interval where
  /-- The numerator of the lower end. -/
  low : Nat
  /-- The numerator of the float itself. -/
  mid : Nat
  /-- The numerator of the upper end. -/
  high : Nat
  /-- The common denominator. -/
  den : Nat
  /-- Whether the ends belong to the interval. -/
  closed : Bool

/-- The reals that read back as a float. -/
def Interval.ofBinary (b : Binary) : Interval :=
  let m := 4 * b.mantissa
  let unit := Nat.pow 2 (b.exponent - 2).toNat
  { low := (m - if b.narrowBelow then 1 else 2) * unit, mid := m * unit, high := (m + 2) * unit
    den := Nat.pow 2 (2 - b.exponent).toNat, closed := b.mantissa % 2 = 0 }

/-- Whether `digits · 10 ^ power` lies in the interval. -/
def Interval.holds (i : Interval) (digits : Nat) (power : Int) : Bool :=
  let value := digits * Nat.pow 10 power.toNat * i.den
  let scale := Nat.pow 10 (-power).toNat
  if i.closed then i.low * scale ≤ value && value ≤ i.high * scale
  else i.low * scale < value && value < i.high * scale

/-- The least `k` with `num / den < 10 ^ k`, for a positive quotient of at least `10 ^ -400`. -/
def magnitude (num den : Nat) : Int :=
  if den ≤ num then (Nat.toDigits 10 (num / den)).length
  else
    match (List.range 400).find? fun j => den ≤ num * Nat.pow 10 (j + 1) with
    | some j => -(j : Int)
    | none => 0

/-- The multiple of `10 ^ power` that is nearest to the float among those in the interval and next
to the float. -/
def Interval.nearest? (i : Interval) (power : Int) : Option Nat :=
  let num := i.mid * Nat.pow 10 (-power).toNat
  let den := i.den * Nat.pow 10 power.toNat
  let below := num / den
  let nearer := roundDiv num den
  let other := if nearer = below then below + 1 else below
  if i.holds nearer power then some nearer
  else if i.holds other power then some other
  else none

/-- The digits of the shortest decimal of a positive float, and the power of ten they count. -/
def shortestDigits (b : Binary) : Nat × Int :=
  let i := Interval.ofBinary b
  let k := magnitude i.mid i.den
  let tries := (List.range 17).findSome? fun (n : Nat) =>
    (i.nearest? (k - (n + 1))).map fun d => (d, k - (n + 1))
  let (d, power) := tries.getD (0, 0)
  if d = 10 then (1, power + 1) else (d, power)

/-- How shortest decimals are laid out. -/
structure Layout where
  /-- The least exponent that is written positionally. -/
  leastPositional : Int
  /-- The greatest exponent that is written positionally. -/
  greatestPositional : Int

/-- Numbers in reports are positional from `0.00001` up to sixteen digits in front of the point, and
have an exponent with its sign otherwise. -/
def Layout.report : Layout := { leastPositional := -5, greatestPositional := 15 }

/-- The decimal of digits that count `10 ^ power`, where the first digit counts `10 ^ e`. -/
def Layout.write (l : Layout) (digits : List Char) (power e : Int) : List Char :=
  if l.leastPositional ≤ e ∧ e ≤ l.greatestPositional then
    if 0 ≤ power then digits ++ List.replicate power.toNat '0' ++ ['.', '0']
    else if 0 ≤ e then digits.take (e + 1).toNat ++ '.' :: digits.drop (e + 1).toNat
    else '0' :: '.' :: List.replicate (-e - 1).toNat '0' ++ digits
  else
    let mantissa := digits.take 1 ++ if digits.length = 1 then [] else '.' :: digits.drop 1
    mantissa ++ 'e' :: (if e < 0 then '-' else '+') :: Nat.toDigits 10 e.natAbs

/-- The shortest decimal of a float; `null` if it is no finite number. -/
def shortest (x : Float) : List Char :=
  match Binary.ofFloat? x with
  | none => ['n', 'u', 'l', 'l']
  | some b =>
    let sign := if b.negative then ['-'] else []
    if b.mantissa = 0 then sign ++ ['0', '.', '0']
    else
      let (d, power) := shortestDigits b
      let digits := Nat.toDigits 10 d
      sign ++ Layout.report.write digits power (power + digits.length - 1)

end ScriptSuite.Decimal
