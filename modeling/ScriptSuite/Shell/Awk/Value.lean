import ScriptSuite.Shell.Printf

/-!
# Values of programs that work on records

A value is a number or a text, and each counts as the other where it is needed. A text that came
from outside is compared as a number if it spells one.

## Main definitions

* `Awk.Value`: the values.
* `Awk.Value.toNumber`, `Awk.Value.toText`, `Awk.Value.holds`: what a value counts as.
* `Awk.Value.less`, `Awk.Value.same`: comparing values.
* `Awk.formatted`: values in a format.
-/

namespace ScriptSuite.Shell.Awk

/-- A value. -/
inductive Value where
  /-- Nothing, which counts as zero and as the empty text. -/
  | missing
  /-- A number. -/
  | number (x : Float)
  /-- A text. -/
  | text (s : List Char)
  /-- A text from outside. -/
  | input (s : List Char)

instance : Inhabited Value := ⟨.missing⟩

/-- The value of a condition. -/
def Value.ofBool (b : Bool) : Value := .number (if b then 1 else 0)

/-- The value of a natural number. -/
def Value.ofNat (n : Nat) : Value := .number (Float.ofNat n)

/-- Whether a character is a blank that may stand around a number. -/
def isBlank (c : Char) : Bool := c = ' ' || ('\t' ≤ c && c ≤ '\r')

/-- The number that a text from outside spells, with blanks around it and not to base 16. -/
def spelled? (s : List Char) : Option Float :=
  match Decimal.leadingFloat? s with
  | some (x, rest) =>
    if rest.all isBlank && !s.any (fun c => c = 'x' || c = 'X') then some x else none
  | none => none

/-- The integer in front of the point of a number, as one of 64 bits without a sign if it is not
negative. -/
def wholePart (x : Float) : Int :=
  if x < 0 then x.toInt64.toInt else x.toUInt64.toNat

/-- The largest power of two that fits into 64 bits. -/
def halfRange : Float := 9223372036854775808

/-- The number behind a conversion to an integer with a sign: one that is too small becomes the
least one whose opposite fits. -/
def signedPart (x : Float) : Int :=
  if x < -halfRange then 1 - Int.ofNat (UInt64.size / 2) else wholePart x

/-- The number behind a conversion to an integer without a sign. -/
def unsignedPart (x : Float) : Int :=
  if x < 0 then -Int.ofNat (-x).toUInt64.toNat else wholePart x

namespace Value

/-- The number that a value counts as. -/
def toNumber : Value → Float
  | missing => 0
  | .number x => x
  | text s | input s => ((Decimal.leadingFloat? s).map (·.1)).getD 0

/-- Whether a value is compared as a number, and that number. -/
def comparable? : Value → Option Float
  | missing => some 0
  | .number x => some x
  | text _ => none
  | input s => spelled? s

/-- Whether a value holds as a condition. -/
def holds : Value → Bool
  | missing => false
  | .number x => x != 0
  | text s => !s.isEmpty
  | input s =>
    match spelled? s with
    | some x => x != 0
    | none => !s.isEmpty

end Value

/-! ### Formats -/

/-- The letters in front of a conversion that tell a size, which does not matter. -/
def sizeLetters : List Char := ['h', 'l', 'L']

/-- The parts of a format, whose escapes have been replaced before. -/
def formatParts (steps : Nat) (s : List Char) : List Format :=
  match steps with
  | 0 => []
  | steps + 1 =>
    match s with
    | [] => []
    | '%' :: '%' :: s => .text ['%'] :: formatParts steps s
    | '%' :: s =>
      let (flags, width, precision, rest) := Format.sizes s
      let rest := rest.dropWhile sizeLetters.contains
      .place flags width precision (rest.headD '%') :: formatParts steps rest.tail
    | c :: s => .text [c] :: formatParts steps s

/-- A number as the text of an integer. It must not have anything behind the point. -/
def integerText (x : Float) : List Char := digits (wholePart x)

/-- Whether a number is written as an integer. -/
def isWhole (x : Float) : Bool := -halfRange ≤ x && x ≤ 2 * halfRange && x == x.floor

/-- A number in a layout. -/
def numberIn (l : Layout) (kind : Char) (x : Float) : Option (List Char) :=
  if kind = 'd' || kind = 'i' then some (l.integer 'd' (signedPart x))
  else if Format.integerKinds.contains kind then some (l.integer kind (unsignedPart x))
  else if ['e', 'E', 'f', 'g', 'G'].contains kind then
    some (if x.isNaN then l.pad (chars "-nan") else l.real kind x)
  else none

/-- A number in the first place of a format. -/
def numberText (format : List Char) (x : Float) : List Char :=
  if isWhole x then integerText x
  else
    (formatParts (format.length + 1) format).flatMap fun
      | .text t => t
      | .place flags (.given width) none kind => (numberIn { flags, width } kind x).getD []
      | .place flags (.given width) (some (.given p)) kind =>
        (numberIn { flags, width, precision := some p } kind x).getD []
      | .place .. => []

/-- The text that a value counts as; `format` is that of its numbers. -/
def Value.toText (format : List Char) : Value → List Char
  | .missing => []
  | .number x => numberText format x
  | .text s | .input s => s

/-- Why values cannot be put into a format. -/
inductive FormatMistake where
  /-- There are too few values. -/
  | tooFew
  /-- The conversion of a number is not known. -/
  | unknown (place : Nat)

/-- What is said about a mistake. -/
def FormatMistake.message : FormatMistake → List Char
  | tooFew => chars "not enough arguments passed to "
  | unknown place => chars s!"improper conversion(number {place}) in "

/-- A width or a precision, and the values behind it. -/
def sizeOf (values : List Value) : Size → Except FormatMistake (Int × List Value)
  | .given n => .ok (n, values)
  | .argument =>
    match values with
    | v :: rest => .ok (wholePart v.toNumber, rest)
    | [] => .error .tooFew

/-- Values in the parts of a format, of which `place` have come before: the text up to the first
mistake, and that mistake. -/
def formattedParts (format : List Char) (place : Nat) (values : List Value) :
    List Format → List Char × Option FormatMistake
  | [] => ([], none)
  | .text t :: rest =>
    let (behind, mistake) := formattedParts format place values rest
    (t ++ behind, mistake)
  | .place flags width precision kind :: rest =>
    let here : Except FormatMistake (List Char × List Value) := do
      let (w, values) ← sizeOf values width
      let (p, values) ← match precision with
        | some size => (sizeOf values size).map fun (p, values) => (some p, values)
        | none => pure (none, values)
      let layout : Layout := {
        flags := if w < 0 then '-' :: flags else flags
        width := w.natAbs
        precision := p.bind fun p => if p < 0 then none else some p.toNat }
      match values with
      | [] => throw .tooFew
      | v :: values =>
        if kind = 's' then return (layout.text (v.toText format), values)
        else if kind = 'c' then
          let c : Char := match v with
            | .number x => Char.ofNat (Int.fmod (wholePart x) 256).toNat
            | .input s =>
              match spelled? s with
              | some x => Char.ofNat (Int.fmod (wholePart x) 256).toNat
              | none => s.headD '\x00'
            | v => (v.toText format).headD '\x00'
          return (layout.pad [c], values)
        else
          match numberIn layout kind v.toNumber with
          | some t => return (t, values)
          | none => throw (.unknown (place + 1))
    match here with
    | .ok (t, values) =>
      let (behind, mistake) := formattedParts format (place + 1) values rest
      (t ++ behind, mistake)
    | .error mistake => ([], some mistake)

/-- Values in a format; numbers that become texts have a format of their own. -/
def formatted (numbers format : List Char) (values : List Value) :
    List Char × Option FormatMistake :=
  formattedParts numbers 0 values (formatParts (format.length + 1) format)

/-! ### Comparing -/

/-- Whether a value comes before another one. -/
def Value.less (format : List Char) (a b : Value) : Bool :=
  match a.comparable?, b.comparable? with
  | some x, some y => x < y
  | _, _ =>
    let s := a.toText format
    let t := b.toText format
    dictionaryLe s t && s != t

/-- Whether two values are the same. -/
def Value.same (format : List Char) (a b : Value) : Bool :=
  match a.comparable?, b.comparable? with
  | some x, some y => x == y
  | _, _ => a.toText format = b.toText format

end ScriptSuite.Shell.Awk
