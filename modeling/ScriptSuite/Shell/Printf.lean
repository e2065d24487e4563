import ScriptSuite.Decimal.Scientific
import ScriptSuite.Shell.Arithmetic

/-!
# Formatted output

A value fills a field of some width: what stands in front of a number, how many digits it has, and
on which side it is filled up make its layout.

A format is printed as often as it takes to use up the arguments, and at least once. A missing
argument counts as an empty text or as zero.

## Main definitions

* `Shell.Layout`: flags, width and precision.
* `Shell.Layout.text`, `Shell.Layout.integer`, `Shell.Layout.real`: values in a layout.
* `Shell.unescape`: the text of a text with escapes.
* `Shell.Format.parse`, `Shell.Format.print`: formats.
-/

namespace ScriptSuite.Shell

/-! ### Layouts -/

/-- How a value is laid out. -/
structure Layout where
  /-- The flags. -/
  flags : List Char := []
  /-- The least number of characters. -/
  width : Nat := 0
  /-- The precision, whose meaning depends on the value. -/
  precision : Option Nat := none
deriving DecidableEq, Repr

namespace Layout

/-- A text filled up with spaces on the left, or on the right for the flag `-`. -/
def pad (l : Layout) (s : List Char) : List Char :=
  let fill := List.replicate (l.width - s.length) ' '
  if l.flags.contains '-' then s ++ fill else fill ++ s

/-- A number filled up with spaces, or with zeros behind what stands in front of its digits. -/
def padNumber (l : Layout) (zeros : Bool) (front ds : List Char) : List Char :=
  if zeros && l.flags.contains '0' && !l.flags.contains '-' then
    front ++ List.replicate (l.width - front.length - ds.length) '0' ++ ds
  else l.pad (front ++ ds)

/-- The sign in front of a number. -/
def sign (l : Layout) (negative : Bool) : List Char :=
  if negative then ['-']
  else if l.flags.contains '+' then ['+']
  else if l.flags.contains ' ' then [' ']
  else []

/-- A text, cut at the precision. -/
def text (l : Layout) (s : List Char) : List Char :=
  l.pad (match l.precision with
    | some n => s.take n
    | none => s)

/-- Whether a kind of number has a sign. -/
def isSigned (kind : Char) : Bool := kind = 'd' || kind = 'i'

/-- An integer; without a sign it counts as one of 64 bits. The precision is the least number of
digits. -/
def integer (l : Layout) (kind : Char) (n : Int) : List Char :=
  let base := if kind = 'o' then 8 else if kind = 'x' || kind = 'X' then 16 else 10
  let m := if isSigned kind then n.natAbs else (n % UInt64.size).toNat
  let ds := if m = 0 && l.precision = some 0 then [] else Nat.toDigits base m
  let ds := if kind = 'X' then ds.map Char.toUpper else ds
  let ds := List.replicate (l.precision.getD 1 - ds.length) '0' ++ ds
  let marked := l.flags.contains '#'
  let ds := if marked && kind = 'o' && ds.head? != some '0' then '0' :: ds else ds
  let front :=
    if isSigned kind then l.sign (n < 0)
    else if marked && base = 16 && m != 0 then ['0', kind]
    else []
  l.padNumber l.precision.isNone front ds

/-- A float. The precision is the number of places, or of digits for `g`. -/
def real (l : Layout) (kind : Char) (x : Float) : List Char :=
  let kept := l.flags.contains '#'
  let negative := x < 0 || (x == 0 && 1 / x < 0)
  let places := l.precision.getD 6
  let (finite, ds) := match Binary.ofFloat? x with
    | none => (false, if x.isNaN then ['n', 'a', 'n'] else ['i', 'n', 'f'])
    | some b => (true,
      match kind.toLower with
      | 'e' => Decimal.scientific kept places b
      | 'g' => Decimal.general kept places b
      | 'a' => Decimal.hexadecimal kept l.precision b
      | _ => Decimal.positional kept places b)
  let ds := if kind.isUpper then ds.map Char.toUpper else ds
  if kind.toLower = 'a' && finite then
    l.padNumber true (l.sign negative ++ ds.take 2) (ds.drop 2)
  else l.padNumber finite (l.sign negative) ds

end Layout

/-! ### Escapes and formats -/

/-- Whether a character is an octal digit. -/
def isOctal (c : Char) : Bool := '0' ≤ c && c ≤ '7'

/-- What an escape stands for, and what follows it; `s` is what follows the backslash. -/
def escape (s : List Char) : List Char × List Char :=
  match s with
  | [] => (['\\'], [])
  | c :: rest =>
    if isOctal c then
      let ds := (s.take 3).takeWhile isOctal
      ([Char.ofNat ((digitsValue? 8 ds).getD 0 % 256)], s.drop ds.length)
    else
      match c with
      | 'a' => (['\x07'], rest)
      | 'b' => (['\x08'], rest)
      | 'e' => (['\x1b'], rest)
      | 'f' => (['\x0c'], rest)
      | 'n' => (['\n'], rest)
      | 'r' => (['\r'], rest)
      | 't' => (['\t'], rest)
      | 'v' => (['\x0b'], rest)
      | '\\' => (['\\'], rest)
      | _ => (['\\'], s)

/-- The text of a text with escapes, and whether it was cut short by `\c`. An octal number may have
a zero more in front. -/
def unescape (steps : Nat) (s : List Char) : List Char × Bool :=
  match steps with
  | 0 => (s, false)
  | steps + 1 =>
    match s with
    | [] => ([], false)
    | '\\' :: 'c' :: _ => ([], true)
    | '\\' :: s =>
      let s := match s with
        | '0' :: d :: s' => if isOctal d then d :: s' else s
        | s => s
      let (front, rest) := escape s
      let (behind, cut) := unescape steps rest
      (front ++ behind, cut)
    | c :: s =>
      let (behind, cut) := unescape steps s
      (c :: behind, cut)

/-- A width or a precision in a format. -/
inductive Size where
  /-- A number. -/
  | given (n : Nat)
  /-- The value of the next argument. -/
  | argument
deriving DecidableEq, Repr

/-- A part of a format. -/
inductive Format where
  /-- A text. -/
  | text (s : List Char)
  /-- A place for an argument, with its flags, width, precision and kind. -/
  | place (flags : List Char) (width : Size) (precision : Option Size) (kind : Char)

namespace Format

/-- The width or precision at the front of a text. -/
def size (s : List Char) : Size × List Char :=
  match s with
  | '*' :: s => (.argument, s)
  | s =>
    let ds := s.takeWhile Char.isDigit
    (.given (decimal ds), s.drop ds.length)

/-- The flags, the width and the precision at the front of a directive, and what follows them. -/
def sizes (s : List Char) : List Char × Size × Option Size × List Char :=
  let flags := s.takeWhile fun c => ['-', '+', ' ', '0', '#'].contains c
  let (width, s) := size (s.drop flags.length)
  match s with
  | '.' :: s =>
    let (precision, s) := size s
    (flags, width, some precision, s)
  | s => (flags, width, none, s)

/-- The kinds of integers. -/
def integerKinds : List Char := ['d', 'i', 'u', 'o', 'x', 'X']

/-- The kinds of floats. -/
def realKinds : List Char := ['e', 'E', 'f', 'F', 'g', 'G', 'a', 'A']

/-- The parts of a format, up to a mistake, and the complaint about it. -/
def parse (steps : Nat) (s : List Char) : List Format × Option (List Char) :=
  match steps with
  | 0 => ([], none)
  | steps + 1 =>
    let behind (f : Format) (s : List Char) : List Format × Option (List Char) :=
      let (fs, complaint) := parse steps s
      (f :: fs, complaint)
    match s with
    | [] => ([], none)
    | '\\' :: s =>
      let (t, s) := escape s
      behind (.text t) s
    | '%' :: '%' :: s => behind (.text ['%']) s
    | '%' :: s =>
      match sizes s with
      | (flags, width, precision, kind :: rest) =>
        if (['s', 'b', 'c'] ++ integerKinds ++ realKinds).contains kind then
          behind (.place flags width precision kind) rest
        else
          ([], some ('%' :: s.take (s.length - rest.length) ++ chars ": invalid directive"))
      | (_, _, _, []) => ([], some (chars "missing format character"))
    | c :: s => behind (.text [c]) s

/-- The complaint about an argument of which `rest` was not understood. -/
def leftover (s rest : List Char) : Option (List Char) :=
  if rest.isEmpty then none
  else if rest.length = s.length then some (s ++ chars ": expected numeric value")
  else some (s ++ chars ": not completely converted")

/-- The complaint about an argument whose number is too large. -/
def outOfRange (s : List Char) : List Char :=
  s ++ chars ": Numerical result out of range"

/-- The value of an argument for an integer, and the complaint about it. A quote stands in front of
a character whose number is meant. -/
def number (signed : Bool) (s : List Char) : Int × Option (List Char) :=
  match s with
  | [] => (0, none)
  | '\'' :: c :: _ | '"' :: c :: _ => (c.toNat, none)
  | s =>
    let (n, rest) := unboundedInteger s
    let limit : Int := UInt64.size
    let inside := if signed then bounded n = n else decide (-limit < n) && decide (n < limit)
    let value := if signed then bounded n else if inside then n else limit - 1
    (if rest.length = s.length then 0 else value,
      (leftover s rest).or (if inside then none else some (outOfRange s)))

/-- The value of an argument for a float, and the complaint about it. -/
def float (s : List Char) : Float × Option (List Char) :=
  match s with
  | [] => (0, none)
  | '\'' :: c :: _ | '"' :: c :: _ => (Float.ofNat c.toNat, none)
  | s =>
    match Decimal.leadingFloat? s with
    | some (x, rest) =>
      let named := s.any fun c => ['n', 'N', 'f', 'F'].contains c
      (x, (leftover s rest).or (if x.isInf && !named then some (outOfRange s) else none))
    | none => (0, leftover s s)

/-- What comes of printing. -/
structure Printed where
  /-- The text. -/
  out : List Char := []
  /-- The complaints. -/
  complaints : List (List Char) := []
  /-- The arguments that are left. -/
  args : List (List Char)
  /-- Whether the output was cut short. -/
  cut : Bool := false

/-- The value of a width or precision. -/
def Printed.sizeOf (p : Printed) : Size → Int × Printed
  | .given n => (n, p)
  | .argument =>
    let (n, complaint) := number true (p.args.headD [])
    (n, { p with args := p.args.tail, complaints := p.complaints ++ complaint.toList })

/-- The layout of a place: a width below zero asks for the left side, and a precision below zero is
none. -/
def Printed.layout (p : Printed) (flags : List Char) (width : Size) (precision : Option Size) :
    Layout × Printed :=
  let (w, p) := p.sizeOf width
  let (limit, p) : Option Int × Printed := match precision with
    | some size => let (n, p) := p.sizeOf size; (some n, p)
    | none => (none, p)
  ({ flags := if w < 0 then '-' :: flags else flags
     width := w.natAbs
     precision := limit.bind fun n => if n < 0 then none else some n.toNat }, p)

/-- Prints a format once. -/
def printOnce (p : Printed) : List Format → Printed
  | [] => p
  | .text t :: rest => printOnce { p with out := p.out ++ t } rest
  | .place flags width precision kind :: rest =>
    let (layout, p) := p.layout flags width precision
    let arg := p.args.headD []
    let next (t : List Char) (complaint : Option (List Char)) : Printed :=
      { p with
        out := p.out ++ t, args := p.args.tail
        complaints := p.complaints ++ complaint.toList }
    if kind = 's' then printOnce (next (layout.text arg) none) rest
    else if kind = 'c' then printOnce (next (layout.pad (arg.take 1)) none) rest
    else if kind = 'b' then
      let (t, cut) := unescape (arg.length + 1) arg
      let q := next (layout.text t) none
      if cut then { q with cut := true } else printOnce q rest
    else if realKinds.contains kind then
      let (x, complaint) := float arg
      printOnce (next (layout.real kind x) complaint) rest
    else
      let (n, complaint) := number (Layout.isSigned kind) arg
      printOnce (next (layout.integer kind n) complaint) rest

/-- Prints a format as often as it takes to use up the arguments. -/
def print (steps : Nat) (format : List Format) (p : Printed) : Printed :=
  match steps with
  | 0 => p
  | steps + 1 =>
    let q := printOnce p format
    if q.cut || q.args.isEmpty || q.args.length = p.args.length then q else print steps format q

end Format

end ScriptSuite.Shell
