import ScriptSuite.Shell.Printf
import ScriptSuite.Shell.Regex.Parser
import ScriptSuite.Shell.Tool.Sort

/-!
# Tools that calculate

The tool that prints numbers one after the other, and the one that prints the value of an expression
whose parts are its arguments.

## Main definitions

* `Shell.seq`: prints numbers.
* `Shell.Expression.value`: the value of an expression.
-/

namespace ScriptSuite.Shell

/-! ### Sequences -/

/-- A decimal number: `value / 10 ^ places`. -/
structure PlacedNumber where
  /-- The number without its point. -/
  value : Int
  /-- The number of digits behind the point. -/
  places : Nat
  /-- The number of characters that it was told with. -/
  width : Nat
deriving DecidableEq, Repr

namespace PlacedNumber

/-- The number that a text tells. -/
def of? (s : List Char) : Option PlacedNumber :=
  let (negative, body) := match s with
    | '-' :: s => (true, s)
    | '+' :: s => (false, s)
    | s => (false, s)
  let signed (n : Nat) : Int := if negative then -n else n
  let width := s.length - (if s.head? = some '+' then 1 else 0)
  match body with
  | '0' :: 'x' :: ds =>
    if ds.isEmpty || !ds.all Decimal.isHexDigit then none
    else
      let n := ds.foldl (fun n c => 16 * n + Decimal.hexValue c) 0
      some { value := signed n, places := 0, width := (Nat.toDigits 10 n).length }
  | _ =>
    let whole := body.takeWhile Char.isDigit
    let rest := body.drop whole.length
    let (part, rest) := match rest with
      | '.' :: t => (t.takeWhile Char.isDigit, t.dropWhile Char.isDigit)
      | t => ([], t)
    let n := signed (decimal (whole ++ part))
    if whole.isEmpty && part.isEmpty then none
    else
      match rest with
      | [] => some { value := n, places := part.length, width }
      | e :: ds =>
        if e != 'e' && e != 'E' then none
        else
          match integer? ds with
          | none => none
          | some power =>
            let places : Int := (part.length : Int) - power
            if places ≤ 0 then
              let m := n * (Nat.pow 10 (-places).toNat : Nat)
              some { value := m, places := 0, width := (digits m).length }
            else some { value := n, places := places.toNat, width }

/-- The number without its point if it had a number of digits behind it. -/
def scaledTo (n : PlacedNumber) (places : Nat) : Int :=
  n.value * (Nat.pow 10 (places - n.places) : Nat)

end PlacedNumber

/-- A number with a point in front of its last digits. -/
def withPoint (places : Nat) (n : Int) : List Char :=
  let ds := Decimal.paddedDigits (places + 1) n.natAbs
  (if n < 0 then ['-'] else []) ++ ds.take (ds.length - places) ++
    (if places = 0 then [] else '.' :: ds.drop (ds.length - places))

/-- The place for a float in a format, with the texts on its two sides. -/
def floatPlace? (s : List Char) : Except (List Char) (List Char × Layout × Char × List Char) :=
  let about (text : String) : Except (List Char) (List Char × Layout × Char × List Char) :=
    .error (chars "format '" ++ s ++ chars ("' " ++ text))
  let masked := s.flatMap fun c => if c = '\\' then ['\\', '\\'] else [c]
  let (parts, _) := Format.parse (s.length + 1) masked
  let text (fs : List Format) : List Char := fs.flatMap fun
    | .text t => t
    | .place .. => []
  let isPlace (f : Format) : Bool := match f with
    | .place .. => true
    | .text _ => false
  let front := parts.takeWhile (!isPlace ·)
  match parts.drop front.length with
  | [] => about "has no % directive"
  | .place flags (.given width) precision kind :: behind =>
    if behind.any isPlace then about "has too many % directives"
    else if !Format.realKinds.contains kind then
      about ("has unknown %" ++ kind.toString ++ " directive")
    else
      let limit := precision.bind fun
        | .given n => some n
        | .argument => none
      .ok (text front, { flags, width, precision := limit }, kind, text behind)
  | _ :: _ => about "has unknown %* directive"

/-- Prints numbers. -/
def seq : Tool := fun args =>
  -- a number below zero is no option
  let isNumber (a : List Char) : Bool := match a with
    | '-' :: c :: _ => c.isDigit || c = '.'
    | _ => false
  let front := args.takeWhile fun a => a.head? = some '-' && !isNumber a
  let count := match front.getLast? with
    | some a => if [chars "-s", chars "-f"].contains a then front.length + 1 else front.length
    | none => 0
  let args := args.take count ++ ['-', '-'] :: (args.drop count).filter (· != ['-', '-'])
  withOptions "seq" (.of "+f:s:w" [("format", 'f'), ("separator", 's'), ("equal-width", 'w')]) 1
    (fun g _ disk =>
      let advised (text : List Char) : Effect := usageMistake "seq" 1 text disk
      match g.operands with
      | [] => advised (chars "missing operand")
      | _ :: _ :: _ :: extra :: _ => advised (chars "extra operand '" ++ extra ++ ['\''])
      | operands =>
        let numbers := operands.map PlacedNumber.of?
        match (operands.zip numbers).find? (·.2.isNone) with
        | some (bad, _) => advised (chars "invalid floating point argument: '" ++ bad ++ ['\''])
        | none =>
          let one : PlacedNumber := { value := 1, places := 0, width := 1 }
          let (first, step, last) := match numbers.filterMap id with
            | [b] => (one, one, b)
            | [a, b] => (a, one, b)
            | [a, s, b] => (a, s, b)
            | _ => (one, one, one)
          if step.value = 0 then
            advised (chars "invalid Zero increment value: '" ++ (operands[1]?).getD [] ++ ['\''])
          else
            let scale := max (max first.places step.places) last.places
            let shownPlaces := max first.places step.places
            let a := first.scaledTo scale
            let s := step.scaledTo scale
            let b := last.scaledTo scale
            let count : Nat := ((b - a) / s + 1).toNat
            let count := if 0 ≤ (b - a) * s then count else 0
            let values := (List.range count).map fun (i : Nat) => a + s * i
            let unit : Int := (Nat.pow 10 (scale - shownPlaces) : Nat)
            let plain (n : Int) : List Char := withPoint shownPlaces (n / unit)
            let width (n : PlacedNumber) : Nat :=
              n.width - (if n.places = 0 then 0 else n.places + 1) +
                (if shownPlaces = 0 then 0 else shownPlaces + 1)
            let wide := max (width first) (width last)
            let equal (n : Int) : List Char :=
              let t := plain n
              match t with
              | '-' :: ds => '-' :: (List.replicate (wide - t.length) '0' ++ ds)
              | ds => List.replicate (wide - ds.length) '0' ++ ds
            let separator := (g.value? 's').getD ['\n']
            let print (shown : Int → List Char) : Effect :=
              { disk, out := if values.isEmpty then [] else
                  Text.join separator (values.map shown) ++ ['\n'] }
            match g.value? 'f' with
            | none => print (if g.has 'w' then equal else plain)
            | some f =>
              match floatPlace? f with
              | .error text => { disk, status := 1, err := chars "seq: " ++ text ++ ['\n'] }
              | .ok (before, layout, kind, behind) =>
                print fun n =>
                  let value := Decimal.nearest (n < 0) n.natAbs (-(scale : Int))
                  before ++ layout.real kind value ++ behind)
    args

/-! ### Expressions -/

namespace Expression

/-- Why an expression has no value. -/
inductive Problem where
  /-- An argument is missing. -/
  | missing (before : List Char)
  /-- An argument is not expected. -/
  | unexpected (argument : List Char)
  /-- A bracket is not expected. -/
  | strayBracket
  /-- A bracket is missing at the end. -/
  | openBracket (before : List Char)
  /-- Something stands where a bracket is missing. -/
  | noBracket (argument : List Char)
  /-- An argument is no integer. -/
  | notInteger
  /-- A division by zero. -/
  | zeroDivision
  /-- A text is no regular expression. -/
  | regex (problem : Regex.Problem)

/-- What is said about a problem. -/
def Problem.message : Problem → List Char
  | missing a => chars "syntax error: missing argument after '" ++ a ++ ['\'']
  | unexpected a => chars "syntax error: unexpected argument '" ++ a ++ ['\'']
  | strayBracket => chars "syntax error: unexpected ')'"
  | openBracket a => chars "syntax error: expecting ')' after '" ++ a ++ ['\'']
  | noBracket a => chars "syntax error: expecting ')' instead of '" ++ a ++ ['\'']
  | notInteger => chars "non-integer argument"
  | zeroDivision => chars "division by zero"
  | regex p => chars p.message

/-- The arguments that are left, and the last one that was read. -/
structure Progress where
  /-- The arguments. -/
  rest : List (List Char)
  /-- The last one that was read. -/
  last : List Char := []

/-- A reader of expressions. -/
abbrev Reader := StateT Progress (Except Problem)

/-- Passes over an argument, if it follows. -/
def pass? (arguments : List String) : Reader (Option String) := do
  let p ← get
  match p.rest with
  | a :: rest =>
    match arguments.find? fun s => s.toList = a with
    | some s =>
      set ({ rest, last := a } : Progress)
      return some s
    | none => return none
  | [] => return none

/-- Reads any argument. -/
def anything : Reader (List Char) := do
  let p ← get
  match p.rest with
  | a :: rest =>
    set ({ rest, last := a } : Progress)
    return a
  | [] => throw (.missing p.last)

/-- Whether a value counts as nothing: an empty text or zero. -/
def isNothing (s : List Char) : Bool :=
  match s with
  | [] => true
  | '-' :: c :: s => (c :: s).all (· = '0')
  | s => s.all (· = '0')

/-- The integer that a text tells: digits, perhaps behind a sign. -/
def integerOf? (s : List Char) : Option Int :=
  if s.head? = some '+' then none else integer? s

/-- The value of a sign between two values. -/
def combine (op : String) (a b : List Char) : Except Problem (List Char) :=
  let numbers (f : Int → Int → Except Problem Int) : Except Problem (List Char) :=
    match integerOf? a, integerOf? b with
    | some m, some n => (f m n).map digits
    | _, _ => .error .notInteger
  let order : Ordering := match integerOf? a, integerOf? b with
    | some m, some n => if m < n then .lt else if m = n then .eq else .gt
    | _, _ => textOrder a b
  let truthOf (b : Bool) : Except Problem (List Char) := .ok (digits (truth b))
  match op with
  | "+" => numbers fun m n => .ok (m + n)
  | "-" => numbers fun m n => .ok (m - n)
  | "*" => numbers fun m n => .ok (m * n)
  | "/" => numbers fun m n => if n = 0 then .error .zeroDivision else .ok (m.tdiv n)
  | "%" => numbers fun m n => if n = 0 then .error .zeroDivision else .ok (m.tmod n)
  | "=" | "==" => truthOf (order = .eq)
  | "!=" => truthOf (order != .eq)
  | "<" => truthOf (order = .lt)
  | "<=" => truthOf (order != .gt)
  | ">" => truthOf (order = .gt)
  | _ => truthOf (order != .lt)

/-- The length of the match of an expression at the start of a text, or the text of its first
group. -/
def matchOf (a b : List Char) : Except Problem (List Char) :=
  match Regex.parse .basic false b with
  | .error problem => .error (.regex problem)
  | .ok r =>
    let text := a.toArray
    match r.matchAt? text 0 with
    | none => .ok (if r.hasGroups then [] else ['0'])
    | some m => .ok (if r.hasGroups then m.group text 1 else digits (m.stop - m.start))

/-- The signs between values, weakest first. -/
def levels : List (List String) :=
  [["|"], ["&"], ["<", "<=", "=", "==", "!=", ">=", ">"], ["+", "-"], ["*", "/", "%"], [":"]]

mutual

/-- Reads signs of a level and stronger ones with the values between them. What is not `needed` is
read, but its mistakes do not count. -/
def level (steps : Nat) (n : Nat) (needed : Bool) : Reader (List Char) :=
  match steps with
  | 0 => throw .strayBracket
  | steps + 1 => do
    match levels[n]? with
    | none => word steps needed
    | some signs =>
      let first ← level steps (n + 1) needed
      chain steps n signs needed first

/-- Reads signs of a level behind a value. -/
def chain (steps : Nat) (n : Nat) (signs : List String) (needed : Bool) (a : List Char) :
    Reader (List Char) :=
  match steps with
  | 0 => throw .strayBracket
  | steps + 1 => do
    match ← pass? signs with
    | none => return a
    | some "|" =>
      let b ← level steps (n + 1) (needed && isNothing a)
      chain steps n signs needed (if !isNothing a then a else if isNothing b then ['0'] else b)
    | some "&" =>
      let b ← level steps (n + 1) (needed && !isNothing a)
      chain steps n signs needed (if isNothing a || isNothing b then ['0'] else a)
    | some sign =>
      let b ← level steps (n + 1) needed
      match if sign = ":" then matchOf a b else combine sign a b with
      | .ok c => chain steps n signs needed c
      | .error p => if needed then throw p else chain steps n signs needed []

/-- Reads a value with a word in front of it. -/
def word (steps : Nat) (needed : Bool) : Reader (List Char) :=
  match steps with
  | 0 => throw .strayBracket
  | steps + 1 => do
    match ← pass? ["+", "length", "match", "index", "substr"] with
    | some "+" => anything
    | some "length" =>
      let s ← word steps needed
      return digits s.length
    | some "match" =>
      let a ← word steps needed
      let b ← word steps needed
      match matchOf a b with
      | .ok c => return c
      | .error p => throw p
    | some "index" =>
      let a ← word steps needed
      let b ← word steps needed
      let place : Nat := ((a.findIdx? b.contains).map (· + 1)).getD 0
      return digits place
    | some _ =>
      let s ← word steps needed
      let start ← word steps needed
      let length ← word steps needed
      match integerOf? start, integerOf? length with
      | some p, some n =>
        return if p ≤ 0 || n ≤ 0 then [] else (s.drop (p.toNat - 1)).take n.toNat
      | _, _ => return []
    | none => primary steps needed

/-- Reads an argument, or an expression in brackets. -/
def primary (steps : Nat) (needed : Bool) : Reader (List Char) :=
  match steps with
  | 0 => throw .strayBracket
  | steps + 1 => do
    match ← pass? ["(", ")"] with
    | some "(" =>
      let value ← level steps 0 needed
      match (← get).rest with
      | [] => throw (.openBracket (← get).last)
      | a :: _ =>
        if (← pass? [")"]).isNone then throw (.noBracket a)
        return value
    | some _ => throw .strayBracket
    | none => anything

end

/-- The value of an expression. -/
def value (args : List (List Char)) : Except Problem (List Char) := do
  let (v, p) ← level (12 * args.length + 20) 0 true { rest := args }
  match p.rest with
  | [] => return v
  | a :: _ => throw (.unexpected a)

end Expression

/-- Prints the value of an expression. -/
def expr : Tool := fun args _ disk =>
  let args := if args.head? = some ['-', '-'] then args.tail else args
  if args.isEmpty then usageMistake "expr" 2 (chars "missing operand") disk
  else
    match Expression.value args with
    | .ok value =>
      { disk, out := value ++ ['\n'], status := if Expression.isNothing value then 1 else 0 }
    | .error problem => { disk, status := 2, err := chars "expr: " ++ problem.message ++ ['\n'] }

end ScriptSuite.Shell
