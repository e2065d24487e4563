import ScriptSuite.Decimal.Scientific
import ScriptSuite.Shell.Tool.Options
import ScriptSuite.Text.Find

/-!
# Showing bytes

The tools that show the bytes of files as numbers or letters, and those that make texts of bytes.

## Main definitions

* `Shell.Dump.Kind`: how bytes are shown.
* `Shell.od`, `Shell.base64`, `Shell.cksum`: the tools.
-/

namespace ScriptSuite.Shell

namespace Dump

/-- How a group of bytes is shown. -/
inductive Kind where
  /-- As characters or their escapes. -/
  | char
  /-- By the names of the characters of seven bits. -/
  | name
  /-- As a number to base 8. -/
  | octal
  /-- As a number to base 16. -/
  | hexadecimal
  /-- As a number with a sign. -/
  | signed
  /-- As a number without a sign. -/
  | unsigned
deriving DecidableEq, Repr

/-- A row for each line of bytes. -/
structure Row where
  /-- How groups are shown. -/
  kind : Kind
  /-- The number of bytes in a group. -/
  size : Nat
  /-- Whether the bytes stand as characters behind the line. -/
  trailed : Bool := false
deriving DecidableEq, Repr

/-- The names of the first characters, of the space, and of the last one of seven bits. -/
def names : List String :=
  ["nul", "soh", "stx", "etx", "eot", "enq", "ack", "bel", "bs", "ht", "nl", "vt", "ff", "cr", "so",
    "si", "dle", "dc1", "dc2", "dc3", "dc4", "nak", "syn", "etb", "can", "em", "sub", "esc", "fs",
    "gs", "rs", "us", "sp"]

/-- Digits with zeros in front. -/
def padded (width : Nat) (ds : List Char) : List Char :=
  List.replicate (width - ds.length) '0' ++ ds

/-- The width that groups of a size need in a row. -/
def Row.width (r : Row) : Nat :=
  let pick (l : List Nat) : Nat := match r.size with
    | 1 => l.getD 0 0
    | 2 => l.getD 1 0
    | 4 => l.getD 2 0
    | _ => l.getD 3 0
  match r.kind with
  | .char | .name => 3
  | .octal => pick [3, 6, 11, 22]
  | .hexadecimal => pick [2, 4, 8, 16]
  | .signed => pick [4, 6, 11, 20]
  | .unsigned => pick [3, 5, 10, 20]

/-- The number of bytes of which the first one counts least. -/
def value (bytes : List Char) : Nat :=
  bytes.foldr (fun c n => 256 * n + c.toNat) 0

/-- A character as it is shown. -/
def charForm (c : Char) : List Char :=
  match c with
  | '\x00' => ['\\', '0']
  | '\x07' => ['\\', 'a']
  | '\x08' => ['\\', 'b']
  | '\x0c' => ['\\', 'f']
  | '\n' => ['\\', 'n']
  | '\r' => ['\\', 'r']
  | '\t' => ['\\', 't']
  | '\x0b' => ['\\', 'v']
  | c => if ' ' ≤ c && c ≤ '~' then [c] else padded 3 (Nat.toDigits 8 c.toNat)

/-- A group of bytes as it is shown. -/
def Row.shown (r : Row) (bytes : List Char) : List Char :=
  let n := value bytes
  match r.kind with
  | .char => charForm (bytes.headD '\x00')
  | .name =>
    let low := n % 128
    if low = 127 then chars "del"
    else ((names[low]?).map String.toList).getD [Char.ofNat low]
  | .octal => padded r.width (Nat.toDigits 8 n)
  | .hexadecimal => padded r.width (Nat.toDigits 16 n)
  | .unsigned => Nat.toDigits 10 n
  | .signed => digits (Int.bmod n (Nat.pow 256 r.size))

/-- Bytes in groups of a size. -/
def groups (size : Nat) (steps : Nat) (s : List Char) : List (List Char) :=
  match steps with
  | 0 => []
  | steps + 1 => if s.isEmpty then [] else s.take size :: groups size steps (s.drop size)

/-- The row of a line of bytes. A group is as wide as the widest row needs it for as many bytes. -/
def Row.line (r : Row) (perByte : Nat) (length : Nat) (bytes : List Char) : List Char :=
  let width := perByte * r.size
  let fields := (groups r.size (bytes.length + 1) bytes).map fun b =>
    let s := r.shown b
    List.replicate (width - s.length) ' ' ++ s
  let text := fields.flatten
  let missing := (length - bytes.length) / r.size
  text ++
    if r.trailed then
      List.replicate (missing * width) ' ' ++ [' ', ' ', '>'] ++
        (bytes.map fun c => if ' ' ≤ c && c ≤ '~' then c else '.') ++ ['<']
    else []

/-- The rows that a text of types tells, or what is wrong with it. -/
def rows (steps : Nat) (whole s : List Char) : Except (List Char) (List Row) :=
  match steps with
  | 0 => .ok []
  | steps + 1 =>
    match s with
    | [] => .ok []
    | c :: s => do
      let kind? : Option Kind := match c with
        | 'c' => some .char
        | 'a' => some .name
        | 'o' => some .octal
        | 'x' => some .hexadecimal
        | 'd' => some .signed
        | 'u' => some .unsigned
        | _ => none
      match kind? with
      | none =>
        throw (chars "invalid character '" ++ [c] ++ chars "' in type string '" ++ whole ++ ['\''])
      | some kind =>
        let ds := s.takeWhile Char.isDigit
        let (size, s) :=
          if kind = .char || kind = .name then (1, s)
          else if !ds.isEmpty then (decimal ds, s.drop ds.length)
          else match s with
            | 'C' :: s => (1, s)
            | 'S' :: s => (2, s)
            | 'I' :: s => (4, s)
            | 'L' :: s => (8, s)
            | s => (4, s)
        unless [1, 2, 4, 8].contains size do
          throw (chars s!"invalid type string '" ++ whole ++
            chars s!"';\nthis system doesn't provide a {size}-byte integral type")
        let (trailed, s) := match s with
          | 'z' :: s => (true, s)
          | s => (false, s)
        return { kind, size, trailed } :: (← rows steps whole s)

/-- The row of an option with a letter. -/
def rowOf (c : Char) : Option Row :=
  match c with
  | 'a' => some { kind := .name, size := 1 }
  | 'b' => some { kind := .octal, size := 1 }
  | 'c' => some { kind := .char, size := 1 }
  | 'd' => some { kind := .unsigned, size := 2 }
  | 'i' => some { kind := .signed, size := 4 }
  | 'l' => some { kind := .signed, size := 8 }
  | 'o' => some { kind := .octal, size := 2 }
  | 's' => some { kind := .signed, size := 2 }
  | 'x' | 'h' => some { kind := .hexadecimal, size := 2 }
  | _ => none

/-- The number of bytes that an argument tells: to base 8 or 16 behind their signs. -/
def countOf (s : List Char) : Nat :=
  match s with
  | '0' :: 'x' :: ds => ds.foldl (fun n c => 16 * n + Decimal.hexValue c) 0
  | '0' :: ds => ds.foldl (fun n c => 8 * n + (c.toNat - '0'.toNat)) 0
  | s =>
    let n := decimal (s.takeWhile Char.isDigit)
    match s.dropWhile Char.isDigit with
    | ['k'] | ['K'] => 1024 * n
    | ['b'] => 512 * n
    | _ => n

end Dump

/-- Shows the bytes of files. -/
def od : Tool :=
  withOptions "od" (.of "A:abcdhij:lN:ost:vw::xS:" [("address-radix", 'A'), ("skip-bytes", 'j'),
    ("read-bytes", 'N'), ("format", 't'), ("output-duplicates", 'v'), ("width", 'w'),
    ("strings", 'S')]) 1 fun g input disk =>
    let wrong (text : List Char) : Effect :=
      { disk, status := 1, err := chars "od: " ++ text ++ ['\n'] }
    let radix := (g.value? 'A').getD ['o']
    let typed := g.options.filterMap fun (c, value) =>
      if c = 't' then some (Dump.rows (value.length + 1) value value)
      else (Dump.rowOf c).map fun r => .ok [r]
    match typed.mapM id with
    | .error text => wrong text
    | .ok rows =>
      let rows := if rows.isEmpty then [{ kind := .octal, size := 2 }] else rows.flatten
      if !([['o'], ['d'], ['x'], ['n']].contains radix) then
        wrong (chars "invalid output address radix '" ++ radix ++
          chars "'; it must be one character from [doxn]")
      else
        let r := readAll "od" quotedIfNeeded g.operands input disk
        let skipped := ((g.value? 'j').map Dump.countOf).getD 0
        let bytes := (r.texts.flatMap (·.2)).drop skipped
        let bytes := match g.value? 'N' with
          | some n => bytes.take (Dump.countOf n)
          | none => bytes
        let length := match g.value? 'w' with
          | some [] => 32
          | some n => max 1 (Dump.countOf n)
          | none => 16
        let address (n : Nat) : List Char := match radix with
          | ['n'] => []
          | ['x'] => Dump.padded 6 (Nat.toDigits 16 n)
          | ['d'] => Dump.padded 7 (Nat.toDigits 10 n)
          | _ => Dump.padded 7 (Nat.toDigits 8 n)
        -- all rows are as wide as the one that needs most for a byte
        let perByte := (rows.map fun row => (row.width + row.size) / row.size).foldl max 0
        let lines := Dump.groups length (bytes.length + 1) bytes
        let block (i : Nat) (line : List Char) : List Char :=
          let texts := rows.map fun row => row.line perByte length line
          let front := address (skipped + length * i)
          Text.join ['\n'] (texts.zipIdx.map fun (t, n) =>
            (if n = 0 then front else List.replicate front.length ' ') ++ t) ++ ['\n']
        let (out, _) := lines.zipIdx.foldl (fun (out, starred) (line, i) =>
          let repeated := !g.has 'v' && 0 < i && lines[i - 1]? = some line && line.length = length
          if repeated then (if starred then out else out ++ ['*', '\n'], true)
          else (out ++ block i line, false)) (([], false) : List Char × Bool)
        let stop := address (skipped + bytes.length)
        if r.texts.isEmpty then { disk, err := r.err, status := 1, left := r.left }
        else
          { disk, out := out ++ (if stop.isEmpty then [] else stop ++ ['\n'])
            err := r.err, status := statusOf r.err, left := r.left }

/-! ### Texts for bytes -/

/-- The characters that stand for six bits. -/
def sixBitChars : List Char :=
  chars "ABCDEFGHIJKLMNOPQRSTUVWXYZabcdefghijklmnopqrstuvwxyz0123456789+/"

/-- The text for bytes, three of them in four characters. -/
def toBase64 : List Char → List Char
  | a :: b :: c :: s =>
    let n := a.toNat * 65536 + b.toNat * 256 + c.toNat
    [n / 262144, n / 4096 % 64, n / 64 % 64, n % 64].map (sixBitChars.getD · 'A') ++ toBase64 s
  | [a, b] =>
    let n := a.toNat * 1024 + b.toNat * 4
    [n / 4096, n / 64 % 64, n % 64].map (sixBitChars.getD · 'A') ++ ['=']
  | [a] =>
    let n := a.toNat * 16
    [n / 64, n % 64].map (sixBitChars.getD · 'A') ++ ['=', '=']
  | [] => []

/-- The bytes of a text, and whether all of it was understood. -/
def ofBase64 : List Char → List Char × Bool
  | [] => ([], true)
  | a :: b :: c :: d :: s =>
    match sixBitChars.findIdx? (· = a), sixBitChars.findIdx? (· = b) with
    | some x, some y =>
      let first := Char.ofNat (x * 4 + y / 16)
      match sixBitChars.findIdx? (· = c), sixBitChars.findIdx? (· = d) with
      | some z, some w =>
        let (rest, ok) := ofBase64 s
        (first :: Char.ofNat (y % 16 * 16 + z / 4) :: Char.ofNat (z % 4 * 64 + w) :: rest, ok)
      | some z, none => ([first, Char.ofNat (y % 16 * 16 + z / 4)], d = '=' && s.isEmpty)
      | none, _ => ([first], c = '=' && d = '=' && s.isEmpty)
    | _, _ => ([], false)
  | [a, b, c] =>
    let value? (d : Char) : Option Nat := sixBitChars.findIdx? (· = d)
    match value? a, value? b, value? c with
    | some x, some y, some z =>
      ([Char.ofNat (x * 4 + y / 16), Char.ofNat (y % 16 * 16 + z / 4)], false)
    | _, _, _ => ([], false)
  | [a, b] =>
    match sixBitChars.findIdx? (· = a), sixBitChars.findIdx? (· = b) with
    | some x, some y => ([Char.ofNat (x * 4 + y / 16)], false)
    | _, _ => ([], false)
  | [_] => ([], false)

/-- Makes a text of bytes, or bytes of a text. -/
def base64 : Tool :=
  withOptions "base64" (.of "diw:" [("decode", 'd'), ("ignore-garbage", 'i'), ("wrap", 'w')]) 1
    fun g input disk =>
      let r := readAll "base64" quotedIfNeeded (g.operands.take 1) input disk
      let text := r.texts.flatMap (·.2)
      if g.has 'd' then
        let body := text.filter (· != '\n')
        let body := if g.has 'i' then body.filter fun c => sixBitChars.contains c || c = '='
          else body
        let (out, ok) := ofBase64 body
        { disk, out, left := r.left
          err := r.err ++ if ok then [] else chars "base64: invalid input\n"
          status := if ok && r.err.isEmpty then 0 else 1 }
      else
        let width := ((g.value? 'w').map decimal).getD 76
        let coded := toBase64 text
        let out :=
          if width = 0 then coded
          else (Dump.groups width (coded.length + 1) coded).flatMap (· ++ ['\n'])
        { disk, out, err := r.err, status := statusOf r.err, left := r.left }

/-- The remainder of a sum of a check after eight more bits. -/
def checkStep (sum : Nat) (byte : Nat) : Nat :=
  (List.range 8).foldl (fun s i =>
    let bit := (byte >>> (7 - i)) % 2
    let top := (s >>> 31) % 2
    let shifted := (s <<< 1) % 4294967296
    if top != bit then shifted ^^^ 79764919 else shifted) sum

/-- The bytes of a length, the one that counts least first. -/
def lengthBytes (steps n : Nat) : List Nat :=
  match steps with
  | 0 => []
  | steps + 1 => if n = 0 then [] else n % 256 :: lengthBytes steps (n / 256)

/-- The sum of a check of bytes. -/
def checkSum (s : List Char) : Nat :=
  let sum := s.foldl (fun sum c => checkStep sum c.toNat) 0
  let sum := (lengthBytes 16 s.length).foldl checkStep sum
  4294967295 - sum

/-- Prints sums by which files are checked. -/
def cksum : Tool := withOptions "cksum" (.of "" []) 1 fun g input disk =>
  let r := readAll "cksum" quotedIfNeeded g.operands input disk
  { disk
    out := r.texts.flatMap fun (path, text) =>
      Nat.toDigits 10 (checkSum text) ++ ' ' :: Nat.toDigits 10 text.length ++
        (if path.isEmpty then [] else ' ' :: path) ++ ['\n']
    err := r.err, status := statusOf r.err, left := r.left }

end ScriptSuite.Shell
