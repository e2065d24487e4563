import ScriptSuite.Shell.Tool.Options
import ScriptSuite.Text.Find

/-!
# Digests

A digest is a short number that stands for a text. The text is filled up to blocks of 64 bytes, with
its length in bits at the end; each block changes a state of a few words of 32 bits.

## Main definitions

* `Shell.Digest.blocks`: the blocks of a text.
* `Shell.Digest.md5`, `Shell.Digest.sha1`, `Shell.Digest.sha256`: the digests.
* `Shell.digestTool`: the tool that prints or checks the digests of files.
-/

namespace ScriptSuite.Shell.Digest

/-- The bytes of a number, the lowest first. -/
def bytesOf (count n : Nat) : List UInt8 :=
  (List.range count).map fun i => .ofNat (n >>> (8 * i))

/-- The number of bytes, the lowest first. -/
def numberOf (bytes : List UInt8) : Nat :=
  bytes.foldr (fun b n => b.toNat + 256 * n) 0

/-- Words of four bytes. -/
def wordsOf (lowestFirst : Bool) (bytes : List UInt8) : List UInt32 :=
  (List.range (bytes.length / 4)).map fun i =>
    let four := (bytes.drop (4 * i)).take 4
    .ofNat (numberOf (if lowestFirst then four else four.reverse))

/-- The blocks of a text, as words: behind the text comes a single bit, and its length is at the
very end. -/
def blocks (lowestFirst : Bool) (text : List UInt8) : List (List UInt32) :=
  let length := bytesOf 8 (8 * text.length)
  let filled := text ++ 128 :: List.replicate ((119 - text.length % 64) % 64) 0 ++
    (if lowestFirst then length else length.reverse)
  (List.range (filled.length / 64)).map fun i =>
    wordsOf lowestFirst ((filled.drop (64 * i)).take 64)

/-- A word with its bits moved to the left, those that drop out coming in on the right. -/
def rotated (w : UInt32) (n : UInt32) : UInt32 := (w <<< n) ||| (w >>> (32 - n))

/-- The digits of words. -/
def digitsOf (lowestFirst : Bool) (words : List UInt32) : List Char :=
  words.flatMap fun w =>
    let bytes := bytesOf 4 w.toNat
    (if lowestFirst then bytes else bytes.reverse).flatMap fun b =>
      let ds := Nat.toDigits 16 b.toNat
      List.replicate (2 - ds.length) '0' ++ ds

/-! ### Rounds -/

/-- The constants of the rounds: the parts behind the point of sines. -/
def sines : List UInt32 :=
  [0xd76aa478, 0xe8c7b756, 0x242070db, 0xc1bdceee, 0xf57c0faf, 0x4787c62a, 0xa8304613, 0xfd469501,
    0x698098d8, 0x8b44f7af, 0xffff5bb1, 0x895cd7be, 0x6b901122, 0xfd987193, 0xa679438e, 0x49b40821,
    0xf61e2562, 0xc040b340, 0x265e5a51, 0xe9b6c7aa, 0xd62f105d, 0x02441453, 0xd8a1e681, 0xe7d3fbc8,
    0x21e1cde6, 0xc33707d6, 0xf4d50d87, 0x455a14ed, 0xa9e3e905, 0xfcefa3f8, 0x676f02d9, 0x8d2a4c8a,
    0xfffa3942, 0x8771f681, 0x6d9d6122, 0xfde5380c, 0xa4beea44, 0x4bdecfa9, 0xf6bb4b60, 0xbebfbc70,
    0x289b7ec6, 0xeaa127fa, 0xd4ef3085, 0x04881d05, 0xd9d4d039, 0xe6db99e5, 0x1fa27cf8, 0xc4ac5665,
    0xf4292244, 0x432aff97, 0xab9423a7, 0xfc93a039, 0x655b59c3, 0x8f0ccc92, 0xffeff47d, 0x85845dd1,
    0x6fa87e4f, 0xfe2ce6e0, 0xa3014314, 0x4e0811a1, 0xf7537e82, 0xbd3af235, 0x2ad7d2bb, 0xeb86d391]

/-- The state of four words. -/
structure Four where
  /-- The first word. -/
  a : UInt32
  /-- The second word. -/
  b : UInt32
  /-- The third word. -/
  c : UInt32
  /-- The fourth word. -/
  d : UInt32

/-- A round on four words. -/
def fourRound (block : List UInt32) (s : Four) (i : Nat) (k : UInt32) : Four :=
  let word (n : Nat) : UInt32 := (block[n % 16]?).getD 0
  let shift (row : List UInt32) : UInt32 := (row[i % 4]?).getD 0
  let (f, w, n) := match i / 16 with
    | 0 => ((s.b &&& s.c) ||| (~~~ s.b &&& s.d), word i, shift [7, 12, 17, 22])
    | 1 => ((s.d &&& s.b) ||| (~~~ s.d &&& s.c), word (5 * i + 1), shift [5, 9, 14, 20])
    | 2 => (s.b ^^^ s.c ^^^ s.d, word (3 * i + 5), shift [4, 11, 16, 23])
    | _ => (s.c ^^^ (s.b ||| ~~~ s.d), word (7 * i), shift [6, 10, 15, 21])
  { a := s.d, b := s.b + rotated (s.a + f + k + w) n, c := s.b, d := s.c }

/-- The digest of 128 bits. -/
def md5 (text : List UInt8) : List Char :=
  let last := (blocks true text).foldl (fun s block =>
    let t := (sines.zipIdx).foldl (fun t (k, i) => fourRound block t i k) s
    { a := s.a + t.a, b := s.b + t.b, c := s.c + t.c, d := s.d + t.d })
    ({ a := 0x67452301, b := 0xefcdab89, c := 0x98badcfe, d := 0x10325476 } : Four)
  digitsOf true [last.a, last.b, last.c, last.d]

/-- The words of a block, followed by words that are made from them: `next` gets those so far, the
last one in front. -/
def extended (count : Nat) (next : List UInt32 → UInt32) (block : List UInt32) : List UInt32 :=
  ((List.range count).foldl (fun words _ => next words :: words) block.reverse).reverse

/-- The digest of 160 bits. -/
def sha1 (text : List UInt8) : List Char :=
  let next (words : List UInt32) : UInt32 :=
    let back (n : Nat) : UInt32 := (words[n - 1]?).getD 0
    rotated (back 3 ^^^ back 8 ^^^ back 14 ^^^ back 16) 1
  let step (s : Four × UInt32) (w : UInt32 × Nat) : Four × UInt32 :=
    let (t, e) := s
    let (f, k) : UInt32 × UInt32 := match w.2 / 20 with
      | 0 => ((t.b &&& t.c) ||| (~~~ t.b &&& t.d), 0x5a827999)
      | 1 => (t.b ^^^ t.c ^^^ t.d, 0x6ed9eba1)
      | 2 => ((t.b &&& t.c) ||| (t.b &&& t.d) ||| (t.c &&& t.d), 0x8f1bbcdc)
      | _ => (t.b ^^^ t.c ^^^ t.d, 0xca62c1d6)
    ({ a := rotated t.a 5 + f + e + k + w.1, b := t.a, c := rotated t.b 30, d := t.c }, t.d)
  let first : Four × UInt32 :=
    ({ a := 0x67452301, b := 0xefcdab89, c := 0x98badcfe, d := 0x10325476 }, 0xc3d2e1f0)
  let (last, e) := (blocks false text).foldl (fun (s, e) block =>
    let (t, e') := ((extended 64 next block).zipIdx).foldl step (s, e)
    ({ a := s.a + t.a, b := s.b + t.b, c := s.c + t.c, d := s.d + t.d }, e + e')) first
  digitsOf false [last.a, last.b, last.c, last.d, e]

/-- The constants of the rounds: the parts behind the point of cubic roots of prime numbers. -/
def cubicRoots : List UInt32 :=
  [0x428a2f98, 0x71374491, 0xb5c0fbcf, 0xe9b5dba5, 0x3956c25b, 0x59f111f1, 0x923f82a4, 0xab1c5ed5,
    0xd807aa98, 0x12835b01, 0x243185be, 0x550c7dc3, 0x72be5d74, 0x80deb1fe, 0x9bdc06a7, 0xc19bf174,
    0xe49b69c1, 0xefbe4786, 0x0fc19dc6, 0x240ca1cc, 0x2de92c6f, 0x4a7484aa, 0x5cb0a9dc, 0x76f988da,
    0x983e5152, 0xa831c66d, 0xb00327c8, 0xbf597fc7, 0xc6e00bf3, 0xd5a79147, 0x06ca6351, 0x14292967,
    0x27b70a85, 0x2e1b2138, 0x4d2c6dfc, 0x53380d13, 0x650a7354, 0x766a0abb, 0x81c2c92e, 0x92722c85,
    0xa2bfe8a1, 0xa81a664b, 0xc24b8b70, 0xc76c51a3, 0xd192e819, 0xd6990624, 0xf40e3585, 0x106aa070,
    0x19a4c116, 0x1e376c08, 0x2748774c, 0x34b0bcb5, 0x391c0cb3, 0x4ed8aa4a, 0x5b9cca4f, 0x682e6ff3,
    0x748f82ee, 0x78a5636f, 0x84c87814, 0x8cc70208, 0x90befffa, 0xa4506ceb, 0xbef9a3f7, 0xc67178f2]

/-- The digest of 256 bits. -/
def sha256 (text : List UInt8) : List Char :=
  let turned (w n : UInt32) : UInt32 := rotated w (32 - n)
  let next (words : List UInt32) : UInt32 :=
    let back (n : Nat) : UInt32 := (words[n - 1]?).getD 0
    let x := back 15
    let y := back 2
    back 16 + (turned x 7 ^^^ turned x 18 ^^^ (x >>> 3)) + back 7 +
      (turned y 17 ^^^ turned y 19 ^^^ (y >>> 10))
  let step (s : Four × Four) (wk : UInt32 × UInt32) : Four × Four :=
    let (p, q) := s
    let t := q.d + (turned q.a 6 ^^^ turned q.a 11 ^^^ turned q.a 25) +
      ((q.a &&& q.b) ^^^ (~~~ q.a &&& q.c)) + wk.2 + wk.1
    let u := (turned p.a 2 ^^^ turned p.a 13 ^^^ turned p.a 22) +
      ((p.a &&& p.b) ^^^ (p.a &&& p.c) ^^^ (p.b &&& p.c))
    ({ a := t + u, b := p.a, c := p.b, d := p.c }, { a := p.d + t, b := q.a, c := q.b, d := q.c })
  let sum (s t : Four) : Four := { a := s.a + t.a, b := s.b + t.b, c := s.c + t.c, d := s.d + t.d }
  let first : Four × Four :=
    ({ a := 0x6a09e667, b := 0xbb67ae85, c := 0x3c6ef372, d := 0xa54ff53a },
      { a := 0x510e527f, b := 0x9b05688c, c := 0x1f83d9ab, d := 0x5be0cd19 })
  let (p, q) := (blocks false text).foldl (fun (p, q) block =>
    let (p', q') := ((extended 48 next block).zip cubicRoots).foldl step (p, q)
    (sum p p', sum q q')) first
  digitsOf false [p.a, p.b, p.c, p.d, q.a, q.b, q.c, q.d]

/-- What a line with a digest tells: the digest and the path. -/
def checked? (line : List Char) : Option (List Char × List Char) :=
  let digest := line.takeWhile (· != ' ')
  match line.drop digest.length with
  | ' ' :: ' ' :: path | ' ' :: '*' :: path => if path.isEmpty then none else some (digest, path)
  | _ => none

end Digest

open Digest in
/-- The tool that prints the digests of files, or checks them against a list. -/
def digestTool (name : String) (digest : List UInt8 → List Char) : Tool :=
  let forms := OptionForms.of "bctwz" [("binary", 'b'), ("check", 'c'), ("text", 't'),
    ("warn", 'w'), ("zero", 'z')]
  let forms := { forms with words := forms.words ++
    [("quiet", 'q', OptionValue.none), ("status", 's', .none), ("tag", 'T', .none)] }
  withOptions name forms 1 fun g input disk =>
    let paths := if g.operands.isEmpty then [['-']] else g.operands
    let left := if paths.contains ['-'] then some [] else none
    let results := paths.map fun path => (path, readFile input disk path)
    let err := results.flatMap fun (path, r) => match r with
      | .error f => complaint name (quotedIfNeeded path) f
      | .ok _ => []
    if g.has 'c' then
      let lines := results.flatMap fun (_, r) => match r with
        | .ok text => (Shell.linesOf text).filterMap fun l => checked? (withoutLineEnd l)
        | .error _ => []
      let verdicts := lines.map fun (expected, path) =>
        match readFile input disk path with
        | .ok text => (path, some (decide (digest (toBytes text) = expected)), [])
        | .error f => (path, none, complaint name (quotedIfNeeded path) f)
      let out := verdicts.flatMap fun (path, verdict, _) =>
        match verdict with
        | some true => if g.has 'q' || g.has 's' then [] else path ++ chars ": OK\n"
        | some false => if g.has 's' then [] else path ++ chars ": FAILED\n"
        | none => if g.has 's' then [] else path ++ chars ": FAILED open or read\n"
      let bad := (verdicts.filter fun v => v.2.1 = some false).length
      let unread := (verdicts.filter fun v => v.2.1 = none).length
      let files := if unread = 1 then "file" else "files"
      let sums := if bad = 1 then "checksum" else "checksums"
      let warnings := if g.has 's' then [] else
        (if unread = 0 then [] else
          chars s!"{name}: WARNING: {unread} listed {files} could not be read\n") ++
        (if bad = 0 then [] else chars s!"{name}: WARNING: {bad} computed {sums} did NOT match\n")
      { disk, out, left, err := err ++ verdicts.flatMap (·.2.2) ++ warnings
        status := if bad + unread = 0 && err.isEmpty then 0 else 1 }
    else
      let out := results.flatMap fun (path, r) => match r with
        | .ok text =>
          let d := digest (toBytes text)
          if g.has 'T' then
            ((chars name).dropLast.dropLast.dropLast.map Char.toUpper) ++ chars " (" ++ path ++
              chars ") = " ++ d ++ ['\n']
          else d ++ [' ', if g.has 'b' then '*' else ' '] ++ path ++ ['\n']
        | .error _ => []
      { disk, out, err, left, status := statusOf err }

end ScriptSuite.Shell
