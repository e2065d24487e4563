/-!
# UTF-8

Bytes that programs print need not be UTF-8. They are read leniently: wherever no character can be
read, the longest run of bytes that begins some character is taken and stands for one replacement
character, or a single byte if there is no such run. Files with other bytes cannot be read at all.

## Main definitions

* `Utf8.encode`: the bytes of a text.
* `Utf8.decode?`: the text of bytes, if they are UTF-8.
* `Utf8.decodeLenient`: the text of any bytes.
-/

namespace ScriptSuite.Utf8

/-- The bytes of a text. -/
def encode (s : List Char) : List UInt8 :=
  s.flatMap String.utf8EncodeChar

/-- The payload of a byte that continues a character and lies between the bounds. -/
def continuation? (low high : Nat) (b : UInt8) : Option Nat :=
  if low ≤ b.toNat ∧ b.toNat ≤ high then some (b.toNat % 64) else none

/-- The number of bytes that follow the first byte of a character, the payload of the first byte
and the bounds for the second; `none` for a byte that begins no character of several bytes. -/
def leadByte? (b : UInt8) : Option (Nat × Nat × Nat × Nat) :=
  let n := b.toNat
  if 0xC2 ≤ n ∧ n ≤ 0xDF then some (1, n % 32, 0x80, 0xBF)
  else if n = 0xE0 then some (2, 0, 0xA0, 0xBF)
  else if n = 0xED then some (2, 13, 0x80, 0x9F)
  else if 0xE1 ≤ n ∧ n ≤ 0xEF then some (2, n % 16, 0x80, 0xBF)
  else if n = 0xF0 then some (3, 0, 0x90, 0xBF)
  else if n = 0xF4 then some (3, 4, 0x80, 0x8F)
  else if 0xF1 ≤ n ∧ n ≤ 0xF3 then some (3, n % 8, 0x80, 0xBF)
  else none

/-- Reads `count` bytes that continue a character whose payload so far is `acc`; the bounds are
those of the next byte. Where a byte does not fit, reading stops in front of it. -/
def continueChar (acc low high : Nat) : Nat → List UInt8 → Option Char × List UInt8
  | 0, bs => (some (Char.ofNat acc), bs)
  | _ + 1, [] => (none, [])
  | count + 1, b :: bs =>
    match continuation? low high b with
    | some n => continueChar (64 * acc + n) 0x80 0xBF count bs
    | none => (none, b :: bs)

/-- Reads the character in front of bytes: the character, if there is one, and the bytes behind
what was read. -/
def readChar (b : UInt8) (bs : List UInt8) : Option Char × List UInt8 :=
  if b.toNat < 0x80 then (some (Char.ofNat b.toNat), bs)
  else
    match leadByte? b with
    | some (count, payload, low, high) => continueChar payload low high count bs
    | none => (none, bs)

theorem length_continueChar_le {acc low high count : Nat} {bs : List UInt8} :
    (continueChar acc low high count bs).2.length ≤ bs.length := by
  fun_induction continueChar acc low high count bs with
  | case1 => exact Nat.le_refl _
  | case2 => exact Nat.le_refl _
  | case3 _ _ _ _ _ _ _ _ ih => exact Nat.le_succ_of_le ih
  | case4 => exact Nat.le_refl _

theorem length_readChar_le {b : UInt8} {bs : List UInt8} :
    (readChar b bs).2.length ≤ bs.length := by
  unfold readChar
  split
  · exact Nat.le_refl _
  · split
    · exact length_continueChar_le
    · exact Nat.le_refl _

/-- The characters of bytes, with `none` for each run of bytes that is no character. -/
def readAll : List UInt8 → List (Option Char)
  | [] => []
  | b :: bs => (readChar b bs).1 :: readAll (readChar b bs).2
termination_by bs => bs.length
decreasing_by exact Nat.lt_succ_of_le length_readChar_le

/-- The text of bytes, if they are UTF-8. -/
def decode? (bs : List UInt8) : Option (List Char) :=
  (readAll bs).mapM id

/-- The text of any bytes. -/
def decodeLenient (bs : List UInt8) : List Char :=
  (readAll bs).map (·.getD '\uFFFD')

end ScriptSuite.Utf8
