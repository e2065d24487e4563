/-!
# JSON documents

A document is kept *as written*: a number is its digits, a string is what stands between its
quotes. Which spellings are acceptable depends on who reads them (a line number must be an integer
literal, the text of an ignored member need not even denote a text), so reading a value out of a
spelling is a separate step.

## Main definitions

* `Json`: the documents.
* `Json.escape`, `Json.unescape?`: the spelling of a text and its meaning.
* `Json.ofString`, `Json.ofNat`, `Json.record`: documents for values.
-/

namespace ScriptSuite

/-- A JSON document with its numbers and strings as they are spelled. -/
inductive Json where
  /-- The literal `null`. -/
  | null
  /-- A truth value. -/
  | bool (b : Bool)
  /-- A number, by its literal. -/
  | num (literal : List Char)
  /-- A string, by what stands between the quotes. -/
  | str (spelling : List Char)
  /-- An array. -/
  | arr (items : List Json)
  /-- An object; member names are spelled like strings. -/
  | obj (members : List (List Char × Json))

namespace Json

instance : Inhabited Json := ⟨null⟩

/-! ### Spelling of texts -/

/-- The lower-case hexadecimal digit of value `n`. -/
def hexDigit (n : Nat) : Char :=
  if n < 10 then Char.ofNat (n + 48) else Char.ofNat (n + 87)

/-- The value of a hexadecimal digit of either case. -/
def hexValue? (c : Char) : Option Nat :=
  if '0' ≤ c ∧ c ≤ '9' then some (c.toNat - 48)
  else if 'a' ≤ c ∧ c ≤ 'f' then some (c.toNat - 87)
  else if 'A' ≤ c ∧ c ≤ 'F' then some (c.toNat - 55)
  else none

/-- The value of four hexadecimal digits. -/
def hexValue4? (a b c d : Char) : Option Nat := do
  return 4096 * (← hexValue? a) + 256 * (← hexValue? b) + 16 * (← hexValue? c) + (← hexValue? d)

/-- The spelling of one character: quotes, backslashes and control characters are escaped. -/
def escapeChar (c : Char) : List Char :=
  if c = '"' then ['\\', '"']
  else if c = '\\' then ['\\', '\\']
  else if c = '\n' then ['\\', 'n']
  else if c = '\r' then ['\\', 'r']
  else if c = '\t' then ['\\', 't']
  else if c = '\x08' then ['\\', 'b']
  else if c = '\x0c' then ['\\', 'f']
  else if c.toNat < 0x20 then
    ['\\', 'u', '0', '0', hexDigit (c.toNat / 16), hexDigit (c.toNat % 16)]
  else [c]

/-- The spelling of a text. -/
def escape (s : List Char) : List Char :=
  s.flatMap escapeChar

/-- The character that a one-letter escape stands for. -/
def escapedChar? (e : Char) : Option Char :=
  if e = '"' ∨ e = '\\' ∨ e = '/' then some e
  else if e = 'n' then some '\n'
  else if e = 'r' then some '\r'
  else if e = 't' then some '\t'
  else if e = 'b' then some '\x08'
  else if e = 'f' then some '\x0c'
  else none

/-- The character of a code point that is no surrogate. -/
def scalar? (n : Nat) : Option Char :=
  if h : n.isValidChar then some (Char.ofNatAux n h) else none

/-- The text that a spelling denotes. A numeric escape of a leading surrogate must be followed by
one of a trailing surrogate, and no surrogate stands alone. -/
def unescape? : List Char → Option (List Char)
  | [] => some []
  | '\\' :: 'u' :: a :: b :: c :: d :: '\\' :: 'u' :: a' :: b' :: c' :: d' :: s => do
    let n ← hexValue4? a b c d
    if 0xD800 ≤ n ∧ n < 0xDC00 then
      let m ← hexValue4? a' b' c' d'
      if 0xDC00 ≤ m ∧ m < 0xE000 then
        return (← scalar? (0x10000 + 0x400 * (n - 0xD800) + (m - 0xDC00))) :: (← unescape? s)
      else none
    else
      return (← scalar? n) :: (← unescape? ('\\' :: 'u' :: a' :: b' :: c' :: d' :: s))
  | '\\' :: 'u' :: a :: b :: c :: d :: s => do
    return (← (hexValue4? a b c d).bind scalar?) :: (← unescape? s)
  | '\\' :: e :: s => do
    return (← escapedChar? e) :: (← unescape? s)
  | c :: s =>
    if c = '\\' then none else (unescape? s).map (c :: ·)

/-! ### Documents for values -/

/-- The document of a text. -/
def ofString (s : String) : Json :=
  .str (escape s.toList)

/-- The document of a natural number. -/
def ofNat (n : Nat) : Json :=
  .num (Nat.toDigits 10 n)

/-- An object with the given members, in this order. -/
def record (members : List (String × Json)) : Json :=
  .obj (members.map fun (name, v) => (escape name.toList, v))

/-- A member that is left out when there is no value for it. -/
def field? (name : String) (v : Option Json) : List (String × Json) :=
  (v.map fun v => (name, v)).toList

end Json

end ScriptSuite
