import ScriptSuite.Shell.Awk.Value
import Std.Data.HashMap

/-!
# Arrays of programs that work on records

An array gives values to keys, which are texts. A loop over it takes the keys in the order of
chains: the chain of a key comes from its hash value, and the key that was used last stands first in
its chain.

Keys that were used as integers have chains of their own, which are used as long as no key was used
as a text and no loop has run over the array. At that point the keys of these chains are put in
front of the chains of texts, one after the other.

## Main definitions

* `Awk.Key`: a key, as an integer or a text.
* `Awk.Table`: an array.
* `Awk.Table.find`: uses a key, and adds it if it is to be there.
* `Awk.Table.keys`: the keys in the order of loops.
-/

namespace ScriptSuite.Shell.Awk

/-- A key. -/
inductive Key where
  /-- An integer. -/
  | number (n : Int)
  /-- A text. -/
  | text (s : List Char)

/-- The text of a key. -/
def Key.toText : Key → List Char
  | number n => digits n
  | text s => s

/-- The largest integer that has a chain as an integer. -/
def largestKey : Nat := 9223372036854775807

/-- The key of a value; `format` is that of numbers. -/
def Value.key (format : List Char) (v : Value) : Key :=
  match v with
  | .number x =>
    let n := wholePart x
    if x == x.floor && n.natAbs ≤ largestKey then .number n else .text (v.toText format)
  | v => .text (v.toText format)

/-- Chains of keys. -/
abbrev Chains (α : Type) := Array (List α)

namespace Chains

/-- The chain of an index. -/
def chain {α : Type} (chains : Chains α) (i : Nat) : List α := (chains[i]?).getD []

/-- Puts a key in front of a chain. -/
def push {α : Type} (c : Chains α) (i : Nat) (a : α) : Chains α := c.set! i (a :: c.chain i)

/-- Removes a key from a chain. -/
def remove {α : Type} [BEq α] (c : Chains α) (i : Nat) (a : α) : Chains α :=
  c.set! i ((c.chain i).filter (· != a))

/-- Puts a key of a chain in front of it, if it is there. -/
def use? {α : Type} [BEq α] (c : Chains α) (i : Nat) (a : α) : Option (Chains α) :=
  if (c.chain i).contains a then some ((c.remove i a).push i a) else none

/-- Twice as many chains; the keys keep their order. -/
def double {α : Type} (index : Nat → α → Nat) (c : Chains α) : Chains α :=
  let count := 2 * c.size
  (Array.range count).map fun i => (c.chain (i % c.size)).filter fun a => index count a = i

end Chains

/-- The hash value of a text: 32 bits. -/
def hashOf (s : List Char) : UInt32 :=
  s.foldl (fun h c => (h ^^^ c.toNat.toUInt32) * 16777619) 2166136261

/-- The chain of a text. -/
def textChain (count : Nat) (s : List Char) : Nat := (hashOf s).toNat % count

/-- The chain of an integer. -/
def numberChain (count : Nat) (n : Int) : Nat := (Int.emod n count).toNat

/-- The number of chains of a new array. -/
def firstChains : Nat := 64

/-- The number of keys for each chain beyond which there are twice as many chains. -/
def chainLength : Nat := 12

/-- An array. -/
structure Table where
  /-- The values of the keys. -/
  values : Std.HashMap String Value := {}
  /-- The chains of the keys that were used as integers. -/
  numbers : Chains Int := Array.replicate firstChains []
  /-- The chains of all keys, unless all keys were used as integers only. -/
  texts : Option (Chains (List Char)) := none

instance : Inhabited Table := ⟨{}⟩

namespace Table

/-- The number of keys. -/
def size (t : Table) : Nat := t.values.size

/-- The array with chains of all keys. -/
def withTexts (t : Table) : Table × Chains (List Char) :=
  match t.texts with
  | some c => (t, c)
  | none =>
    let count := t.numbers.size
    let keys := t.numbers.toList.flatten.map digits
    let c := keys.foldl (fun (c : Chains (List Char)) s => c.push (textChain count s) s)
      (Array.replicate count [])
    ({ t with texts := some c }, c)

/-- The array with more chains, if one more key would be too many for those that it has. -/
def grown (t : Table) : Table :=
  if t.size < chainLength * t.numbers.size then t
  else { t with
    numbers := t.numbers.double numberChain
    texts := t.texts.map (·.double textChain) }

/-- Uses a text as a key. The key is added if it is to be there. -/
def findText (adding : Bool) (s : List Char) (t : Table) : Table :=
  let (t, c) := t.withTexts
  match c.use? (textChain c.size s) s with
  | some c => { t with texts := some c }
  | none =>
    if adding then
      let t := t.grown
      { t with
        values := t.values.insert (String.ofList s) .missing
        texts := t.texts.map fun c => c.push (textChain c.size s) s }
    else t

/-- Uses an integer as a key. The key is added if it is to be there. -/
def findNumber (adding : Bool) (n : Int) (t : Table) : Table :=
  match t.numbers.use? (numberChain t.numbers.size n) n with
  | some numbers => { t with numbers }
  | none =>
    let known (t : Table) : Table :=
      { t with numbers := t.numbers.push (numberChain t.numbers.size n) n }
    if t.texts.isSome then
      let t := t.findText adding (digits n)
      if t.values.contains (String.ofList (digits n)) then known t else t
    else if adding then
      let t := t.grown
      known { t with values := t.values.insert (String.ofList (digits n)) .missing }
    else t

/-- Uses a key. The key is added if it is to be there. -/
def find (adding : Bool) (k : Key) (t : Table) : Table :=
  match k with
  | .number n => t.findNumber adding n
  | .text s => t.findText adding s

/-- The value of a key. -/
def value (t : Table) (k : Key) : Value := t.values.getD (String.ofList k.toText) .missing

/-- Gives a key a value. -/
def put (k : Key) (v : Value) (t : Table) : Table :=
  let t := t.find true k
  { t with values := t.values.insert (String.ofList k.toText) v }

/-- Whether there is a key. -/
def contains (t : Table) (k : Key) : Bool := t.values.contains (String.ofList k.toText)

/-- Removes a key. -/
def erase (k : Key) (t : Table) : Table :=
  if t.size = 0 then t
  else
    let t := t.find false k
    let s := k.toText
    let values := t.values.erase (String.ofList s)
    if values.isEmpty then {}
    else { t with
      values
      numbers := match (integer? s).filter fun n => digits n = s with
        | some n => t.numbers.remove (numberChain t.numbers.size n) n
        | none => t.numbers
      texts := t.texts.map fun c => c.remove (textChain c.size s) s }

/-- The keys in the order of loops, and the array after it was looked at. -/
def keys (t : Table) : List (List Char) × Table :=
  let (t, c) := t.withTexts
  (c.toList.flatten, t)

/-- The array that has values for the integers from one on. -/
def ofList (values : List Value) : Table :=
  (values.zipIdx 1).foldl (fun t (v, i) => t.put (.number i) v) {}

end Table

end ScriptSuite.Shell.Awk
