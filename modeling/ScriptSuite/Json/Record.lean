import ScriptSuite.Decimal.Reading
import ScriptSuite.Json.Basic
import ScriptSuite.Text.Word

/-!
# Reading values out of documents

A *record* of named fields is written as an object or as an array of the field values in order.
Members with other names are passed over, a field that occurs twice is an error, and so is a member
name that denotes no text. A field that is absent from an object may stand for "no value"; an array
may only be cut short where the fields left out have defaults.

## Main definitions

* `Json.text?`, `Json.nat?`, `Json.float?`, `Json.listOf?`, `Json.optional?`: plain values.
* `Json.fields?`: the fields of a record.
* `Json.variant?`: a tagged value.
-/

namespace ScriptSuite.Json

open Text

/-- The text of a string. -/
def text? : Json → Option String
  | .str spelling => (unescape? spelling).map String.ofList
  | _ => none

/-- The value of an integer literal without sign, if it is below the bound. -/
def nat? (bound : Nat) : Json → Option Nat
  | .num literal => decimalBelow? bound literal
  | _ => none

/-- A truth value. -/
def bool? : Json → Option Bool
  | .bool b => some b
  | _ => none

/-- A 32-bit word. -/
def word32? (j : Json) : Option UInt32 :=
  (j.nat? UInt32.size).map UInt32.ofNat

/-- A 64-bit word. -/
def word64? (j : Json) : Option UInt64 :=
  (j.nat? UInt64.size).map UInt64.ofNat

/-- The float of a number, unless it is too large. -/
def float? : Json → Option Float
  | .num ('-' :: literal) => (Decimal.read? literal).map fun x => -x
  | .num literal => Decimal.read? literal
  | _ => none

/-- An array of values of one kind. -/
def listOf? {α : Type} (read : Json → Option α) : Json → Option (List α)
  | .arr items => items.mapM read
  | _ => none

/-- A value, or `null` for none. -/
def optional? {α : Type} (read : Json → Option α) : Json → Option (Option α)
  | .null => some none
  | j => (read j).map some

/-- The members of an object, with their names as texts. -/
def members? : Json → Option (List (String × Json))
  | .obj members => members.mapM fun (name, v) =>
      (unescape? name).map fun name => (String.ofList name, v)
  | _ => none

/-! ### Records -/

/-- The fields of a record that a document holds. -/
structure Fields where
  /-- The fields that are present. -/
  present : List (String × Json)
  /-- Whether the record was written as an array. -/
  positional : Bool

/-- Whether a name occurs twice. -/
def hasRepeats : List String → Bool
  | [] => false
  | a :: l => l.contains a || hasRepeats l

/-- The fields, among those named, that a document holds. -/
def fields? (names : List String) : Json → Option Fields
  | .arr items =>
    if items.length ≤ names.length then some { present := names.zip items, positional := true }
    else none
  | j => do
    let known := (← j.members?).filter fun (name, _) => names.contains name
    if hasRepeats (known.map (·.1)) then none
    else return { present := known, positional := false }

namespace Fields

variable {α : Type} (fs : Fields) (name : String) (read : Json → Option α)

/-- The document of a field, if it is present. -/
def get? : Option Json :=
  (fs.present.find? fun f => f.1 = name).map (·.2)

/-- A field that must be present. -/
def required? : Option α :=
  (fs.get? name).bind read

/-- A field that may be absent or `null` in an object. -/
def optional? : Option (Option α) :=
  match fs.get? name with
  | some j => Json.optional? read j
  | none => if fs.positional then none else some none

/-- A field with a default, which stands for an absent one only. -/
def defaulted? (default : α) : Option α :=
  match fs.get? name with
  | some j => read j
  | none => some default

/-- A field that may be absent or `null`. -/
def defaultedOptional? : Option (Option α) :=
  fs.defaulted? name (Json.optional? read) none

end Fields

/-! ### Tagged values -/

/-- The tag of a tagged value and what it carries: a string carries nothing, and an object of one
member carries the value of that member. -/
def variant? (j : Json) : Option (String × Option Json) :=
  match j with
  | .str _ => j.text?.map fun tag => (tag, none)
  | .obj [_] => do
    let members ← j.members?
    match members with
    | [(tag, v)] => return (tag, some v)
    | _ => none
  | _ => none

/-- The tag of a tagged value that carries nothing. -/
def tag? (j : Json) : Option String :=
  match j.variant? with
  | some (tag, none) => some tag
  | some (tag, some .null) => some tag
  | _ => none

end ScriptSuite.Json
