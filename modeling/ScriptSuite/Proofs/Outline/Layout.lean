import ScriptSuite.Outline.Basic
import ScriptSuite.Proofs.Outline.Brace
import ScriptSuite.Proofs.Outline.Header
import ScriptSuite.Proofs.Text.Lines

/-!
# Laid-out test files

A printer of test files. What is printed is a forest of classes together with its layout: the
blanks inside the lines, the blank lines between the items, and the place of every brace. Each
part carries the proof that it is what it is called, so that nothing else can be printed.

The forest that a file means is defined here as well, by counting the printed lines and without
any reading.

## Main definitions

* `Layout.Method`, `Layout.Class`: a declaration and its lines
* `Layout.Members`: the members of a class, or the classes of a file, in any order
* `Layout.File`: a test file, with its text `Layout.File.source`
* `Layout.Members.tests`, `Layout.Members.classes`: the forest that is meant
-/

namespace ScriptSuite.Layout

open Text

/-! ### Parts of a line -/

/-- A text without line breaks. -/
def Unbroken (s : List Char) : Prop := '\n' ∉ s ∧ '\r' ∉ s

instance (s : List Char) : Decidable (Unbroken s) := inferInstanceAs (Decidable (_ ∧ _))

/-- Blanks within a line; there may be none. -/
structure Blanks where
  /-- The blanks. -/
  text : List Char
  blank : isAllBlank text = true := by decide
  unbroken : Unbroken text := by decide

/-- Spaces. -/
def Blanks.spaces (n : Nat) : Blanks where
  text := List.replicate n ' '
  blank := List.all_eq_true.2 fun _ h => List.eq_of_mem_replicate h ▸ rfl
  unbroken := ⟨by simp, by simp⟩

/-- One or more blanks within a line. -/
structure Gap extends Blanks where
  nonempty : text ≠ [] := by decide

/-- One space. -/
def Gap.space : Gap where
  text := [' ']

/-- The name of a class or of a method. -/
structure Name where
  /-- The characters of the name. -/
  text : List Char
  isName : IsName text := by decide

/-- A line with any text, or the end of one. -/
structure Line where
  /-- The text. -/
  text : List Char
  unbroken : Unbroken text := by decide

/-- The line that closes a block: a closing brace alone. -/
structure Closing where
  /-- The blanks in front of the brace. -/
  indent : Blanks
  /-- The blanks behind the brace. -/
  trail : Blanks

/-- The text of the line. -/
def Closing.text (c : Closing) : List Char :=
  c.indent.text ++ '}' :: c.trail.text

/-- Where the opening brace of a block stands. -/
inductive Bracing where
  /-- At the end of the header's line, behind a gap. -/
  | sameLine (gap : Blanks)
  /-- Alone on the next line that is not blank; the header's line ends with a gap. -/
  | ownLine (gap : Blanks) (between : List Blanks) (indent trail : Blanks)

namespace Bracing

/-- Whether the brace stands on the header's line. -/
def opens : Bracing → Bool
  | sameLine _ => true
  | ownLine .. => false

/-- The blanks at the end of the header's line. -/
def gap : Bracing → Blanks
  | sameLine gap => gap
  | ownLine gap .. => gap

/-- The end of the header's line. -/
def onHeader (b : Bracing) : List Char := b.gap.text ++ ClassHeader.brace b.opens

/-- The lines behind the header's up to the one with the brace. -/
def below : Bracing → List (List Char)
  | sameLine _ => []
  | ownLine _ between indent trail =>
    between.map Blanks.text ++ [indent.text ++ '{' :: trail.text]

end Bracing

/-! ### Methods -/

/-- The form of a method. -/
inductive Form where
  /-- A block around lines whose braces match. -/
  | block (bracing : Bracing) (body : List Line)
      (balanced : IsBalanced (body.map Line.text).flatten) (closing : Closing)
  /-- An arrow, with a text behind it whose braces match and that is no directive. -/
  | arrow (gap : Blanks) (value : Line) (balanced : IsBalanced value.text)
      (unmarked : isIgnoreDirective value.text = false)
  /-- The declaration alone. -/
  | bare (trail : Blanks)

namespace Form

/-- What stands behind the parameter list. -/
def onHeader : Form → List Char
  | block bracing .. => bracing.onHeader
  | arrow gap value .. => gap.text ++ '=' :: '>' :: value.text
  | bare trail => trail.text

/-- The lines behind the header's. -/
def below : Form → List (List Char)
  | block bracing body _ closing => bracing.below ++ (body.map Line.text ++ [closing.text])
  | arrow .. => []
  | bare _ => []

end Form

/-- A method without parameters, with the blank lines in front of it. -/
structure Method where
  before : List Blanks
  indent : Blanks
  name : Name
  /-- The blanks in front of the parameter list. -/
  gap : Blanks
  /-- The blanks between the parentheses. -/
  inside : Blanks
  form : Form

namespace Method

/-- The line of the header up to the end of the parameter list. -/
def front (m : Method) : List Char :=
  m.indent.text ++ (m.name.text ++ (m.gap.text ++ '(' :: (m.inside.text ++ [')'])))

/-- The line of the header. -/
def header (m : Method) : List Char := m.front ++ m.form.onHeader

/-- The lines of the method. -/
def lines (m : Method) : List (List Char) :=
  m.before.map Blanks.text ++ m.header :: m.form.below

/-- A method with an underscore at the start of its name is no test. -/
def isPrivate (m : Method) : Prop := m.name.text.head? = some '_'

instance (m : Method) : Decidable m.isPrivate := inferInstanceAs (Decidable (_ = _))

end Method

/-! ### Classes -/

/-- The base of a class, with the blanks in front of it. -/
structure Base where
  gap : Gap
  /-- The blanks between `extends` and the name. -/
  inside : Gap
  name : Name

/-- The text that names the base, if there is one. -/
def Base.text : Option Base → List Char
  | none => []
  | some b => b.gap.text ++ ("extends".toList ++ (b.inside.text ++ b.name.text))

/-- A class without its members, with the blank lines in front of it and those in front of its
closing brace. -/
structure Class where
  before : List Blanks
  indent : Blanks
  /-- The blanks in front of the name. -/
  gap : Gap
  name : Name
  base : Option Base
  bracing : Bracing
  after : List Blanks
  closing : Closing

namespace Class

/-- The line of the header up to the name of the base. -/
def front (c : Class) : List Char :=
  c.indent.text ++ ("class".toList ++ (c.gap.text ++ (c.name.text ++ Base.text c.base)))

/-- The line of the header. -/
def header (c : Class) : List Char := c.front ++ c.bracing.onHeader

/-- The lines up to the one with the opening brace. -/
def above (c : Class) : List (List Char) :=
  c.before.map Blanks.text ++ c.header :: c.bracing.below

/-- The lines behind the members. -/
def below (c : Class) : List (List Char) :=
  c.after.map Blanks.text ++ [c.closing.text]

end Class

/-! ### Members and files -/

/-- The members of a class, one after the other. -/
inductive Members where
  /-- No member. -/
  | nil
  /-- A method and the members behind it. -/
  | method (m : Method) (rest : Members)
  /-- A class with its own members, and the members behind it. -/
  | cls (c : Class) (inner rest : Members)

namespace Members

/-- The printed lines. -/
def lines : Members → List (List Char)
  | nil => []
  | method m rest => m.lines ++ rest.lines
  | cls c inner rest => c.above ++ (inner.lines ++ (c.below ++ rest.lines))

/-- Whether all members are classes. -/
def isForest : Members → Bool
  | nil => true
  | method .. => false
  | cls _ _ rest => rest.isForest

/-- The test methods among members that are printed from a line on. A private method is none. -/
def tests : Members → Nat → List TestMethod
  | nil, _ => []
  | method m rest, n =>
    (if m.isPrivate then []
      else [⟨String.ofList m.name.text, some (UInt32.ofNat (n + m.before.length))⟩]) ++
      rest.tests (n + m.lines.length)
  | cls c inner rest, n => rest.tests (n + (cls c inner nil).lines.length)

/-- A class is left out if it has neither methods nor classes of its own. -/
def kept (c : TestClass) : List TestClass :=
  if c.methods.isEmpty && c.children.isEmpty then [] else [c]

/-- The classes among members that are printed from a line on, as far as they are kept. -/
def classes : Members → Nat → List TestClass
  | nil, _ => []
  | method m rest, n => rest.classes (n + m.lines.length)
  | cls c inner rest, n =>
    kept (.mk (String.ofList c.name.text) (some (UInt32.ofNat (n + c.before.length)))
      (inner.tests (n + c.above.length)) (inner.classes (n + c.above.length))) ++
      rest.classes (n + (cls c inner nil).lines.length)

end Members

/-- A test file: classes, and blank lines behind them. -/
structure File where
  members : Members
  forest : members.isForest = true
  after : List Blanks

namespace File

/-- The lines of a file. -/
def lines (f : File) : List (List Char) := f.members.lines ++ f.after.map Blanks.text

/-- The text of a file: its lines, each with a line feed behind it. -/
def source (f : File) : String := String.ofList (terminated f.lines)

/-- The test classes of a file. -/
def classes (f : File) : List TestClass := f.members.classes 0

end File

end ScriptSuite.Layout
