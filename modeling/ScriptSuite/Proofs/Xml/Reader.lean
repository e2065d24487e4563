import ScriptSuite.Text.Word

/-!
# Reading XML documents

A reader for the part of XML 1.0 that has elements, attributes, character data and references to the
five predefined entities. It knows nothing of how documents are written here, and it is strict: it
refuses a character that no document may hold, a reference that it does not know, a tag that does
not match, an attribute that occurs twice, and anything but blanks around the root element. Line
ends and attribute values are left as they stand.

A text is cut into tokens first, character data one character at a time; then the elements are put
together, with the open ones on a stack.

## Main definitions

* `Xml.isChar`, `Xml.isNameStart`, `Xml.isNameChar`: the classes of characters of the standard
* `Xml.Element`: an element with its attributes and its content
* `Xml.tokens?`: the tokens of a text
* `Xml.Element.read?`: the root element of a document
-/

namespace ScriptSuite.Xml

open Text

/-! ### Characters -/

/-- Whether a document may hold a character. -/
def isChar (c : Char) : Bool :=
  inRanges c.toNat [(0x9, 0xA), (0xD, 0xD), (0x20, 0xD7FF), (0xE000, 0xFFFD), (0x10000, 0x10FFFF)]

/-- Whether a name may start with a character. -/
def isNameStart (c : Char) : Bool :=
  inRanges c.toNat
    [(0x3A, 0x3A), (0x41, 0x5A), (0x5F, 0x5F), (0x61, 0x7A), (0xC0, 0xD6), (0xD8, 0xF6),
      (0xF8, 0x2FF), (0x370, 0x37D), (0x37F, 0x1FFF), (0x200C, 0x200D), (0x2070, 0x218F),
      (0x2C00, 0x2FEF), (0x3001, 0xD7FF), (0xF900, 0xFDCF), (0xFDF0, 0xFFFD), (0x10000, 0xEFFFF)]

/-- Whether a name may hold a character. -/
def isNameChar (c : Char) : Bool :=
  isNameStart c || c = '-' || c = '.' || c.isDigit || c = '\xB7' ||
    inRanges c.toNat [(0x300, 0x36F), (0x203F, 0x2040)]

/-- Whether a character divides the parts of a tag. -/
def isSpace (c : Char) : Bool := c = ' ' || c = '\t' || c = '\r' || c = '\n'

/-- The predefined entities, each with the character that it stands for. -/
def entities : List (List Char × Char) :=
  [("lt;".toList, '<'), ("gt;".toList, '>'), ("amp;".toList, '&'), ("apos;".toList, '\''),
    ("quot;".toList, '"')]

/-- The character in front of a text, written as itself or as a reference, and what follows it. -/
def unit? : List Char → Option (Char × List Char)
  | [] => none
  | c :: s =>
    if c = '&' then
      (entities.find? fun e => e.1.isPrefixOf s).map fun e => (e.2, s.drop e.1.length)
    else if c = '<' then none
    else if isChar c then some (c, s)
    else none

theorem unit?_lt {s rest : List Char} {c : Char} (h : unit? s = some (c, rest)) :
    rest.length < s.length := by
  cases s with
  | nil => simp [unit?] at h
  | cons d s =>
    rw [unit?] at h
    split at h
    · obtain ⟨e, -, he⟩ := Option.map_eq_some_iff.1 h
      rw [← (Prod.mk.inj he).2, List.length_drop, List.length_cons]
      omega
    · split at h
      · exact absurd h (by simp)
      · split at h
        · obtain ⟨-, rfl⟩ := Prod.mk.inj (Option.some.inj h)
          rw [List.length_cons]
          exact Nat.lt_succ_self _
        · exact absurd h (by simp)

/-! ### Tags -/

/-- The name in front of a text, and what follows it. -/
def name? (s : List Char) : Option (String × List Char) :=
  let name := s.takeWhile isNameChar
  if name.head?.any isNameStart then some (String.ofList name, s.dropWhile isNameChar) else none

/-- The value that a quote ends, and what follows the quote. -/
def quoted? (quote : Char) (s : List Char) : Option (List Char × List Char) :=
  match s with
  | [] => none
  | c :: s' =>
    if c = quote then some ([], s')
    else
      match _h : unit? (c :: s') with
      | none => none
      | some (d, rest) => (quoted? quote rest).map fun (value, rest) => (d :: value, rest)
termination_by s.length
decreasing_by exact unit?_lt _h

/-- The value of an attribute with the equals sign in front, and what follows it. -/
def value? (s : List Char) : Option (String × List Char) :=
  match s.dropWhile isSpace with
  | '=' :: s =>
    match s.dropWhile isSpace with
    | '"' :: s => (quoted? '"' s).map fun (value, rest) => (String.ofList value, rest)
    | '\'' :: s => (quoted? '\'' s).map fun (value, rest) => (String.ofList value, rest)
    | _ => none
  | _ => none

theorem quoted?_lt {quote : Char} {s value rest : List Char}
    (h : quoted? quote s = some (value, rest)) : rest.length < s.length := by
  fun_induction quoted? quote s generalizing value with
  | case1 => exact absurd h (by simp)
  | case2 s =>
    obtain ⟨-, rfl⟩ := Prod.mk.inj (Option.some.inj h)
    exact Nat.lt_succ_self _
  | case3 => exact absurd h (by simp)
  | case4 c s _ d behind hunit ih =>
    obtain ⟨⟨value', rest'⟩, hquoted, h⟩ := Option.map_eq_some_iff.1 h
    obtain ⟨-, rfl⟩ := Prod.mk.inj h
    exact Nat.lt_trans (ih hquoted) (unit?_lt hunit)

theorem length_dropWhile_le (p : Char → Bool) (s : List Char) :
    (s.dropWhile p).length ≤ s.length :=
  (List.dropWhile_sublist p).length_le

theorem name?_le {s rest : List Char} {name : String} (h : name? s = some (name, rest)) :
    rest.length ≤ s.length := by
  rw [name?] at h
  split at h
  · rw [← (Prod.mk.inj (Option.some.inj h)).2]
    exact length_dropWhile_le _ s
  · exact absurd h (by simp)

theorem value?_lt {s rest : List Char} {value : String} (h : value? s = some (value, rest)) :
    rest.length < s.length := by
  have hs := length_dropWhile_le isSpace s
  rw [value?] at h
  split at h
  · rename_i behind heq
    have hbehind := length_dropWhile_le isSpace behind
    rw [heq, List.length_cons] at hs
    split at h
    · rename_i body hbody
      obtain ⟨⟨v, r⟩, hquoted, h⟩ := Option.map_eq_some_iff.1 h
      obtain ⟨-, rfl⟩ := Prod.mk.inj h
      have := quoted?_lt hquoted
      rw [hbody, List.length_cons] at hbehind
      omega
    · rename_i body hbody
      obtain ⟨⟨v, r⟩, hquoted, h⟩ := Option.map_eq_some_iff.1 h
      obtain ⟨-, rfl⟩ := Prod.mk.inj h
      have := quoted?_lt hquoted
      rw [hbody, List.length_cons] at hbehind
      omega
    · exact absurd h (by simp)
  · exact absurd h (by simp)

/-- The attributes in front of a text, each with a space in front, and what follows them and the
spaces behind them. -/
def attributes? (s : List Char) : Option (List (String × String) × List Char) :=
  match _hname : name? (s.dropWhile isSpace) with
  | none => some ([], s.dropWhile isSpace)
  | some (name, afterName) =>
    if s.head?.any isSpace then
      match _hvalue : value? afterName with
      | none => none
      | some (value, rest) =>
        (attributes? rest).map fun (attributes, rest) => ((name, value) :: attributes, rest)
    else none
termination_by s.length
decreasing_by
  have hspace := length_dropWhile_le isSpace s
  have hname := name?_le _hname
  have hvalue := value?_lt _hvalue
  omega

theorem attributes?_le {s rest : List Char} {attributes : List (String × String)}
    (h : attributes? s = some (attributes, rest)) : rest.length ≤ s.length := by
  fun_induction attributes? s generalizing attributes with
  | case1 s =>
    rw [← (Prod.mk.inj (Option.some.inj h)).2]
    exact length_dropWhile_le isSpace s
  | case2 => exact absurd h (by simp)
  | case3 s name afterName hname _ value behind hvalue ih =>
    obtain ⟨⟨as, r⟩, hrest, h⟩ := Option.map_eq_some_iff.1 h
    obtain ⟨-, rfl⟩ := Prod.mk.inj h
    have hspace := length_dropWhile_le isSpace s
    have hname := name?_le hname
    have hvalue := value?_lt hvalue
    have := ih hrest
    omega
  | case4 => exact absurd h (by simp)

/-! ### Tokens -/

/-- The parts of a text that a document is put together from. -/
inductive Token where
  /-- A character of character data. -/
  | char (c : Char)
  /-- The tag in front of the content of an element. -/
  | opening (name : String) (attributes : List (String × String))
  /-- The tag behind it. -/
  | closing (name : String)
  /-- The tag of an element without content. -/
  | empty (name : String) (attributes : List (String × String))

/-- The tag that the front of a text ends, and what follows it. -/
def tagEnd? (name : String) (attributes : List (String × String)) :
    List Char → Option (Token × List Char)
  | '>' :: s => some (.opening name attributes, s)
  | '/' :: '>' :: s => some (.empty name attributes, s)
  | _ => none

/-- The tag in front of a text without its first character, and what follows it. -/
def tag? (s : List Char) : Option (Token × List Char) :=
  match s with
  | '/' :: s => do
    let (name, s) ← name? s
    match s.dropWhile isSpace with
    | '>' :: s => some (.closing name, s)
    | _ => none
  | s => do
    let (name, s) ← name? s
    let (attributes, s) ← attributes? s
    if (attributes.map Prod.fst).Nodup then tagEnd? name attributes s else none

theorem tagEnd?_lt {s rest : List Char} {name : String} {attributes : List (String × String)}
    {t : Token} (h : tagEnd? name attributes s = some (t, rest)) : rest.length < s.length := by
  unfold tagEnd? at h
  split at h
  · obtain ⟨-, rfl⟩ := Prod.mk.inj (Option.some.inj h)
    exact Nat.lt_succ_self _
  · obtain ⟨-, rfl⟩ := Prod.mk.inj (Option.some.inj h)
    exact Nat.lt_succ_of_lt (Nat.lt_succ_self _)
  · exact absurd h (by simp)

theorem tag?_lt {s rest : List Char} {t : Token} (h : tag? s = some (t, rest)) :
    rest.length < s.length := by
  unfold tag? at h
  split at h
  · rename_i behind
    obtain ⟨⟨name, s₁⟩, hname, h⟩ := Option.bind_eq_some_iff.1 h
    have hname := name?_le hname
    have hspace := length_dropWhile_le isSpace s₁
    dsimp only at h
    split at h
    · rename_i s₂ heq
      obtain ⟨-, rfl⟩ := Prod.mk.inj (Option.some.inj h)
      rw [heq] at hspace
      simp only [List.length_cons] at hspace ⊢
      omega
    · exact absurd h (by simp)
  · obtain ⟨⟨name, s₁⟩, hname, h⟩ := Option.bind_eq_some_iff.1 h
    obtain ⟨⟨attributes, s₂⟩, hattributes, h⟩ := Option.bind_eq_some_iff.1 h
    have hname := name?_le hname
    have hattributes := attributes?_le hattributes
    dsimp only at h
    split at h
    · have hend := tagEnd?_lt h
      omega
    · exact absurd h (by simp)

/-- The tokens of a text. -/
def tokens? (s : List Char) : Option (List Token) :=
  match s with
  | [] => some []
  | '<' :: s =>
    match _h : tag? s with
    | none => none
    | some (t, rest) => (tokens? rest).map (t :: ·)
  | c :: s =>
    if "]]>".toList.isPrefixOf (c :: s) then none
    else
      match _h : unit? (c :: s) with
      | none => none
      | some (d, rest) => (tokens? rest).map (.char d :: ·)
termination_by s.length
decreasing_by
  · have := tag?_lt _h
    simp only [List.length_cons]
    omega
  · exact unit?_lt _h

/-! ### Elements -/

/-- An element with its name, its attributes and its content, which consists of characters and
elements. -/
inductive Element where
  /-- An element. -/
  | mk (name : String) (attributes : List (String × String)) (content : List (Char ⊕ Element))

namespace Element

/-- The name. -/
def name : Element → String
  | mk name _ _ => name

/-- The attributes. -/
def attributes : Element → List (String × String)
  | mk _ attributes _ => attributes

/-- The content. -/
def content : Element → List (Char ⊕ Element)
  | mk _ _ content => content

/-- The value of an attribute. -/
def attribute? (e : Element) (name : String) : Option String :=
  (e.attributes.find? fun a => a.1 = name).map Prod.snd

/-- The character data directly in the element. -/
def text (e : Element) : String := String.ofList (e.content.filterMap Sum.getLeft?)

/-- The elements directly in the element. -/
def elements (e : Element) : List Element := e.content.filterMap Sum.getRight?

end Element

/-- An element that is still open, with the content around it so far, last first. -/
structure Frame where
  /-- The name of the element. -/
  name : String
  /-- Its attributes. -/
  attributes : List (String × String)
  /-- What stands in front of it. -/
  before : List (Char ⊕ Element)

/-- Puts tokens together. `stack` has the open elements, the innermost first, and `content` what
stands in the innermost of them so far, last first. -/
def content? (stack : List Frame) (content : List (Char ⊕ Element)) :
    List Token → Option (List (Char ⊕ Element))
  | [] => if stack.isEmpty then some content.reverse else none
  | .char c :: ts => content? stack (.inl c :: content) ts
  | .empty name attributes :: ts => content? stack (.inr (.mk name attributes []) :: content) ts
  | .opening name attributes :: ts => content? (⟨name, attributes, content⟩ :: stack) [] ts
  | .closing name :: ts =>
    match stack with
    | [] => none
    | f :: stack =>
      if f.name = name then
        content? stack (.inr (.mk f.name f.attributes content.reverse) :: f.before) ts
      else none

/-! ### Documents -/

/-- The attributes that a declaration may have. -/
def declarations : List (List String) :=
  [["version"], ["version", "encoding"], ["version", "standalone"],
    ["version", "encoding", "standalone"]]

/-- What follows the declaration of a document, if it has one. -/
def afterDeclaration? (s : List Char) : Option (List Char) :=
  if "<?xml".toList.isPrefixOf s then do
    let (attributes, s) ← attributes? (s.drop 5)
    if attributes.map Prod.fst ∈ declarations ∧ "?>".toList.isPrefixOf s then some (s.drop 2)
    else none
  else some s

/-- The root element of a document. Nothing but spaces may stand around it. -/
def Element.read? (s : String) : Option Element := do
  let s ← afterDeclaration? s.toList
  let content ← content? [] [] (← tokens? s)
  match content.filterMap Sum.getRight? with
  | [root] => if (content.filterMap Sum.getLeft?).all isSpace then some root else none
  | _ => none

end ScriptSuite.Xml
