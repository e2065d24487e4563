import ScriptSuite.Json.Parser
import ScriptSuite.Json.Printer
import ScriptSuite.Proofs.Json.Text
import ScriptSuite.Proofs.Json.Token

/-!
# The grammar of JSON

Strict JSON, as rules for the texts that spell a document. The reader accepts every text that the
rules give, and takes it for the document that it spells; so no text spells two documents. The
pretty layout of a document keeps to the rules if its numbers are numbers and its strings hold what
may stand between quotes.

## Main definitions

* `Json.Spells`: the texts that spell a part of a document
* `Json.Proper`: the documents with well-formed numbers and strings

## Main results

* `Json.Spells.parse?_eq`: the reader on a text that spells a document
* `Json.Proper.spells_pretty`: the pretty layout spells the document
-/

namespace ScriptSuite.Json

/-! ### The rules -/

/-- What may stand around a value or a name: spaces and line breaks. -/
def IsGap (s : List Char) : Prop := ∀ c ∈ s, c ∈ [' ', '\t', '\n', '\r']

/-- A part of a document. -/
inductive Part where
  /-- A value. -/
  | value (v : Json)
  /-- A value with what may stand around it. -/
  | element (v : Json)
  /-- An item and others, with commas between them. -/
  | elements (v : Json) (rest : List Json)
  /-- A member. -/
  | member (m : List Char × Json)
  /-- A member and others, with commas between them. -/
  | members (m : List Char × Json) (rest : List (List Char × Json))

/-- The text spells the part of a document. A JSON text is one that spells an element. -/
inductive Spells : Part → List Char → Prop
  /-- The literal `null`. -/
  | null : Spells (.value .null) ['n', 'u', 'l', 'l']
  /-- The literal `true`. -/
  | isTrue : Spells (.value (.bool true)) ['t', 'r', 'u', 'e']
  /-- The literal `false`. -/
  | isFalse : Spells (.value (.bool false)) ['f', 'a', 'l', 's', 'e']
  /-- A number. -/
  | num {literal : List Char} (h : IsNumber literal) : Spells (.value (.num literal)) literal
  /-- A string. -/
  | str {body : List Char} (h : IsBody body) : Spells (.value (.str body)) (quoted body)
  /-- An array without items. -/
  | emptyArr {g : List Char} (hg : IsGap g) : Spells (.value (.arr [])) ('[' :: (g ++ [']']))
  /-- An array. -/
  | arr {v : Json} {rest : List Json} {s : List Char} (h : Spells (.elements v rest) s) :
      Spells (.value (.arr (v :: rest))) ('[' :: (s ++ [']']))
  /-- An object without members. -/
  | emptyObj {g : List Char} (hg : IsGap g) : Spells (.value (.obj [])) ('{' :: (g ++ ['}']))
  /-- An object. -/
  | obj {m : List Char × Json} {rest : List (List Char × Json)} {s : List Char}
      (h : Spells (.members m rest) s) : Spells (.value (.obj (m :: rest))) ('{' :: (s ++ ['}']))
  /-- A value with what stands around it. -/
  | element {v : Json} {s g g' : List Char} (hg : IsGap g) (h : Spells (.value v) s)
      (hg' : IsGap g') : Spells (.element v) (g ++ s ++ g')
  /-- One item. -/
  | lastItem {v : Json} {s : List Char} (h : Spells (.element v) s) : Spells (.elements v []) s
  /-- An item in front of others. -/
  | item {v w : Json} {rest : List Json} {s s' : List Char} (h : Spells (.element v) s)
      (hrest : Spells (.elements w rest) s') : Spells (.elements v (w :: rest)) (s ++ ',' :: s')
  /-- A member: a name, a colon and a value. -/
  | member {name : List Char} {v : Json} {s g g' : List Char} (hg : IsGap g) (hname : IsBody name)
      (hg' : IsGap g') (h : Spells (.element v) s) :
      Spells (.member (name, v)) (g ++ quoted name ++ g' ++ ':' :: s)
  /-- One member. -/
  | lastMember {m : List Char × Json} {s : List Char} (h : Spells (.member m) s) :
      Spells (.members m []) s
  /-- A member in front of others. -/
  | consMember {m m' : List Char × Json} {rest : List (List Char × Json)} {s s' : List Char}
      (h : Spells (.member m) s) (hrest : Spells (.members m' rest) s') :
      Spells (.members m (m' :: rest)) (s ++ ',' :: s')

variable {c : Char} {g s rest : List Char} {v : Json} {p : Part} {n : Nat}

/-! ### The tokens of a document -/

mutual

/-- The tokens of a document. -/
def tokens : Json → List Token
  | .null => [.null]
  | .bool b => [.bool b]
  | .num literal => [.num literal]
  | .str spelling => [.str spelling]
  | .arr [] => [.openArr, .closeArr]
  | .arr (v :: rest) => .openArr :: (tokens v ++ (itemTokens rest ++ [.closeArr]))
  | .obj [] => [.openObj, .closeObj]
  | .obj ((name, v) :: rest) =>
    .openObj :: .str name :: .colon :: (tokens v ++ (memberTokens rest ++ [.closeObj]))

/-- The tokens of items, with a comma in front of each. -/
def itemTokens : List Json → List Token
  | [] => []
  | v :: rest => .comma :: (tokens v ++ itemTokens rest)

/-- The tokens of members, with a comma in front of each. -/
def memberTokens : List (List Char × Json) → List Token
  | [] => []
  | (name, v) :: rest => .comma :: .str name :: .colon :: (tokens v ++ memberTokens rest)

end

/-- The tokens of a part of a document. -/
def Part.tokens : Part → List Token
  | value v => v.tokens
  | element v => v.tokens
  | elements v rest => v.tokens ++ itemTokens rest
  | member m => .str m.1 :: .colon :: m.2.tokens
  | members m rest => .str m.1 :: .colon :: (m.2.tokens ++ memberTokens rest)

theorem IsGap.tokens?_append (h : IsGap g) (s : List Char) : tokens? (g ++ s) = tokens? s := by
  induction g with
  | nil => rfl
  | cons c g ih =>
    have hspace : isSpace c = true := by
      have key : ∀ c ∈ [' ', '\t', '\n', '\r'], isSpace c = true :=
        Text.forall_mem_of_all (by decide)
      exact key c (h c List.mem_cons_self)
    rw [List.cons_append, tokens?, if_pos hspace]
    exact ih fun d hd => h d (List.mem_cons_of_mem c hd)

theorem tokens?_quoted_append (h : IsBody s) (rest : List Char) :
    tokens? (quoted s ++ rest) = (tokens? rest).map (.str s :: ·) := by
  rw [quoted, List.cons_append, List.cons_append, List.append_assoc, List.singleton_append,
    tokens?_quote, h.stringTail?_append, Option.bind_some]

theorem endsNumber_cons (h : c ∈ [',', ']', '}', ' ', '\t', '\n', '\r']) :
    EndsNumber (c :: s) := by
  have key : ∀ c ∈ [',', ']', '}', ' ', '\t', '\n', '\r'],
      c.isDigit = false ∧ c ≠ '.' ∧ c ≠ 'e' ∧ c ≠ 'E' := Text.forall_mem_of_all (by decide)
  intro d hd
  obtain rfl : c = d := by simpa using hd
  exact key c h

theorem IsGap.endsNumber_append (h : IsGap g) (hs : EndsNumber s) : EndsNumber (g ++ s) := by
  cases g with
  | nil => exact hs
  | cons c g =>
    have hc : c ∈ [' ', '\t', '\n', '\r'] := h c List.mem_cons_self
    exact endsNumber_cons (List.mem_append_right [',', ']', '}'] hc)

/-- **A text that spells a part of a document has the tokens of the part**, in front of any text
that has tokens. -/
theorem Spells.tokens?_append {ts : List Token} (h : Spells p s) (hend : EndsNumber rest)
    (hrest : tokens? rest = some ts) : tokens? (s ++ rest) = some (p.tokens ++ ts) := by
  induction h generalizing rest ts with
  | null =>
    simp only [List.cons_append, List.nil_append, tokens?_null, hrest]
    rfl
  | isTrue =>
    simp only [List.cons_append, List.nil_append, tokens?_true, hrest]
    rfl
  | isFalse =>
    simp only [List.cons_append, List.nil_append, tokens?_false, hrest]
    rfl
  | num h =>
    rw [h.tokens?_append hend, hrest]
    rfl
  | str h =>
    rw [tokens?_quoted_append h, hrest]
    rfl
  | emptyArr hg =>
    rw [List.cons_append, List.append_assoc, tokens?_openArr, hg.tokens?_append,
      List.singleton_append, tokens?_closeArr, hrest]
    rfl
  | arr _ ih =>
    have hclose : tokens? (']' :: rest) = some (.closeArr :: ts) := by
      rw [tokens?_closeArr, hrest, Option.map_some]
    rw [List.cons_append, List.append_assoc, tokens?_openArr, List.singleton_append,
      ih (endsNumber_cons (by decide)) hclose]
    simp [Part.tokens, tokens]
  | emptyObj hg =>
    rw [List.cons_append, List.append_assoc, tokens?_openObj, hg.tokens?_append,
      List.singleton_append, tokens?_closeObj, hrest]
    rfl
  | obj _ ih =>
    have hclose : tokens? ('}' :: rest) = some (.closeObj :: ts) := by
      rw [tokens?_closeObj, hrest, Option.map_some]
    rw [List.cons_append, List.append_assoc, tokens?_openObj, List.singleton_append,
      ih (endsNumber_cons (by decide)) hclose]
    simp [Part.tokens, tokens]
  | element hg _ hg' ih =>
    rw [List.append_assoc, List.append_assoc, hg.tokens?_append,
      ih (hg'.endsNumber_append hend) ((hg'.tokens?_append rest).trans hrest)]
    rfl
  | lastItem _ ih =>
    rw [ih hend hrest, Part.tokens, Part.tokens, itemTokens, List.append_nil]
  | item _ _ ih ihrest =>
    have hcomma := congrArg (Option.map (Token.comma :: ·)) (ihrest hend hrest)
    rw [← tokens?_comma] at hcomma
    rw [List.append_assoc, List.cons_append, ih (endsNumber_cons (by decide)) hcomma]
    simp [Part.tokens, itemTokens]
  | member hg hname hg' _ ih =>
    simp only [List.append_assoc, List.cons_append]
    rw [hg.tokens?_append, tokens?_quoted_append hname, hg'.tokens?_append, tokens?_colon,
      ih hend hrest]
    rfl
  | lastMember _ ih =>
    rw [ih hend hrest, Part.tokens, Part.tokens, memberTokens, List.append_nil]
  | consMember _ _ ih ihrest =>
    have hcomma := congrArg (Option.map (Token.comma :: ·)) (ihrest hend hrest)
    rw [← tokens?_comma] at hcomma
    rw [List.append_assoc, List.cons_append, ih (endsNumber_cons (by decide)) hcomma]
    simp [Part.tokens, memberTokens]

/-! ### What the reader makes of the tokens -/

/-- The tokens of the part take the reader past it: a value is handed to the innermost open array or
object, and so are items and members, one after the other. -/
def Part.IsRead : Part → Prop
  | value v | element v =>
    ∀ k, v.tokens.foldlM Reading.step? (.value k) = some (.deliver v k)
  | elements v rest =>
    ∀ before k, (v.tokens ++ itemTokens rest).foldlM Reading.step? (.value (.arr before :: k)) =
      some (.separator (.arr ((v :: rest).reverse ++ before)) k)
  | member m =>
    ∀ before k, m.2.tokens.foldlM Reading.step? (.value (.value before m.1 :: k)) =
      some (.separator (.obj (m :: before)) k)
  | members m rest =>
    ∀ before k,
      (m.2.tokens ++ memberTokens rest).foldlM Reading.step? (.value (.value before m.1 :: k)) =
        some (.separator (.obj ((m :: rest).reverse ++ before)) k)

theorem foldlM_append_of_eq_some {r r' : Reading} {ts : List Token}
    (h : ts.foldlM Reading.step? r = some r') (ts' : List Token) :
    (ts ++ ts').foldlM Reading.step? r = ts'.foldlM Reading.step? r' := by
  rw [List.foldlM_append, h, Option.bind_eq_bind, Option.bind_some]

theorem foldlM_cons_of_eq_some {r r' : Reading} {t : Token} (h : r.step? t = some r')
    (ts : List Token) : (t :: ts).foldlM Reading.step? r = ts.foldlM Reading.step? r' := by
  rw [List.foldlM_cons, h, Option.bind_eq_bind, Option.bind_some]

/-- The first token of an item does not end an array. -/
theorem foldlM_firstItem (v : Json) (ts : List Token) (k : List Frame) :
    (tokens v ++ ts).foldlM Reading.step? (.firstItem k) =
      (tokens v ++ ts).foldlM Reading.step? (.value (.arr [] :: k)) := by
  cases v with
  | arr items => cases items <;> rfl
  | obj members => cases members <;> rfl
  | _ => rfl

/-- **The reader takes the tokens of a part for the part.** -/
theorem Spells.isRead (h : Spells p s) : p.IsRead := by
  induction h with
  | null | isTrue | isFalse | num | str | emptyArr | emptyObj => exact fun _ => rfl
  | @arr v rest _ _ ih =>
    intro k
    have hopen : Reading.step? (.value k) .openArr = some (.firstItem k) := rfl
    rw [tokens, foldlM_cons_of_eq_some hopen, foldlM_firstItem, ← List.append_assoc,
      foldlM_append_of_eq_some (ih [] k), List.append_nil]
    exact congrArg (fun items => some (Reading.deliver (.arr items) k)) (List.reverse_reverse _)
  | @obj m rest _ _ ih =>
    obtain ⟨name, v⟩ := m
    intro k
    have hopen (ts : List Token) :
        (.openObj :: .str name :: .colon :: ts).foldlM Reading.step? (.value k) =
          ts.foldlM Reading.step? (.value (.value [] name :: k)) := rfl
    rw [tokens, hopen, ← List.append_assoc, foldlM_append_of_eq_some (ih [] k), List.append_nil]
    exact congrArg (fun ms => some (Reading.deliver (.obj ms) k)) (List.reverse_reverse _)
  | element _ _ _ ih => exact ih
  | @lastItem v _ _ ih =>
    intro before k
    rw [itemTokens, List.append_nil]
    exact ih (.arr before :: k)
  | @item v w rest _ _ _ _ ih ihrest =>
    intro before k
    have hcomma : Reading.step? (.deliver v (.arr before :: k)) .comma =
        some (.value (.arr (v :: before) :: k)) := rfl
    rw [foldlM_append_of_eq_some (ih (.arr before :: k)), itemTokens,
      foldlM_cons_of_eq_some hcomma, ihrest (v :: before) k]
    simp
  | @member name _ _ _ _ _ _ _ _ ih => exact fun before k => ih (.value before name :: k)
  | lastMember _ ih =>
    intro before k
    rw [memberTokens, List.append_nil]
    exact ih before k
  | @consMember m m' rest _ _ _ _ ih ihrest =>
    intro before k
    have hcomma (ts : List Token) :
        (.comma :: .str m'.1 :: .colon :: ts).foldlM Reading.step?
            (.separator (.obj (m :: before)) k) =
          ts.foldlM Reading.step? (.value (.value (m :: before) m'.1 :: k)) := rfl
    rw [foldlM_append_of_eq_some (ih before k), memberTokens, hcomma, ihrest (m :: before) k]
    simp

/-- **The reader takes a text for the document that it spells.** -/
theorem Spells.parse?_eq (h : Spells (.element v) s) : parse? s = some v := by
  have hend : EndsNumber [] := fun _ hc => absurd hc (by simp)
  have htokens := h.tokens?_append hend tokens?_nil
  rw [List.append_nil, List.append_nil] at htokens
  have hread : v.tokens.foldlM Reading.step? (.value []) = some (.done v) := h.isRead []
  rw [parse?, htokens, Option.bind_eq_bind, Option.bind_some, Part.tokens, hread]
  rfl

/-- No text spells two documents. -/
theorem Spells.unique {w : Json} (hv : Spells (.element v) s) (hw : Spells (.element w) s) :
    v = w :=
  Option.some.inj (hv.parse?_eq.symm.trans hw.parse?_eq)

/-! ### The pretty layout -/

/-- Numbers are numbers, and strings and names hold what may stand between quotes. -/
inductive Proper : Json → Prop
  /-- The literal `null`. -/
  | null : Proper .null
  /-- A truth value. -/
  | bool (b : Bool) : Proper (.bool b)
  /-- A number. -/
  | num {literal : List Char} (h : IsNumber literal) : Proper (.num literal)
  /-- A string. -/
  | str {body : List Char} (h : IsBody body) : Proper (.str body)
  /-- An array. -/
  | arr {items : List Json} (h : ∀ v ∈ items, Proper v) : Proper (.arr items)
  /-- An object. -/
  | obj {members : List (List Char × Json)} (hnames : ∀ m ∈ members, IsBody m.1)
      (h : ∀ m ∈ members, Proper m.2) : Proper (.obj members)

theorem isGap_nil : IsGap [] := fun _ h => absurd h List.not_mem_nil

theorem isGap_newline (n : Nat) : IsGap (newline n) := by
  intro c hc
  rcases List.mem_cons.1 hc with rfl | hc
  · decide
  · rw [List.eq_of_mem_replicate hc]
    decide

theorem spells_prettyItems {rest : List Json}
    (h : ∀ w ∈ v :: rest, Spells (.value w) (prettyAt n w)) (hg : IsGap g) :
    Spells (.elements v rest) (prettyItems n (v :: rest) ++ g) := by
  induction rest generalizing v with
  | nil => exact .lastItem (.element (isGap_newline n) (h v List.mem_cons_self) hg)
  | cons w rest ih =>
    have hv := Spells.element (isGap_newline n) (h v List.mem_cons_self) isGap_nil
    have hrest := ih fun u hu => h u (List.mem_cons_of_mem v hu)
    have hitems := Spells.item hv hrest
    rwa [List.append_nil, ← List.cons_append, ← List.append_assoc] at hitems

theorem spells_prettyMember {name : List Char} (hname : IsBody name)
    (h : Spells (.value v) (prettyAt n v)) (hg : IsGap g) :
    Spells (.member (name, v)) (newline n ++ quoted name ++ ':' :: ' ' :: prettyAt n v ++ g) := by
  have hspace : IsGap [' '] := by simp [IsGap]
  have hmember := Spells.member (isGap_newline n) hname isGap_nil (Spells.element hspace h hg)
  simpa only [List.append_assoc, List.cons_append, List.nil_append] using hmember

theorem spells_prettyMembers {m : List Char × Json} {rest : List (List Char × Json)}
    (hnames : ∀ l ∈ m :: rest, IsBody l.1)
    (h : ∀ l ∈ m :: rest, Spells (.value l.2) (prettyAt n l.2)) (hg : IsGap g) :
    Spells (.members m rest) (prettyMembers n (m :: rest) ++ g) := by
  induction rest generalizing m with
  | nil =>
    exact .lastMember (spells_prettyMember (hnames m List.mem_cons_self)
      (h m List.mem_cons_self) hg)
  | cons l rest ih =>
    have hm := spells_prettyMember (hnames m List.mem_cons_self) (h m List.mem_cons_self) isGap_nil
    have hrest := ih (fun u hu => hnames u (List.mem_cons_of_mem m hu))
      fun u hu => h u (List.mem_cons_of_mem m hu)
    have hmembers := Spells.consMember hm hrest
    rwa [List.append_nil, ← List.cons_append, ← List.append_assoc] at hmembers

/-- The layout of a value, at any depth. -/
theorem Proper.spells_prettyAt (h : Proper v) (n : Nat) : Spells (.value v) (prettyAt n v) := by
  induction h generalizing n with
  | null => exact .null
  | bool b =>
    cases b with
    | true => exact .isTrue
    | false => exact .isFalse
  | num h => exact .num h
  | str h => exact .str h
  | @arr items _ ih =>
    cases items with
    | nil => exact .emptyArr isGap_nil
    | cons v rest =>
      have hitems := spells_prettyItems (fun w hw => ih w hw (n + 1)) (isGap_newline n)
      exact .arr hitems
  | @obj members hnames _ ih =>
    cases members with
    | nil => exact .emptyObj isGap_nil
    | cons m rest =>
      have hmembers := spells_prettyMembers hnames (fun l hl => ih l hl (n + 1)) (isGap_newline n)
      exact .obj hmembers

/-- **The pretty layout of a document spells it.** -/
theorem Proper.spells_pretty (h : Proper v) : Spells (.element v) (pretty v) := by
  have hv := Spells.element isGap_nil (h.spells_prettyAt 0) isGap_nil
  rwa [List.nil_append, List.append_nil] at hv

end ScriptSuite.Json
