import ScriptSuite.Proofs.Text.Find
import ScriptSuite.Proofs.Xml.Reader
import ScriptSuite.Xml.Basic

/-!
# Reading documents back

A document is read back from its written form, whatever its texts and the values of its attributes
hold. Only the names in its tags must be names. What is read differs from what was written in two
ways: a character that no document may hold is read as the replacement character, and the layout of
an element with elements in it is read as character data between them.

The induction is on the document. What it needs of the reader is said once, by `ReadsAs`: a text in
front of some rest is read as some content, whatever elements are open.

## Main definitions

* `Xml.legible`: what is read of a character
* `Xml.IsTag`, `Xml.IsTagged`: the names in tags are names
* `Xml.elementAt`: what is read of a document
* `Xml.ReadsAs`: a text in front of a rest is read as some content

## Main results

* `Xml.unit?_escapeChar`: a written character is read, and nothing else
* `Xml.IsTagged.read?_render`: a document is read back
* `Xml.IsTagged.isChar_of_mem_render`: a document holds no character that it may not hold
-/

namespace ScriptSuite.Xml

open Text

variable {c : Char} {s rest : List Char} {n : String} {as : List (String × String)}

/-! ### Characters -/

/-- What is read of a character. -/
def legible (c : Char) : Char := if isChar c then c else '\uFFFD'

/-- What is read of a text. -/
def legibleText (s : String) : String := String.ofList (s.toList.map legible)

theorem isAllowed_eq_isChar (c : Char) : isAllowed c = isChar c := by
  have hv : c.toNat < 0xD800 ∨ 0xDFFF < c.toNat ∧ c.toNat < 0x110000 := c.valid
  have hne (d : Char) : c = d ↔ c.toNat = d.toNat := ⟨fun h => h ▸ rfl, fun h => Char.toNat_inj.1 h⟩
  rw [Bool.eq_iff_iff]
  simp [isAllowed, isChar, inRanges, hne]
  omega

theorem isChar_legible (c : Char) : isChar (legible c) = true := by
  unfold legible
  split
  · assumption
  · decide

/-- A character is written as a reference, or as itself as far as it is legible. -/
theorem escapeChar_cases (c : Char) :
    (∃ e ∈ entities, c = e.2 ∧ escapeChar c = '&' :: e.1) ∨
      c ∉ entities.map Prod.snd ∧ escapeChar c = [legible c] := by
  by_cases h : c ∈ entities.map Prod.snd
  · obtain ⟨e, he, rfl⟩ := List.mem_map.1 h
    exact .inl ⟨e, he, rfl, (by decide : ∀ e ∈ entities, escapeChar e.2 = '&' :: e.1) e he⟩
  · refine .inr ⟨h, ?_⟩
    simp only [entities, List.map_cons, List.map_nil, List.mem_cons, List.not_mem_nil, or_false,
      not_or] at h
    obtain ⟨hlt, hgt, hamp, hapos, hquot⟩ := h
    rw [escapeChar, if_neg hamp, if_neg hlt, if_neg hgt, if_neg hquot, if_neg hapos,
      isAllowed_eq_isChar, legible]
    split <;> rfl

/-- **A written character is read**, and nothing behind it. -/
theorem unit?_escapeChar (c : Char) (s : List Char) :
    unit? (escapeChar c ++ s) = some (legible c, s) := by
  rcases escapeChar_cases c with ⟨e, he, rfl, hc⟩ | ⟨hc, h⟩
  · rw [hc, List.cons_append, unit?, if_pos rfl]
    simp only [entities, List.mem_cons, List.not_mem_nil, or_false] at he
    rcases he with rfl | rfl | rfl | rfl | rfl <;> simp [entities, legible] <;> decide
  · have hplain : legible c ≠ '&' ∧ legible c ≠ '<' := by
      unfold legible
      split
      · constructor <;> rintro rfl <;> exact hc (by decide)
      · decide
    rw [h, List.singleton_append, unit?, if_neg hplain.1, if_neg hplain.2,
      if_pos (isChar_legible c)]

/-- Nothing in a written character ends what it stands in. -/
theorem of_mem_escapeChar {d : Char} (h : d ∈ escapeChar c) :
    isChar d = true ∧ d ≠ '<' ∧ d ≠ '>' ∧ d ≠ '"' := by
  rcases escapeChar_cases c with ⟨e, he, rfl, hc⟩ | ⟨hc, hd⟩
  · have hplain : (entities.all fun e => ('&' :: e.1).all fun d =>
        isChar d && d != '<' && d != '>' && d != '"') = true := by decide
    rw [hc] at h
    simpa [and_assoc] using List.all_eq_true.1 (List.all_eq_true.1 hplain e he) d h
  · rw [hd, List.mem_singleton] at h
    subst h
    refine ⟨isChar_legible c, ?_⟩
    unfold legible
    split
    · refine ⟨?_, ?_, ?_⟩ <;> rintro rfl <;> exact hc (by decide)
    · decide

theorem escapeChar_ne_nil (c : Char) : escapeChar c ≠ [] := by
  rcases escapeChar_cases c with ⟨e, -, -, hc⟩ | ⟨-, hc⟩ <;> simp [hc]

/-! ### Character data -/

theorem tokens?_eq_map_of_unit? (hunit : unit? s = some (c, rest)) (hend : ¬ "]]>".toList <+: s) :
    tokens? s = (tokens? rest).map (.char c :: ·) := by
  rw [← List.isPrefixOf_iff_prefix] at hend
  rw [tokens?.eq_def]
  split
  · exact absurd hunit (by simp [unit?])
  · exact absurd hunit (by simp [unit?])
  · rw [if_neg hend]
    split
    · rename_i h
      exact absurd (h.symm.trans hunit) (by simp)
    · rename_i h
      obtain ⟨rfl, rfl⟩ := Prod.mk.inj (Option.some.inj (h.symm.trans hunit))
      rfl

/-- Written characters in front of a tag are read one by one. -/
theorem tokens?_escape_append (cs rest : List Char) :
    tokens? (cs.flatMap escapeChar ++ '<' :: rest) =
      (tokens? ('<' :: rest)).map (cs.map (fun c => .char (legible c)) ++ ·) := by
  induction cs with
  | nil => simp
  | cons c cs ih =>
    -- No closing angle bracket stands in front of the tag.
    have hend : ¬ "]]>".toList <+: (c :: cs).flatMap escapeChar ++ '<' :: rest := by
      rw [prefix_append_cons_iff (by decide)]
      intro h
      obtain ⟨d, -, hd⟩ := List.mem_flatMap.1 (h.subset (show '>' ∈ "]]>".toList by decide))
      exact (of_mem_escapeChar hd).2.2.1 rfl
    rw [List.flatMap_cons, List.append_assoc] at hend ⊢
    rw [tokens?_eq_map_of_unit? (unit?_escapeChar c _) hend, ih, Option.map_map]
    rfl

theorem tokens?_cons_of_isSpace (hc : isSpace c = true) (s : List Char) :
    tokens? (c :: s) = (tokens? s).map (.char c :: ·) := by
  simp only [isSpace, Bool.or_eq_true, decide_eq_true_eq] at hc
  rcases hc with ((rfl | rfl) | rfl) | rfl
  all_goals
    refine tokens?_eq_map_of_unit? ?_ (by simp)
    rw [unit?, if_neg (by decide), if_neg (by decide), if_pos (by decide)]

/-! ### Tags -/

/-- Whether a text is a name. -/
def isName (n : String) : Bool := n.toList.head?.any isNameStart && n.toList.all isNameChar

/-- Whether a tag may have a name and attributes with the given names. -/
def isTag (name : String) (attributes : List String) : Bool :=
  (name :: attributes).all isName && attributes.Nodup

/-- What is read of attributes. -/
def legibleAttributes (as : List (String × String)) : List (String × String) :=
  as.map fun a => (a.1, legibleText a.2)

theorem exists_cons_of_isName (hn : isName n = true) :
    ∃ c cs, n.toList = c :: cs ∧ isNameStart c = true ∧ (c :: cs).all isNameChar = true := by
  rw [isName, Bool.and_eq_true] at hn
  match hchars : n.toList with
  | [] => simp [hchars] at hn
  | c :: cs => exact ⟨c, cs, rfl, by simpa [hchars] using hn⟩

theorem name?_append (hn : isName n = true) (hrest : ∀ c ∈ rest.head?, isNameChar c = false) :
    name? (n.toList ++ rest) = some (n, rest) := by
  obtain ⟨c, cs, hchars, hc, hcs⟩ := exists_cons_of_isName hn
  have hend : rest.takeWhile isNameChar = [] ∧ rest.dropWhile isNameChar = rest := by
    cases rest with
    | nil => exact ⟨rfl, rfl⟩
    | cons d rest => simp [hrest d rfl]
  rw [List.all_eq_true] at hcs
  rw [name?, hchars, List.takeWhile_append_of_pos hcs, List.dropWhile_append_of_pos hcs, hend.1,
    hend.2, List.append_nil, List.head?_cons, Option.any_some, if_pos hc, ← hchars,
    String.ofList_toList]

theorem quoted?_escape_append (v rest : List Char) :
    quoted? '"' (v.flatMap escapeChar ++ '"' :: rest) = some (v.map legible, rest) := by
  induction v with
  | nil => simp [quoted?]
  | cons c v ih =>
    have hunit := unit?_escapeChar c (v.flatMap escapeChar ++ '"' :: rest)
    obtain ⟨d, ds, hd⟩ := List.exists_cons_of_ne_nil (escapeChar_ne_nil c)
    have hquote : d ≠ '"' := (of_mem_escapeChar (hd ▸ List.mem_cons_self)).2.2.2
    rw [List.flatMap_cons, List.append_assoc]
    rw [hd, List.cons_append] at hunit ⊢
    rw [quoted?, if_neg hquote]
    split
    · rename_i h
      exact absurd (h.symm.trans hunit) (by simp)
    · rename_i h
      obtain ⟨rfl, rfl⟩ := Prod.mk.inj (Option.some.inj (h.symm.trans hunit))
      rw [ih]
      rfl

theorem value?_append (v : String) (rest : List Char) :
    value? ('=' :: '"' :: (escape v ++ '"' :: rest)) = some (legibleText v, rest) := by
  have hquoted : value? ('=' :: '"' :: (escape v ++ '"' :: rest)) =
      (quoted? '"' (escape v ++ '"' :: rest)).map fun q => (String.ofList q.1, q.2) := rfl
  rw [hquoted, escape, quoted?_escape_append]
  rfl

theorem isSpace_of_isNameStart (hc : isNameStart c = true) : isSpace c = false := by
  rw [← Bool.not_eq_true]
  intro h
  simp only [isSpace, Bool.or_eq_true, decide_eq_true_eq] at h
  rcases h with ((rfl | rfl) | rfl) | rfl <;> exact absurd hc (by decide)

theorem dropWhile_isSpace (hs : ∀ c ∈ s.head?, isSpace c = false) : s.dropWhile isSpace = s := by
  cases s with
  | nil => rfl
  | cons c s => rw [List.dropWhile_cons_of_neg (by simp [hs c rfl])]

theorem name?_eq_none (hs : ∀ c ∈ s.head?, isNameStart c = false) : name? s = none := by
  cases s with
  | nil => rfl
  | cons c s =>
    rw [name?, List.takeWhile_cons]
    split <;> simp [hs c rfl]

theorem attributes?_of_name? {v : String} {behind : List Char}
    (hname : name? (s.dropWhile isSpace) = some (n, behind)) (hspace : s.head?.any isSpace = true)
    (hvalue : value? behind = some (v, rest)) :
    attributes? s = (attributes? rest).map fun (as, rest) => ((n, v) :: as, rest) := by
  rw [attributes?.eq_def]
  split
  · rename_i h
    exact absurd (h.symm.trans hname) (by simp)
  · rename_i h
    obtain ⟨rfl, rfl⟩ := Prod.mk.inj (Option.some.inj (h.symm.trans hname))
    rw [if_pos hspace]
    split
    · rename_i h
      exact absurd (h.symm.trans hvalue) (by simp)
    · rename_i h
      obtain ⟨rfl, rfl⟩ := Prod.mk.inj (Option.some.inj (h.symm.trans hvalue))
      rfl

/-- **Attributes are read back**, in front of the end of a tag. -/
theorem attributes?_renderAttributes_append (has : ∀ a ∈ as, isName a.1 = true)
    (hrest : ∀ c ∈ rest.head?, isSpace c = false ∧ isNameStart c = false) :
    attributes? (renderAttributes as ++ rest) = some (legibleAttributes as, rest) := by
  have hspace := dropWhile_isSpace fun c hc => (hrest c hc).1
  induction as with
  | nil =>
    have hname := name?_eq_none fun c hc => (hrest c hc).2
    rw [renderAttributes, List.flatMap_nil, List.nil_append, attributes?.eq_def, hspace]
    split
    · rfl
    · rename_i h
      exact absurd (h.symm.trans hname) (by simp)
  | cons a as ih =>
    obtain ⟨n, v⟩ := a
    rw [List.forall_mem_cons] at has
    obtain ⟨c, cs, hchars, hc, -⟩ := exists_cons_of_isName has.1
    have hsplit : renderAttributes ((n, v) :: as) ++ rest =
        ' ' :: (n.toList ++ '=' :: '"' :: (escape v ++ '"' :: (renderAttributes as ++ rest))) := by
      simp [renderAttributes]
    have hname (t : List Char) :
        name? ((' ' :: (n.toList ++ '=' :: t)).dropWhile isSpace) = some (n, '=' :: t) := by
      have hbehind : ∀ c ∈ ('=' :: t).head?, isNameChar c = false := by rintro _ ⟨⟩; rfl
      have hfront : ∀ d ∈ (n.toList ++ '=' :: t).head?, isSpace d = false := by
        rw [show n.toList = c :: cs from hchars]
        rintro _ ⟨⟩
        exact isSpace_of_isNameStart hc
      rw [List.dropWhile_cons_of_pos rfl, dropWhile_isSpace hfront, name?_append has.1 hbehind]
    rw [hsplit, attributes?_of_name? (hname _) rfl (value?_append v _), ih has.2]
    rfl

theorem isNameChar_head?_renderAttributes_append (as : List (String × String))
    (hrest : ∀ c ∈ rest.head?, isNameChar c = false) :
    ∀ c ∈ (renderAttributes as ++ rest).head?, isNameChar c = false := by
  cases as with
  | nil => exact hrest
  | cons a as => rintro _ ⟨⟩; rfl

theorem head?_of_tagEnd? {t : Token} {behind : List Char} (h : tagEnd? n as s = some (t, behind)) :
    ∀ c ∈ s.head?, c = '>' ∨ c = '/' := by
  unfold tagEnd? at h
  split at h
  · rintro _ ⟨⟩; exact .inl rfl
  · rintro _ ⟨⟩; exact .inr rfl
  · exact absurd h (by simp)

theorem tag?_of_attributes? {behind : List Char} (hname : name? s = some (n, behind))
    (hattributes : attributes? behind = some (as, rest)) (has : (as.map Prod.fst).Nodup) :
    tag? s = tagEnd? n as rest := by
  unfold tag?
  split
  · rw [name?_eq_none (by rintro _ ⟨⟩; rfl)] at hname
    exact absurd hname (by simp)
  · simp only [hname, Option.bind_eq_bind, Option.bind_some, hattributes, if_pos has]

theorem tokens?_cons_of_tag? {t : Token} (h : tag? s = some (t, rest)) :
    tokens? ('<' :: s) = (tokens? rest).map (t :: ·) := by
  rw [tokens?.eq_def]
  split
  · rename_i heq
    exact absurd heq (by simp)
  · rename_i heq
    obtain rfl := (List.cons.inj heq).2
    split
    · rename_i hnone
      exact absurd (hnone.symm.trans h) (by simp)
    · rename_i hsome
      obtain ⟨rfl, rfl⟩ := Prod.mk.inj (Option.some.inj (hsome.symm.trans h))
      rfl
  · rename_i hne heq
    exact absurd (List.cons.inj heq).1.symm hne

theorem isName_of_isTag (h : isTag n (as.map Prod.fst) = true) :
    isName n = true ∧ (∀ a ∈ as, isName a.1 = true) ∧
      ((legibleAttributes as).map Prod.fst).Nodup := by
  simpa [isTag, legibleAttributes, Function.comp_def, and_assoc] using h

/-- **A tag in front of some content is read back**, and so is one without content. -/
theorem tokens?_tag {t : Token} {behind : List Char} (h : isTag n (as.map Prod.fst) = true)
    (hend : tagEnd? n (legibleAttributes as) rest = some (t, behind)) :
    tokens? (tag n (renderAttributes as ++ rest)) = (tokens? behind).map (t :: ·) := by
  obtain ⟨hn, has, hnodup⟩ := isName_of_isTag h
  have hhead {p : Char → Prop} (h : p '>' ∧ p '/') : ∀ c ∈ rest.head?, p c := fun c hc => by
    rcases head?_of_tagEnd? hend c hc with rfl | rfl
    · exact h.1
    · exact h.2
  have hname := name?_append hn (isNameChar_head?_renderAttributes_append as (hhead (by decide)))
  have hattributes := attributes?_renderAttributes_append has (hhead (by decide))
  exact tokens?_cons_of_tag? ((tag?_of_attributes? hname hattributes hnodup).trans hend)

/-- The tag behind some content is read back. -/
theorem tokens?_closing_append (hn : isName n = true) (rest : List Char) :
    tokens? (closing n ++ rest) = (tokens? rest).map (.closing n :: ·) := by
  have hname : name? (n.toList ++ '>' :: rest) = some (n, '>' :: rest) :=
    name?_append hn (by rintro _ ⟨⟩; rfl)
  have htag : tag? ('/' :: (n.toList ++ '>' :: rest)) = some (.closing n, rest) := by
    rw [tag?, hname]
    rfl
  rw [← tokens?_cons_of_tag? htag, closing]
  simp

/-! ### Characters of documents -/

theorem isChar_of_isNameStart (hc : isNameStart c = true) : isChar c = true := by
  simp [isNameStart, isChar, inRanges] at *
  omega

theorem isChar_of_isNameChar (hc : isNameChar c = true) : isChar c = true := by
  simp only [isNameChar, Bool.or_eq_true, decide_eq_true_eq] at hc
  rcases hc with ((((hc | rfl) | rfl) | hc) | rfl) | hc
  · exact isChar_of_isNameStart hc
  · decide
  · decide
  · have hdigit : 48 ≤ c.toNat ∧ c.toNat ≤ 57 := by
      simpa [Char.isDigit, UInt32.le_iff_toNat_le] using hc
    simp [isChar, inRanges]
    omega
  · decide
  · simp [isChar, inRanges] at *
    omega

theorem all_isChar_escape (v : String) : (escape v).all isChar = true := by
  rw [List.all_eq_true]
  intro d hd
  obtain ⟨c, -, hc⟩ := List.mem_flatMap.1 hd
  exact (of_mem_escapeChar hc).1

theorem all_isChar_of_isName (hn : isName n = true) : n.toList.all isChar = true := by
  rw [isName, Bool.and_eq_true, List.all_eq_true] at hn
  exact List.all_eq_true.2 fun c hc => isChar_of_isNameChar (hn.2 c hc)

theorem all_isChar_renderAttributes (has : ∀ a ∈ as, isName a.1 = true) :
    (renderAttributes as).all isChar = true := by
  rw [renderAttributes, List.all_flatMap, List.all_eq_true]
  intro a ha
  simp +decide [all_isChar_of_isName (has a ha), all_isChar_escape, -List.all_eq_true]

theorem all_isChar_tag (h : isTag n (as.map Prod.fst) = true) (s : List Char) :
    (tag n (renderAttributes as ++ s)).all isChar = s.all isChar := by
  obtain ⟨hn, has, -⟩ := isName_of_isTag h
  simp +decide [tag, all_isChar_of_isName hn, all_isChar_renderAttributes has, -List.all_eq_true]

theorem all_isChar_closing (hn : isName n = true) : (closing n).all isChar = true := by
  simp +decide [closing, all_isChar_of_isName hn, -List.all_eq_true]

/-! ### Content -/

/-- In front of the rest, the text is read as the content, whatever elements are open. -/
def ReadsAs (s : List Char) (content : List (Char ⊕ Element)) (rest : List Char) : Prop :=
  ∃ ts, tokens? (s ++ rest) = (tokens? rest).map (ts ++ ·) ∧
    ∀ stack before rs,
      content? stack before (ts ++ rs) = content? stack (content.reverse ++ before) rs

namespace ReadsAs

variable {t : List Char} {content content' : List (Char ⊕ Element)}

theorem nil (rest : List Char) : ReadsAs [] [] rest :=
  ⟨[], by simp, fun _ _ _ => rfl⟩

theorem append (hs : ReadsAs s content (t ++ rest)) (ht : ReadsAs t content' rest) :
    ReadsAs (s ++ t) (content ++ content') rest := by
  obtain ⟨ss, hss, hscontent⟩ := hs
  obtain ⟨ts, hts, htcontent⟩ := ht
  refine ⟨ss ++ ts, ?_, fun stack before rs => ?_⟩
  · rw [List.append_assoc, hss, hts, Option.map_map]
    simp only [Function.comp_def, List.append_assoc]
  · rw [List.append_assoc, hscontent, htcontent, List.reverse_append, List.append_assoc]

/-- Characters that are read one by one are content. -/
theorem of_chars {cs : List Char}
    (h : tokens? (s ++ rest) = (tokens? rest).map (cs.map .char ++ ·)) :
    ReadsAs s (cs.map .inl) rest := by
  refine ⟨cs.map .char, h, ?_⟩
  clear h
  induction cs with
  | nil => exact fun _ _ _ => rfl
  | cons c cs ih =>
    intro stack before rs
    rw [List.map_cons, List.cons_append, content?, ih]
    simp

theorem singleton (hc : isSpace c = true) (rest : List Char) : ReadsAs [c] [.inl c] rest :=
  show ReadsAs [c] ([c].map .inl) rest from of_chars (tokens?_cons_of_isSpace hc rest)

theorem replicate (k : Nat) (rest : List Char) :
    ReadsAs (List.replicate k ' ') (List.replicate k (.inl ' ')) rest := by
  induction k with
  | zero => exact nil rest
  | succ k ih => exact (singleton rfl _).append ih

theorem text (v : String) (rest : List Char) :
    ReadsAs (escape v) ((v.toList.map legible).map .inl) ('<' :: rest) := by
  refine of_chars ?_
  rw [escape, tokens?_escape_append, List.map_map]
  rfl

/-- An element without content. -/
theorem leaf (h : isTag n (as.map Prod.fst) = true) (rest : List Char) :
    ReadsAs (tag n (renderAttributes as ++ ['/', '>']))
      [.inr ⟨n, legibleAttributes as, []⟩] rest := by
  have htokens : tokens? (tag n (renderAttributes as ++ '/' :: '>' :: rest)) =
      (tokens? rest).map (.empty n (legibleAttributes as) :: ·) := tokens?_tag h rfl
  refine ⟨[.empty n (legibleAttributes as)], ?_, fun stack before rs => rfl⟩
  simpa [tag] using htokens

/-- An element around some content. -/
theorem element (h : isTag n (as.map Prod.fst) = true)
    (hs : ReadsAs s content (closing n ++ rest)) :
    ReadsAs (tag n (renderAttributes as ++ ['>']) ++ (s ++ closing n))
      [.inr ⟨n, legibleAttributes as, content⟩] rest := by
  obtain ⟨ts, hts, hcontent⟩ := hs
  have hopening : tokens? (tag n (renderAttributes as ++ '>' :: (s ++ (closing n ++ rest)))) =
      (tokens? (s ++ (closing n ++ rest))).map (.opening n (legibleAttributes as) :: ·) :=
    tokens?_tag h rfl
  refine ⟨.opening n (legibleAttributes as) :: (ts ++ [.closing n]), ?_, fun stack before rs => ?_⟩
  · rw [hts, tokens?_closing_append (isName_of_isTag h).1, Option.map_map, Option.map_map]
      at hopening
    simpa [tag, Function.comp_def] using hopening
  · rw [List.cons_append, List.append_assoc, content?, hcontent, List.append_nil, List.cons_append,
      content?, if_pos rfl, List.reverse_reverse]
    rfl

theorem content?_eq (h : ReadsAs s content []) :
    (tokens? s).bind (content? [] []) = some content := by
  obtain ⟨ts, hts, hcontent⟩ := h
  have hall := hcontent [] [] []
  rw [List.append_nil] at hts hall
  rw [hts, tokens?]
  simpa [content?] using hall

end ReadsAs

/-! ### Documents -/

/-- The tags of a document have proper names. -/
inductive IsTagged : Xml → Prop where
  | empty {name attributes} (h : isTag name (attributes.map Prod.fst) = true) :
    IsTagged (empty name attributes)
  | text {name attributes} (h : isTag name (attributes.map Prod.fst) = true) (s : String) :
    IsTagged (text name attributes s)
  | branch {name attributes} (h : isTag name (attributes.map Prod.fst) = true) {children : List Xml}
    (hchildren : ∀ x ∈ children, IsTagged x) : IsTagged (branch name attributes children)

/-- An indentation, as content. -/
def indent (depth : Nat) : List (Char ⊕ Element) := List.replicate (2 * depth) (.inl ' ')

mutual

/-- What is read of an element at a depth. -/
def elementAt (depth : Nat) : Xml → Element
  | empty n as => ⟨n, legibleAttributes as, []⟩
  | text n as s => ⟨n, legibleAttributes as, (s.toList.map legible).map .inl⟩
  | branch n as children =>
    ⟨n, legibleAttributes as, .inl '\n' :: contentAll (depth + 1) children ++ indent depth⟩

/-- What is read of the lines of several elements at a depth. -/
def contentAll (depth : Nat) : List Xml → List (Char ⊕ Element)
  | [] => []
  | x :: xs => indent depth ++ .inr (elementAt depth x) :: .inl '\n' :: contentAll depth xs

end

theorem afterDeclaration?_append (s : List Char) :
    afterDeclaration? ("<?xml version=\"1.0\" encoding=\"UTF-8\"?>\n".toList ++ s) =
      some ('\n' :: s) := by
  let as := [("version", "1.0"), ("encoding", "UTF-8")]
  have hdeclaration : "<?xml version=\"1.0\" encoding=\"UTF-8\"?>\n".toList =
      "<?xml".toList ++ (renderAttributes as ++ ['?', '>', '\n']) := by decide
  have hdrop (t : List Char) : ("<?xml".toList ++ t).drop 5 = t := List.drop_left' (by decide)
  have hattributes : attributes? (renderAttributes as ++ '?' :: '>' :: '\n' :: s) =
      some (legibleAttributes as, '?' :: '>' :: '\n' :: s) :=
    attributes?_renderAttributes_append (by decide) (by rintro _ ⟨⟩; decide)
  have hnames : (legibleAttributes as).map Prod.fst ∈ declarations := by decide
  rw [hdeclaration, List.append_assoc, afterDeclaration?, if_pos (by simp), hdrop,
    List.append_assoc]
  simp [hattributes, hnames]

theorem elements_elementAt_branch (depth : Nat) (n : String) (as : List (String × String))
    (children : List Xml) :
    (elementAt depth (branch n as children)).elements = children.map (elementAt (depth + 1)) := by
  have hindent (depth : Nat) : (indent depth).filterMap Sum.getRight? = [] := by simp [indent]
  rw [elementAt, Element.elements, Element.content, List.filterMap_append, hindent,
    List.append_nil, List.filterMap_cons_none rfl]
  induction children with
  | nil => rfl
  | cons x children ih => simp [contentAll, hindent, ih, List.filterMap_cons]

theorem elements_elementAt_text (depth : Nat) (n : String) (as : List (String × String))
    (s : String) : (elementAt depth (text n as s)).elements = [] := by
  rw [elementAt, Element.elements, Element.content, List.filterMap_map]
  exact List.filterMap_eq_nil_iff.2 fun _ _ => rfl

theorem text_elementAt_text (depth : Nat) (n : String) (as : List (String × String)) (s : String) :
    (elementAt depth (text n as s)).text = legibleText s := by
  rw [elementAt, Element.text, Element.content, List.filterMap_map, legibleText]
  exact congrArg String.ofList List.filterMap_some

theorem readsAs_renderAll {depth : Nat} {xs : List Xml}
    (h : ∀ x ∈ xs, ∀ rest, ReadsAs (renderAt depth x) (contentAll depth [x]) rest)
    (rest : List Char) : ReadsAs (renderAll depth xs) (contentAll depth xs) rest := by
  induction xs with
  | nil => exact .nil rest
  | cons x xs ih =>
    rw [List.forall_mem_cons] at h
    have hread := (h.1 _).append (ih h.2)
    simpa [renderAll, contentAll] using hread

theorem all_renderAll {depth : Nat} {xs : List Xml} {p : Char → Bool}
    (h : ∀ x ∈ xs, (renderAt depth x).all p = true) : (renderAll depth xs).all p = true := by
  induction xs with
  | nil => rfl
  | cons x xs ih =>
    rw [List.forall_mem_cons] at h
    rw [renderAll, List.all_append, h.1, ih h.2, Bool.and_self]

namespace IsTagged

variable {x : Xml}

/-- **The lines of an element are read as the element** with its indentation and the line end. -/
theorem readsAs (h : x.IsTagged) (depth : Nat) (rest : List Char) :
    ReadsAs (x.renderAt depth) (contentAll depth [x]) rest := by
  have hend := ReadsAs.singleton (show isSpace '\n' = true from rfl)
  have hindent (depth : Nat) (rest : List Char) :
      ReadsAs (List.replicate (2 * depth) ' ') (indent depth) rest := .replicate _ rest
  induction h generalizing depth rest with
  | @empty n as h =>
    have hread := ((hindent depth _).append (.leaf h _)).append (hend rest)
    simpa [renderAt, contentAll, elementAt, tag] using hread
  | @text n as h s =>
    have hread := ((hindent depth _).append (.element h (.text s _))).append (hend rest)
    simpa [renderAt, contentAll, elementAt, tag] using hread
  | @branch n as h children hchildren ih =>
    have hlines := readsAs_renderAll fun x hx => ih x hx (depth + 1)
    have hinner := ((hend _).append (hlines _)).append (hindent depth (closing n ++ '\n' :: rest))
    have hread := ((hindent depth _).append (.element h hinner)).append (hend rest)
    simpa [renderAt, contentAll, elementAt, tag] using hread

/-- **A document is read back**, whatever its texts and the values of its attributes hold. -/
theorem read?_render (h : x.IsTagged) : Element.read? x.render = some (x.elementAt 0) := by
  have hcontent := ((ReadsAs.singleton (show isSpace '\n' = true from rfl) _).append
    (h.readsAs 0 [])).content?_eq
  obtain ⟨ts, hts, hcontent⟩ := Option.bind_eq_some_iff.1 hcontent
  have hafter : afterDeclaration? x.render.toList = some (['\n'] ++ x.renderAt 0) :=
    (congrArg afterDeclaration? String.toList_ofList).trans (afterDeclaration?_append _)
  simp only [Element.read?, hafter, Option.bind_eq_bind, Option.bind_some, hts, hcontent]
  rfl

theorem all_isChar_renderAt (h : x.IsTagged) (depth : Nat) :
    (x.renderAt depth).all isChar = true := by
  have hindent (k : Nat) : (List.replicate k ' ').all isChar = true :=
    List.all_eq_true.2 fun c hc => (List.eq_of_mem_replicate hc) ▸ by decide
  induction h generalizing depth with
  | @empty n as h =>
    rw [renderAt, List.all_append, hindent, all_isChar_tag h]
    decide
  | @text n as h s =>
    simp only [renderAt, List.all_append, hindent, all_isChar_tag h, all_isChar_escape,
      all_isChar_closing (isName_of_isTag h).1]
    decide
  | @branch n as h children hchildren ih =>
    have hlines := all_renderAll fun x hx => ih x hx (depth + 1)
    simp only [renderAt, List.all_append, hindent, all_isChar_tag h, hlines,
      all_isChar_closing (isName_of_isTag h).1]
    decide

/-- **A document holds no character that it may not hold.** -/
theorem isChar_of_mem_render (h : x.IsTagged) : ∀ c ∈ x.render.toList, isChar c = true := by
  have hchars : x.render.toList = _ ++ x.renderAt 0 := String.toList_ofList
  rw [hchars, ← List.all_eq_true, List.all_append, h.all_isChar_renderAt 0, Bool.and_true]
  decide +kernel

end IsTagged

end ScriptSuite.Xml
