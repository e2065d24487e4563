import ScriptSuite.Outline.Header
import ScriptSuite.Proofs.Outline.Brace
import ScriptSuite.Proofs.Text.Blank
import ScriptSuite.Proofs.Text.Find
import ScriptSuite.Proofs.Text.Word

/-!
# Headers from their parts

What a declaration line says when its parts are known: blanks, the names, the parameter list and
what stands behind them. Nothing else is taken for a declaration line, so a header that was read
gives the parts of its line back. A method is never taken for a class, not even one that is called
`class`.

## Main definitions

* `ClassHeader.IsWritten`, `MethodHeader.IsWritten`: the form of a declaration line, by its parts

## Main results

* `isIgnoreDirective_append`: a directive is found behind the last semicolon
* `ClassHeader.ofLine?_append`, `MethodHeader.ofLine?_append`: the header of a line made of its
  parts
* `ClassHeader.ofLine?_eq_some_iff`, `MethodHeader.ofLine?_eq_some_iff`: the lines with a header
* `ClassHeader.ofLine?_method`: the header of a method is no header of a class
* `ClassHeader.hasBrace_of_ofLine?`, `MethodHeader.hasBrace_of_ofLine?`: the only brace of a header
  is the one it opens
-/

namespace ScriptSuite

open Text

variable {i g g' n e s : List Char} {c : Char} {kw : String}

/-! ### Directives -/

theorem isIgnoreDirective_append (h : ';' ∉ g) :
    isIgnoreDirective (g ++ s) = isIgnoreDirective s := by
  rw [Bool.eq_iff_iff, isIgnoreDirective, isIgnoreDirective, contains_iff_infix, contains_iff_infix]
  exact infix_append_iff_of_not_mem h

theorem isIgnoreDirective_of_not_mem (h : ';' ∉ s) : isIgnoreDirective s = false := by
  rw [← List.append_nil s, isIgnoreDirective_append h]
  decide

/-! ### Words at the start -/

theorem trimStart_append_cons (hg : isAllBlank g = true) (hc : isBlank c = false) :
    trimStart (g ++ c :: s) = c :: s := by
  rw [trimStart_append hg, trimStart_cons_of_not_blank hc]

theorem wordAndRest_append (hn : IsName n) (he : EndsWord e) : wordAndRest (n ++ e) = (n, e) := by
  rw [wordAndRest, takeWhile_isWord_append hn.word he, dropWhile_isWord_append hn.word he]

theorem eq_append_of_wordAndRest {w r : List Char} (h : wordAndRest s = (w, r))
    (hne : ¬ w.isEmpty = true) : IsName w ∧ s = w ++ r := by
  obtain ⟨rfl, rfl⟩ := Prod.mk.inj h
  exact ⟨⟨fun hnil => hne (List.isEmpty_iff.2 hnil), List.all_eq_true.1 List.all_takeWhile⟩,
    List.takeWhile_append_dropWhile.symm⟩

theorem wordAndRest_of_endsWord (he : EndsWord e) : wordAndRest e = ([], e) := by
  have htake := takeWhile_isWord_append (w := []) (by simp) he
  have hdrop := dropWhile_isWord_append (w := []) (by simp) he
  rw [List.nil_append] at htake hdrop
  rw [wordAndRest, htake, hdrop]

/-- A keyword, blanks and more. -/
theorem afterKeyword?_append (hg : isAllBlank g = true) (hne : g ≠ []) :
    afterKeyword? kw (kw.toList ++ (g ++ s)) = some (trimStart s) := by
  have hprefix : kw.toList.isPrefixOf (kw.toList ++ (g ++ s)) = true :=
    List.isPrefixOf_iff_prefix.2 (List.prefix_append _ _)
  rw [afterKeyword?, if_pos hprefix, List.drop_left]
  cases g with
  | nil => exact absurd rfl hne
  | cons c g =>
    rw [isAllBlank, List.all_cons, Bool.and_eq_true] at hg
    show (if isBlank c = true then some (trimStart (g ++ s)) else none) = _
    rw [if_pos hg.1, trimStart_append hg.2]

theorem exists_of_afterKeyword? (h : afterKeyword? kw s = some e) :
    ∃ g, isAllBlank g = true ∧ g ≠ [] ∧ s = kw.toList ++ (g ++ e) := by
  rw [afterKeyword?] at h
  split at h
  · next hprefix =>
    obtain ⟨r, rfl⟩ := List.isPrefixOf_iff_prefix.1 hprefix
    rw [List.drop_left] at h
    cases r with
    | nil => exact absurd h (by simp)
    | cons c r =>
      by_cases hc : isBlank c = true
      · obtain ⟨g, hg, hr⟩ := exists_append_trimStart r
        obtain rfl : trimStart r = e := by simpa [hc] using h
        refine ⟨c :: g, isAllBlank_cons_iff.2 ⟨hc, hg⟩, List.cons_ne_nil c g, ?_⟩
        rw [List.cons_append, ← hr]
      · exact absurd h (by simp [hc])
  · exact absurd h (by simp)

/-- Behind a keyword at the start of a text that starts with a name stands what follows the name:
the keyword is the name. -/
theorem afterKeyword?_eq_some (hn : IsName n) (he : EndsWord e)
    (hkw : IsName kw.toList) (h : afterKeyword? kw (n ++ e) = some s) : s = trimStart e := by
  rw [afterKeyword?] at h
  split at h
  · next hprefix =>
    obtain ⟨r, hr⟩ := List.isPrefixOf_iff_prefix.1 hprefix
    rw [← hr, List.drop_left] at h
    cases r with
    | nil => exact absurd h (by simp)
    | cons c r =>
      by_cases hc : isBlank c = true
      · have hend : EndsWord (c :: r) := endsWord_cons (isWord_eq_false_of_isBlank hc)
        have hrest : c :: r = e := by
          rw [← dropWhile_isWord_append hkw.word hend, hr, dropWhile_isWord_append hn.word he]
        have htrim : trimStart e = trimStart r := by
          rw [← hrest, trimStart, List.dropWhile_cons_of_pos hc]
          rfl
        rw [htrim]
        simpa [hc] using h.symm
      · simp [hc] at h
  · exact absurd h (by simp)

/-! ### Class headers -/

namespace ClassHeader

/-- The opening brace, if there is one. -/
def brace (opens : Bool) : List Char := if opens then ['{'] else []

/-- What stands behind the names of a class: an opening brace or none, between blanks. -/
inductive IsEnding (opens : Bool) : List Char → Prop
  /-- The blanks on the two sides. -/
  | mk {g g' : List Char} (hg : isAllBlank g = true) (hg' : isAllBlank g' = true) :
    IsEnding opens (g ++ (brace opens ++ g'))

/-- What stands behind the name of a class: a base or none, and the ending. -/
inductive IsTail (opens : Bool) : List Char → Prop
  /-- There is no base. -/
  | plain {e : List Char} (he : IsEnding opens e) : IsTail opens e
  /-- The base stands behind its keyword. -/
  | base {g g' b e : List Char} (hg : isAllBlank g = true) (hne : g ≠ [])
    (hg' : isAllBlank g' = true) (hne' : g' ≠ []) (hb : IsName b) (he : IsEnding opens e) :
    IsTail opens (g ++ ("extends".toList ++ (g' ++ (b ++ e))))

/-- The line declares a class of the given name, and its brace is on the line or not. -/
inductive IsWritten (n : List Char) (opens : Bool) : List Char → Prop
  /-- The line is made of its parts. -/
  | mk {i g t : List Char} (hi : isAllBlank i = true) (hg : isAllBlank g = true) (hne : g ≠ [])
    (hn : IsName n) (ht : IsTail opens t) :
    IsWritten n opens (i ++ ("class".toList ++ (g ++ (n ++ t))))

variable {opens : Bool}

theorem ending?_eq_some_iff : ending? s = some opens ↔ IsEnding opens s := by
  refine ⟨fun h => ?_, fun h => ?_⟩
  · obtain ⟨g, hg, hs⟩ := exists_append_trimStart s
    rw [ending?] at h
    split at h
    · next ht =>
      obtain rfl := Option.some.inj h
      have hnil : isAllBlank [] = true := rfl
      rw [hs, ht]
      exact .mk hg hnil
    · next c rest ht =>
      split at h
      · next hc =>
        obtain rfl := Option.some.inj h
        rw [hs, ht, hc.1]
        exact .mk hg hc.2
      · exact absurd h (by simp)
  · obtain ⟨hg, hg'⟩ := h
    rw [ending?, trimStart_append hg]
    cases opens with
    | false => rw [brace, if_neg Bool.false_ne_true, List.nil_append, trimStart_of_isAllBlank hg']
    | true =>
      rw [brace, if_pos rfl, List.singleton_append, trimStart_cons_of_not_blank (by decide)]
      exact if_pos ⟨rfl, hg'⟩

/-- Where the ending stands behind the name, no base is looked for. -/
theorem tail?_of_ending? (h : ending? s = some opens) : tail? s = some opens := by
  cases s with
  | nil => exact h
  | cons c rest =>
    rw [tail?]
    split
    · next hc =>
      have hrest : ending? rest = some opens := by
        rwa [ending?, trimStart, List.dropWhile_cons_of_pos hc] at h
      have hnone : afterKeyword? "extends" (trimStart rest) = none := by
        rw [ending?] at hrest
        split at hrest
        · next ht => rw [ht]; rfl
        · next d rest' ht =>
          split at hrest
          · next hd => rw [ht, hd.1]; rfl
          · exact absurd hrest (by simp)
      rw [hnone]
      exact hrest
    · exact h

/-- The name of a base is passed over. -/
theorem tail?_extends (hg : isAllBlank g = true) (hne : g ≠ []) (hg' : isAllBlank g' = true)
    (hne' : g' ≠ []) (hn : IsName n) (he : EndsWord e) :
    tail? (g ++ ("extends".toList ++ (g' ++ (n ++ e)))) = ending? e := by
  cases g with
  | nil => exact absurd rfl hne
  | cons c g =>
    rw [isAllBlank, List.all_cons, Bool.and_eq_true] at hg
    have htrim : trimStart ("extends".toList ++ (g' ++ (n ++ e))) =
        "extends".toList ++ (g' ++ (n ++ e)) := trimStart_cons_of_not_blank (by decide)
    have hname : n.isEmpty = false := by simpa using hn.nonempty
    rw [List.cons_append, tail?, if_pos hg.1, trimStart_append hg.2, htrim,
      afterKeyword?_append hg' hne', hn.trimStart_append]
    simp only [wordAndRest_append hn he, hname, Bool.false_eq_true, if_false]

theorem IsEnding.endsWord (h : IsEnding opens e) : EndsWord e := by
  obtain ⟨hg, hg'⟩ := h
  refine endsWord_append hg ?_
  cases opens with
  | false => exact endsWord_of_isAllBlank hg'
  | true => exact endsWord_cons (by decide)

theorem IsTail.endsWord (h : IsTail opens e) : EndsWord e := by
  cases h with
  | plain he => exact he.endsWord
  | @base g g' b e hg hne =>
    obtain ⟨c, g, rfl⟩ := List.exists_cons_of_ne_nil hne
    exact endsWord_cons (isWord_eq_false_of_isBlank (isAllBlank_cons_iff.1 hg).1)

theorem tail?_eq_some_iff : tail? s = some opens ↔ IsTail opens s := by
  refine ⟨fun h => ?_, fun h => ?_⟩
  · cases s with
    | nil =>
      obtain rfl : false = opens := Option.some.inj h
      exact .plain (ending?_eq_some_iff.1 rfl)
    | cons c rest =>
      rw [tail?] at h
      split at h
      · next hc =>
        split at h
        · next r hr =>
          -- behind the blanks stand the keyword and the base
          obtain ⟨g, hg, hrest⟩ := exists_append_trimStart rest
          obtain ⟨g', hg', hne', htrim⟩ := exists_of_afterKeyword? hr
          cases hword : wordAndRest r with
          | mk base e =>
            simp only [hword] at h
            split at h
            · exact absurd h (by simp)
            · next hne =>
              obtain ⟨hbase, rfl⟩ := eq_append_of_wordAndRest hword hne
              rw [hrest, htrim]
              exact .base (isAllBlank_cons_iff.2 ⟨hc, hg⟩) (List.cons_ne_nil c g) hg' hne' hbase
                (ending?_eq_some_iff.1 h)
        · refine .plain (ending?_eq_some_iff.1 ?_)
          rwa [ending?, trimStart, List.dropWhile_cons_of_pos hc]
      · exact .plain (ending?_eq_some_iff.1 h)
  · cases h with
    | plain he => exact tail?_of_ending? (ending?_eq_some_iff.2 he)
    | base hg hne hg' hne' hb he =>
      rw [tail?_extends hg hne hg' hne' hb he.endsWord]
      exact ending?_eq_some_iff.2 he

/-- **The header on a line made of its parts.** -/
theorem ofLine?_append (hi : isAllBlank i = true) (hg : isAllBlank g = true)
    (hne : g ≠ []) (hn : IsName n) (he : EndsWord e) (ht : tail? e = some opens) :
    ofLine? (i ++ ("class".toList ++ (g ++ (n ++ e)))) = some ⟨String.ofList n, opens⟩ := by
  have htrim : trimStart ("class".toList ++ (g ++ (n ++ e))) = "class".toList ++ (g ++ (n ++ e)) :=
    trimStart_cons_of_not_blank (by decide)
  rw [ofLine?, trimStart_append hi, htrim, afterKeyword?_append hg hne, hn.trimStart_append]
  simp [wordAndRest_append hn he, hn.nonempty, ht]

/-- **A line has a header exactly if it has the form of a class declaration.** -/
theorem ofLine?_eq_some_iff {h : ClassHeader} :
    ofLine? s = some h ↔ IsWritten h.name.toList h.opens s := by
  refine ⟨fun hs => ?_, fun hs => ?_⟩
  · rw [ofLine?] at hs
    obtain ⟨e, he, hs⟩ := Option.bind_eq_some_iff.1 hs
    obtain ⟨i, hi, htrim⟩ := exists_append_trimStart s
    obtain ⟨g, hg, hne, hkey⟩ := exists_of_afterKeyword? he
    cases hword : wordAndRest e with
    | mk name t =>
      simp only [hword] at hs
      split at hs
      · exact absurd hs (by simp)
      · next hname =>
        obtain ⟨hn, rfl⟩ := eq_append_of_wordAndRest hword hname
        obtain ⟨opens, ht, hh⟩ := Option.bind_eq_some_iff.1 hs
        obtain rfl := Option.some.inj hh
        rw [htrim, hkey, String.toList_ofList]
        exact .mk hi hg hne hn (tail?_eq_some_iff.1 ht)
  · obtain ⟨hi, hg, hne, hn, ht⟩ := hs
    rw [ofLine?_append hi hg hne hn ht.endsWord (tail?_eq_some_iff.2 ht), String.ofList_toList]

/-! ### The brace of a class header -/

/-- The text has the given brace and no other one. -/
def HasBrace (opens : Bool) (s : List Char) : Prop :=
  ∃ x y, Braceless x ∧ Braceless y ∧ s = x ++ (brace opens ++ y)

theorem HasBrace.append_left (hg : Braceless g) (hs : HasBrace opens s) :
    HasBrace opens (g ++ s) := by
  obtain ⟨x, y, hx, hy, rfl⟩ := hs
  exact ⟨g ++ x, y, braceless_append.2 ⟨hg, hx⟩, hy, by rw [List.append_assoc]⟩

theorem IsEnding.hasBrace (h : IsEnding opens e) : HasBrace opens e := by
  obtain ⟨hg, hg'⟩ := h
  exact ⟨_, _, braceless_of_isAllBlank hg, braceless_of_isAllBlank hg', rfl⟩

theorem IsTail.hasBrace (h : IsTail opens e) : HasBrace opens e := by
  cases h with
  | plain he => exact he.hasBrace
  | base hg _ hg' _ hb he =>
    have hrest := (he.hasBrace.append_left hb.braceless).append_left (braceless_of_isAllBlank hg')
    exact (hrest.append_left (by decide)).append_left (braceless_of_isAllBlank hg)

/-- **The only brace of a class header is the one it opens.** -/
theorem hasBrace_of_ofLine? {h : ClassHeader} (hs : ofLine? s = some h) : HasBrace h.opens s := by
  obtain ⟨hi, hg, -, hn, ht⟩ := ofLine?_eq_some_iff.1 hs
  have hrest := (ht.hasBrace.append_left hn.braceless).append_left (braceless_of_isAllBlank hg)
  exact (hrest.append_left (by decide)).append_left (braceless_of_isAllBlank hi)

end ClassHeader

/-! ### Method headers -/

namespace MethodHeader

variable {body : MethodBody}

/-- What stands behind the parameter list of a method. -/
inductive IsEnding : MethodBody → List Char → Prop
  /-- Nothing but blanks. -/
  | later {g : List Char} (hg : isAllBlank g = true) : IsEnding .later g
  /-- An opening brace at the end of the line. -/
  | braced {g : List Char} (hg : isAllBlank g = true) : IsEnding .braced (g ++ ['{'])
  /-- An arrow and any text. -/
  | arrow {g s : List Char} (hg : isAllBlank g = true) : IsEnding .arrow (g ++ '=' :: '>' :: s)

/-- The line declares a method of the given name, which has no parameters. -/
inductive IsWritten (n : List Char) (body : MethodBody) : List Char → Prop
  /-- The line is made of its parts. -/
  | mk {i g g' e : List Char} (hi : isAllBlank i = true) (hn : IsName n) (hg : isAllBlank g = true)
    (hg' : isAllBlank g' = true) (he : IsEnding body e) :
    IsWritten n body (i ++ (n ++ (g ++ '(' :: (g' ++ ')' :: e))))

theorem body?_eq_some_iff : body? s = some body ↔ IsEnding body s := by
  refine ⟨fun h => ?_, fun h => ?_⟩
  · obtain ⟨g, hg, hs⟩ := exists_append_trimStart s
    rw [body?] at h
    split at h
    · next ht =>
      obtain rfl := Option.some.inj h
      rw [hs, ht, List.append_nil]
      exact .later hg
    · next ht =>
      obtain rfl := Option.some.inj h
      rw [hs, ht]
      exact .braced hg
    · next ht =>
      obtain rfl := Option.some.inj h
      rw [hs, ht]
      exact .arrow hg
    · exact absurd h (by simp)
  · cases h with
    | later hg => rw [body?, trimStart_of_isAllBlank hg]
    | braced hg => rw [body?, trimStart_append_cons hg (by decide)]; rfl
    | arrow hg => rw [body?, trimStart_append_cons hg (by decide)]; rfl

theorem afterParameters?_append (hg : isAllBlank g = true) (hg' : isAllBlank g' = true) :
    afterParameters? (g ++ '(' :: (g' ++ ')' :: e)) = some e := by
  rw [afterParameters?, trimStart_append_cons hg (by decide)]
  simp only [trimStart_append_cons hg' (show isBlank ')' = false by decide)]

theorem exists_of_afterParameters? (h : afterParameters? s = some e) :
    ∃ g g', isAllBlank g = true ∧ isAllBlank g' = true ∧ s = g ++ '(' :: (g' ++ ')' :: e) := by
  obtain ⟨g, hg, hs⟩ := exists_append_trimStart s
  rw [afterParameters?] at h
  split at h
  · next r hr =>
    obtain ⟨g', hg', hr'⟩ := exists_append_trimStart r
    split at h
    · next e' he =>
      obtain rfl := Option.some.inj h
      exact ⟨g, g', hg, hg', by rw [hs, hr, hr', he]⟩
    · exact absurd h (by simp)
  · exact absurd h (by simp)

/-- **The header on a line made of its parts.** -/
theorem ofLine?_append (hi : isAllBlank i = true) (hn : IsName n)
    (hg : isAllBlank g = true) (hg' : isAllBlank g' = true) (hb : body? e = some body) :
    ofLine? (i ++ (n ++ (g ++ '(' :: (g' ++ ')' :: e)))) = some ⟨String.ofList n, body⟩ := by
  have hend : EndsWord (g ++ '(' :: (g' ++ ')' :: e)) :=
    endsWord_append hg (endsWord_cons (by decide))
  rw [ofLine?, trimStart_append hi, hn.trimStart_append]
  simp [wordAndRest_append hn hend, hn.nonempty, afterParameters?_append hg hg', hb]

/-- **A line has a header exactly if it has the form of a method declaration.** -/
theorem ofLine?_eq_some_iff {h : MethodHeader} :
    ofLine? s = some h ↔ IsWritten h.name.toList h.body s := by
  refine ⟨fun hs => ?_, fun hs => ?_⟩
  · obtain ⟨i, hi, htrim⟩ := exists_append_trimStart s
    rw [ofLine?] at hs
    cases hword : wordAndRest (trimStart s) with
    | mk name r =>
      simp only [hword] at hs
      split at hs
      · exact absurd hs (by simp)
      · next hname =>
        obtain ⟨hn, hr⟩ := eq_append_of_wordAndRest hword hname
        obtain ⟨e, he, hs⟩ := Option.bind_eq_some_iff.1 hs
        obtain ⟨body, hb, hh⟩ := Option.bind_eq_some_iff.1 hs
        obtain rfl := Option.some.inj hh
        obtain ⟨g, g', hg, hg', rfl⟩ := exists_of_afterParameters? he
        rw [htrim, hr, String.toList_ofList]
        exact .mk hi hn hg hg' (body?_eq_some_iff.1 hb)
  · obtain ⟨hi, hn, hg, hg', he⟩ := hs
    rw [ofLine?_append hi hn hg hg' (body?_eq_some_iff.2 he), String.ofList_toList]

/-! ### The brace of a method header -/

theorem IsEnding.hasBrace (h : IsEnding body e) (hbody : body ≠ .arrow) :
    ClassHeader.HasBrace (body = .braced) e := by
  cases h with
  | later hg => exact ⟨_, [], braceless_of_isAllBlank hg, braceless_nil, (List.append_nil _).symm⟩
  | braced hg => exact ⟨_, [], braceless_of_isAllBlank hg, braceless_nil, rfl⟩
  | arrow => exact absurd rfl hbody

/-- **The only brace of a method header is the one it opens**, unless an arrow stands in it. -/
theorem hasBrace_of_ofLine? {h : MethodHeader} (hs : ofLine? s = some h) (hbody : h.body ≠ .arrow) :
    ClassHeader.HasBrace (h.body = .braced) s := by
  obtain ⟨hi, hn, hg, hg', he⟩ := ofLine?_eq_some_iff.1 hs
  have hinside := (he.hasBrace hbody).append_left (g := [')']) (by decide)
  have hparams := (hinside.append_left (braceless_of_isAllBlank hg')).append_left (g := ['('])
    (by decide)
  have hrest := hparams.append_left (braceless_of_isAllBlank hg)
  exact (hrest.append_left hn.braceless).append_left (braceless_of_isAllBlank hi)

end MethodHeader

/-- **The header of a method is no header of a class.** -/
theorem ClassHeader.ofLine?_method (hi : isAllBlank i = true) (hn : IsName n)
    (hg : isAllBlank g = true) : ClassHeader.ofLine? (i ++ (n ++ (g ++ '(' :: e))) = none := by
  have hend : EndsWord (g ++ '(' :: e) := endsWord_append hg (endsWord_cons (by decide))
  rw [ClassHeader.ofLine?, trimStart_append hi, hn.trimStart_append]
  cases h : afterKeyword? "class" (n ++ (g ++ '(' :: e)) with
  | none => rfl
  | some s =>
    -- The keyword is the name of the method, so no name stands behind it.
    have hs : s = '(' :: e := by
      rw [afterKeyword?_eq_some hn hend (by decide) h, trimStart_append_cons hg (by decide)]
    have hword : wordAndRest s = ([], s) := by
      rw [hs]
      exact wordAndRest_of_endsWord (endsWord_cons (by decide))
    simp [hword]

/-! ### Blank lines -/

theorem ClassHeader.ofLine?_of_isAllBlank (hs : isAllBlank s = true) :
    ClassHeader.ofLine? s = none := by
  rw [ClassHeader.ofLine?, trimStart_of_isAllBlank hs]
  rfl

theorem MethodHeader.ofLine?_of_isAllBlank (hs : isAllBlank s = true) :
    MethodHeader.ofLine? s = none := by
  rw [MethodHeader.ofLine?, trimStart_of_isAllBlank hs]
  rfl

end ScriptSuite
