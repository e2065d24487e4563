import ScriptSuite.Proofs.Outline.Names

/-!
# Blanks around a header

Blanks in front of a header and behind it say nothing, with one exception: the brace of a method
must be the last character of its line. The brace of a class need not.

## Main definitions

* `BlanksBehindBrace`: lines for which the exception counts

## Main results

* `ClassHeader.ofLine?_append_blanks`, `MethodHeader.ofLine?_append_blanks`: the header of a line
  with blanks behind it
* `isIgnoreDirective_trim`, `ClassHeader.ofLine?_trim`, `MethodHeader.ofLine?_trim_iff`: what a line
  says without the blanks at its ends
-/

namespace ScriptSuite

open Text

variable {s t b : List Char} {c : Char} {kw : String}

/-! ### Blanks behind a text -/

theorem wordAndRest_append_blanks (hb : isAllBlank b = true) :
    wordAndRest (s ++ b) = ((wordAndRest s).1, (wordAndRest s).2 ++ b) := by
  induction s with
  | nil =>
    have hend : EndsWord b := by
      rw [← List.append_nil b]
      exact endsWord_append hb fun c hc => absurd hc (by simp)
    exact wordAndRest_of_endsWord hend
  | cons c s ih =>
    obtain ⟨htake, hdrop⟩ := Prod.mk.inj ih
    cases hc : isWord c with
    | true => simp [wordAndRest, hc, htake, hdrop]
    | false => simp [wordAndRest, hc]

/-- Blanks behind a text are trimmed away with it, or stay. -/
theorem trimStart_append_blanks (s : List Char) (hb : isAllBlank b = true) :
    trimStart s = [] ∧ trimStart (s ++ b) = [] ∨
      trimStart s ≠ [] ∧ trimStart (s ++ b) = trimStart s ++ b := by
  by_cases hs : trimStart s = []
  · obtain ⟨x, hx, happ⟩ := exists_append_trimStart s
    rw [hs, List.append_nil] at happ
    refine Or.inl ⟨hs, ?_⟩
    rw [happ, trimStart_append hx, trimStart_of_isAllBlank hb]
  · refine Or.inr ⟨hs, ?_⟩
    rw [trimStart, List.dropWhile_append, if_neg]
    · rfl
    · rwa [List.isEmpty_iff]

theorem isIgnoreDirective_append_blanks (hb : isAllBlank b = true) :
    isIgnoreDirective (s ++ b) = isIgnoreDirective s := by
  cases b with
  | nil => rw [List.append_nil]
  | cons c b =>
    rw [isAllBlank_cons_iff] at hb
    have hmarker : ∀ c ∈ ignoreMarker.toList, isBlank c = false := forall_mem_of_all (by decide)
    have hc : c ∉ ignoreMarker.toList := fun h => by
      rw [hmarker c h] at hb
      exact absurd hb.1 Bool.false_ne_true
    have hrest : ¬ ignoreMarker.toList <:+: b := fun h =>
      not_mem_of_isBlank_eq_false hb.2 (by decide)
        (h.subset (by decide : ';' ∈ ignoreMarker.toList))
    rw [Bool.eq_iff_iff, isIgnoreDirective, isIgnoreDirective, contains_iff_infix,
      contains_iff_infix, infix_append_cons_iff hc, or_iff_left hrest]

/-! ### Class headers -/

/-- Blanks behind a text may complete a keyword, but then nothing follows it. -/
theorem afterKeyword?_append_elim {β : Type} {d : Option β} {f : List Char → Option β}
    (hkw : ∀ c ∈ kw.toList, isBlank c = false) (hb : isAllBlank b = true) (hnil : f [] = none)
    (hf : ∀ e, f (e ++ b) = f e) (hd : t = kw.toList → d = none) :
    (afterKeyword? kw (t ++ b)).elim d f = (afterKeyword? kw t).elim d f := by
  have hprefix : kw.toList.isPrefixOf (t ++ b) = kw.toList.isPrefixOf t := by
    rw [Bool.eq_iff_iff, List.isPrefixOf_iff_prefix, List.isPrefixOf_iff_prefix]
    cases b with
    | nil => rw [List.append_nil]
    | cons c b =>
      rw [isAllBlank_cons_iff] at hb
      exact prefix_append_cons_iff fun h => by
        rw [hkw c h] at hb
        exact absurd hb.1 Bool.false_ne_true
  rw [afterKeyword?, afterKeyword?, hprefix]
  split
  · next h =>
    obtain ⟨r, rfl⟩ := List.isPrefixOf_iff_prefix.1 h
    rw [List.append_assoc, List.drop_left, List.drop_left]
    cases r with
    | nil =>
      rw [List.append_nil] at hd
      rw [hd rfl, List.nil_append]
      cases b with
      | nil => rfl
      | cons c b =>
        rw [isAllBlank_cons_iff] at hb
        simp [hb.1, trimStart_of_isAllBlank hb.2, hnil]
    | cons c r =>
      rw [List.cons_append]
      cases hc : isBlank c with
      | false => simp [hc]
      | true =>
        rcases trimStart_append_blanks r hb with ⟨hr, happ⟩ | ⟨hr, happ⟩
        · simp [hc, hr, happ]
        · simp [hc, happ, hf]
  · rfl

namespace ClassHeader

theorem ending?_append_blanks (hb : isAllBlank b = true) : ending? (s ++ b) = ending? s := by
  rw [ending?, ending?]
  rcases trimStart_append_blanks s hb with ⟨hs, happ⟩ | ⟨hs, happ⟩
  · rw [hs, happ]
  · obtain ⟨c, r, hr⟩ := List.exists_cons_of_ne_nil hs
    have hblank : isAllBlank (r ++ b) = isAllBlank r := by
      rw [isAllBlank_append, hb, Bool.and_true]
    rw [happ, hr]
    simp only [List.cons_append, hblank]

/-- What the text behind `extends` says. -/
def base? (s : List Char) : Option Bool :=
  if (wordAndRest s).1.isEmpty then none else ending? (wordAndRest s).2

/-- What the text behind `class` says. -/
def named? (s : List Char) : Option ClassHeader :=
  if (wordAndRest s).1.isEmpty then none
  else (tail? (wordAndRest s).2).bind fun opens =>
    some { name := String.ofList (wordAndRest s).1, opens }

theorem tail?_cons_of_isBlank (hc : isBlank c = true) : tail? (c :: s) =
    (afterKeyword? "extends" (trimStart s)).elim (ending? s) base? := by
  rw [tail?, if_pos hc]
  cases afterKeyword? "extends" (trimStart s) <;> rfl

theorem ofLine?_eq_elim : ofLine? s = (afterKeyword? "class" (trimStart s)).elim none named? := by
  rw [ofLine?]
  cases afterKeyword? "class" (trimStart s) with
  | none => rfl
  | some e => rfl

theorem tail?_append_blanks (hb : isAllBlank b = true) : tail? (s ++ b) = tail? s := by
  cases s with
  | nil =>
    cases b with
    | nil => rfl
    | cons c b =>
      rw [isAllBlank_cons_iff] at hb
      rw [List.nil_append, tail?_cons_of_isBlank hb.1, trimStart_of_isAllBlank hb.2]
      show ending? b = some false
      rw [ending?, trimStart_of_isAllBlank hb.2]
  | cons c r =>
    rw [List.cons_append]
    cases hc : isBlank c with
    | false =>
      rw [tail?, tail?, hc, if_neg Bool.false_ne_true, if_neg Bool.false_ne_true,
        ← List.cons_append, ending?_append_blanks hb]
    | true =>
      rw [tail?_cons_of_isBlank hc, tail?_cons_of_isBlank hc, ending?_append_blanks hb]
      rcases trimStart_append_blanks r hb with ⟨hr, happ⟩ | ⟨-, happ⟩
      · rw [hr, happ]
      · rw [happ]
        refine afterKeyword?_append_elim (forall_mem_of_all (by decide)) hb rfl (fun e => ?_) ?_
        · rw [base?, base?, wordAndRest_append_blanks hb, ending?_append_blanks hb]
        · intro hr
          rw [ending?, hr]
          rfl

/-- **Blanks behind a class header do not matter.** -/
theorem ofLine?_append_blanks (hb : isAllBlank b = true) : ofLine? (s ++ b) = ofLine? s := by
  rw [ofLine?_eq_elim, ofLine?_eq_elim]
  rcases trimStart_append_blanks s hb with ⟨hs, happ⟩ | ⟨-, happ⟩
  · rw [hs, happ]
  · rw [happ]
    refine afterKeyword?_append_elim (forall_mem_of_all (by decide)) hb rfl (fun e => ?_)
      fun _ => rfl
    rw [named?, named?, wordAndRest_append_blanks hb, tail?_append_blanks hb]

end ClassHeader

/-! ### Method headers -/

namespace MethodHeader

theorem afterParameters?_append_blanks (hb : isAllBlank b = true) :
    afterParameters? (s ++ b) = (afterParameters? s).map (· ++ b) := by
  rw [afterParameters?, afterParameters?]
  rcases trimStart_append_blanks s hb with ⟨hs, happ⟩ | ⟨hs, happ⟩
  · rw [hs, happ]
    rfl
  · obtain ⟨c, r, hr⟩ := List.exists_cons_of_ne_nil hs
    rw [happ, hr, List.cons_append]
    by_cases hc : c = '('
    · subst hc
      rcases trimStart_append_blanks r hb with ⟨hr, happ⟩ | ⟨hr, happ⟩
      · simp [hr, happ]
      · obtain ⟨d, r', hr'⟩ := List.exists_cons_of_ne_nil hr
        by_cases hd : d = ')' <;> simp [happ, hr', hd]
    · simp [hc]

theorem body?_append_blanks (hb : isAllBlank b = true) :
    body? (s ++ b) = (body? s).filter fun body => body ≠ .braced ∨ b = [] := by
  rw [body?, body?]
  rcases trimStart_append_blanks s hb with ⟨hs, happ⟩ | ⟨hs, happ⟩
  · rw [hs, happ]
    simp [Option.filter_some]
  · obtain ⟨c, r, hr⟩ := List.exists_cons_of_ne_nil hs
    rw [happ, hr, List.cons_append]
    cases b with
    | nil =>
      have hkeep (o : Option MethodBody) : o.filter (fun _ => true) = o := by cases o <;> rfl
      simp [hkeep]
    | cons d b =>
      rw [isAllBlank_cons_iff] at hb
      have hd : d ≠ '>' := by
        rintro rfl
        exact absurd hb.1 (by decide)
      -- What stands behind the parameters is decided by its first two characters.
      cases r with
      | nil =>
        by_cases hbrace : c = '{' <;> by_cases heq : c = '=' <;>
          simp [hbrace, heq, hd, Option.filter_some]
      | cons x r =>
        by_cases hbrace : c = '{' <;> by_cases heq : c = '=' <;> by_cases hx : x = '>' <;>
          simp [hbrace, heq, hx, Option.filter_some]

/-- **Blanks behind a method header do not matter**, unless they stand behind the brace. -/
theorem ofLine?_append_blanks (hb : isAllBlank b = true) :
    ofLine? (s ++ b) = (ofLine? s).filter fun h => h.body ≠ .braced ∨ b = [] := by
  rw [ofLine?, ofLine?]
  rcases trimStart_append_blanks s hb with ⟨hs, happ⟩ | ⟨hs, happ⟩
  · rw [hs, happ]
    rfl
  · rw [happ, wordAndRest_append_blanks hb]
    dsimp only
    split
    · rfl
    · rw [afterParameters?_append_blanks hb]
      cases afterParameters? (wordAndRest (trimStart s)).2 with
      | none => rfl
      | some e =>
        simp only [Option.map_some, Option.bind_eq_bind, Option.bind_some, body?_append_blanks hb]
        cases body? e with
        | none => rfl
        | some body =>
          rw [Option.filter_some, Option.bind_some, Option.pure_def, Option.filter_some]
          split <;> rfl

end MethodHeader

/-! ### Trimmed lines -/

theorem isIgnoreDirective_trim (s : List Char) :
    isIgnoreDirective (trim s) = isIgnoreDirective s := by
  obtain ⟨x, y, hx, hy, hs⟩ := exists_append_trim_append s
  have hsemicolon : ';' ∉ x := not_mem_of_isBlank_eq_false hx (by decide)
  calc isIgnoreDirective (trim s)
      = isIgnoreDirective (trim s ++ y) := (isIgnoreDirective_append_blanks hy).symm
    _ = isIgnoreDirective (x ++ (trim s ++ y)) := (isIgnoreDirective_append hsemicolon).symm
    _ = isIgnoreDirective s := by rw [← hs]

theorem ClassHeader.ofLine?_trim (s : List Char) : ofLine? (trim s) = ofLine? s := by
  obtain ⟨x, y, hx, hy, hs⟩ := exists_append_trim_append s
  calc ofLine? (trim s) = ofLine? (trim s ++ y) := (ofLine?_append_blanks hy).symm
    _ = ofLine? (x ++ (trim s ++ y)) := by rw [ofLine?, ofLine?, trimStart_append hx]
    _ = ofLine? s := by rw [← hs]

theorem MethodHeader.ofLine?_eq_filter_trim (line : List Char) : ofLine? line =
    (ofLine? (trim line)).filter fun h => h.body ≠ .braced ∨ trimEnd line = line := by
  obtain ⟨x, y, hx, hy, hline⟩ := exists_append_trim_append line
  have hread : ofLine? line = (ofLine? (trim line)).filter fun h => h.body ≠ .braced ∨ y = [] :=
    calc ofLine? line = ofLine? (x ++ (trim line ++ y)) := by rw [← hline]
      _ = ofLine? (trim line ++ y) := by rw [ofLine?, ofLine?, trimStart_append hx]
      _ = _ := ofLine?_append_blanks hy
  rw [hread]
  by_cases hne : trim line = []
  · rw [hne, ofLine?_of_isAllBlank rfl]
    rfl
  · have happ : line = x ++ trim line ++ y := by rw [List.append_assoc, ← hline]
    have htrim : trimEnd line = x ++ trim line :=
      calc trimEnd line = trimEnd (x ++ trim line ++ y) := congrArg trimEnd happ
        _ = trimEnd (x ++ trim line) := trimEnd_append hy
        _ = x ++ trim line := (tight_trim line).trimEnd_append hne
    have hiff : trimEnd line = line ↔ y = [] := by
      constructor
      · intro h
        rw [← htrim, h] at happ
        simpa using happ
      · rintro rfl
        exact htrim.trans (happ.trans (List.append_nil _)).symm
    simp only [hiff]

/-- The header of a method is never read as the header of a class. -/
theorem ClassHeader.ofLine?_eq_none_of_methodHeader {h : MethodHeader}
    (hs : MethodHeader.ofLine? s = some h) : ofLine? s = none := by
  obtain ⟨hi, hn, hg, -, -⟩ := MethodHeader.ofLine?_eq_some_iff.1 hs
  exact ofLine?_method hi hn hg

/-- The line is the header of a method with the brace of its body, and blanks behind the brace. -/
def BlanksBehindBrace (line : List Char) : Prop :=
  (∃ h, MethodHeader.ofLine? (trim line) = some h ∧ h.body = .braced) ∧ trimEnd line ≠ line

/-- **Trimming a line changes what its method header says** only if there are blanks behind the
brace. -/
theorem MethodHeader.ofLine?_trim_iff (line : List Char) :
    ofLine? (trim line) = ofLine? line ↔ ¬ BlanksBehindBrace line := by
  rw [ofLine?_eq_filter_trim line, BlanksBehindBrace]
  cases ofLine? (trim line) with
  | none => simp
  | some h =>
    rw [Option.filter_some]
    by_cases hbody : h.body = .braced <;> by_cases htrim : trimEnd line = line <;>
      simp [hbody, htrim]

namespace BlanksBehindBrace

variable {line : List Char}

/-- The line is not read as the header of a method. -/
theorem methodHeader_eq_none (h : BlanksBehindBrace line) : MethodHeader.ofLine? line = none := by
  obtain ⟨⟨header, hheader, hbody⟩, htrim⟩ := h
  rw [MethodHeader.ofLine?_eq_filter_trim, hheader, Option.filter_some, if_neg]
  simp [hbody, htrim]

/-- Nor is it the header of a class. -/
theorem classHeader_eq_none (h : BlanksBehindBrace line) : ClassHeader.ofLine? line = none := by
  obtain ⟨⟨header, hheader, -⟩, -⟩ := h
  rw [← ClassHeader.ofLine?_trim, ClassHeader.ofLine?_eq_none_of_methodHeader hheader]

end BlanksBehindBrace

end ScriptSuite
