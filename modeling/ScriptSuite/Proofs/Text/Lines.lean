import ScriptSuite.Proofs.Text.Blank
import ScriptSuite.Proofs.Text.Split
import ScriptSuite.Text.Lines

/-!
# Texts made of lines

A text without carriage returns keeps its line breaks. A text made of lines, with a line feed
between neighbours, has these lines; with a line feed behind each of them, it has the empty line
behind the last line feed, too.

A line may be put in front of a line of a text, behind the break that ends the line before it.
Breaks of all kinds count there, and none of them is changed, so the lines of the text are as
before, with one more in between.

## Main definitions

* `Text.terminated`: lines, each with a line feed behind it
* `Text.insertLine`: the text with one more line

## Main results

* `Text.not_mem_of_mem_sourceLines`: lines hold no line breaks
* `Text.sourceLines_append_newline_cases`: a line feed at the end
* `Text.sourceLines_terminated`, `Text.sourceLines_join`: the lines of a text made of lines
* `Text.pieces_unifyBreaks_insertLine`: the lines of a text with one more line
* `Text.map_trim_lines_append`: the terminated lines of a text that is cut in two
-/

namespace ScriptSuite.Text

/-- The text of the given lines, each with a line feed behind it. -/
def terminated (lines : List (List Char)) : List Char :=
  lines.flatMap fun line => line ++ ['\n']

theorem unifyBreaks_cons_of_ne {c : Char} {s : List Char} (hc : c ≠ '\r') :
    unifyBreaks (c :: s) = c :: unifyBreaks s := by
  rw [unifyBreaks, if_neg hc]
  exact fun _ h => absurd h hc

theorem unifyBreaks_of_not_mem {s : List Char} (h : '\r' ∉ s) : unifyBreaks s = s := by
  induction s with
  | nil => rfl
  | cons c s ih =>
    have hc : c ≠ '\r' := fun e => h (e ▸ List.mem_cons_self)
    rw [unifyBreaks_cons_of_ne hc, ih fun e => h (List.mem_cons_of_mem _ e)]

theorem pieces_of_not_mem {line : List Char} (h : '\n' ∉ line) : pieces line = [line] := by
  induction line with
  | nil => rfl
  | cons c line ih =>
    have hc : c ≠ '\n' := fun e => h (e ▸ List.mem_cons_self)
    rw [pieces, if_neg hc, ih fun e => h (List.mem_cons_of_mem _ e)]

theorem pieces_ne_nil (s : List Char) : pieces s ≠ [] := by
  cases s with
  | nil => exact List.cons_ne_nil _ _
  | cons c s =>
    rw [pieces]
    split
    · exact List.cons_ne_nil _ _
    · split <;> exact List.cons_ne_nil _ _

theorem mem_of_mem_pieces {s p : List Char} {c : Char} (hp : p ∈ pieces s) (hc : c ∈ p) :
    c ∈ s := by
  induction s generalizing p with
  | nil =>
    obtain rfl := List.mem_singleton.1 hp
    exact absurd hc List.not_mem_nil
  | cons d s ih =>
    rw [pieces] at hp
    split at hp
    · rcases List.mem_cons.1 hp with rfl | hp
      · exact absurd hc List.not_mem_nil
      · exact List.mem_cons_of_mem _ (ih hp hc)
    · split at hp
      · next hs => exact absurd hs (pieces_ne_nil s)
      · next q qs hs =>
        rcases List.mem_cons.1 hp with rfl | hp
        · rcases List.mem_cons.1 hc with rfl | hc
          · exact List.mem_cons_self
          · exact List.mem_cons_of_mem _ (ih (hs ▸ List.mem_cons_self) hc)
        · exact List.mem_cons_of_mem _ (ih (hs ▸ List.mem_cons_of_mem _ hp) hc)

theorem newline_not_mem_of_mem_pieces {s p : List Char} (hp : p ∈ pieces s) : '\n' ∉ p := by
  induction s generalizing p with
  | nil =>
    obtain rfl := List.mem_singleton.1 hp
    exact List.not_mem_nil
  | cons c s ih =>
    rw [pieces] at hp
    split at hp
    · rcases List.mem_cons.1 hp with rfl | hp
      · exact List.not_mem_nil
      · exact ih hp
    · next hc =>
      split at hp
      · next hs => exact absurd hs (pieces_ne_nil s)
      · next q qs hs =>
        rcases List.mem_cons.1 hp with rfl | hp
        · rw [List.mem_cons, not_or]
          exact ⟨fun h => hc h.symm, ih (hs ▸ List.mem_cons_self)⟩
        · exact ih (hs ▸ List.mem_cons_of_mem _ hp)

theorem return_not_mem_unifyBreaks (s : List Char) : '\r' ∉ unifyBreaks s := by
  fun_induction unifyBreaks s with
  | case1 => exact List.not_mem_nil
  | case2 s ih => simpa using ih
  | case3 c s hpair ih =>
    rw [List.mem_cons, not_or]
    refine ⟨?_, ih⟩
    split
    · decide
    · next hc => exact fun h => hc h.symm

/-- The lines of a source hold no line breaks. -/
theorem not_mem_of_mem_sourceLines {source : String} {line : List Char}
    (h : line ∈ sourceLines source) : '\n' ∉ line ∧ '\r' ∉ line :=
  ⟨newline_not_mem_of_mem_pieces h, fun hr =>
    return_not_mem_unifyBreaks source.toList (mem_of_mem_pieces h hr)⟩

/-- A line feed cuts a text in two. -/
theorem pieces_append_newline (s t : List Char) :
    pieces (s ++ '\n' :: t) = pieces s ++ pieces t := by
  induction s with
  | nil => exact if_pos rfl
  | cons c s ih =>
    rw [List.cons_append, pieces, pieces, ih]
    split
    · rfl
    · cases hs : pieces s with
      | nil => exact absurd hs (pieces_ne_nil s)
      | cons p ps => rfl

/-- A line feed at the end makes one more piece. -/
theorem pieces_concat_newline (s : List Char) : pieces (s ++ ['\n']) = pieces s ++ [[]] :=
  pieces_append_newline s []

/-- A line feed at the end is one more line break, unless it belongs to a carriage return. -/
theorem unifyBreaks_concat_newline (s : List Char) : unifyBreaks (s ++ ['\n']) =
    if s.getLast? = some '\r' then unifyBreaks s else unifyBreaks s ++ ['\n'] := by
  fun_induction unifyBreaks s with
  | case1 => rfl
  | case2 s ih =>
    have hlast : ('\r' :: '\n' :: s).getLast? = some '\r' ↔ s.getLast? = some '\r' := by
      cases s with
      | nil => decide
      | cons c s => rw [List.getLast?_cons_cons, List.getLast?_cons_cons]
    rw [List.cons_append, List.cons_append, unifyBreaks, ih]
    simp only [hlast]
    split <;> rfl
  | case3 c s hpair ih =>
    cases s with
    | nil =>
      by_cases hc : c = '\r'
      · subst hc
        rfl
      · rw [List.getLast?_singleton, if_neg (mt Option.some.inj hc), List.cons_append,
          unifyBreaks_cons_of_ne hc, if_neg hc]
        rfl
    | cons d s =>
      rw [List.cons_append, unifyBreaks, ih, List.getLast?_cons_cons, apply_ite (List.cons _)]
      · rfl
      · exact fun t hc ht => hpair s hc (by rw [(List.cons.inj ht).1])

/-- A carriage return at the end becomes a line feed there. -/
theorem exists_unifyBreaks_eq_concat {s : List Char} (h : s.getLast? = some '\r') :
    ∃ u, unifyBreaks s = u ++ ['\n'] := by
  fun_induction unifyBreaks s with
  | case1 => exact absurd h (by simp)
  | case2 s ih =>
    cases s with
    | nil => exact absurd h (by decide)
    | cons c s =>
      obtain ⟨u, hu⟩ := ih (by rwa [List.getLast?_cons_cons, List.getLast?_cons_cons] at h)
      exact ⟨'\n' :: u, by rw [hu, List.cons_append]⟩
  | case3 c s hpair ih =>
    cases s with
    | nil =>
      obtain rfl := Option.some.inj h
      exact ⟨[], rfl⟩
    | cons d s =>
      obtain ⟨u, hu⟩ := ih (by rwa [List.getLast?_cons_cons] at h)
      exact ⟨_ :: u, by rw [hu, List.cons_append]⟩

/-- **A line feed at the end of a source** makes one more line, which is empty, unless the source
ends with a carriage return. Then nothing changes, and the last line is empty already. -/
theorem sourceLines_append_newline_cases (source : String) :
    sourceLines (source ++ "\n") = sourceLines source ++ [[]] ∨
      sourceLines (source ++ "\n") = sourceLines source ∧
        ∃ lines, sourceLines source = lines ++ [[]] := by
  have htext : (source ++ "\n").toList = source.toList ++ ['\n'] := String.toList_append
  rw [sourceLines, htext, unifyBreaks_concat_newline, sourceLines]
  by_cases hlast : source.toList.getLast? = some '\r'
  · obtain ⟨u, hu⟩ := exists_unifyBreaks_eq_concat hlast
    rw [if_pos hlast, hu]
    exact Or.inr ⟨rfl, pieces u, pieces_concat_newline u⟩
  · rw [if_neg hlast, pieces_concat_newline]
    exact Or.inl rfl

theorem pieces_append_cons {line s : List Char} (h : '\n' ∉ line) :
    pieces (line ++ '\n' :: s) = line :: pieces s := by
  rw [pieces_append_newline, pieces_of_not_mem h, List.singleton_append]

theorem pieces_terminated {lines : List (List Char)} (h : ∀ line ∈ lines, '\n' ∉ line) :
    pieces (terminated lines) = lines ++ [[]] := by
  induction lines with
  | nil => rfl
  | cons line lines ih =>
    have hline : terminated (line :: lines) = line ++ '\n' :: terminated lines := by
      simp [terminated]
    rw [hline, pieces_append_cons (h line List.mem_cons_self),
      ih fun l hl => h l (List.mem_cons_of_mem _ hl), List.cons_append]

theorem not_mem_terminated {lines : List (List Char)} (h : ∀ line ∈ lines, '\r' ∉ line) :
    '\r' ∉ terminated lines := by
  simp only [terminated, List.mem_flatMap, List.mem_append, List.mem_singleton, not_exists, not_and]
  rintro line hl (hr | hr)
  · exact h line hl hr
  · exact absurd hr (by decide)

/-- **The lines of a text of terminated lines.** Nothing is lost at the line breaks, and one empty
line stands behind the last of them. -/
theorem sourceLines_terminated {lines : List (List Char)} (hn : ∀ line ∈ lines, '\n' ∉ line)
    (hr : ∀ line ∈ lines, '\r' ∉ line) :
    sourceLines (String.ofList (terminated lines)) = lines ++ [[]] := by
  rw [sourceLines, String.toList_ofList, unifyBreaks_of_not_mem (not_mem_terminated hr),
    pieces_terminated hn]

theorem pieces_join {lines : List (List Char)} (hne : lines ≠ [])
    (h : ∀ line ∈ lines, '\n' ∉ line) : pieces (join ['\n'] lines) = lines := by
  induction lines with
  | nil => exact absurd rfl hne
  | cons line lines ih =>
    rw [List.forall_mem_cons] at h
    by_cases hlines : lines = []
    · rw [hlines, join_singleton, pieces_of_not_mem h.1]
    · rw [join_cons hlines, List.singleton_append, pieces_append_cons h.1, ih hlines h.2]

/-- The lines of a text that is put together from lines, with a line feed between neighbours. -/
theorem sourceLines_join {lines : List (List Char)} (hne : lines ≠ [])
    (h : ∀ line ∈ lines, '\n' ∉ line ∧ '\r' ∉ line) :
    sourceLines (String.ofList (join ['\n'] lines)) = lines := by
  have hreturn : '\r' ∉ join ['\n'] lines := by
    obtain ⟨line, rest, rfl⟩ := List.exists_cons_of_ne_nil hne
    rw [List.forall_mem_cons] at h
    rw [join_cons_eq_append, List.mem_append, List.mem_flatMap, not_or]
    refine ⟨h.1.2, ?_⟩
    rintro ⟨line', hl, hr⟩
    exact (h.2 line' hl).2 (by simpa using hr)
  rw [sourceLines, String.toList_ofList, unifyBreaks_of_not_mem hreturn,
    pieces_join hne fun line hl => (h line hl).1]

/-! ### A line put into a text -/

section Insert

variable {line s : List Char} {c : Char} {k : Nat}

/-- The text with a line in front of its line `k`, which must be there. -/
def insertLine (line : List Char) : Nat → List Char → List Char
  | 0, s => line ++ '\n' :: s
  | _ + 1, [] => []
  | k + 1, '\r' :: '\n' :: s => '\r' :: '\n' :: insertLine line k s
  | k + 1, c :: s => c :: insertLine line (if c = '\r' ∨ c = '\n' then k else k + 1) s

theorem unifyBreaks_append_of_not_mem (h : '\r' ∉ line) :
    unifyBreaks (line ++ s) = line ++ unifyBreaks s := by
  induction line with
  | nil => rfl
  | cons c line ih =>
    have hc : c ≠ '\r' := fun e => h (e ▸ List.mem_cons_self)
    rw [List.cons_append, unifyBreaks_cons_of_ne hc, ih fun e => h (List.mem_cons_of_mem _ e)]
    rfl

theorem pieces_unifyBreaks_feed :
    pieces (unifyBreaks ('\n' :: s)) = [] :: pieces (unifyBreaks s) := by
  rw [unifyBreaks_cons_of_ne (by decide), pieces, if_pos rfl]

theorem pieces_unifyBreaks_pair :
    pieces (unifyBreaks ('\r' :: '\n' :: s)) = [] :: pieces (unifyBreaks s) := by
  rw [unifyBreaks, pieces, if_pos rfl]

/-- A carriage return with no line feed behind it is a break of its own. -/
theorem pieces_unifyBreaks_return (hs : s.head? ≠ some '\n') :
    pieces (unifyBreaks ('\r' :: s)) = [] :: pieces (unifyBreaks s) := by
  rw [unifyBreaks, if_pos rfl, pieces, if_pos rfl]
  rintro s' - rfl
  exact hs rfl

theorem head?_insertLine (hne : line ≠ []) (hn : '\n' ∉ line) (hs : s.head? ≠ some '\n') :
    (insertLine line k s).head? ≠ some '\n' := by
  obtain ⟨c, line, rfl⟩ := List.exists_cons_of_ne_nil hne
  have hc : c ≠ '\n' := fun e => hn (e ▸ List.mem_cons_self)
  fun_cases insertLine (c :: line) k s <;> simp_all

/-- **The lines of a text with one more line** are those of the text and that line. -/
theorem pieces_unifyBreaks_insertLine (hne : line ≠ []) (hn : '\n' ∉ line) (hr : '\r' ∉ line)
    (hk : k < (pieces (unifyBreaks s)).length) :
    pieces (unifyBreaks (insertLine line k s)) =
      (pieces (unifyBreaks s)).take k ++ line :: (pieces (unifyBreaks s)).drop k := by
  fun_induction insertLine line k s with
  | case1 s =>
    rw [unifyBreaks_append_of_not_mem hr, unifyBreaks_cons_of_ne (by decide),
      pieces_append_cons hn, List.take_zero, List.drop_zero, List.nil_append]
  | case2 k => exact absurd hk (by simp [unifyBreaks, pieces])
  | case3 k s ih =>
    rw [pieces_unifyBreaks_pair] at hk ⊢
    rw [pieces_unifyBreaks_pair, ih (by simpa using hk)]
    rfl
  | case4 k c s hpair ih =>
    by_cases hfeed : c = '\n'
    · subst hfeed
      rw [if_pos (Or.inr rfl)] at ih ⊢
      rw [pieces_unifyBreaks_feed] at hk ⊢
      rw [pieces_unifyBreaks_feed, ih (by simpa using hk)]
      rfl
    by_cases hreturn : c = '\r'
    · subst hreturn
      -- The line does not begin with a line feed, which would go with the carriage return.
      have hs : s.head? ≠ some '\n' := fun h => by
        obtain ⟨s, rfl⟩ := List.head?_eq_some_iff.1 h
        exact hpair s rfl rfl
      rw [if_pos (Or.inl rfl)] at ih ⊢
      rw [pieces_unifyBreaks_return hs] at hk ⊢
      rw [pieces_unifyBreaks_return (head?_insertLine hne hn hs), ih (by simpa using hk)]
      rfl
    · rw [if_neg (by simp [hfeed, hreturn])] at ih ⊢
      rw [unifyBreaks_cons_of_ne hreturn, pieces, if_neg hfeed] at hk ⊢
      rw [unifyBreaks_cons_of_ne hreturn, pieces, if_neg hfeed]
      cases hs : pieces (unifyBreaks s) with
      | nil => exact absurd hs (pieces_ne_nil _)
      | cons p ps =>
        rw [hs] at ih hk
        rw [ih hk]
        rfl

end Insert

/-! ### Terminated lines -/

theorem trim_dropReturn (line : List Char) : trim (dropReturn line) = trim line := by
  rw [dropReturn]
  split
  · next h =>
    obtain ⟨front, rfl⟩ := List.getLast?_eq_some_iff.1 h
    rw [List.dropLast_concat, trim_append (by decide)]
  · rfl

theorem map_trim_go_append {ps qs : List (List Char)} (hqs : qs ≠ []) :
    (lines.go (ps ++ qs)).map trim = ps.map trim ++ (lines.go qs).map trim := by
  induction ps with
  | nil => rfl
  | cons p ps ih =>
    rw [List.cons_append, lines.go, List.map_cons, ih, trim_dropReturn, List.map_cons,
      List.cons_append]
    exact List.append_ne_nil_of_right_ne_nil ps hqs

/-- The terminated lines of a text that is cut in two at a line feed, but for their blanks. -/
theorem map_trim_lines_append (s t : List Char) :
    (lines (s ++ '\n' :: t)).map trim = (pieces s).map trim ++ (lines t).map trim := by
  rw [lines, pieces_append_newline, map_trim_go_append (pieces_ne_nil t), lines]

/-- All pieces are terminated lines, but for their blanks and an empty piece at the end. -/
theorem map_trim_pieces_cases (s : List Char) :
    (pieces s).map trim = (lines s).map trim ∨
      (pieces s).map trim = (lines s).map trim ++ [[]] := by
  obtain ⟨front, p, hs⟩ := (List.eq_nil_or_concat (pieces s)).resolve_left (pieces_ne_nil s)
  rw [lines, hs, List.concat_eq_append, map_trim_go_append (List.cons_ne_nil p []),
    List.map_append, lines.go]
  split
  · next hp =>
    rw [List.isEmpty_iff.1 hp, List.map_nil, List.append_nil]
    exact Or.inr rfl
  · exact Or.inl rfl

end ScriptSuite.Text
