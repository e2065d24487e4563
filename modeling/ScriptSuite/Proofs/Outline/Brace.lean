import ScriptSuite.Outline.Brace
import ScriptSuite.Proofs.Text.Blank
import ScriptSuite.Proofs.Text.Word

/-!
# Balanced texts

A text is *balanced* if it has as many opening braces as closing ones and no part of it from the
start has more closing ones. A block around a balanced text is closed where it seems to be: the
count of braces does not come back to zero in between.

## Main definitions

* `netBraces`: the opening braces of a text less its closing ones
* `Braceless`, `IsBalanced`: texts without braces, and balanced texts
* `BraceAlone`: an opening brace with a line to itself

## Main results

* `depthOver?_eq_some_iff`: a line leaves a block open exactly if no part of it closes the block
* `closingOffset_block`: where a block around balanced lines is closed
* `openingOffset?_eq_some_iff`, `openingOffset?_of_ne`: where the search for an opening brace ends
-/

namespace ScriptSuite

open Text

variable {s t : List Char} {c : Char} {d d' : Int}

/-! ### Counting -/

/-- The opening braces of a text less its closing ones. -/
def netBraces (s : List Char) : Int :=
  (s.count '{' : Int) - s.count '}'

@[simp] theorem netBraces_nil : netBraces [] = 0 := rfl

theorem netBraces_append : netBraces (s ++ t) = netBraces s + netBraces t := by
  simp only [netBraces, List.count_append]
  omega

theorem netBraces_cons : netBraces (c :: s) = netBraces [c] + netBraces s :=
  netBraces_append (s := [c])

theorem depthAfter_eq : depthAfter d c = d + netBraces [c] := by
  by_cases ho : c = '{'
  · subst ho
    rfl
  · by_cases hc : c = '}'
    · subst hc
      rfl
    · simp [depthAfter, netBraces, ho, hc]

/-- A text without braces. -/
def Braceless (s : List Char) : Prop := '{' ∉ s ∧ '}' ∉ s

instance : Decidable (Braceless s) := inferInstanceAs (Decidable (_ ∧ _))

@[simp] theorem braceless_nil : Braceless [] := by decide

@[simp] theorem braceless_append : Braceless (s ++ t) ↔ Braceless s ∧ Braceless t := by
  simp only [Braceless, List.mem_append, not_or]
  exact and_and_and_comm

theorem Braceless.take (hs : Braceless s) (k : Nat) : Braceless (s.take k) :=
  ⟨fun h => hs.1 (List.mem_of_mem_take h), fun h => hs.2 (List.mem_of_mem_take h)⟩

theorem Braceless.netBraces_eq (hs : Braceless s) : netBraces s = 0 := by
  rw [netBraces, List.count_eq_zero.2 hs.1, List.count_eq_zero.2 hs.2]
  rfl

theorem braceless_of_isAllBlank (hs : isAllBlank s = true) : Braceless s :=
  ⟨not_mem_of_isBlank_eq_false hs (by decide), not_mem_of_isBlank_eq_false hs (by decide)⟩

theorem Text.IsName.braceless (hs : IsName s) : Braceless s :=
  ⟨not_mem_of_isWord_eq_false hs.word (by decide), not_mem_of_isWord_eq_false hs.word (by decide)⟩

theorem exists_eq_append_trim (s : List Char) : ∃ x y, Braceless x ∧ Braceless y ∧
    s = x ++ (trim s ++ y) := by
  obtain ⟨x, y, hx, hy, hs⟩ := exists_append_trim_append s
  exact ⟨x, y, braceless_of_isAllBlank hx, braceless_of_isAllBlank hy, hs⟩

/-! ### Balance -/

/-- The braces of a text match, and no closing brace stands before its opening one. -/
structure IsBalanced (s : List Char) : Prop where
  /-- There are as many opening braces as closing ones. -/
  total : netBraces s = 0
  /-- No part from the start has more closing braces than opening ones. -/
  height : ∀ k, 0 ≤ netBraces (s.take k)

theorem isBalanced_iff :
    IsBalanced s ↔ netBraces s = 0 ∧ ∀ k < s.length, 0 ≤ netBraces (s.take k) := by
  refine ⟨fun h => ⟨h.total, fun k _ => h.height k⟩, fun ⟨total, height⟩ => ⟨total, fun k => ?_⟩⟩
  by_cases hk : k < s.length
  · exact height k hk
  · have hall : netBraces (s.take k) = 0 := by
      rw [List.take_of_length_le (Nat.le_of_not_lt hk), total]
    exact Int.le_of_eq hall.symm

instance : Decidable (IsBalanced s) := decidable_of_iff _ isBalanced_iff.symm

theorem Braceless.isBalanced (hs : Braceless s) : IsBalanced s :=
  ⟨hs.netBraces_eq, fun k => Int.le_of_eq (hs.take k).netBraces_eq.symm⟩

theorem IsBalanced.append (hs : IsBalanced s) (ht : IsBalanced t) : IsBalanced (s ++ t) := by
  refine ⟨?_, fun k => ?_⟩
  · rw [netBraces_append, hs.total, ht.total]
    rfl
  · rw [List.take_append, netBraces_append]
    exact Int.add_nonneg (hs.height k) (ht.height _)

/-- A balanced text between braces is balanced. -/
theorem IsBalanced.block (hs : IsBalanced s) : IsBalanced ('{' :: (s ++ ['}'])) := by
  have htotal : netBraces ('{' :: (s ++ ['}'])) = 0 := by
    rw [netBraces_cons, netBraces_append, hs.total]
    rfl
  refine isBalanced_iff.2 ⟨htotal, fun k hk => ?_⟩
  cases k with
  | zero => exact Int.le_refl 0
  | succ k =>
    have hk' : k ≤ s.length := by
      rw [List.length_cons, List.length_append, List.length_singleton] at hk
      omega
    have hopen : netBraces ['{'] = 1 := rfl
    have hheight := hs.height k
    rw [List.take_succ_cons, List.take_append_of_le_length hk', netBraces_cons, hopen]
    omega

/-- A balanced text between two texts with one brace each. -/
theorem IsBalanced.enclose {x y x' y' : List Char} (hs : IsBalanced s)
    (hx : Braceless x) (hy : Braceless y) (hx' : Braceless x') (hy' : Braceless y') :
    IsBalanced (x ++ '{' :: y ++ (s ++ (x' ++ '}' :: y'))) := by
  have hinner : IsBalanced (y ++ (s ++ x')) := hy.isBalanced.append (hs.append hx'.isBalanced)
  have happ : x ++ '{' :: y ++ (s ++ (x' ++ '}' :: y')) =
      x ++ (('{' :: (y ++ (s ++ x') ++ ['}'])) ++ y') := by simp
  rw [happ]
  exact hx.isBalanced.append (hinner.block.append hy'.isBalanced)

/-! ### Depth over a text -/

theorem depthOver?_append :
    depthOver? d (s ++ t) = (depthOver? d s).bind fun d' => depthOver? d' t := by
  induction s generalizing d with
  | nil => rfl
  | cons c s ih =>
    rw [List.cons_append, depthOver?, depthOver?]
    split
    · rfl
    · exact ih

theorem depthOver?_of_braceless (hs : Braceless s) : depthOver? d s = some d := by
  induction s generalizing d with
  | nil => rfl
  | cons c s ih =>
    have ho : c ≠ '{' := fun h => hs.1 (h ▸ List.mem_cons_self)
    have hc : c ≠ '}' := fun h => hs.2 (h ▸ List.mem_cons_self)
    have hd : depthAfter d c = d := by rw [depthAfter, if_neg ho, if_neg hc]
    rw [depthOver?, if_neg fun h => hc h.1, hd]
    exact ih ⟨fun h => hs.1 (List.mem_cons_of_mem _ h), fun h => hs.2 (List.mem_cons_of_mem _ h)⟩

/-- A character closes a block if it brings the depth down to zero. -/
theorem closes_iff (hd : 0 < d) : c = '}' ∧ depthAfter d c = 0 ↔ ¬ 0 < d + netBraces [c] := by
  rw [← depthAfter_eq]
  by_cases hc : c = '}'
  · subst hc
    have hdepth : depthAfter d '}' = d - 1 := rfl
    simp only [hdepth, true_and]
    omega
  · have hdepth : d ≤ depthAfter d c := by
      rw [depthAfter, if_neg hc]
      split <;> omega
    exact ⟨fun h => absurd h.1 hc, fun h => absurd (Int.lt_of_lt_of_le hd hdepth) h⟩

/-- **A text leaves a block open exactly if no part of it closes the block**: the depth behind each
part from the start is positive. -/
theorem depthOver?_eq_some_iff (hd : 0 < d) :
    depthOver? d s = some d' ↔ (∀ k, 0 < d + netBraces (s.take k)) ∧ d' = d + netBraces s := by
  induction s generalizing d with
  | nil => simp [depthOver?, hd, eq_comm]
  | cons c s ih =>
    rw [depthOver?]
    split
    · next hc =>
      have hneg := (closes_iff hd).1 hc
      simp only [reduceCtorEq, false_iff, not_and]
      intro h
      exact absurd (h 1) hneg
    · next hc =>
      have hpos : 0 < d + netBraces [c] := Decidable.not_not.1 (mt (closes_iff hd).2 hc)
      have hparts : (∀ k, 0 < d + netBraces [c] + netBraces (s.take k)) ↔
          ∀ k, 0 < d + netBraces ((c :: s).take k) := by
        refine ⟨fun h k => ?_, fun h k => ?_⟩
        · cases k with
          | zero => simpa using hd
          | succ k =>
            rw [List.take_succ_cons, netBraces_cons, ← Int.add_assoc]
            exact h k
        · have hk := h (k + 1)
          rwa [List.take_succ_cons, netBraces_cons, ← Int.add_assoc] at hk
      rw [depthAfter_eq, ih hpos, hparts, netBraces_cons (s := s), Int.add_assoc]

theorem IsBalanced.depthOver? (hs : IsBalanced s) (hd : 0 < d) : depthOver? d s = some d := by
  refine (depthOver?_eq_some_iff hd).2 ⟨fun k => ?_, ?_⟩
  · have hk := hs.height k
    omega
  · rw [hs.total, Int.add_zero]

/-! ### Where a block is closed -/

theorem closingOffset?_append {lines rest : List (List Char)}
    (h : depthOver? d lines.flatten = some d') :
    closingOffset? d (lines ++ rest) = (closingOffset? d' rest).map (· + lines.length) := by
  induction lines generalizing d with
  | nil =>
    obtain rfl : d = d' := by simpa [depthOver?] using h
    simp
  | cons line lines ih =>
    rw [List.flatten_cons, depthOver?_append] at h
    obtain ⟨d₁, hline, hlines⟩ := Option.bind_eq_some_iff.1 h
    rw [List.cons_append, closingOffset?, hline]
    show (closingOffset? d₁ (lines ++ rest)).map (· + 1) = _
    rw [ih hlines, Option.map_map]
    rfl

/-- **Where a block around balanced lines is closed**: on the line behind them, if that starts with
a closing brace. -/
theorem closingOffset_block {x y x' y' : List Char} {body rest : List (List Char)}
    (hx : Braceless x) (hy : Braceless y) (hbody : IsBalanced body.flatten) (hx' : Braceless x') :
    closingOffset ((x ++ '{' :: y) :: (body ++ (x' ++ '}' :: y') :: rest)) = body.length + 1 := by
  have hopen : depthOver? 0 (x ++ '{' :: y) = some 1 := by
    rw [depthOver?_append, depthOver?_of_braceless hx]
    exact depthOver?_of_braceless hy
  have hinner : depthOver? 0 ((x ++ '{' :: y) :: body).flatten = some 1 := by
    rw [List.flatten_cons, depthOver?_append, hopen]
    exact hbody.depthOver? (by decide)
  have hclose : depthOver? 1 (x' ++ '}' :: y') = none := by
    rw [depthOver?_append, depthOver?_of_braceless hx']
    rfl
  rw [closingOffset, ← List.cons_append, closingOffset?_append hinner, closingOffset?, hclose]
  simp

/-- In front of the line that closes a block, the depth is positive. -/
theorem depth_pos_of_le {rest : List (List Char)} {j : Nat} (hd : 0 < d)
    (hj : j ≤ (closingOffset? d rest).getD rest.length) :
    0 < d + netBraces (rest.take j).flatten := by
  induction rest generalizing d j with
  | nil => simpa using hd
  | cons line rest ih =>
    cases j with
    | zero => simpa using hd
    | succ j =>
      -- A line that closes the block is the last one in question, so there is none behind it.
      rw [closingOffset?] at hj
      cases hline : depthOver? d line with
      | none =>
        rw [hline] at hj
        exact absurd hj (Nat.not_succ_le_zero j)
      | some d' =>
        obtain ⟨hparts, hd'⟩ := (depthOver?_eq_some_iff hd).1 hline
        have hpos := hparts line.length
        rw [List.take_length, ← hd'] at hpos
        have hj' : j ≤ (closingOffset? d' rest).getD rest.length := by
          rw [hline] at hj
          cases h : closingOffset? d' rest with
          | none => simpa [h] using hj
          | some m => simpa [h] using hj
        rw [List.take_succ_cons, List.flatten_cons, netBraces_append, ← Int.add_assoc, ← hd']
        exact ih hpos hj'

/-- **Inside of a block the depth is positive**, counted from the line that opens it. -/
theorem depth_pos_of_le_closingOffset {x y : List Char} {rest : List (List Char)} {j : Nat}
    (hx : Braceless x) (hy : Braceless y) (hj : j < closingOffset ((x ++ '{' :: y) :: rest)) :
    0 < 1 + netBraces (rest.take j).flatten := by
  have hopen : depthOver? 0 (x ++ '{' :: y) = some 1 := by
    rw [depthOver?_append, depthOver?_of_braceless hx]
    exact depthOver?_of_braceless hy
  refine depth_pos_of_le (by decide) ?_
  rw [closingOffset, closingOffset?, hopen] at hj
  cases h : closingOffset? 1 rest with
  | none =>
    have hj' : j < rest.length := by simpa [h] using hj
    exact Nat.le_of_lt hj'
  | some m =>
    have hj' : j < m + 1 := by simpa [h] using hj
    exact Nat.le_of_lt_succ hj'

/-! ### Where a block is opened -/

theorem openingOffset?_append {blanks rest : List (List Char)}
    (hb : ∀ line ∈ blanks, isAllBlank line = true) :
    openingOffset? (blanks ++ rest) = (openingOffset? rest).map (· + blanks.length) := by
  induction blanks with
  | nil => simp
  | cons line blanks ih =>
    have hline : trim line = [] := trim_of_isAllBlank (hb line List.mem_cons_self)
    rw [List.cons_append, openingOffset?, hline, ih fun l hl => hb l (List.mem_cons_of_mem _ hl)]
    simp [Function.comp_def, Nat.add_assoc]

/-- An opening brace stands alone on its line, behind so many blank lines. -/
inductive BraceAlone : Nat → List (List Char) → Prop
  /-- The lines are the blank ones, the line of the brace and those below. -/
  | mk {blanks below : List (List Char)} {brace : List Char}
    (hblanks : ∀ line ∈ blanks, isAllBlank line = true) (hbrace : trim brace = ['{']) :
    BraceAlone blanks.length (blanks ++ brace :: below)

/-- **The search for an opening brace** finds one that stands alone on the first line that is not
blank. -/
theorem openingOffset?_eq_some_iff {lines : List (List Char)} {n : Nat} :
    openingOffset? lines = some n ↔ BraceAlone n lines := by
  refine ⟨fun h => ?_, fun h => ?_⟩
  · induction lines generalizing n with
    | nil => exact absurd h (by simp [openingOffset?])
    | cons line rest ih =>
      rw [openingOffset?] at h
      split at h
      · next htrim =>
        obtain ⟨m, hm, rfl⟩ := Option.map_eq_some_iff.1 h
        obtain ⟨hblanks, hbrace⟩ := ih hm
        exact .mk (List.forall_mem_cons.2 ⟨isAllBlank_of_trim htrim, hblanks⟩) hbrace
      · next htrim =>
        obtain rfl := Option.some.inj h
        exact .mk (List.forall_mem_nil _) htrim
      · exact absurd h (by simp)
  · cases h with
    | @mk blanks below brace hblanks hbrace =>
      rw [openingOffset?_append hblanks, openingOffset?, hbrace]
      exact congrArg some (Nat.zero_add blanks.length)

/-- The search ends on a line with one opening brace and no other brace, behind lines without
braces. -/
theorem exists_of_openingOffset?_eq_some {lines : List (List Char)} {n : Nat}
    (h : openingOffset? lines = some n) :
    ∃ front x y below, Braceless front.flatten ∧ Braceless x ∧ Braceless y ∧ front.length = n ∧
      lines = front ++ (x ++ '{' :: y) :: below := by
  cases openingOffset?_eq_some_iff.1 h with
  | @mk blanks below brace hblanks hbrace =>
    obtain ⟨x, y, hx, hy, hline⟩ := exists_eq_append_trim brace
    have hfront : Braceless blanks.flatten := by
      refine braceless_of_isAllBlank (isAllBlank_iff.2 fun c hc => ?_)
      obtain ⟨line, hl, hc⟩ := List.mem_flatten.1 hc
      exact isAllBlank_iff.1 (hblanks line hl) c hc
    rw [hbrace] at hline
    exact ⟨blanks, x, y, below, hfront, hx, hy, rfl, by rw [hline]; rfl⟩

theorem openingOffset?_of_isAllBlank {blanks : List (List Char)}
    (hb : ∀ line ∈ blanks, isAllBlank line = true) : openingOffset? blanks = none := by
  rw [← List.append_nil blanks, openingOffset?_append hb]
  rfl

/-- The brace is found on a line where it stands alone. -/
theorem openingOffset?_brace {rest : List (List Char)} (hs : isAllBlank s = true)
    (ht : isAllBlank t = true) : openingOffset? ((s ++ '{' :: t) :: rest) = some 0 := by
  have htrim : trim (s ++ '{' :: t) = ['{'] :=
    trim_append_append hs (tight_singleton (by decide)) ht
  rw [openingOffset?, htrim]
  rfl

/-- Any other text ends the search. -/
theorem openingOffset?_of_ne {rest : List (List Char)} (hs : isAllBlank s = true)
    (hblank : isBlank c = false) (hc : c ≠ '{') :
    openingOffset? ((s ++ c :: t) :: rest) = none := by
  have htrim : trim (s ++ c :: t) = c :: trimEnd t := by
    rw [trim, trimStart_append hs, trimStart_cons_of_not_blank hblank,
      trimEnd_cons_of_not_blank hblank]
  rw [openingOffset?, htrim]
  split
  · next h => exact absurd h (by simp)
  · next h => exact absurd (List.cons.inj h).1 hc
  · rfl

end ScriptSuite
