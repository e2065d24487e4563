import ScriptSuite.Proofs.Outline.Place

/-!
# Blocks inside of blocks

The end of a block is searched from its own opening brace, and the search knows nothing of the block
around it. It still never goes past the end of that block: an inner block is counted from a depth
that is smaller by what is open around it, so its count comes to zero first. Where no brace closes
the outer block, both run to the last line. So what is declared between the braces of a class takes
up lines between these braces only, whatever the braces look like.

## Main definitions

* `closingFrom`: where a block is closed that is open at some depth
* `Block.OpensIn`: the block of a header, as the braces on its lines show it
* `IsScope`: the lines that members are read from, between the braces of a class or in a whole file

## Main results

* `Block.OpensIn.closing_le`: an inner block is closed no later than the block around it
* `IsScope.last_le`: what is declared in a scope ends in it
* `IsScope.behind`, `Block.OpensIn.isScope`: behind a declaration and between the braces of a class
  there is a scope again
-/

namespace ScriptSuite

open Text

variable {d e : Int} {line first s : List Char} {lines rest below : List (List Char)}
  {block : Block} {name : String} {count j : Nat} {inClass : Bool}

/-! ### The end of a block that is open -/

/-- How many lines further a block is closed that is open at depth `d` in front of the lines; an
unclosed block runs to the last line. -/
def closingFrom (d : Int) (lines : List (List Char)) : Nat :=
  (closingOffset? d lines).getD (lines.length - 1)

theorem closingFrom_cons_of_closed (h : depthOver? d line = none) :
    closingFrom d (line :: rest) = 0 := by
  rw [closingFrom, closingOffset?, h]
  rfl

theorem closingFrom_singleton : closingFrom d [line] = 0 := by
  rw [closingFrom, closingOffset?]
  cases depthOver? d line <;> rfl

theorem closingFrom_cons_of_open (h : depthOver? d line = some e) (hrest : rest ≠ []) :
    closingFrom d (line :: rest) = closingFrom e rest + 1 := by
  have hlength : 0 < rest.length := List.length_pos_iff.2 hrest
  rw [closingFrom, closingFrom, closingOffset?, h]
  cases hclosed : closingOffset? e rest with
  | some n => simp [hclosed]
  | none =>
    simp only [hclosed, Option.map_none, Option.getD_none, List.length_cons]
    omega

theorem depth_pos_of_depthOver? (hd : 0 < d) (h : depthOver? d s = some e) : 0 < e := by
  obtain ⟨hparts, rfl⟩ := (depthOver?_eq_some_iff hd).1 h
  simpa using hparts s.length

/-- Lines without braces do not matter for where a block is closed. -/
theorem closingFrom_append_of_braceless {front : List (List Char)}
    (hfront : Braceless front.flatten)
    (hrest : rest ≠ []) : closingFrom d (front ++ rest) = front.length + closingFrom d rest := by
  induction front with
  | nil => simp
  | cons line front ih =>
    rw [List.flatten_cons, braceless_append] at hfront
    have hne : front ++ rest ≠ [] := List.append_ne_nil_of_right_ne_nil _ hrest
    rw [List.cons_append, closingFrom_cons_of_open (depthOver?_of_braceless hfront.1) hne,
      ih hfront.2, List.length_cons]
    omega

/-- **Where more is open, it is closed later.** -/
theorem closingFrom_mono (hd : 0 < d) (hde : d ≤ e) :
    closingFrom d lines ≤ closingFrom e lines := by
  induction lines generalizing d e with
  | nil => exact Nat.le_refl _
  | cons line rest ih =>
    cases h : depthOver? d line with
    | none =>
      rw [closingFrom_cons_of_closed h]
      exact Nat.zero_le _
    | some d' =>
      obtain ⟨hparts, hd'⟩ := (depthOver?_eq_some_iff hd).1 h
      -- The same line leaves the outer block open, and the depths differ as much behind it.
      have he : depthOver? e line = some (e + netBraces line) := by
        refine (depthOver?_eq_some_iff (by omega)).2 ⟨fun k => ?_, rfl⟩
        have := hparts k
        omega
      cases rest with
      | nil => exact Nat.le_of_eq (by rw [closingFrom_singleton, closingFrom_singleton])
      | cons line' rest =>
        rw [closingFrom_cons_of_open h (List.cons_ne_nil _ _),
          closingFrom_cons_of_open he (List.cons_ne_nil _ _)]
        exact Nat.succ_le_succ (ih (depth_pos_of_depthOver? hd h) (by omega))

theorem closingFrom_lt_length (h : lines ≠ []) : closingFrom d lines < lines.length := by
  induction lines generalizing d with
  | nil => exact absurd rfl h
  | cons line rest ih =>
    cases hline : depthOver? d line with
    | none =>
      rw [closingFrom_cons_of_closed hline]
      exact Nat.succ_pos _
    | some d' =>
      cases rest with
      | nil =>
        rw [closingFrom_singleton]
        exact Nat.succ_pos _
      | cons line' rest =>
        rw [closingFrom_cons_of_open hline (List.cons_ne_nil _ _)]
        exact Nat.succ_lt_succ (ih (List.cons_ne_nil _ _))

/-- In front of its end a block stays open. -/
theorem exists_closingFrom_drop (hd : 0 < d) (hj : j ≤ closingFrom d lines) :
    ∃ e, 0 < e ∧ closingFrom e (lines.drop j) = closingFrom d lines - j := by
  induction j generalizing d lines with
  | zero => exact ⟨d, hd, rfl⟩
  | succ j ih =>
    cases lines with
    | nil => exact absurd hj (by simp [closingFrom, closingOffset?])
    | cons line rest =>
      cases h : depthOver? d line with
      | none =>
        rw [closingFrom_cons_of_closed h] at hj
        exact absurd hj (Nat.not_succ_le_zero j)
      | some d' =>
        cases rest with
        | nil =>
          rw [closingFrom_singleton] at hj
          exact absurd hj (Nat.not_succ_le_zero j)
        | cons line' rest =>
          rw [closingFrom_cons_of_open h (List.cons_ne_nil _ _)] at hj ⊢
          obtain ⟨e, he, hclosed⟩ :=
            ih (depth_pos_of_depthOver? hd h) (Nat.le_of_succ_le_succ hj)
          exact ⟨e, he, by rw [List.drop_succ_cons, hclosed, Nat.add_sub_add_right]⟩

/-! ### The line of an opening brace -/

section Opening

variable {x y : List Char}

theorem depthOver?_opening (hx : Braceless x) (hy : Braceless y) :
    depthOver? d (x ++ '{' :: y) = some (d + 1) := by
  rw [depthOver?_append, depthOver?_of_braceless hx]
  exact depthOver?_of_braceless hy

/-- The lines behind an opening brace are those up to the end of its block. -/
theorem closingFrom_below (hx : Braceless x) (hy : Braceless y) :
    closingFrom 1 below = closingOffset ((x ++ '{' :: y) :: below) - 1 := by
  have hopen : depthOver? 0 (x ++ '{' :: y) = some 1 := depthOver?_opening hx hy
  show _ = closingFrom 0 _ - 1
  cases below with
  | nil => rw [closingFrom_singleton, closingFrom, closingOffset?]; rfl
  | cons line below =>
    rw [closingFrom_cons_of_open hopen (List.cons_ne_nil _ _), Nat.add_sub_cancel]

theorem closingOffset_le_closingFrom (hd : 0 < d) (hx : Braceless x) (hy : Braceless y) :
    closingOffset ((x ++ '{' :: y) :: below) ≤ closingFrom d ((x ++ '{' :: y) :: below) := by
  show closingFrom 0 _ ≤ _
  cases below with
  | nil => exact Nat.le_of_eq (by rw [closingFrom_singleton, closingFrom_singleton])
  | cons line below =>
    rw [closingFrom_cons_of_open (depthOver?_opening hx hy) (List.cons_ne_nil _ _),
      closingFrom_cons_of_open (depthOver?_opening hx hy) (List.cons_ne_nil _ _)]
    exact Nat.succ_le_succ (closingFrom_mono (by decide) (by omega))

end Opening

/-! ### The block of a header -/

/-- The block opens with the only brace on its line, no line of the header in front of it has a
brace, and its end is searched from there. -/
inductive Block.OpensIn : Block → List (List Char) → Prop
  /-- The lines are those in front of the brace, the line of the brace and those below. -/
  | mk {front below : List (List Char)} {x y : List Char} (hfront : Braceless front.flatten)
      (hx : Braceless x) (hy : Braceless y) :
      OpensIn ⟨front.length, front.length + closingOffset ((x ++ '{' :: y) :: below)⟩
        (front ++ (x ++ '{' :: y) :: below)

theorem Block.opensIn_of_find? {opens : Bool} (hbrace : ClassHeader.HasBrace opens first)
    (h : Block.find? opens (first :: rest) = some block) : block.OpensIn (first :: rest) := by
  obtain ⟨x, y, hx, hy, hline⟩ := hbrace
  cases opens with
  | true =>
    rw [Block.find?_true] at h
    obtain rfl := Option.some.inj h
    obtain rfl : first = x ++ '{' :: y := hline
    have hopens : OpensIn _ ([] ++ (x ++ '{' :: y) :: rest) := OpensIn.mk braceless_nil hx hy
    rwa [List.length_nil, Nat.zero_add] at hopens
  | false =>
    obtain rfl : first = x ++ y := hline
    rw [Block.find?, if_neg Bool.false_ne_true] at h
    obtain ⟨n, hn, rfl⟩ := Option.map_eq_some_iff.1 h
    obtain ⟨front, x', y', below, hfront, hx', hy', rfl, rfl⟩ :=
      exists_of_openingOffset?_eq_some hn
    rw [List.drop_left]
    have hfront' : Braceless ((x ++ y) :: front).flatten := by
      rw [List.flatten_cons]
      exact braceless_append.2 ⟨braceless_append.2 ⟨hx, hy⟩, hfront⟩
    exact OpensIn.mk hfront' hx' hy'

namespace Block.OpensIn

theorem opening_le (h : block.OpensIn lines) : block.opening ≤ block.closing := by
  cases h
  exact Nat.le_add_right _ _

/-- **An inner block is closed no later than the block around it.** -/
theorem closing_le (h : block.OpensIn lines) (hd : 0 < d) :
    block.closing ≤ closingFrom d lines := by
  cases h with
  | mk hfront hx hy =>
    rw [closingFrom_append_of_braceless hfront (List.cons_ne_nil _ _)]
    exact Nat.add_le_add_left (closingOffset_le_closingFrom hd hx hy) _

theorem closing_lt_length (h : block.OpensIn lines) : block.closing < lines.length := by
  cases h with
  | mk hfront hx hy =>
    rw [List.length_append]
    exact Nat.add_lt_add_left (closingFrom_lt_length (d := 0) (List.cons_ne_nil _ _)) _

end Block.OpensIn

/-! ### The block of a declaration -/

theorem LineReading.exists_of_eq_cls (h : LineReading.ofLines lines = .cls name block) :
    ∃ first rest header, lines = first :: rest ∧ ClassHeader.ofLine? first = some header ∧
      header.name = name ∧ Block.find? header.opens lines = some block := by
  cases lines with
  | nil => exact absurd h (by simp [LineReading.ofLines])
  | cons first rest =>
    rw [LineReading.ofLines] at h
    split at h
    · exact absurd h (by simp)
    · split at h
      · next hread =>
        obtain ⟨header, hheader, hfind⟩ := Option.bind_eq_some_iff.1 hread
        obtain ⟨b, hb, hpair⟩ := Option.map_eq_some_iff.1 hfind
        obtain ⟨rfl, rfl⟩ := Prod.mk.inj hpair
        obtain ⟨rfl, rfl⟩ := LineReading.cls.inj h
        exact ⟨first, rest, header, rfl, hheader, rfl, hb⟩
      · split at h <;> exact absurd h (by simp)

theorem LineReading.opensIn_of_eq_cls (h : LineReading.ofLines lines = .cls name block) :
    block.OpensIn lines := by
  obtain ⟨first, rest, header, rfl, hheader, -, hfind⟩ := LineReading.exists_of_eq_cls h
  exact Block.opensIn_of_find? (ClassHeader.hasBrace_of_ofLine? hheader) hfind

/-- A method ends on the line of its header, or with its block. -/
theorem MethodHeader.lastOffset_cases {h : MethodHeader} (hs : ofLine? first = some h) :
    h.lastOffset (first :: rest) = 0 ∨
      ∃ block : Block, block.OpensIn (first :: rest) ∧
        h.lastOffset (first :: rest) = block.closing := by
  have hbrace := hasBrace_of_ofLine? hs
  have hfind (opens : Bool) (ho : ClassHeader.HasBrace opens first) :
      ((Block.find? opens (first :: rest)).map Block.closing).getD 0 = 0 ∨
        ∃ block : Block, block.OpensIn (first :: rest) ∧
          ((Block.find? opens (first :: rest)).map Block.closing).getD 0 = block.closing := by
    cases hb : Block.find? opens (first :: rest) with
    | none => exact Or.inl rfl
    | some block => exact Or.inr ⟨block, Block.opensIn_of_find? ho hb, rfl⟩
  rw [lastOffset]
  cases hbody : h.body with
  | arrow => exact Or.inl rfl
  | braced =>
    rw [hbody] at hbrace
    exact hfind true (hbrace MethodBody.noConfusion)
  | later =>
    rw [hbody] at hbrace
    exact hfind false (hbrace MethodBody.noConfusion)

namespace LineReading

theorem exists_of_eq_method {last : Nat} (h : ofLines lines = .method name last) :
    ∃ first rest header, lines = first :: rest ∧ MethodHeader.ofLine? first = some header ∧
      header.name = name ∧ header.lastOffset lines = last := by
  cases lines with
  | nil => exact absurd h (by simp [ofLines])
  | cons first rest =>
    rw [ofLines] at h
    split at h
    · exact absurd h (by simp)
    · split at h
      · exact absurd h (by simp)
      · split at h
        · next header hheader =>
          obtain ⟨hname, hlast⟩ := LineReading.method.inj h
          exact ⟨first, rest, header, rfl, hheader, hname, hlast⟩
        · exact absurd h (by simp)

/-- What is read on a line ends there, or with the block of its header. -/
theorem last_cases (inClass : Bool) (lines : List (List Char)) :
    (ofLines lines).last inClass = 0 ∨
      ∃ block : Block, block.OpensIn lines ∧ (ofLines lines).last inClass = block.closing := by
  cases h : ofLines lines with
  | directive => exact Or.inl rfl
  | other => exact Or.inl rfl
  | cls name block => exact Or.inr ⟨block, opensIn_of_eq_cls h, rfl⟩
  | method name last =>
    obtain ⟨first, rest, header, rfl, hheader, -, rfl⟩ := exists_of_eq_method h
    cases inClass with
    | false => exact Or.inl rfl
    | true => exact MethodHeader.lastOffset_cases hheader

end LineReading

/-! ### Scopes -/

/-- The first `count` of the lines are what members are read from: the lines up to the end of the
class around them, or all lines of a file. -/
inductive IsScope : Bool → Nat → List (List Char) → Prop
  /-- All lines of a file. -/
  | file (lines : List (List Char)) : IsScope false lines.length lines
  /-- The lines in front of the end of a class. -/
  | body {d : Int} (hd : 0 < d) (lines : List (List Char)) :
    IsScope true (closingFrom d lines) lines
  /-- No line. -/
  | empty (inClass : Bool) (lines : List (List Char)) : IsScope inClass 0 lines

/-- Between the braces of a class there is a scope. -/
theorem Block.OpensIn.isScope (h : block.OpensIn lines) :
    IsScope true (block.closing - block.opening - 1) (lines.drop (block.opening + 1)) := by
  cases h with
  | @mk front below x y hfront hx hy =>
    have hbelow : (front ++ (x ++ '{' :: y) :: below).drop (front.length + 1) = below := by
      rw [← List.drop_drop, List.drop_left, List.drop_succ_cons, List.drop_zero]
    rw [hbelow, Nat.add_sub_cancel_left, ← closingFrom_below hx hy]
    exact IsScope.body (by decide) below

/-- **What is declared in a scope ends in it.** -/
theorem IsScope.last_le (h : IsScope inClass count lines) (hcount : 0 < count) :
    (LineReading.ofLines lines).last inClass ≤ count := by
  rcases LineReading.last_cases inClass lines with hlast | ⟨block, hopens, hlast⟩
  · omega
  · rw [hlast]
    cases h with
    | file lines => exact Nat.le_of_lt hopens.closing_lt_length
    | body hd lines => exact hopens.closing_le hd
    | empty => exact absurd hcount (Nat.lt_irrefl 0)

/-- **Behind a declaration there is a scope again.** -/
theorem IsScope.behind (h : IsScope inClass count lines) (hcount : 0 < count) :
    IsScope inClass (count - (LineReading.ofLines lines).last inClass - 1)
      (lines.drop ((LineReading.ofLines lines).last inClass + 1)) := by
  have hlast := h.last_le hcount
  generalize (LineReading.ofLines lines).last inClass = last at hlast ⊢
  rw [Nat.sub_sub]
  rcases Nat.eq_or_lt_of_le hlast with rfl | hlt
  · rw [Nat.sub_eq_zero_of_le (Nat.le_succ _)]
    exact IsScope.empty _ _
  · cases h with
    | file lines =>
      rw [← List.length_drop]
      exact IsScope.file _
    | body hd lines =>
      obtain ⟨e, he, hclosed⟩ := exists_closingFrom_drop hd hlt
      rw [← hclosed]
      exact IsScope.body he _
    | empty => exact absurd hcount (Nat.lt_irrefl 0)

end ScriptSuite
