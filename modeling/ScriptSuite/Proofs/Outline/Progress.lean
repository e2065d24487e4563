import ScriptSuite.Proofs.Outline.Nesting

/-!
# The reading of a class body makes progress

The body of a class lies between the line with its opening brace and the line that closes it. The
reading comes to stand at a line of the body, takes what is declared there together with its block,
and goes on behind that. Where the block lies is found without a look at the class around it: the
opening brace is searched past blank lines, and the end by a count of braces that starts anew. The
block still ends in the body or on the line that closes the class. So the reading only moves
forward, it never goes on further than one line behind the class, and the body of a class in it is
read on fewer lines. All of this is so whatever the braces look like, also if the class, the block
in it or both are never closed.

## Main definitions

* `declaredBlock?`: the block of what is declared on a line of a class body
* `resumeLine`: where the reading goes on behind a line
* `StaysInside`: what is declared on a line of a class body stays in it
* `StandsAt`: the lines at which the reading of a class body comes to stand

## Main results

* `LineReading.staysInside`: what one step of the reading does
* `StandsAt.bounds`, `StandsAt.exists_end`: where the reading comes to stand, and where it ends
* `LineReading.standsAt_of_eq_cls`: the reading of the body of a class
-/

namespace ScriptSuite

open Text

variable {i k o c count j : Nat} {first : List Char} {name : String}
  {lines rest : List (List Char)} {block inner : Block}

/-! ### The block of a declaration -/

/-- The block of a method, if it has one. -/
def MethodHeader.block? (h : MethodHeader) (lines : List (List Char)) : Option Block :=
  match h.body with
  | .arrow => none
  | .braced => Block.find? true lines
  | .later => Block.find? false lines

theorem MethodHeader.lastOffset_eq (h : MethodHeader) (lines : List (List Char)) :
    h.lastOffset lines = ((h.block? lines).map Block.closing).getD 0 := by
  rw [lastOffset, block?]
  cases h.body <;> rfl

theorem MethodHeader.opensIn_of_block? {h : MethodHeader} (hs : ofLine? first = some h)
    (hblock : h.block? (first :: rest) = some block) : block.OpensIn (first :: rest) := by
  have hbrace := hasBrace_of_ofLine? hs
  rw [block?] at hblock
  cases hbody : h.body with
  | arrow => exact absurd hblock (by simp [hbody])
  | braced =>
    rw [hbody] at hbrace hblock
    exact Block.opensIn_of_find? (hbrace MethodBody.noConfusion) hblock
  | later =>
    rw [hbody] at hbrace hblock
    exact Block.opensIn_of_find? (hbrace MethodBody.noConfusion) hblock

/-- The block of what the first of the lines declares in a class: that of a class, or that of a
method, if it has one. -/
def declaredBlock? (lines : List (List Char)) : Option Block :=
  match LineReading.ofLines lines with
  | .cls _ block => some block
  | .method .. => (lines.head?.bind MethodHeader.ofLine?).bind fun h => h.block? lines
  | .directive | .other => none

theorem opensIn_of_declaredBlock? (h : declaredBlock? lines = some block) :
    block.OpensIn lines := by
  rw [declaredBlock?] at h
  cases hread : LineReading.ofLines lines with
  | directive => exact absurd h (by simp [hread])
  | other => exact absurd h (by simp [hread])
  | cls name inner =>
    rw [hread] at h
    obtain rfl := Option.some.inj h
    exact LineReading.opensIn_of_eq_cls hread
  | method name last =>
    obtain ⟨first, rest, header, rfl, hheader, -, -⟩ := LineReading.exists_of_eq_method hread
    rw [hread, List.head?_cons, Option.bind_some, hheader, Option.bind_some] at h
    exact MethodHeader.opensIn_of_block? hheader h

/-- What is declared ends where its block is closed, or on its first line. -/
theorem last_eq_of_declaredBlock? (lines : List (List Char)) :
    (LineReading.ofLines lines).last true =
      ((declaredBlock? lines).map Block.closing).getD 0 := by
  rw [declaredBlock?]
  cases hread : LineReading.ofLines lines with
  | directive => rfl
  | other => rfl
  | cls name block => rfl
  | method name last =>
    obtain ⟨first, rest, header, rfl, hheader, -, rfl⟩ := LineReading.exists_of_eq_method hread
    rw [List.head?_cons, Option.bind_some, hheader, Option.bind_some,
      ← MethodHeader.lastOffset_eq]
    rfl

theorem Block.OpensIn.closing_eq (h : block.OpensIn lines) :
    block.closing = block.opening + closingOffset (lines.drop block.opening) := by
  cases h with
  | mk => rw [List.drop_left]

/-! ### One step -/

/-- The line at which the reading of a class body goes on behind line `i`. -/
def resumeLine (lines : List (List Char)) (i : Nat) : Nat :=
  i + (LineReading.ofLines (lines.drop i)).last true + 1

/-- From line `i` on the lines up to line `c` are read as what line `i` declares, if anything, and
then as what is read from where the reading goes on. -/
theorem Declaration.exists_ofLines_eq (ignored : Bool) (hi : i < c) :
    ∃ ds ignored', (∀ d ∈ ds, IsRead (lines.drop i) i d) ∧
      ofLines true ignored i (c - i) (lines.drop i) =
        ds ++ ofLines true ignored' (resumeLine lines i) (c - resumeLine lines i)
          (lines.drop (resumeLine lines i)) := by
  have hcount : c - i = c - i - 1 + 1 := by omega
  have hbehind : ∀ last, lines.drop (i + last + 1) = (lines.drop i).drop (last + 1) := by
    intro last
    rw [List.drop_drop, Nat.add_assoc]
  have hleft : ∀ last, c - (i + last + 1) = c - i - 1 - last := by omega
  rw [resumeLine, hbehind, hleft, hcount]
  cases hlines : lines.drop i with
  | nil => exact ⟨[], ignored, by simp, by simp⟩
  | cons first rest =>
    rw [List.drop_succ_cons]
    cases hread : LineReading.ofLines (first :: rest) with
    | directive => exact ⟨[], true, by simp, ofLines_directive hread⟩
    | other => exact ⟨[], ignored, by simp, ofLines_other hread⟩
    | cls name block =>
      refine ⟨[_], false, ?_, ofLines_cls hread⟩
      rintro d hd
      obtain rfl := List.mem_singleton.1 hd
      exact .cls hread
    | method name last =>
      refine ⟨[_], false, ?_, ofLines_method hread⟩
      rintro d hd
      obtain rfl := List.mem_singleton.1 hd
      exact .method hread

/-- What is declared on line `i` stays in the class body between lines `o` and `c`. -/
structure StaysInside (lines : List (List Char)) (o c i : Nat) : Prop where
  /-- The block of the declaration opens on its line or below, and is closed between there and the
  end of the body. -/
  block : ∀ inner, declaredBlock? (lines.drop i) = some inner →
    i + inner.opening ≤ i + inner.closing ∧ i + inner.closing ≤ c ∧
      i + inner.closing = i + inner.opening + closingOffset (lines.drop (i + inner.opening))
  /-- The reading goes on further down. -/
  forward : i < resumeLine lines i
  /-- It goes on no further than one line behind the body. -/
  behind : resumeLine lines i ≤ c + 1
  /-- The body of a class on the line starts further down, ends in this body and has fewer
  lines. -/
  smaller : ∀ name inner, LineReading.ofLines (lines.drop i) = .cls name inner →
    o < i + inner.opening ∧ i + inner.closing ≤ c ∧
      i + inner.closing - (i + inner.opening) - 1 < c - o - 1
  /-- The rest of the body is read as what the line declares and what is read from where the reading
  goes on. -/
  reads : ∀ ignored, ∃ ds ignored', (∀ d ∈ ds, Declaration.IsRead (lines.drop i) i d) ∧
    Declaration.ofLines true ignored i (c - i) (lines.drop i) =
      ds ++ Declaration.ofLines true ignored' (resumeLine lines i) (c - resumeLine lines i)
        (lines.drop (resumeLine lines i))

/-- From each of its lines on, a scope is one up to its end. -/
theorem IsScope.drop (h : IsScope true count lines) (hj : j ≤ count) :
    IsScope true (count - j) (lines.drop j) := by
  cases h with
  | body hd lines =>
    obtain ⟨e, he, hclosed⟩ := exists_closingFrom_drop hd hj
    rw [← hclosed]
    exact .body he _
  | empty =>
    rw [Nat.zero_sub]
    exact .empty _ _

namespace LineReading

/-- **What one step of the reading does.** On every line of a class body, whether the reading comes
to stand there or not, what is declared stays in the body. -/
theorem staysInside (h : ofLines (lines.drop k) = .cls name block) (hi : k + block.opening < i)
    (hic : i < k + block.closing) :
    StaysInside lines (k + block.opening) (k + block.closing) i := by
  have hbody : IsScope true (block.closing - block.opening - 1)
      (lines.drop (k + block.opening + 1)) := by
    have hscope := (opensIn_of_eq_cls h).isScope
    rwa [List.drop_drop, ← Nat.add_assoc] at hscope
  -- The rest of the body is a scope as well, and what is declared in a scope ends in it.
  have hlast : (ofLines (lines.drop i)).last true ≤ k + block.closing - i := by
    have hrest := hbody.drop (j := i - (k + block.opening + 1)) (by omega)
    rw [List.drop_drop, Nat.add_sub_cancel' hi] at hrest
    have hle := hrest.last_le (by omega)
    omega
  have hinner : ∀ inner, declaredBlock? (lines.drop i) = some inner →
      inner.opening ≤ inner.closing ∧ i + inner.closing ≤ k + block.closing := by
    intro inner hinner
    have hclosing : (ofLines (lines.drop i)).last true = inner.closing := by
      rw [last_eq_of_declaredBlock?, hinner]
      rfl
    exact ⟨(opensIn_of_declaredBlock? hinner).opening_le, by omega⟩
  refine ⟨fun inner hblock => ?_, ?_, ?_, fun name inner hread => ?_, fun ignored => ?_⟩
  · obtain ⟨hopening, hclosing⟩ := hinner inner hblock
    have hend := (opensIn_of_declaredBlock? hblock).closing_eq
    rw [List.drop_drop] at hend
    exact ⟨by omega, hclosing, by omega⟩
  · exact Nat.lt_succ_of_le (Nat.le_add_right i _)
  · rw [resumeLine]
    omega
  · obtain ⟨hopening, hclosing⟩ := hinner inner (by rw [declaredBlock?, hread])
    exact ⟨by omega, hclosing, by omega⟩
  · exact Declaration.exists_ofLines_eq ignored hic

end LineReading

/-! ### The whole reading -/

/-- The reading of the lines from line `start` on and up to line `stop` comes to stand at a line. -/
inductive StandsAt (lines : List (List Char)) (start stop : Nat) : Nat → Prop
  /-- It starts at the first of them. -/
  | start : StandsAt lines start stop start
  /-- It goes on behind what is declared on a line, unless it is at the end. -/
  | resume {i : Nat} (h : StandsAt lines start stop i) (hi : i < stop) :
      StandsAt lines start stop (resumeLine lines i)

namespace StandsAt

/-- **The reading of a class body comes to stand between the opening brace and the line behind the
class.** -/
theorem bounds (hoc : o ≤ c) (hinside : ∀ i, o < i → i < c → StaysInside lines o c i)
    (h : StandsAt lines (o + 1) c i) : o < i ∧ i ≤ c + 1 := by
  induction h with
  | start => omega
  | @resume i h hic ih =>
    have hstep := hinside i ih.1 hic
    exact ⟨Nat.lt_trans ih.1 hstep.forward, hstep.behind⟩

/-- From every line where it stands, the reading comes to an end. -/
theorem exists_end {start stop : Nat} (h : StandsAt lines start stop i) :
    ∃ last, StandsAt lines start stop last ∧ stop ≤ last := by
  induction hn : stop - i using Nat.strongRecOn generalizing i with
  | ind n ih =>
    by_cases hi : i < stop
    · have hforward : i < resumeLine lines i := Nat.lt_succ_of_le (Nat.le_add_right i _)
      exact ih (stop - resumeLine lines i) (by omega) (h.resume hi) rfl
    · exact ⟨i, h, Nat.le_of_not_lt hi⟩

end StandsAt

namespace LineReading

/-- **The reading of a class body makes progress.** A class that is read on line `k` has its opening
brace on line `o` and is closed on line `c`, as the count of braces from line `o` on says. On every
line between the two, what is declared stays in the body of the class: its block is closed there or
on line `c`, the reading goes on further down and at most one line behind `c`, and the body of a
class has fewer lines. The members of the class are what is read from line `o + 1` on, and that
reading comes to stand at lines up to `c + 1` only, at last at `c` or `c + 1`. -/
theorem standsAt_of_eq_cls (h : ofLines (lines.drop k) = .cls name block) :
    let o := k + block.opening
    let c := k + block.closing
    o ≤ c ∧ c < lines.length ∧ c = o + closingOffset (lines.drop o) ∧
      (∀ i, o < i → i < c → StaysInside lines o c i) ∧
      block.members (lines.drop k) k =
        Declaration.ofLines true false (o + 1) (c - (o + 1)) (lines.drop (o + 1)) ∧
      (∀ i, StandsAt lines (o + 1) c i → o < i ∧ i ≤ c + 1) ∧
      ∃ last, StandsAt lines (o + 1) c last ∧ c ≤ last := by
  intro o c
  have hopens := opensIn_of_eq_cls h
  have hoc : o ≤ c := Nat.add_le_add_left hopens.opening_le k
  have hlength : c < lines.length := by
    have hlt := hopens.closing_lt_length
    rw [List.length_drop] at hlt
    omega
  have hclosing : c = o + closingOffset (lines.drop o) := by
    have heq := hopens.closing_eq
    rw [List.drop_drop] at heq
    show k + block.closing = k + block.opening + closingOffset (lines.drop (k + block.opening))
    omega
  have hinside : ∀ i, o < i → i < c → StaysInside lines o c i := fun i hi hic =>
    staysInside h hi hic
  have hmembers : block.members (lines.drop k) k =
      Declaration.ofLines true false (o + 1) (c - (o + 1)) (lines.drop (o + 1)) := by
    have hcount : c - (o + 1) = block.closing - block.opening - 1 := by omega
    rw [Block.members_drop, hcount]
  exact ⟨hoc, hlength, hclosing, hinside, hmembers, fun i hi => hi.bounds hoc hinside,
    StandsAt.start.exists_end⟩

/-- A class that is never closed, with a method whose brace is searched past an empty line and is
never closed either. -/
def unclosedLines : List (List Char) :=
  ["class A \x7b", "    Test()", "", "    \x7b"].map String.toList

theorem standsAt_of_eq_cls_unclosedLines :
    ofLines (unclosedLines.drop 0) = .cls "A" ⟨0, 3⟩ ∧
      declaredBlock? (unclosedLines.drop 1) = some ⟨2, 2⟩ ∧ resumeLine unclosedLines 1 = 4 ∧
      StaysInside unclosedLines 0 3 1 ∧ ∀ i, StandsAt unclosedLines 1 3 i → 0 < i ∧ i ≤ 4 := by
  have hread : ofLines (unclosedLines.drop 0) = .cls "A" ⟨0, 3⟩ := by decide
  obtain ⟨-, -, -, hinside, -, hbounds, -⟩ := standsAt_of_eq_cls hread
  exact ⟨hread, by decide, by decide, hinside 1 (by decide) (by decide), hbounds⟩

end LineReading

end ScriptSuite
