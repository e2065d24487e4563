import ScriptSuite.Proofs.Text.Find
import ScriptSuite.Run.Script

/-!
# Filling in a template

The markers of a template are filled in one after the other, each in a text that may already hold
what was put in for the others. All the same this is a substitution at one go: a marker is found
where it stands first in the template.

Two facts carry this. A marker starts with a character that it does not hold elsewhere, so markers
never overlap. And what is put in for a marker holds no later marker and completes none: the setting
for warnings and the line that includes the file start with a character that no marker has, and the
latter ends with one, too. The file between them must not hold the marker of the call, for that one
is looked for afterwards.

## Main definitions

* `Template.written`: the text of slots with given texts for their markers
* `Template.IsFilledIn`: the first occurrence of each marker is replaced, and nothing else
* `Template.Inert`: a text neither holds a marker nor helps to complete it

## Main results

* `Template.exists_isCut`: a text that holds the markers, cut at their first occurrences
* `Template.IsCut.fill_written`: filling in one more marker
* `Template.isFilledIn_script`: the script of a test
-/

namespace ScriptSuite.Template

open Text

/-- Texts, each with the marker behind it. -/
abbrev Slots := List (List Char × Marker)

/-- The text of slots, with a text for each marker. -/
def written (value : Marker → String) (slots : Slots) : List Char :=
  slots.flatMap fun (front, m) => front ++ (value m).toList

/-- The first occurrence of each marker in a text is replaced, all of them at one go: the text is
cut at these occurrences, which do not overlap, and what stands between them is kept. -/
def IsFilledIn (value : Marker → String) (s result : List Char) : Prop :=
  ∃ (slots : Slots) (tail : List Char),
    (slots.map Prod.snd).Perm Marker.all ∧
    s = written Marker.text slots ++ tail ∧
    (∀ before front m behind, slots = before ++ (front, m) :: behind →
      cut m.text.toList s =
        some (written Marker.text before ++ front, written Marker.text behind ++ tail)) ∧
    result = written value slots ++ tail

/-- What is put in for the markers to make the script of a test: the setting for warnings, a line
that includes the test file, with slashes for the backslashes in its path, and the call of the
method on a new object of the innermost class. -/
def inserted (warnings : WarningMode) (test : TestId) : Marker → String
  | .warn =>
    match warnings with
    | .off => "#Warn All, Off"
    | .report | .fail => "#Warn All, StdOut"
  | .includeFile =>
    "#Include \"" ++ String.ofList (test.file.toList.map fun c => if c = '\\' then '/' else c) ++
      "\""
  | .call => ".".intercalate test.classes ++ "()." ++ test.method ++ "()"

variable {m m' : Marker} {ms : List Marker} {s p tail : List Char} {slots before behind : Slots}
  {value : Marker → String}

theorem inserted_warn (warnings : WarningMode) (test : TestId) :
    inserted warnings test .warn = warnings.directive := by
  cases warnings <;> rfl

theorem inserted_includeFile (warnings : WarningMode) (test : TestId) :
    inserted warnings test .includeFile = includeLine test.file := rfl

theorem inserted_call (warnings : WarningMode) (test : TestId) :
    inserted warnings test .call = test.callChain := rfl

/-- The script of a test is made by filling in these texts, one after the other. -/
theorem toList_script (t : Template) (warnings : WarningMode) (test : TestId) :
    (t.script warnings test).toList =
      fill .call (inserted warnings test .call) (fill .includeFile
        (inserted warnings test .includeFile) (fill .warn (inserted warnings test .warn)
          t.content.toList)) := by
  rw [script, render, String.toList_ofList, inserted_warn, inserted_includeFile, inserted_call]

theorem written_append (value : Marker → String) (before behind : Slots) :
    written value (before ++ behind) = written value before ++ written value behind :=
  List.flatMap_append

theorem written_cons (value : Marker → String) (front : List Char) (m : Marker) (behind : Slots) :
    written value ((front, m) :: behind) =
      front ++ ((value m).toList ++ written value behind) := by
  rw [written, List.flatMap_cons, List.append_assoc]
  rfl

/-! ### Texts that do not matter for a marker -/

/-- A text neither holds a marker nor helps to complete it. -/
def Inert (m : Marker) (v : List Char) : Prop :=
  ∀ x y, m.text.toList <:+: x ++ (v ++ y) → m.text.toList <:+: x ∨ m.text.toList <:+: y

/-- A marker is a semicolon and no further one. -/
theorem exists_text_eq_cons (m : Marker) : ∃ r, m.text.toList = ';' :: r ∧ ';' ∉ r := by
  cases m
  · exact ⟨"@ahkunit-warn".toList, by decide, by decide⟩
  · exact ⟨"@ahkunit-include".toList, by decide, by decide⟩
  · exact ⟨"@ahkunit-call".toList, by decide, by decide⟩

theorem text_ne_nil (m : Marker) : m.text.toList ≠ [] := by
  obtain ⟨r, hr, -⟩ := exists_text_eq_cons m
  rw [hr]
  exact List.cons_ne_nil _ _

theorem unbordered_text (m : Marker) : Unbordered m.text.toList := by
  cases m <;> decide

theorem not_mem_text {c : Char} (h : c ∈ ['#', '"', '/', '\\']) (m : Marker) :
    c ∉ m.text.toList := by
  simp only [List.mem_cons, List.not_mem_nil, or_false] at h
  rcases h with rfl | rfl | rfl | rfl <;> cases m <;> decide

/-- No marker starts another one. -/
theorem eq_of_text_prefix_text (h : m.text.toList <+: m'.text.toList) : m = m' := by
  revert h
  cases m <;> cases m' <;> decide

/-- An occurrence of a marker does not reach into a text that starts with a semicolon. -/
theorem infix_append_semicolon (h : m.text.toList <:+: p ++ ';' :: s) :
    m.text.toList <:+: p ∨ m.text.toList <:+: ';' :: s := by
  obtain ⟨r, hr, hnot⟩ := exists_text_eq_cons m
  rcases List.infix_append_iff.1 h with hp | hs | ⟨l₁, l₂, hl, h₁, h₂⟩
  · exact Or.inl hp
  · exact Or.inr hs
  · cases l₁ with
    | nil => exact Or.inr (by rw [hl]; exact h₂.isInfix)
    | cons d l₁ =>
      obtain ⟨rfl, rfl⟩ := List.cons.inj (hr.symm.trans hl)
      cases l₂ with
      | nil =>
        rw [hl, List.append_nil]
        exact Or.inl h₁.isInfix
      | cons e l₂ =>
        obtain ⟨rfl, -⟩ := List.cons_prefix_cons.1 h₂
        exact absurd (List.mem_append_right _ List.mem_cons_self) hnot

/-- Markers do not matter for each other. -/
theorem inert_text (h : m ≠ m') : Inert m m'.text.toList := by
  intro x y hin
  obtain ⟨r, hr, -⟩ := exists_text_eq_cons m
  obtain ⟨r', hr', hnot'⟩ := exists_text_eq_cons m'
  rw [hr', List.cons_append] at hin
  rcases infix_append_semicolon hin with hx | hy
  · exact Or.inl hx
  · rcases List.infix_cons_iff.1 hy with hpre | hy
    · rw [← List.cons_append, ← hr'] at hpre
      rcases List.prefix_or_prefix_of_prefix hpre (List.prefix_append _ y) with hpre | hpre
      · exact absurd (eq_of_text_prefix_text hpre) h
      · exact absurd (eq_of_text_prefix_text hpre).symm h
    · rw [hr] at hy ⊢
      exact Or.inr ((infix_append_iff_of_not_mem hnot').1 hy)

/-- A text that starts with a character that no marker has, and goes on without semicolons. -/
theorem inert_cons {v : List Char} (h : ';' ∉ v) (m : Marker) : Inert m ('#' :: v) := by
  intro x y hin
  obtain ⟨r, hr, -⟩ := exists_text_eq_cons m
  rcases (infix_append_cons_iff (not_mem_text (by simp) m)).1 hin with hx | hy
  · exact Or.inl hx
  · rw [hr] at hy ⊢
    exact Or.inr ((infix_append_iff_of_not_mem h).1 hy)

theorem inert_directive (warnings : WarningMode) (m : Marker) :
    Inert m warnings.directive.toList := by
  cases warnings
  · exact inert_cons (v := "Warn All, Off".toList) (by decide) m
  · exact inert_cons (v := "Warn All, StdOut".toList) (by decide) m
  · exact inert_cons (v := "Warn All, StdOut".toList) (by decide) m

/-- A text that starts with a character that no marker has, and ends with one. -/
theorem inert_cons_concat {v : List Char} (h : ¬ m.text.toList <:+: v) :
    Inert m ('#' :: (v ++ ['"'])) := by
  intro x y hin
  rcases (infix_append_cons_iff (not_mem_text (by simp) m)).1 hin with hx | hy
  · exact Or.inl hx
  · have hy : m.text.toList <:+: v ++ '"' :: y := by simpa using hy
    rcases (infix_append_cons_iff (not_mem_text (by simp) m)).1 hy with hv | hy
    · exact absurd hv h
    · exact Or.inr hy

/-- Turning backslashes into slashes makes no marker. -/
theorem infix_of_infix_forwardSlashes (h : m.text.toList <:+: forwardSlashes s) :
    m.text.toList <:+: s := by
  obtain ⟨l, hl, hmap⟩ := List.infix_map_iff.1 h
  have hkeep : ∀ c ∈ l, (if c = '\\' then '/' else c) = c := by
    intro c hc
    refine if_neg fun hback => not_mem_text (c := '/') (by simp) m ?_
    rw [hmap]
    exact List.mem_map.2 ⟨c, hc, if_pos hback⟩
  rw [hmap, List.map_congr_left hkeep, List.map_id']
  exact hl

theorem inert_includeLine {file : String} (h : ¬ m.text.toList <:+: file.toList) :
    Inert m (includeLine file).toList := by
  have hline : (includeLine file).toList =
      '#' :: ("Include \"".toList ++ forwardSlashes file.toList ++ ['"']) := by
    simp [includeLine]
  have hfile : ¬ m.text.toList <:+: "Include \"".toList ++ forwardSlashes file.toList := by
    obtain ⟨r, hr, -⟩ := exists_text_eq_cons m
    rw [hr, infix_append_iff_of_not_mem (by decide), ← hr]
    exact fun hin => h (infix_of_infix_forwardSlashes hin)
  rw [hline]
  exact inert_cons_concat hfile

/-! ### Cutting a text at its markers -/

/-- A text is cut at the first occurrences of some markers. -/
structure IsCut (ms : List Marker) (s : List Char) (slots : Slots) (tail : List Char) : Prop where
  /-- There is one slot for each marker. -/
  perm : (slots.map Prod.snd).Perm ms
  /-- Put together again, the slots make the text. -/
  eq_written : s = written Marker.text slots ++ tail
  /-- A marker does not occur in front of its slot. -/
  first : ∀ before front m behind, slots = before ++ (front, m) :: behind →
    ¬ m.text.toList <:+: written Marker.text before ++ front

/-- The marker that comes first in a text. -/
theorem exists_first (h : ∃ m ∈ ms, m.text.toList <:+: s) :
    ∃ m ∈ ms, ∃ front rest, s = front ++ (m.text.toList ++ rest) ∧
      ∀ m' ∈ ms, ¬ m'.text.toList <:+: front := by
  induction s with
  | nil =>
    obtain ⟨m, -, hin⟩ := h
    exact absurd (List.infix_nil.1 hin) (text_ne_nil m)
  | cons c s ih =>
    by_cases hpre : ∃ m ∈ ms, m.text.toList <+: c :: s
    · obtain ⟨m, hm, rest, hrest⟩ := hpre
      refine ⟨m, hm, [], rest, hrest.symm, fun m' _ hin => ?_⟩
      exact text_ne_nil m' (List.infix_nil.1 hin)
    · obtain ⟨m₀, hm₀, hin₀⟩ := h
      have hin₀ := (List.infix_cons_iff.1 hin₀).resolve_left fun hp => hpre ⟨m₀, hm₀, hp⟩
      obtain ⟨m, hm, front, rest, rfl, hfront⟩ := ih ⟨m₀, hm₀, hin₀⟩
      refine ⟨m, hm, c :: front, rest, rfl, fun m' hm' hin => ?_⟩
      rcases List.infix_cons_iff.1 hin with hp | hin
      · exact hpre ⟨m', hm', hp.trans (List.prefix_append (c :: front) _)⟩
      · exact hfront m' hm' hin

theorem exists_isCut (hms : ms.Nodup) (h : ∀ m ∈ ms, m.text.toList <:+: s) :
    ∃ slots tail, IsCut ms s slots tail := by
  induction hn : ms.length generalizing ms s with
  | zero =>
    obtain rfl := List.length_eq_zero_iff.1 hn
    exact ⟨[], s, .refl _, rfl, by simp⟩
  | succ n ih =>
    -- The text is cut at the marker that comes first; the others stand behind it.
    obtain ⟨m₀, hm₀⟩ := List.exists_mem_of_length_pos (by omega : 0 < ms.length)
    obtain ⟨m, hm, front, rest, hs, hfront⟩ := exists_first ⟨m₀, hm₀, h m₀ hm₀⟩
    have hne {m'} (hm' : m' ∈ ms.erase m) : m' ≠ m := ((hms.mem_erase_iff).1 hm').1
    have hrest {m'} (hm' : m' ∈ ms.erase m) : m'.text.toList <:+: rest := by
      have hmem := List.mem_of_mem_erase hm'
      have hin := h m' hmem
      rw [hs] at hin
      exact (inert_text (hne hm') front rest hin).resolve_left (hfront m' hmem)
    obtain ⟨slots, tail, hcut⟩ := ih (hms.erase m) (fun m' hm' => hrest hm') (by
      rw [List.length_erase_of_mem hm, hn, Nat.add_sub_cancel])
    refine ⟨(front, m) :: slots, tail, ?_, ?_, ?_⟩
    · exact (hcut.perm.cons m).trans (List.perm_cons_erase hm).symm
    · rw [hs, written_cons, hcut.eq_written]
      simp
    · intro before front' m' behind hsplit
      cases before with
      | nil =>
        obtain ⟨⟨rfl, rfl⟩, rfl⟩ : (front = front' ∧ m = m') ∧ slots = behind := by
          simpa using hsplit
        exact hfront m hm
      | cons b before =>
        rw [List.cons_append, List.cons.injEq] at hsplit
        obtain ⟨rfl, hsplit⟩ := hsplit
        have hm' : m' ∈ ms.erase m := hcut.perm.mem_iff.1 (by simp [hsplit])
        rw [written_cons, List.append_assoc, List.append_assoc]
        intro hin
        rcases inert_text (hne hm') _ _ hin with hin | hin
        · exact hfront m' (List.mem_of_mem_erase hm') hin
        · exact hcut.first before front' m' behind hsplit hin

/-! ### Filling in -/

/-- What the markers are replaced by when some of them have been filled in. -/
def filled (value : Marker → String) (done : List Marker) (m : Marker) : String :=
  if m ∈ done then value m else m.text

theorem filled_cons_self (value : Marker → String) (done : List Marker) (m : Marker) :
    filled value (m :: done) m = value m := if_pos List.mem_cons_self

theorem filled_cons_of_ne {done : List Marker} (h : m' ≠ m) :
    filled value (m :: done) m' = filled value done m' := by
  simp [filled, h]

theorem written_congr {f g : Marker → String} (h : ∀ slot ∈ slots, f slot.2 = g slot.2) :
    written f slots = written g slots := by
  induction slots with
  | nil => rfl
  | cons slot slots ih =>
    rw [List.forall_mem_cons] at h
    rw [written_cons, written_cons, h.1, ih h.2]

/-- Inert texts make no occurrence of a marker that was not there in front of them. -/
theorem infix_of_infix_written {f : Marker → String} {front : List Char}
    (hinert : ∀ slot ∈ before, Inert m (f slot.2).toList)
    (h : m.text.toList <:+: written f before ++ front) :
    m.text.toList <:+: written Marker.text before ++ front := by
  induction before with
  | nil => exact h
  | cons slot before ih =>
    obtain ⟨p, m'⟩ := slot
    rw [List.forall_mem_cons] at hinert
    rw [written_cons, List.append_assoc, List.append_assoc] at h ⊢
    rcases hinert.1 _ _ h with h | h
    · exact List.infix_append_of_infix_left h
    · exact List.infix_append_of_infix_right
        (List.infix_append_of_infix_right (ih hinert.2 h))

namespace IsCut

variable (h : IsCut ms s slots tail) (hms : ms.Nodup)
include h hms

/-- A marker has one slot only. -/
theorem ne_of_mem {front : List Char} (hslots : slots = before ++ (front, m) :: behind) :
    (∀ slot ∈ before, slot.2 ≠ m) ∧ ∀ slot ∈ behind, slot.2 ≠ m := by
  have hnodup := h.perm.nodup_iff.2 hms
  rw [hslots, List.map_append, List.map_cons, List.nodup_append, List.nodup_cons] at hnodup
  obtain ⟨-, ⟨hbehind, -⟩, hbefore⟩ := hnodup
  exact ⟨fun slot hs => hbefore _ (List.mem_map_of_mem hs) m List.mem_cons_self,
    fun slot hs he => hbehind (List.mem_map.2 ⟨slot, hs, he⟩)⟩

omit hms in
theorem exists_slot (hm : m ∈ ms) :
    ∃ before front behind, slots = before ++ (front, m) :: behind := by
  obtain ⟨⟨front, m⟩, hslot, rfl⟩ := List.mem_map.1 (h.perm.mem_iff.2 hm)
  obtain ⟨before, behind, hslots⟩ := List.append_of_mem hslot
  exact ⟨before, front, behind, hslots⟩

/-- A marker is found in its slot, also if others have been filled in. -/
theorem cut_written {front : List Char} {done : List Marker}
    (hslots : slots = before ++ (front, m) :: behind) (hdone : m ∉ done)
    (hinert : ∀ m' ∈ done, Inert m (value m').toList) :
    cut m.text.toList (written (filled value done) slots ++ tail) =
      some (written (filled value done) before ++ front,
        written (filled value done) behind ++ tail) := by
  have hfront : ¬ m.text.toList <:+: written (filled value done) before ++ front := by
    refine fun hin => h.first before front m behind hslots (infix_of_infix_written ?_ hin)
    intro slot hs
    have hne := (h.ne_of_mem hms hslots).1 slot hs
    by_cases hd : slot.2 ∈ done
    · rw [filled, if_pos hd]
      exact hinert slot.2 hd
    · rw [filled, if_neg hd]
      exact inert_text hne.symm
  have hself : filled value done m = m.text := if_neg hdone
  rw [hslots, written_append, written_cons, hself]
  simpa using cut_append_append (y := written (filled value done) behind ++ tail)
    (text_ne_nil m) (unbordered_text m) hfront

/-- **Filling in one more marker.** Markers that have been filled in do not matter, as long as what
was put in for them is inert. -/
theorem fill_written {done : List Marker} (hm : m ∈ ms) (hdone : m ∉ done)
    (hinert : ∀ m' ∈ done, Inert m (value m').toList) :
    fill m (value m) (written (filled value done) slots ++ tail) =
      written (filled value (m :: done)) slots ++ tail := by
  obtain ⟨before, front, behind, hslots⟩ := h.exists_slot hm
  obtain ⟨hbefore, hbehind⟩ := h.ne_of_mem hms hslots
  have hfilled : written (filled value (m :: done)) slots =
      written (filled value done) before ++
        (front ++ ((value m).toList ++ written (filled value done) behind)) := by
    rw [hslots, written_append, written_cons, filled_cons_self,
      written_congr fun slot hs => filled_cons_of_ne (hbefore slot hs),
      written_congr fun slot hs => filled_cons_of_ne (hbehind slot hs)]
  rw [fill, replaceFirst, h.cut_written hms hslots hdone hinert, hfilled]
  simp

end IsCut

/-! ### Scripts -/

theorem content_of_ofText {text : String} {t : Template} (h : ofText text = .ok t) :
    t.content = text := by
  rw [ofText] at h
  split at h
  · cases h
  · cases h
    rfl

theorem ofText_eq_ok (text : String) (h : ∀ m ∈ Marker.all, occursIn m.text text = true) :
    ofText text = .ok ⟨text, h⟩ := by
  rw [ofText]
  split
  · next m hm =>
    have hlacks := List.find?_some hm
    rw [h m (List.mem_of_find?_eq_some hm)] at hlacks
    cases hlacks
  · rfl

/-- **The script of a test** is the template with the first occurrence of each marker replaced, all
of them at one go, if the path of the test file does not hold the marker of the call. -/
theorem isFilledIn_script {text : String} {t : Template} (warnings : WarningMode) (test : TestId)
    (ht : ofText text = .ok t) (hfile : occursIn Marker.call.text test.file = false) :
    IsFilledIn (inserted warnings test) text.toList (t.script warnings test).toList := by
  have hms : Marker.all.Nodup := by decide
  have hall : ∀ m, m ∈ Marker.all := by intro m; cases m <;> decide
  obtain ⟨slots, tail, hcut⟩ := exists_isCut (s := text.toList) hms fun m hm => by
    rw [← content_of_ofText ht, ← contains_iff_infix]
    exact t.complete m hm
  have hnone : filled (inserted warnings test) [] = Marker.text := by
    funext m
    exact if_neg List.not_mem_nil
  have hdone : filled (inserted warnings test) [.call, .includeFile, .warn] =
      inserted warnings test := by
    funext m
    cases m <;> rfl
  refine ⟨slots, tail, hcut.perm, hcut.eq_written, fun before front m behind hslots => ?_, ?_⟩
  · have hfound : cut m.text.toList (written (filled (inserted warnings test) []) slots ++ tail) =
        some (_, _) := hcut.cut_written hms hslots List.not_mem_nil nofun
    rwa [hnone, ← hcut.eq_written] at hfound
  · have hline : Inert .call (inserted warnings test .includeFile).toList := by
      rw [inserted_includeFile]
      exact inert_includeLine (not_infix_iff_occursIn.2 hfile)
    have hwarn (m : Marker) : Inert m (inserted warnings test .warn).toList := by
      rw [inserted_warn]
      exact inert_directive warnings m
    -- The markers are filled in in the order of the program: each value has to be inert for the
    -- markers that come after it.
    calc (t.script warnings test).toList
        = fill .call (inserted warnings test .call) (fill .includeFile
            (inserted warnings test .includeFile) (fill .warn (inserted warnings test .warn)
              (written (filled (inserted warnings test) []) slots ++ tail))) := by
          rw [hnone, ← hcut.eq_written, ← content_of_ofText ht, toList_script]
      _ = written (filled (inserted warnings test) [.call, .includeFile, .warn]) slots ++ tail := by
          rw [hcut.fill_written hms (hall _) List.not_mem_nil nofun,
            hcut.fill_written hms (hall _) (by decide) (by simpa using hwarn _),
            hcut.fill_written hms (hall _) (by decide) (by simpa using ⟨hline, hwarn _⟩)]
      _ = written (inserted warnings test) slots ++ tail := by rw [hdone]

/-- The markers stand in another order, one of them in the middle of what looks like one, and one of
them twice. -/
def crowdedText : String :=
  ";@ahkunit-;@ahkunit-callwarn ;@ahkunit-include;@ahkunit-warn;@ahkunit-call"

/-- The path of the file holds a marker that has been filled in by then. -/
def crowdedTest : TestId where
  file := "C:\\;@ahkunit-warn.ahk"
  classes := ["A", "B"]
  method := "M"

theorem isFilledIn_script_crowded :
    ∃ t, ofText crowdedText = .ok t ∧
      occursIn Marker.call.text crowdedTest.file = false ∧
      IsFilledIn (inserted .fail crowdedTest) crowdedText.toList
        (t.script .fail crowdedTest).toList := by
  have ht := ofText_eq_ok crowdedText (by decide)
  have hfile : occursIn Marker.call.text crowdedTest.file = false := by decide
  exact ⟨_, ht, hfile, isFilledIn_script .fail crowdedTest ht hfile⟩

end ScriptSuite.Template
