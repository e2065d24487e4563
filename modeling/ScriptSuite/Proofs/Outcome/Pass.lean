import ScriptSuite.Proofs.Outcome.OutOfBand
import ScriptSuite.Proofs.Text.Blank
import ScriptSuite.Proofs.Text.Word

/-!
# What a passing test printed

Behind the output of a passing test the runner script writes the coverage dump and the pass word.
The reader takes the dump out and then the first pass word it comes to. If the test printed that
word itself, the word of the test is the one that goes, and the one of the script stays. This can be
seen in what is kept, unless the test printed nothing but the word, with the same blanks behind it
each time: then all of them look alike.

## Main definitions

* `Text.Repeats`: a text once or more often
* `Outcome.passOutput`: the output of a passing test
* `Outcome.IsEcho`: the test printed nothing but the pass word, evenly spaced

## Main results

* `Text.trim_append_comm_iff`: when it does not matter at which end of a text a word stands
* `Outcome.ofOutput_passOutput`: what is told of a passing test, and when its output is kept
-/

namespace ScriptSuite

/-! ### Repeated texts -/

namespace Text

variable {p g s m h w : List Char}

/-- The text is a unit, once or more often. -/
inductive Repeats (unit : List Char) : List Char → Prop
  /-- The unit once. -/
  | once : Repeats unit unit
  /-- The unit once more. -/
  | again {s : List Char} (h : Repeats unit s) : Repeats unit (unit ++ s)

theorem Repeats.append_comm (h : Repeats p s) : s ++ p = p ++ s := by
  induction h with
  | once => rfl
  | again _ ih => rw [List.append_assoc, ih]

theorem Repeats.exists_eq_append (h : Repeats p s) : ∃ m, s = p ++ m := by
  cases h with
  | once => exact ⟨[], (List.append_nil p).symm⟩
  | again => exact ⟨_, rfl⟩

/-- A word that may stand behind a text, or in front of it with blanks in between, with the same
result: the text repeats the word with these blanks. -/
theorem repeats_of_append_eq (hp : p ≠ []) (hu : Unbordered p)
    (hhead : ∀ c, p.head? = some c → isBlank c = false) (hg : isAllBlank g = true)
    (h : p ++ g ++ m = m ++ (p ++ s)) : Repeats (p ++ g) (p ++ g ++ m) := by
  -- Blanks do not start with the word.
  have hblank {r y : List Char} (hr : isAllBlank r = true) (he : p ++ s = r ++ y) : r = [] := by
    cases r with
    | nil => rfl
    | cons c r =>
      obtain ⟨d, t, rfl⟩ := List.exists_cons_of_ne_nil hp
      obtain ⟨rfl, -⟩ := List.cons.inj he
      have hc := hhead d rfl
      rw [isAllBlank_iff.1 hr d List.mem_cons_self] at hc
      exact absurd hc (by simp)
  induction hn : m.length using Nat.strongRecOn generalizing m with
  | ind n ih =>
    rcases List.append_eq_append_iff.1 h with ⟨e, rfl, he⟩ | ⟨r, hpg, hps⟩
    · have hpos : 0 < p.length := List.length_pos_iff.2 hp
      exact .again (ih e.length (by simp only [List.length_append] at hn; omega) he rfl)
    · rcases List.append_eq_append_iff.1 hpg with ⟨a, rfl, rfl⟩ | ⟨b, rfl, rfl⟩
      · rw [isAllBlank_append, Bool.and_eq_true] at hg
        obtain rfl := hblank hg.2 hps
        rw [List.append_nil]
        exact .again .once
      · cases m with
        | nil => simpa using Repeats.once
        | cons c m =>
          cases b with
          | nil =>
            obtain rfl := hblank hg hps
            rw [List.append_nil, List.append_nil]
            exact .again .once
          | cons d b =>
            -- The word would end as it starts.
            have hpre : d :: b <+: c :: m ++ d :: b ++ s := by
              rw [hps, List.append_assoc]
              exact List.prefix_append _ _
            have hpre : d :: b <+: c :: m ++ d :: b :=
              List.prefix_of_prefix_length_le hpre (List.prefix_append _ s)
                (by simp only [List.length_append]; omega)
            exact absurd (hu.eq_nil (List.cons_ne_nil _ _) hpre) (List.cons_ne_nil _ _)

/-- **When it does not matter at which end of a text a word stands**, blanks at the ends apart. -/
theorem trim_append_comm_iff (hp : p ≠ []) (hu : Unbordered p) (ht : Tight p) :
    trim (w ++ p) = trim (p ++ w) ↔
      ∃ g, isAllBlank g = true ∧ Repeats (p ++ g) (p ++ w) := by
  constructor
  · intro h
    obtain ⟨g, hg, hw⟩ := exists_append_trimStart w
    obtain ⟨s, hs, hpw⟩ := exists_trimEnd_append (p ++ w)
    refine ⟨g, hg, ?_⟩
    have hleft : trim (w ++ p) = trimStart w ++ p := by
      rw [trim, ht.append_trimStart, ht.trimEnd_append hp]
    have hright : trim (p ++ w) = trimEnd (p ++ w) := by
      rw [trim, ht.trimStart_append hp]
    have happ : p ++ g ++ trimStart w = trimStart w ++ (p ++ s) := by
      rw [List.append_assoc, ← hw, hpw, ← hright, ← h, hleft, List.append_assoc]
    have hrep := repeats_of_append_eq hp hu ht.head hg happ
    rwa [List.append_assoc, ← hw] at hrep
  · rintro ⟨g, hg, hrep⟩
    have hcomm : w ++ (p ++ g) = g ++ (p ++ w) := by
      rw [← List.append_right_inj p]
      simpa using hrep.append_comm
    calc trim (w ++ p) = trim (w ++ p ++ g) := (trim_append hg).symm
      _ = trim (g ++ (p ++ w)) := by rw [List.append_assoc, hcomm]
      _ = trim (p ++ w) := append_trim hg

end Text

open Text

/-! ### The coverage dump of a passing test -/

namespace DumpReading

theorem step_ofText_of_isAllBlank {r : DumpReading} {line : List Char}
    (h : isAllBlank line = true) : r.step (DumpLine.ofText (trim line)) = r := by
  rw [trim_of_isAllBlank h]
  rfl

end DumpReading

namespace CoverageMap

theorem foldl_step_lines {ps : List (List Char)} {r : DumpReading} (h : ∀ p ∈ ps, '\r' ∉ p) :
    ((lines.go ps).map fun line => DumpLine.ofText (trim line)).foldl DumpReading.step r =
      (ps.map fun line => DumpLine.ofText (trim line)).foldl DumpReading.step r := by
  induction ps generalizing r with
  | nil => rfl
  | cons p ps ih =>
    cases ps with
    | nil =>
      rw [lines.go]
      split
      · next hp =>
        have hblank : isAllBlank p = true := by rw [List.isEmpty_iff.1 hp]; rfl
        exact (DumpReading.step_ofText_of_isAllBlank hblank).symm
      · rfl
    | cons q ps =>
      have hp : dropReturn p = p := by
        refine if_neg fun hlast => h p List.mem_cons_self ?_
        exact List.mem_of_getLast? hlast
      rw [lines.go, hp]
      · exact ih fun p hp => h p (List.mem_cons_of_mem _ hp)
      · exact List.cons_ne_nil q ps

/-- For a dump without carriage returns, the pieces between its line feeds are as good as its
lines. -/
theorem ofDump_eq_pieces {dump : List Char} (h : '\r' ∉ dump) : ofDump dump =
    (((pieces dump).map fun line => DumpLine.ofText (trim line)).foldl
      DumpReading.step {}).map := by
  rw [ofDump, lines, foldl_step_lines fun p hp hr => h (mem_of_mem_pieces hp hr)]

/-- Line feeds around a dump do not matter. -/
theorem ofDump_newlines {dump : List Char} (h : '\r' ∉ dump) :
    ofDump ('\n' :: (dump ++ ['\n'])) = ofDump dump := by
  have hempty (r : DumpReading) : r.step (DumpLine.ofText (trim [])) = r := rfl
  rw [ofDump_eq_pieces (by simpa using h), ofDump_eq_pieces h, pieces, if_pos rfl,
    pieces_concat_newline, List.map_cons, List.foldl_cons, hempty, List.map_append,
    List.foldl_append]
  rfl

end CoverageMap

/-! ### The output of a passing test -/

namespace Outcome

variable {t d : String}

/-- The output of a passing test that printed `t`, with the coverage dump `d`. -/
def passOutput (t d : String) : String :=
  t ++ Section.dump.start ++ ("\n" ++ d ++ "\n") ++ Section.dump.stop ++ "\nPASS\n"

/-- The test printed nothing but the pass word, with the same blanks behind it each time; the last
one has the line feed of the script among them. -/
def IsEcho (t : List Char) : Prop :=
  ∃ g, isAllBlank g = true ∧ Repeats (passWord ++ g) (trimStart (t ++ ['\n']))

theorem unbordered_passWord : Unbordered passWord := by decide

theorem tight_passWord : Tight passWord := by
  refine ⟨fun c hc => ?_, fun c hc => ?_⟩
  · obtain rfl : 'P' = c := Option.some.inj hc
    decide
  · obtain rfl : 'S' = c := Option.some.inj hc
    decide

/-- What is left of the output of the test and the pass word of the script when the first pass word
is taken away. -/
def kept (t : List Char) : List Char :=
  trim (replaceFirst passWord [] (trimStart (t ++ ['\n']) ++ passWord))

section Kept

variable {t : List Char}

/-- The output of a test that does not print the word is kept. -/
theorem kept_of_not_infix (h : ¬ passWord <:+: t) : kept t = trim t := by
  obtain ⟨x, -, hx⟩ := exists_append_trimStart (t ++ ['\n'])
  have hnot : ¬ passWord <:+: trimStart (t ++ ['\n']) := by
    intro hin
    have hin' : passWord <:+: t ++ ['\n'] := by
      rw [hx]
      exact List.infix_append_of_infix_right hin
    rcases (infix_append_cons_iff (by decide)).1 hin' with hin' | hin'
    · exact h hin'
    · exact absurd hin' (by decide)
  have hcut : cut passWord (trimStart (t ++ ['\n']) ++ passWord) =
      some (trimStart (t ++ ['\n']), []) := by
    simpa using cut_append_append (y := []) (by decide) unbordered_passWord hnot
  rw [kept, replaceFirst, hcut]
  simp only [List.append_nil]
  rw [trim_trimStart, trim_append (by decide)]

theorem kept_of_cut {x y : List Char}
    (h : cut passWord (trimStart (t ++ ['\n'])) = some (x, y)) :
    kept t = trim (x ++ (y ++ passWord)) := by
  rw [kept, replaceFirst, cut_append h]
  simp

/-- Where the word does not stand in front of all else, something goes that is not put back. -/
theorem trim_append_passWord_ne {x y : List Char} (hx : x ≠ [])
    (h : trimStart (t ++ ['\n']) = x ++ (passWord ++ y)) :
    trim (x ++ (y ++ passWord)) ≠ trim t := by
  intro heq
  have htrim (z : List Char) : trimStart (x ++ z) = x ++ z := by
    obtain ⟨c, x, rfl⟩ := List.exists_cons_of_ne_nil hx
    exact trimStart_cons_of_not_blank (isBlank_eq_false_of_head?_trimStart (by rw [h]; rfl))
  have hleft : trim (x ++ (y ++ passWord)) = x ++ (y ++ passWord) := by
    rw [trim, htrim, ← List.append_assoc, tight_passWord.trimEnd_append (by decide)]
  have hright : trim t = trimEnd (x ++ (passWord ++ y)) := by
    rw [← trim_append (show isAllBlank ['\n'] = true by decide), trim, h]
  -- Both have the same length only if nothing was trimmed, but the line feed was.
  obtain ⟨z, -, hz⟩ := exists_trimEnd_append (x ++ (passWord ++ y))
  rw [← hright, ← heq, hleft] at hz
  have hlen := congrArg List.length hz
  simp only [List.length_append] at hlen
  have hz' : z = [] := List.length_eq_zero_iff.1 (by omega)
  have hlast : (trimStart (t ++ ['\n'])).getLast? = some 'S' := by
    rw [h, hz, hz']
    simp [passWord]
  obtain ⟨x', -, hx'⟩ := exists_append_trimStart (t ++ ['\n'])
  have hfeed : (t ++ ['\n']).getLast? = some 'S' := by
    rw [hx', List.getLast?_append, hlast]
    rfl
  simp at hfeed

/-- **The output of a test that prints the word is kept only if the test prints nothing else.** -/
theorem kept_eq_trim_iff (h : passWord <:+: t) : kept t = trim t ↔ IsEcho t := by
  obtain ⟨x, hx, hsplit⟩ := exists_append_trimStart (t ++ ['\n'])
  have hin : passWord <:+: trimStart (t ++ ['\n']) := by
    have hmem : 'P' ∉ x := not_mem_of_isBlank_eq_false hx (by decide)
    have hin : passWord <:+: t ++ ['\n'] := List.infix_append_of_infix_left h
    rw [hsplit] at hin
    exact (infix_append_iff_of_not_mem hmem).1 hin
  rw [← cut_isSome_iff_infix] at hin
  obtain ⟨⟨a, b⟩, hcut⟩ := Option.isSome_iff_exists.1 hin
  have hword : passWord ≠ [] := by decide
  have happ := eq_append_of_cut hcut
  rw [kept_of_cut hcut]
  by_cases ha : a = []
  · subst ha
    rw [List.nil_append] at happ ⊢
    rw [IsEcho, happ, ← trim_append_comm_iff hword unbordered_passWord tight_passWord, ← happ,
      trim_trimStart, trim_append (show isAllBlank ['\n'] = true by decide)]
  · refine iff_of_false (trim_append_passWord_ne ha happ) ?_
    rintro ⟨g, -, hrep⟩
    obtain ⟨m, hm⟩ := hrep.exists_eq_append
    rw [hm, List.append_assoc, cut_append_self hword] at hcut
    exact ha (Prod.mk.inj (Option.some.inj hcut)).1.symm

end Kept

/-! ### The outcome of a passing test -/

theorem trim_append_pass (t : List Char) :
    trim (t ++ "\nPASS\n".toList) = trimStart (t ++ ['\n']) ++ passWord := by
  have happ : t ++ "\nPASS\n".toList = t ++ ['\n'] ++ passWord ++ ['\n'] := by
    rw [List.append_assoc, List.append_assoc]
    exact congrArg (t ++ ·) (by decide)
  rw [happ, trim_append (show isAllBlank ['\n'] = true by decide), trim,
    tight_passWord.append_trimStart, tight_passWord.trimEnd_append (by decide)]

theorem ofText_append_pass (t : List Char) :
    ofText (t ++ "\nPASS\n".toList) (some 0) false =
      { status := .passed
        rawOutput := some (String.ofList (kept t))
        warnings := Warning.ofOutput (trimStart (t ++ ['\n']) ++ passWord) } := by
  have hpass : isPass (trimStart (t ++ ['\n']) ++ passWord) (some 0) false = true := by
    have hcontains : contains passWord (trimStart (t ++ ['\n']) ++ passWord) = true :=
      contains_iff_infix.2 (List.suffix_append _ _).isInfix
    rw [isPass, hcontains]
    rfl
  rw [ofText, trim_append_pass, hpass, if_pos rfl, kept]

/-- **What is told of a passing test**: that it passed, which lines it executed, and what it
printed. What it printed is kept exactly if the pass word does not occur in it, or nothing else
does. -/
theorem ofOutput_passOutput (t d : String) (ht : '\r' ∉ t.toList) (hd : '\r' ∉ d.toList)
    (hstart : occursIn Section.dump.start t = false)
    (hstop : occursIn Section.dump.stop d = false) :
    (ofOutput (passOutput t d) (some 0) false).status = .passed ∧
      (ofOutput (passOutput t d) (some 0) false).message = "" ∧
      (ofOutput (passOutput t d) (some 0) false).error = none ∧
      (ofOutput (passOutput t d) (some 0) false).coverage = some (CoverageMap.ofDump d.toList) ∧
      ((ofOutput (passOutput t d) (some 0) false).rawOutput = some (trimmed t) ↔
        contains passWord t.toList = false ∨ IsEcho t.toList) := by
  have hbody : ("\n" ++ d ++ "\n").toList = '\n' :: (d.toList ++ ['\n']) := by simp
  -- The line feeds that the script adds are no part of the marker.
  have hstop : ¬ Section.dump.stop.toList <:+: ("\n" ++ d ++ "\n").toList := by
    have hfeed : '\n' ∉ Section.dump.stop.toList := by decide
    have hempty : ¬ Section.dump.stop.toList <:+: [] := by decide
    rw [hbody, ← List.nil_append ('\n' :: _), infix_append_cons_iff hfeed,
      infix_append_cons_iff hfeed]
    simpa [hempty] using not_infix_iff_occursIn.2 hstop
  rw [passOutput, ofOutput_of_dump ht (by simpa [hbody] using hd) (by decide)
      (not_infix_iff_occursIn.2 hstart) hstop, ofText_append_pass, hbody,
    CoverageMap.ofDump_newlines hd]
  refine ⟨rfl, rfl, rfl, rfl, ?_⟩
  show some (String.ofList (kept t.toList)) = some (String.ofList (trim t.toList)) ↔ _
  rw [Option.some_inj, String.ofList_inj]
  cases hword : contains passWord t.toList with
  | false =>
    rw [← Bool.not_eq_true, contains_iff_infix] at hword
    simpa using kept_of_not_infix hword
  | true =>
    have hin : passWord <:+: t.toList := by rwa [← contains_iff_infix]
    simpa using kept_eq_trim_iff hin

/-- A test that prints the pass word twice, with a line feed behind each: nothing is lost. -/
theorem ofOutput_passOutput_echo :
    '\r' ∉ "PASS\nPASS".toList ∧ '\r' ∉ "---- C:\\a.ahk\n002: F()".toList ∧
      occursIn Section.dump.start "PASS\nPASS" = false ∧
      occursIn Section.dump.stop "---- C:\\a.ahk\n002: F()" = false ∧
      (ofOutput (passOutput "PASS\nPASS" "---- C:\\a.ahk\n002: F()") (some 0) false).rawOutput =
        some (trimmed "PASS\nPASS") := by
  have ht : '\r' ∉ "PASS\nPASS".toList := by decide
  have hd : '\r' ∉ "---- C:\\a.ahk\n002: F()".toList := by decide
  have hstart : occursIn Section.dump.start "PASS\nPASS" = false := by decide
  have hstop : occursIn Section.dump.stop "---- C:\\a.ahk\n002: F()" = false := by decide
  have hecho : IsEcho "PASS\nPASS".toList := ⟨['\n'], by decide, .again .once⟩
  exact ⟨ht, hd, hstart, hstop,
    (ofOutput_passOutput _ _ ht hd hstart hstop).2.2.2.2.2 (Or.inr hecho)⟩

/-- A test that prints `PASS one`: its own word is taken for the word of the script, and the word of
the script is told as output of the test. -/
theorem ofOutput_passOutput_own_word :
    '\r' ∉ "PASS one\n".toList ∧ '\r' ∉ "".toList ∧
      occursIn Section.dump.start "PASS one\n" = false ∧ occursIn Section.dump.stop "" = false ∧
      trimmed "PASS one\n" = "PASS one" ∧
      (ofOutput (passOutput "PASS one\n" "") (some 0) false).rawOutput = some "one\n\nPASS" := by
  refine ⟨by decide, by decide, by decide, by decide, by decide, ?_⟩
  decide +kernel

end Outcome

end ScriptSuite
