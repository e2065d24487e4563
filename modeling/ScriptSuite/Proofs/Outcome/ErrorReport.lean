import ScriptSuite.Proofs.Outcome.OutOfBand
import ScriptSuite.Proofs.Outcome.Quote
import ScriptSuite.Proofs.Text.Blank

/-!
# Error reports of the runner script

The runner script reports a thrown error as an error section: a JSON object on a line of its own,
written by concatenation, with every text quoted by `quote`. The reader of outputs expects strict
JSON there.

The two agree on every report whose texts hold no control character besides tab, line feed and
carriage return. On any other report they do not: the quotation leaves the character as it is, the
object is no JSON, and the error that the script meant to report is lost.

## Main definitions

* `ErrorReport`: what the script knows of an error
* `ErrorReport.printed`: what the script prints for it
* `ErrorReport.IsPlain`: no text holds a control character that the quotation does not know

## Main results

* `ErrorReport.parse?_json`, `ErrorReport.parse?_json_of_not_isPlain`: the object as a payload
* `Outcome.status_ofOutput_printed`: a report makes a failed test exactly if it is plain, and then
  nothing of it is lost
-/

namespace ScriptSuite

open Text Json

/-- An error as the runner script sees it. -/
structure ErrorReport where
  /-- The type of the error. -/
  kind : String
  /-- The message. -/
  message : String
  /-- What the message is about; empty if nothing was given. -/
  extra : String
  /-- The call stack. -/
  stack : String
  /-- The file that the error was thrown from. -/
  file : String
  /-- The line that the error was thrown from, counted from one; zero if it is not known. -/
  line : UInt32

namespace ErrorReport

variable {r : ErrorReport} {m : List Char}

/-! ### What is printed -/

/-- The name of a member, quoted, with the colon behind it. -/
def label (name : String) : List Char :=
  '"' :: (name.toList ++ ['"', ':'])

/-- The member for what the message is about, with the comma in front of it; it is left out if
nothing was given. -/
def extraMember (r : ErrorReport) : List Char :=
  if r.extra = "" then [] else ',' :: (label "extra" ++ quote r.extra.toList)

/-- The object that the script writes. -/
def json (r : ErrorReport) : List Char :=
  '{' :: (label "type" ++ (quote r.kind.toList ++
  ',' :: (label "message" ++ (quote r.message.toList ++ (r.extraMember ++
  ',' :: (label "stack" ++ (quote r.stack.toList ++
  ',' :: (label "file" ++ (quote r.file.toList ++
  ',' :: (label "line" ++ (Nat.toDigits 10 r.line.toNat ++ ['}'])))))))))))

/-- The output of the script: an error section with the object on a line of its own. -/
def printed (r : ErrorReport) : String :=
  Section.error.start ++ "\n" ++ String.ofList r.json ++ "\n" ++ Section.error.stop ++ "\n"

/-- The texts of a report. -/
def texts (r : ErrorReport) : List String :=
  [r.kind, r.message, r.extra, r.stack, r.file]

/-- No text holds a control character besides tab, line feed and carriage return. -/
def IsPlain (r : ErrorReport) : Prop :=
  ∀ t ∈ r.texts, ScriptSuite.IsPlain t.toList

instance (r : ErrorReport) : Decidable r.IsPlain :=
  inferInstanceAs (Decidable (∀ t ∈ r.texts, _))

/-- No text holds a marker of a section. -/
def IsUnmarked (r : ErrorReport) : Prop :=
  ∀ t ∈ r.texts, ∀ sec ∈ [Section.error, Section.dump],
    occursIn sec.start t = false ∧ occursIn sec.stop t = false

instance (r : ErrorReport) : Decidable r.IsUnmarked :=
  inferInstanceAs (Decidable (∀ t ∈ r.texts, _))

/-! ### What is reported -/

/-- The message for the user. -/
def summary (r : ErrorReport) : String :=
  r.kind ++ ": " ++ r.message ++
    (if r.extra = "" then "" else "\n    Specifically: " ++ r.extra) ++ "\n\n" ++ r.stack

/-- The error with its place counted from zero. -/
def thrown (r : ErrorReport) : ThrownError where
  summary := r.summary
  file := r.file
  line := if r.line = 0 then none else some (r.line - 1)
  frames := StackFrame.ofStack r.stack.toList

/-- The payload that the script means. -/
def payload (r : ErrorReport) : ErrorPayload where
  kind := r.kind
  message := r.message
  extra := if r.extra = "" then none else some r.extra
  stack := some r.stack
  file := r.file
  line := r.line

theorem summary_payload (r : ErrorReport) : r.payload.summary = r.summary := by
  by_cases h : r.extra = ""
  · simp [ErrorPayload.summary, payload, summary, h, String.append_assoc]
  · simp [ErrorPayload.summary, payload, summary, h, String.append_assoc]

theorem thrown_payload (r : ErrorReport) : r.payload.thrown = r.thrown := by
  rw [ErrorPayload.thrown, summary_payload]
  rfl

/-! ### The tokens of the object -/

/-- The names of the members need no escapes. -/
def memberNames : List String := ["type", "message", "extra", "stack", "file", "line"]

theorem tokens?_label {name : String} (h : name ∈ memberNames) (s : List Char) :
    tokens? (label name ++ s) = (tokens? s).map ([.str name.toList, .colon] ++ ·) := by
  have key : ∀ name ∈ memberNames,
      ScriptSuite.IsPlain name.toList ∧ quoteBody name.toList = name.toList := by decide
  obtain ⟨hplain, hbody⟩ := key name h
  have hlabel : label name ++ s = quote name.toList ++ ':' :: s := by simp [label, quote, hbody]
  rw [hlabel, tokens?_quote_append, if_pos hplain, hbody, tokens?_colon]
  cases tokens? s <;> rfl

/-- The tokens of the member for what the message is about. -/
def extraTokens (r : ErrorReport) : List Token :=
  if r.extra = "" then []
  else [.comma, .str "extra".toList, .colon, .str (quoteBody r.extra.toList)]

/-- The tokens of the object, if every text is a token. -/
def tokens (r : ErrorReport) : List Token :=
  [.openObj, .str "type".toList, .colon, .str (quoteBody r.kind.toList), .comma,
    .str "message".toList, .colon, .str (quoteBody r.message.toList)] ++ r.extraTokens ++
  [.comma, .str "stack".toList, .colon, .str (quoteBody r.stack.toList), .comma,
    .str "file".toList, .colon, .str (quoteBody r.file.toList), .comma,
    .str "line".toList, .colon, .num (Nat.toDigits 10 r.line.toNat), .closeObj]

theorem tokens?_extraMember (r : ErrorReport) (s : List Char) :
    tokens? (r.extraMember ++ s) =
      if ScriptSuite.IsPlain r.extra.toList then (tokens? s).map (r.extraTokens ++ ·)
      else none := by
  rw [extraMember, extraTokens]
  by_cases h : r.extra = ""
  · have hplain : ScriptSuite.IsPlain "".toList := by decide
    rw [if_pos h, if_pos h, h, if_pos hplain, List.nil_append]
    cases tokens? s <;> rfl
  · rw [if_neg h, if_neg h, List.cons_append, List.append_assoc, tokens?_comma,
      tokens?_label (by decide), tokens?_quote_append]
    split
    · cases tokens? s <;> rfl
    · rfl

theorem isPlain_iff : r.IsPlain ↔ ScriptSuite.IsPlain r.kind.toList ∧
    ScriptSuite.IsPlain r.message.toList ∧ ScriptSuite.IsPlain r.extra.toList ∧
    ScriptSuite.IsPlain r.stack.toList ∧ ScriptSuite.IsPlain r.file.toList := by
  simp [IsPlain, texts]

theorem ite_ite_none {p q : Prop} [Decidable p] [Decidable q] {α : Type} (x : Option α) :
    (if p then (if q then x else none) else none) = if p ∧ q then x else none := by
  by_cases hp : p
  · simp [hp]
  · simp [hp]

/-- **The object has tokens exactly if the report is plain.** -/
theorem tokens?_json (r : ErrorReport) :
    tokens? r.json = if r.IsPlain then some r.tokens else none := by
  have hend : EndsNumber ['}'] := by
    intro c hc
    obtain rfl : c = '}' := by simpa using hc.symm
    decide
  have h₁ : "type" ∈ memberNames := by decide
  have h₂ : "message" ∈ memberNames := by decide
  have h₃ : "stack" ∈ memberNames := by decide
  have h₄ : "file" ∈ memberNames := by decide
  have h₅ : "line" ∈ memberNames := by decide
  simp only [json, tokens?_openObj, tokens?_label h₁, tokens?_label h₂, tokens?_label h₃,
    tokens?_label h₄, tokens?_label h₅, tokens?_quote_append, tokens?_comma, tokens?_extraMember,
    tokens?_toDigits hend, tokens?_closeObj, tokens?_nil, isPlain_iff, tokens]
  simp only [Option.map_some, Option.map_if, ite_ite_none, List.cons_append, List.nil_append]

/-! ### The object as a payload -/

/-- The members of the object that hold a text, in their order. -/
def textMembers (r : ErrorReport) : List (String × String) :=
  [("type", r.kind), ("message", r.message)] ++
    (if r.extra = "" then [] else [("extra", r.extra)]) ++ [("stack", r.stack), ("file", r.file)]

/-- The document of the object. -/
def document (r : ErrorReport) : Json :=
  .obj (r.textMembers.map (fun (name, t) => (name.toList, .str (quoteBody t.toList))) ++
    [("line".toList, .num (Nat.toDigits 10 r.line.toNat))])

theorem foldlM_tokens (r : ErrorReport) :
    r.tokens.foldlM Reading.step? (.value []) = some (.done r.document) := by
  rw [tokens, extraTokens, document, textMembers]
  by_cases h : r.extra = ""
  · rw [if_pos h, if_pos h]
    rfl
  · rw [if_neg h, if_neg h]
    rfl

theorem parse?_json_eq (r : ErrorReport) :
    Json.parse? r.json = if r.IsPlain then some r.document else none := by
  rw [Json.parse?, tokens?_json]
  split
  · simp only [Option.bind_eq_bind, Option.bind_some, foldlM_tokens]
  · rfl

theorem text?_quoteBody (t : String) : (Json.str (quoteBody t.toList)).text? = some t := by
  rw [text?, unescape?_quoteBody, Option.map_some, String.ofList_toList]

theorem word32?_toDigits (n : UInt32) : (Json.num (Nat.toDigits 10 n.toNat)).word32? = some n := by
  rw [word32?, nat?, decimalBelow?_toDigits n.toNat_lt_size, Option.map_some, UInt32.ofNat_toNat]

/-- The fields that the payload is read from. -/
theorem fields?_document (r : ErrorReport) :
    r.document.fields? memberNames = some
      { present := r.textMembers.map (fun (name, t) => (name, .str (quoteBody t.toList))) ++
          [("line", .num (Nat.toDigits 10 r.line.toNat))]
        positional := false } := by
  rw [document, textMembers]
  by_cases h : r.extra = ""
  · rw [if_pos h]
    rfl
  · rw [if_neg h]
    rfl

theorem ofJson?_document (r : ErrorReport) : ErrorPayload.ofJson? r.document = some r.payload := by
  have hfields : r.document.fields? ["type", "message", "extra", "stack", "file", "line"] = _ :=
    fields?_document r
  rw [ErrorPayload.ofJson?, hfields, payload, textMembers]
  by_cases h : r.extra = ""
  · rw [if_pos h, if_pos h]
    simp [Fields.required?, Fields.get?, Fields.defaultedOptional?, Fields.defaulted?,
      Json.optional?, text?_quoteBody, word32?_toDigits]
  · rw [if_neg h, if_neg h]
    simp [Fields.required?, Fields.get?, Fields.defaultedOptional?, Fields.defaulted?,
      Json.optional?, text?_quoteBody, word32?_toDigits]

/-- **The object is read as the payload that the script means**, if the report is plain. -/
theorem parse?_json (h : r.IsPlain) : ErrorPayload.parse? r.json = some r.payload := by
  rw [ErrorPayload.parse?, parse?_json_eq, if_pos h, Option.bind_some, ofJson?_document]

/-- The object of any other report is no JSON. -/
theorem parse?_json_of_not_isPlain (h : ¬ r.IsPlain) : ErrorPayload.parse? r.json = none := by
  rw [ErrorPayload.parse?, parse?_json_eq, if_neg h, Option.bind_none]

/-! ### The error section in the output -/

/-- What a text must be to occur in a printed report only if it occurs in a text of the report: it
has characters that the script writes nowhere, and none of those that separate the members. -/
structure IsMarker (m : List Char) : Prop where
  /-- It has an angle bracket. -/
  angle : '<' ∈ m
  /-- It has no escape letter. -/
  letters : ∀ e ∈ escapeLetters, e ∉ m

theorem IsMarker.not_infix (hm : IsMarker m) {s : List Char} (hs : '<' ∉ s) : ¬ m <:+: s :=
  fun h => hs (h.subset hm.angle)

theorem IsMarker.infix_extraMember (hm : IsMarker m) {y : List Char}
    (h : m <:+: r.extraMember ++ y) : m <:+: r.extra.toList ∨ m <:+: y := by
  rw [extraMember] at h
  split at h
  · exact Or.inr h
  · have happ : ',' :: (label "extra" ++ quote r.extra.toList) ++ y =
        (',' :: label "extra") ++ (quote r.extra.toList ++ y) := by simp
    rw [happ] at h
    exact (infix_append_quote hm.letters h).resolve_left (hm.not_infix (by decide))

/-- A marker that occurs in the object occurs in a text of the report. -/
theorem IsMarker.infix_json (hm : IsMarker m) (h : m <:+: r.json) :
    ∃ t ∈ r.texts, m <:+: t.toList := by
  have hjson : r.json = ('{' :: label "type") ++ (quote r.kind.toList ++
      ((',' :: label "message") ++ (quote r.message.toList ++ (r.extraMember ++
      ((',' :: label "stack") ++ (quote r.stack.toList ++
      ((',' :: label "file") ++ (quote r.file.toList ++
      (',' :: (label "line" ++ (Nat.toDigits 10 r.line.toNat ++ ['}']))))))))))) := by
    simp [json]
  rw [hjson] at h
  rcases infix_append_quote hm.letters h with h | h | h
  · exact absurd h (hm.not_infix (by decide))
  · exact ⟨r.kind, by simp [texts], h⟩
  rcases infix_append_quote hm.letters h with h | h | h
  · exact absurd h (hm.not_infix (by decide))
  · exact ⟨r.message, by simp [texts], h⟩
  rcases hm.infix_extraMember h with h | h
  · exact ⟨r.extra, by simp [texts], h⟩
  rcases infix_append_quote hm.letters h with h | h | h
  · exact absurd h (hm.not_infix (by decide))
  · exact ⟨r.stack, by simp [texts], h⟩
  rcases infix_append_quote hm.letters h with h | h | h
  · exact absurd h (hm.not_infix (by decide))
  · exact ⟨r.file, by simp [texts], h⟩
  · refine absurd h (hm.not_infix ?_)
    have hdigits : '<' ∉ Nat.toDigits 10 r.line.toNat := not_mem_toDigits (by decide)
    simp [label, hdigits]

theorem isMarker_dump_start : IsMarker Section.dump.start.toList :=
  ⟨by decide, forall_mem_of_all (by decide)⟩

theorem isMarker_error_stop : IsMarker Section.error.stop.toList :=
  ⟨by decide, forall_mem_of_all (by decide)⟩

theorem not_mem_json {c : Char} (hc : c = '\r' ∨ c = '\n') : c ∉ r.json := by
  have hdigits : c ∉ Nat.toDigits 10 r.line.toNat :=
    not_mem_toDigits (by rcases hc with rfl | rfl <;> decide)
  have hq : ∀ s, c ∉ quoteBody s := fun s => not_mem_quoteBody hc
  have hextra : c ∉ r.extraMember := by
    rw [extraMember]
    split
    · simp
    · rcases hc with rfl | rfl <;> simp [label, quote, hq]
  rcases hc with rfl | rfl <;> simp [json, label, quote, hq, hdigits, hextra]

theorem tight_json (r : ErrorReport) : Tight r.json := by
  refine ⟨fun c hc => ?_, fun c hc => ?_⟩
  · obtain rfl : c = '{' := by simpa [json] using hc.symm
    decide
  · have hlast : r.json.getLast? = some '}' := by
      simp [json, List.getLast?_cons, List.getLast?_append]
    obtain rfl : c = '}' := by simpa [hlast] using hc.symm
    decide

/-! ### The outcome of a report -/

/-- The body of the error section: the object on a line of its own. -/
def body (r : ErrorReport) : List Char := '\n' :: (r.json ++ ['\n'])

theorem toList_printed (r : ErrorReport) : r.printed.toList =
    Section.error.start.toList ++ (r.body ++ (Section.error.stop.toList ++ ['\n'])) := by
  simp [printed, body]

theorem trim_body (r : ErrorReport) : trim r.body = r.json := by
  rw [show r.body = ['\n'] ++ (r.json ++ ['\n']) from rfl,
    trim_append_append (by decide) r.tight_json (by decide)]

theorem IsUnmarked.not_infix_json (h : r.IsUnmarked) {t : String}
    (ht : t = Section.error.stop ∨ t = Section.dump.start) : ¬ t.toList <:+: r.json := by
  have hm : IsMarker t.toList := by
    rcases ht with rfl | rfl
    · exact isMarker_error_stop
    · exact isMarker_dump_start
  intro hi
  obtain ⟨s, hs, hts⟩ := hm.infix_json hi
  have hn : occursIn t s = false := by
    rcases ht with rfl | rfl
    · exact (h s hs Section.error (by simp)).2
    · exact (h s hs Section.dump (by simp)).1
  rw [occursIn, contains_iff_infix.2 hts] at hn
  exact Bool.false_ne_true hn.symm

theorem IsUnmarked.not_infix_body (h : r.IsUnmarked) {t : String}
    (ht : t = Section.error.stop ∨ t = Section.dump.start) : ¬ t.toList <:+: r.body := by
  have hn : '\n' ∉ t.toList := by rcases ht with rfl | rfl <;> decide
  have hne : ¬ t.toList <:+: [] := by
    rcases ht with rfl | rfl <;> simp [Section.error, Section.dump]
  rw [body, ← List.nil_append (_ :: _), infix_append_cons_iff hn, infix_append_cons_iff hn]
  rintro (hi | hi | hi)
  · exact hne hi
  · exact h.not_infix_json ht hi
  · exact hne hi

/-- The output holds no dump, so all of it counts. -/
theorem IsUnmarked.not_infix_printed (h : r.IsUnmarked) :
    ¬ Section.dump.start.toList <:+: r.printed.toList := by
  have hn : '\n' ∉ Section.dump.start.toList := by decide
  have hstart : contains Section.dump.start.toList Section.error.start.toList = false := by decide
  have hstop :
      contains Section.dump.start.toList (Section.error.stop.toList ++ ['\n']) = false := by decide
  rw [← Bool.not_eq_true, contains_iff_infix] at hstart hstop
  rw [toList_printed, body, List.cons_append, List.append_assoc, List.singleton_append,
    infix_append_cons_iff hn, infix_append_cons_iff hn]
  rintro (hi | hi | hi)
  · exact hstart hi
  · exact h.not_infix_json (Or.inr rfl) hi
  · exact hstop hi

theorem not_mem_printed (r : ErrorReport) : '\r' ∉ r.printed.toList := by
  have h₁ : '\r' ∉ Section.error.start.toList := by decide
  have h₂ : '\r' ∉ Section.error.stop.toList := by decide
  have h₃ : '\r' ∉ r.json := not_mem_json (Or.inl rfl)
  simp [toList_printed, body, h₁, h₂, h₃]

/-- Without the blanks around it, the output is the error section and nothing else. -/
theorem trim_printed (r : ErrorReport) : trim r.printed.toList =
    Section.error.start.toList ++ (r.body ++ Section.error.stop.toList) := by
  have htight : Tight (Section.error.start.toList ++ (r.body ++ Section.error.stop.toList)) := by
    refine ⟨fun c hc => ?_, fun c hc => ?_⟩
    · have hhead : Section.error.start.toList.head? = some '<' := by decide
      obtain rfl : c = '<' := by simpa [hhead] using hc.symm
      decide
    · have hlast : Section.error.stop.toList.getLast? = some '>' := by decide
      obtain rfl : c = '>' := by simpa [List.getLast?_append, hlast] using hc.symm
      decide
  have happ : r.printed.toList =
      [] ++ (Section.error.start.toList ++ (r.body ++ Section.error.stop.toList) ++ ['\n']) := by
    simp [toList_printed]
  rw [happ, trim_append_append rfl htight (by decide)]

theorem IsUnmarked.take_trim_printed (h : r.IsUnmarked) :
    Section.error.take (trim r.printed.toList) = (some r.body, []) := by
  have htake := Section.marked_error.take_append (x := []) (y := []) (by decide)
    (h.not_infix_body (Or.inl rfl))
  simpa [trim_printed] using htake

end ErrorReport

namespace Outcome

variable {r : ErrorReport} {failOnWarning : Bool}

/-- A report is judged as the output of a failed test, since the script exits with one. -/
theorem ofOutput_printed (h : r.IsUnmarked) :
    ofOutput r.printed (some 1) failOnWarning =
      { ofFailure (trim r.printed.toList) (some 1) with
        coverage := none, warnings := Warning.ofOutput (trim r.printed.toList) } := by
  have hpass : isPass (trim r.printed.toList) (some 1) failOnWarning = false := rfl
  rw [ofOutput_of_no_dump r.not_mem_printed h.not_infix_printed, ofText, hpass,
    if_neg Bool.false_ne_true]

theorem ofFailure_printed (h : r.IsUnmarked) (hplain : r.IsPlain) :
    ofFailure (trim r.printed.toList) (some 1) =
      { status := .failed, message := r.summary, error := r.thrown, rawOutput := "" } := by
  rw [ofFailure, h.take_trim_printed]
  simp only [r.trim_body, ErrorReport.parse?_json hplain, r.summary_payload, r.thrown_payload]
  rfl

theorem ofFailure_printed_of_not_isPlain (h : r.IsUnmarked) (hplain : ¬ r.IsPlain) :
    (ofFailure (trim r.printed.toList) (some 1)).status = .errored ∧
      (ofFailure (trim r.printed.toList) (some 1)).error = none := by
  rw [ofFailure, h.take_trim_printed]
  simp only [r.trim_body, ErrorReport.parse?_json_of_not_isPlain hplain, and_self]

/-- **A report makes a failed test exactly if it is plain.** Then nothing of it is lost: message,
file, line and call stack are those of the error. A report with any other control character in one
of its texts makes an errored test, and the error is not there. -/
theorem status_ofOutput_printed (r : ErrorReport) (failOnWarning : Bool) (h : r.IsUnmarked) :
    (r.IsPlain → (ofOutput r.printed (some 1) failOnWarning).status = .failed ∧
      (ofOutput r.printed (some 1) failOnWarning).message = r.summary ∧
      (ofOutput r.printed (some 1) failOnWarning).error = some r.thrown) ∧
    (¬ r.IsPlain → (ofOutput r.printed (some 1) failOnWarning).status = .errored ∧
      (ofOutput r.printed (some 1) failOnWarning).error = none) := by
  rw [ofOutput_printed h]
  refine ⟨fun hplain => ?_, fun hplain => ?_⟩
  · simp only [ofFailure_printed h hplain, and_self]
  · simp only [ofFailure_printed_of_not_isPlain h hplain, and_self]

/-- A report with a text of every kind that the quotation changes, and with something to look up. -/
def quotedReport : ErrorReport where
  kind := "Error"
  message := "say \"hi\"\n\tat C:\\x"
  extra := "\x7b\x7d"
  stack := "C:\\t.ahk (5) : [F] x"
  file := "C:\\t.ahk"
  line := 5

theorem status_ofOutput_printed_quotedReport :
    quotedReport.IsUnmarked ∧ quotedReport.IsPlain ∧
      (ofOutput quotedReport.printed (some 1) true).status = .failed ∧
      (ofOutput quotedReport.printed (some 1) true).error = some quotedReport.thrown := by
  have h : quotedReport.IsUnmarked := by decide
  have hplain : quotedReport.IsPlain := by decide
  obtain ⟨hstatus, -, herror⟩ := (status_ofOutput_printed quotedReport true h).1 hplain
  exact ⟨h, hplain, hstatus, herror⟩

/-- A report with a backspace in its message. -/
def backspaceReport : ErrorReport where
  kind := "Error"
  message := "a\x08b"
  extra := ""
  stack := ""
  file := "C:\\t.ahk"
  line := 5

theorem status_ofOutput_backspaceReport :
    backspaceReport.IsUnmarked ∧
      (ofOutput backspaceReport.printed (some 1) false).status = .errored ∧
      (ofOutput backspaceReport.printed (some 1) false).error = none := by
  have h : backspaceReport.IsUnmarked := by decide
  have herrored := ofFailure_printed_of_not_isPlain h (by decide)
  rw [ofOutput_printed h]
  simp only [h, herrored, and_self]

end Outcome

end ScriptSuite
