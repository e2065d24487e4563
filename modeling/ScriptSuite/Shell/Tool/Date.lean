import ScriptSuite.Shell.Moment
import ScriptSuite.Shell.Tool.Options

/-!
# Telling the time

The tool that prints a moment in a format: the present, when a file was changed, or one that is
told.
-/

namespace ScriptSuite.Shell

/-- The format of a moment in the order of its parts, down to one of them. -/
def orderedFormat? (dayFirst : List Char) (precision : List Char) : Option (List Char) :=
  match toString precision with
  | "" | "date" => some (chars "%Y-%m-%d")
  | "hours" => some (chars "%Y-%m-%d" ++ dayFirst ++ chars "%H%:z")
  | "minutes" => some (chars "%Y-%m-%d" ++ dayFirst ++ chars "%H:%M%:z")
  | "s" | "seconds" => some (chars "%Y-%m-%d" ++ dayFirst ++ chars "%H:%M:%S%:z")
  | "ns" => some (chars "%Y-%m-%d" ++ dayFirst ++ chars "%H:%M:%S,%N%:z")
  | _ => none

/-- Prints a moment. -/
def date : Tool :=
  let forms := OptionForms.of "d:f:I::r:Rs:u" [("date", 'd'), ("iso-8601", 'I'), ("reference", 'r'),
    ("rfc-email", 'R'), ("utc", 'u'), ("universal", 'u')]
  let forms := { forms with words := forms.words ++ [("rfc-3339", '3', OptionValue.required)] }
  withOptions "date" forms 1 fun g _ disk =>
    let fail (text : List Char) : Effect :=
      { disk, status := 1, err := chars "date: " ++ text ++ ['\n'] }
    let moment : Except (List Char) Moment :=
      match g.value? 'd', g.value? 'r' with
      | some text, _ =>
        match Moment.read? disk.now text with
        | some m => .ok m
        | none => .error (chars "invalid date " ++ quoted text)
      | none, some path =>
        match disk.locate (toString path) with
        | .ok way => .ok (disk.noteOf way).changed
        | .error f => .error (quotedIfNeeded path ++ chars s!": {f.reason}")
      | none, none => .ok disk.now
    let format? : Option (List Char) :=
      match g.lastOf? ['I', 'R', '3'] with
      | some 'I' => orderedFormat? ['T'] ((g.value? 'I').getD [])
      | some '3' => (orderedFormat? [' '] ((g.value? '3').getD [])).map fun f =>
          f.map fun c => if c = ',' then '.' else c
      | some _ => some (chars "%a, %d %b %Y %H:%M:%S %z")
      | none => some (chars "%a %b %e %H:%M:%S %Z %Y")
    match moment, g.operands with
    | .error text, _ => fail text
    | .ok m, [] =>
      match format? with
      | some f => { disk, out := m.format (f.length + 100) f ++ ['\n'] }
      | none => usageMistake "date" 1 (chars "invalid argument") disk
    | .ok m, [('+' :: f)] => { disk, out := m.format (f.length + 100) f ++ ['\n'] }
    | .ok _, [other] => fail (chars "invalid date " ++ quoted other)
    | .ok _, _ :: extra :: _ => usageMistake "date" 1 (chars "extra operand " ++ quoted extra) disk

end ScriptSuite.Shell
