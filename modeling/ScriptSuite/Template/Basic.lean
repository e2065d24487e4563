import ScriptSuite.TestId

/-!
# Runner scripts

A test is run by a script that is made from a template. The template holds three markers, and the
first occurrence of each is replaced: by the setting for interpreter warnings, by the line that
includes the test file, and by the call of the test, in this order.

Unless a project brings a template of its own, the bundled one is used. Its script calls the test,
prints the pass word or an error payload, and in both cases the coverage dump. It is given in four
parts, with one marker between each part and the next.

## Main definitions

* `Template`: a text that holds all three markers.
* `Template.ofText`: the template of a text, or the first marker that it lacks.
* `Template.render`: the script for a test.
* `Template.bundled`: the bundled template.
-/

namespace ScriptSuite.Template

/-- What stands in front of the setting for warnings. -/
def bundledHead : String :=
    "#Requires AutoHotkey v2.0\n" ++
    "#SingleInstance Off\n" ++
    "#NoTrayIcon\n"

/-- What stands between the setting for warnings and the line that includes the test file. -/
def bundledBeforeInclude : String :=
    "\n" ++
    "\n"

/-- What stands between the line that includes the test file and the call of the test. -/
def bundledBeforeCall : String :=
    "\n" ++
    "\n" ++
    "AhkUnit_Main()\n" ++
    "\n" ++
    "AhkUnit_Main() \x7b\n" ++
    "    ListLines true\n" ++
    "    try \x7b\n" ++
    "        "

/-- What stands behind the call of the test. -/
def bundledTail : String :=
    "\n" ++
    "    \x7d catch Any as err \x7b\n" ++
    "        AhkUnit_DumpLines()\n" ++
    "        AhkUnit_Write(\"<<<AHK_ERROR_START>>>`n\" AhkUnit_ErrorJson(err) " ++
    "\"`n<<<AHK_ERROR_END>>>`n\")\n" ++
    "        ExitApp 1\n" ++
    "    \x7d\n" ++
    "    AhkUnit_DumpLines()\n" ++
    "    AhkUnit_Write(\"PASS`n\")\n" ++
    "    ExitApp 0\n" ++
    "\x7d\n" ++
    "\n" ++
    "; Copies the ListLines view of the hidden main window to stdout\n" ++
    "AhkUnit_DumpLines() \x7b\n" ++
    "    ListLines false\n" ++
    "    DetectHiddenWindows true\n" ++
    "    ListLines\n" ++
    "    lines := ControlGetText(\"Edit1\", \"ahk_id \" A_ScriptHwnd)\n" ++
    "    WinHide(\"ahk_id \" A_ScriptHwnd)\n" ++
    "    AhkUnit_Write(\"<<<AHK_LINES_START>>>`n\" lines \"`n<<<AHK_LINES_END>>>`n\")\n" ++
    "\x7d\n" ++
    "\n" ++
    "AhkUnit_Write(text) \x7b\n" ++
    "    FileAppend(text, \"*\", \"UTF-8\")\n" ++
    "\x7d\n" ++
    "\n" ++
    "AhkUnit_ErrorJson(err) \x7b\n" ++
    "    if !(err is Error) \x7b\n" ++
    "        return '\x7b\"type\":' AhkUnit_Quote(Type(err))\n" ++
    "            . ',\"message\":' AhkUnit_Quote(String(err))\n" ++
    "            . ',\"file\":' AhkUnit_Quote(A_ScriptFullPath)\n" ++
    "            . ',\"line\":0\x7d'\n" ++
    "    \x7d\n" ++
    "\n" ++
    "    extra := err.Extra != \"\" ? ',\"extra\":' AhkUnit_Quote(err.Extra) : \"\"\n" ++
    "    return '\x7b\"type\":' AhkUnit_Quote(Type(err))\n" ++
    "        . ',\"message\":' AhkUnit_Quote(err.Message)\n" ++
    "        . extra\n" ++
    "        . ',\"stack\":' AhkUnit_Quote(err.Stack)\n" ++
    "        . ',\"file\":' AhkUnit_Quote(err.File)\n" ++
    "        . ',\"line\":' Integer(err.Line) '\x7d'\n" ++
    "\x7d\n" ++
    "\n" ++
    "AhkUnit_Quote(value) \x7b\n" ++
    "    value := StrReplace(String(value), \"\\\", \"\\\\\")\n" ++
    "    value := StrReplace(value, '\"', '\\\"')\n" ++
    "    value := StrReplace(value, \"`r\", \"\\r\")\n" ++
    "    value := StrReplace(value, \"`n\", \"\\n\")\n" ++
    "    value := StrReplace(value, \"`t\", \"\\t\")\n" ++
    "    return '\"' value '\"'\n" ++
    "\x7d\n"

end ScriptSuite.Template

namespace ScriptSuite

open Text

/-- A place in a template that is filled in for each test. -/
inductive Marker where
  /-- The setting for interpreter warnings. -/
  | warn
  /-- The line that includes the test file. -/
  | includeFile
  /-- The call of the test. -/
  | call
deriving DecidableEq, Repr

namespace Marker

/-- The text of a marker. -/
def text : Marker → String
  | warn => ";@ahkunit-warn"
  | includeFile => ";@ahkunit-include"
  | call => ";@ahkunit-call"

/-- All markers, in the order in which they are filled in. -/
def all : List Marker := [warn, includeFile, call]

end Marker

/-- A text that holds all markers. -/
structure Template where
  /-- The text. -/
  content : String
  /-- Every marker occurs. -/
  complete : ∀ m ∈ Marker.all, occursIn m.text content = true

namespace Template

/-- The template of a text, or the first marker that the text lacks. -/
def ofText (content : String) : Except Marker Template :=
  match h : Marker.all.find? fun m => !occursIn m.text content with
  | some m => .error m
  | none => .ok ⟨content, fun m hm => by simpa using List.find?_eq_none.1 h m hm⟩

/-- The line that includes a test file; backslashes in its path become slashes. -/
def includeLine (file : String) : String :=
  "#Include \"" ++ String.ofList (forwardSlashes file.toList) ++ "\""

/-- The text with the first occurrence of a marker replaced. -/
def fill (m : Marker) (value : String) (s : List Char) : List Char :=
  replaceFirst m.text.toList value.toList s

/-- The script made from a template by filling in its markers. -/
def render (t : Template) (warn file call : String) : String :=
  String.ofList
    (fill .call call (fill .includeFile (includeLine file) (fill .warn warn t.content.toList)))

/-- The text of the bundled template. -/
def bundledText : String :=
  bundledHead ++ Marker.warn.text ++ bundledBeforeInclude ++ Marker.includeFile.text ++
    bundledBeforeCall ++ Marker.call.text ++ bundledTail

theorem occursIn_bundledText {m : Marker} (h : m ∈ Marker.all) :
    occursIn m.text bundledText = true := by
  suffices ∃ before behind, bundledText.toList = before ++ m.text.toList ++ behind by
    obtain ⟨before, behind, e⟩ := this
    rw [occursIn, e]
    exact contains_append_append
  simp only [Marker.all, List.mem_cons, List.not_mem_nil, or_false] at h
  simp only [bundledText, String.toList_append]
  rcases h with rfl | rfl | rfl
  · exact ⟨_, _, by simp only [List.append_assoc]; rfl⟩
  · exact ⟨bundledHead.toList ++ Marker.warn.text.toList ++ bundledBeforeInclude.toList, _, by
      simp only [List.append_assoc]; rfl⟩
  · exact ⟨_, _, rfl⟩

/-- The bundled template. -/
def bundled : Template :=
  ⟨bundledText, fun _ => occursIn_bundledText⟩

end Template

end ScriptSuite
