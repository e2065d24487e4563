import ScriptSuite.CommandLine.Progress
import ScriptSuite.CommandLine.Request

/-!
# Completions

A script that makes a shell offer the commands and the options. What the script looks like depends
on the shell; the words that it offers do not.
-/

namespace ScriptSuite.CommandLine

/-- The words that a shell offers. -/
def completionWords : List String :=
  mainGrammar.commands ++ (commandGrammars.flatMap fun g =>
    g.2.switches.map fun s => "--" ++ s.name).eraseDups

/-- The script for a shell. -/
def CompletionShell.script (s : CompletionShell) : String :=
  let words := " ".intercalate completionWords
  let quoted := " ".intercalate (completionWords.map fun w => "'" ++ w ++ "'")
  match s with
  | bash => "complete -W '" ++ words ++ "' ahkunit\n"
  | zsh => "#compdef ahkunit\ncompadd -- " ++ words ++ "\n"
  | fish => "complete -c ahkunit -f -a '" ++ words ++ "'\n"
  | powershell =>
    String.join <| List.map (· ++ "\n") [
      "Register-ArgumentCompleter -Native -CommandName 'ahkunit' -ScriptBlock \x7b",
      "    param($word)",
      "    -split '" ++ words ++ "' | Where-Object \x7b $_ -like \"$word*\" \x7d",
      "\x7d"]
  | elvish =>
    "set edit:completion:arg-completer[ahkunit] = \x7b |@words| put " ++ quoted ++ " \x7d\n"

/-- Makes completions. `script` tells the text for each shell. -/
def CompletionOptions.carryOut (o : CompletionOptions) (g : GeneralOptions)
    (script : CompletionShell → String) : Command Unit := do
  match o.output with
  | none => Command.print (script o.shell)
  | some path =>
    Command.changeDisk (·.write path (Utf8.encode (script o.shell).toList)) .disk
    if !g.quiet then Command.succeeded s!"Completions written to {path}"

end ScriptSuite.CommandLine
