import ScriptSuite.CommandLine.Progress
import ScriptSuite.CommandLine.Request
import ScriptSuite.Config.File

/-!
# A new file with settings

The file is written in TOML if its name says so, and otherwise in YAML with an explanation of every
setting. A question that would have to be asked cannot be answered here and makes the command fail.
-/

namespace ScriptSuite.CommandLine

/-- The default settings in YAML. -/
def yamlTemplate : String :=
  String.join <| List.map (· ++ "\n") [
    "# ahkunit configuration",
    "",
    "# AutoHotkey v2 interpreter used to run each test",
    "executable_path: '" ++ defaultExecutable ++ "'",
    "",
    "# Test files, relative to this directory",
    "test_file_glob: \"" ++ defaultGlob ++ "\"",
    "",
    "# Interpreter warnings: off | report | fail",
    "warnings: off",
    "",
    "# Per-test timeout in seconds (a native fault can leave the interpreter",
    "# waiting on an error dialog forever)",
    "# timeout_secs: 60",
    "",
    "# Maximum number of tests run at once",
    "# jobs: 8",
    "",
    "# Custom runner template",
    "# template_path: templates/test-runner.ahk"]

/-- The default settings in TOML. -/
def tomlTemplate : String :=
  String.join <| List.map (· ++ "\n") [
    "executable_path = '" ++ defaultExecutable ++ "'",
    "test_file_glob = \"" ++ defaultGlob ++ "\"",
    "warnings = \"off\""]

/-- The default settings in a format. -/
def configTemplate : ConfigFormat → String
  | .yaml => yamlTemplate
  | .toml => tomlTemplate

/-- What to do with a new file. -/
def nextSteps : List String := [
  "", "Next steps:",
  "  1. Point executable_path at your AutoHotkey v2 interpreter",
  "  2. Run ahkunit list to see the discovered tests",
  "  3. Run ahkunit test to run them"]

/-- Makes a file with the default settings. -/
def InitOptions.carryOut (o : InitOptions) (g : GeneralOptions) : Command Unit := do
  let d ← Command.disk
  let path := o.output.getD (Path.join d.cwdPath "ahkunit.yaml")
  if d.exists? path && !o.force then
    throw (if o.yes then .configExists path else .noTerminal)
  let format := Config.formatOf path
  if !o.yes && format = .yaml then throw .noTerminal
  Command.changeDisk (·.write path (Utf8.encode (configTemplate format).toList)) .disk
  if !g.quiet then
    Command.succeeded s!"Created configuration at {path}"
    nextSteps.forM Command.say

end ScriptSuite.CommandLine
