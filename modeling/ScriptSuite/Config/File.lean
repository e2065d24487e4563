import ScriptSuite.Failure
import ScriptSuite.Toml.Parser
import ScriptSuite.Yaml.Parser

/-!
# Files with settings

Settings are read from a file in YAML, or in TOML if the name of the file says so. The template is
looked up from the directory of the file. Without a name, the first file of one of four names
counts, in a directory or else in the next directory above it that has one.

## Main definitions

* `Config.ofText`: the settings that a text spells.
* `Disk.loadConfig`: the settings in a file.
* `Disk.findConfig?`: the file with the settings for a directory.
-/

namespace ScriptSuite

namespace Config

/-- How settings are read from YAML. -/
def yamlReader : Reader Yaml where
  text? := Yaml.text?
  mode? v := v.text?.bind WarningMode.ofName?
  word? := Yaml.word?
  isNothing := Yaml.isNothing

/-- Reads settings from YAML. A document with nothing in it stands for no settings. -/
def ofYaml? : Yaml → Option Config
  | .scalar false [] => some {}
  | .mapping entries => do
    let fields ← entries.mapM fun (k, v) => k.text?.map fun k => (k, v)
    yamlReader.ofFields? fields
  | _ => none

/-- The mode that a TOML value stands for: its word, or the only key of a table that has nothing
behind it. -/
def tomlMode? : Toml → Option WarningMode
  | .string word => WarningMode.ofName? word
  | .table _ [(word, .table _ [])] | .table _ [(word, .array [])] => WarningMode.ofName? word
  | _ => none

/-- How settings are read from TOML. -/
def tomlReader : Reader Toml where
  text?
    | .string s => some s
    | _ => none
  mode? := tomlMode?
  word?
    | .integer n => if 0 ≤ n then some (.ofNat n.toNat) else none
    | _ => none
  isNothing _ := false

/-- The format of a file, by the extension of its name. -/
def formatOf (path : String) : ConfigFormat :=
  if Path.extension? path = some "toml" then .toml else .yaml

/-- The settings that a text spells. -/
def ofText? (format : ConfigFormat) (text : String) : Option Config :=
  match format with
  | .toml => (Toml.parse? text.toList).bind tomlReader.ofFields?
  | .yaml => (Yaml.parse? text.toList).bind ofYaml?

/-- The settings with the template looked up from the directory of the file that they come from. -/
def fromFile (path : String) (c : Config) : Config :=
  match c.templatePath, Path.parent? path with
  | some template, some dir => { c with templatePath := some (Path.join dir template) }
  | _, _ => c

/-- The names of files with settings, most important first. -/
def fileNames : List String :=
  ["ahkunit.yaml", "ahkunit.toml", ".ahkunit.yaml", ".ahkunit.toml"]

end Config

namespace Disk

/-- The settings in a file. -/
def loadConfig (d : Disk) (path : String) : Except Failure Config := do
  let text ← (d.readText path).mapError .unreadableConfig
  let format := Config.formatOf path
  match Config.ofText? format text with
  | none => throw (.malformedConfig format)
  | some c =>
    let c := c.fromFile path
    c.validate.mapError .badConfig
    return c

/-- The given directory and those above it, nearest first. -/
def directoriesFrom (steps : Nat) (dir : String) : List String :=
  match steps with
  | 0 => [dir]
  | steps + 1 =>
    match Path.parent? dir with
    | some above => dir :: directoriesFrom steps above
    | none => [dir]

/-- The file with the settings for a directory. -/
def findConfig? (d : Disk) (dir : String) : Option String :=
  ((directoriesFrom dir.length dir).flatMap fun dir =>
    Config.fileNames.map (Path.join dir)).find? d.exists?

/-- The settings for a directory, which must have some, and their file. -/
def requireConfig (d : Disk) (dir : String) : Except Failure (Config × String) :=
  match d.findConfig? dir with
  | some path => (d.loadConfig path).map fun c => (c, path)
  | none => .error (.noConfig dir)

/-- The settings for a directory and their file, or the defaults if it has none. -/
def configOrDefault (d : Disk) (dir : String) : Except Failure (Config × Option String) :=
  match d.findConfig? dir with
  | some path => (d.loadConfig path).map fun c => (c, some path)
  | none => .ok ({}, none)

end Disk

end ScriptSuite
