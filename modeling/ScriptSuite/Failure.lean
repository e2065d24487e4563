import ScriptSuite.Config.Basic
import ScriptSuite.Discovery
import ScriptSuite.Template.Basic

/-!
# Why a request fails

Whatever goes wrong while a single test runs is part of the outcome of that test. Everything else
that goes wrong ends the request as a whole, with one of the causes listed here. A cause has a text
for the user and an exit code: two for whatever the user can mend in the settings or the arguments,
and one for the rest.
-/

namespace ScriptSuite

/-- The formats that settings are written in. -/
inductive ConfigFormat where
  /-- YAML. -/
  | yaml
  /-- TOML. -/
  | toml
deriving DecidableEq, Repr

/-- The name of a format. -/
def ConfigFormat.name : ConfigFormat → String
  | yaml => "YAML"
  | toml => "TOML"

/-- Why a request fails. -/
inductive Failure where
  /-- A text is no id of a test, or nothing has this id. -/
  | badTestId (id : String) (problem : IdProblem)
  /-- The template lacks a marker. -/
  | noMarker (marker : Marker)
  /-- The template cannot be read. -/
  | unreadableTemplate (path : String) (cause : DiskFailure)
  /-- A test file cannot be read. -/
  | unreadableSource (path : String) (cause : DiskFailure)
  /-- A report cannot be written. -/
  | unwritableReport (path : String) (cause : DiskFailure)
  /-- There are no settings in a directory or above it. -/
  | noConfig (directory : String)
  /-- The settings make no sense. -/
  | badConfig (problem : ConfigProblem)
  /-- The file of the settings cannot be read. -/
  | unreadableConfig (cause : DiskFailure)
  /-- The file of the settings is not written in its format. -/
  | malformedConfig (format : ConfigFormat)
  /-- The root of the project does not exist. -/
  | noRoot (path : String)
  /-- The glob of test files cannot be compiled. -/
  | badGlob (glob : String) (e : GlobError)
deriving DecidableEq, Repr

namespace Failure

/-- The text for a cause. -/
def message : Failure → String
  | badTestId id problem => s!"Invalid test id '{id}': {problem.reason}"
  | noMarker marker => s!"Runner template is missing the '{marker.text}' marker"
  | unreadableTemplate path cause => s!"Failed to read runner template {path}: {cause.message}"
  | unreadableSource path cause => s!"Failed to read test file {path}: {cause.message}"
  | unwritableReport path cause => s!"Failed to write report to {path}: {cause.message}"
  | noConfig directory => s!"Configuration file not found at {directory}"
  | badConfig problem => s!"Invalid configuration: {problem.field} - {problem.reason}"
  | unreadableConfig cause => s!"IO error reading config: {cause.message}"
  | malformedConfig format => s!"{format.name} parsing error"
  | noRoot path => s!"Path not found: {path}"
  | badGlob glob e => s!"Invalid test file glob '{glob}': {e.message}"

/-- The failure of the disk behind a cause, where one is kept as such. -/
def diskFailure? : Failure → Option DiskFailure
  | unreadableTemplate _ f | unreadableSource _ f | unreadableConfig f => some f
  | _ => none

/-- The text for a cause, followed by what is behind it. -/
def account (f : Failure) : String :=
  match f.diskFailure? with
  | some cause => f.message ++ ": " ++ cause.message
  | none => f.message

/-- The exit code for a cause. -/
def exitCode : Failure → Nat
  | unreadableSource .. | unwritableReport .. | noRoot .. => 1
  | _ => 2

/-- The cause when test files cannot be found. -/
def ofDiscovery (root glob : String) : DiscoveryError → Failure
  | .noRoot => noRoot root
  | .badGlob e => badGlob glob e

end Failure

end ScriptSuite
