import ScriptSuite.CommandLine.Arguments
import ScriptSuite.CommandLine.Completions
import ScriptSuite.CommandLine.Execution
import ScriptSuite.CommandLine.Init
import ScriptSuite.CommandLine.List
import ScriptSuite.CommandLine.Progress
import ScriptSuite.CommandLine.Project
import ScriptSuite.CommandLine.Request
import ScriptSuite.CommandLine.Test
import ScriptSuite.CommandLine.Usage
import ScriptSuite.Config.Basic
import ScriptSuite.Config.File
import ScriptSuite.Coverage.Dump
import ScriptSuite.Coverage.Map
import ScriptSuite.Coverage.Report
import ScriptSuite.Decimal.Binary
import ScriptSuite.Decimal.Fixed
import ScriptSuite.Decimal.Reading
import ScriptSuite.Decimal.Scientific
import ScriptSuite.Decimal.Shortest
import ScriptSuite.Discovery
import ScriptSuite.Disk.Basic
import ScriptSuite.Failure
import ScriptSuite.Glob
import ScriptSuite.Json.Basic
import ScriptSuite.Json.Parser
import ScriptSuite.Json.Printer
import ScriptSuite.Json.Record
import ScriptSuite.Json.Token
import ScriptSuite.Main
import ScriptSuite.Outcome.Basic
import ScriptSuite.Outcome.Json
import ScriptSuite.Outcome.Location
import ScriptSuite.Outcome.Output
import ScriptSuite.Outline.Basic
import ScriptSuite.Outline.Brace
import ScriptSuite.Outline.Header
import ScriptSuite.Outline.Parser
import ScriptSuite.Path
import ScriptSuite.Proofs.Coverage.Dump
import ScriptSuite.Proofs.Coverage.Ledger
import ScriptSuite.Proofs.Coverage.Merge
import ScriptSuite.Proofs.Coverage.Report
import ScriptSuite.Proofs.Discovery
import ScriptSuite.Proofs.Distinct
import ScriptSuite.Proofs.Glob
import ScriptSuite.Proofs.Json.Grammar
import ScriptSuite.Proofs.Json.Record
import ScriptSuite.Proofs.Json.Text
import ScriptSuite.Proofs.Json.Token
import ScriptSuite.Proofs.Outcome.ErrorReport
import ScriptSuite.Proofs.Outcome.ErrorSection
import ScriptSuite.Proofs.Outcome.Frame
import ScriptSuite.Proofs.Outcome.Json
import ScriptSuite.Proofs.Outcome.OutOfBand
import ScriptSuite.Proofs.Outcome.Pass
import ScriptSuite.Proofs.Outcome.Quote
import ScriptSuite.Proofs.Outcome.Verdict
import ScriptSuite.Proofs.Outline.Blanks
import ScriptSuite.Proofs.Outline.Brace
import ScriptSuite.Proofs.Outline.Declared
import ScriptSuite.Proofs.Outline.Depth
import ScriptSuite.Proofs.Outline.EmptyLine
import ScriptSuite.Proofs.Outline.FinalBreak
import ScriptSuite.Proofs.Outline.Header
import ScriptSuite.Proofs.Outline.Ignored
import ScriptSuite.Proofs.Outline.Insertion
import ScriptSuite.Proofs.Outline.Layout
import ScriptSuite.Proofs.Outline.LayoutLines
import ScriptSuite.Proofs.Outline.Names
import ScriptSuite.Proofs.Outline.Nesting
import ScriptSuite.Proofs.Outline.Order
import ScriptSuite.Proofs.Outline.Place
import ScriptSuite.Proofs.Outline.Progress
import ScriptSuite.Proofs.Outline.Reading
import ScriptSuite.Proofs.Outline.RoundTrip
import ScriptSuite.Proofs.Outline.Rules
import ScriptSuite.Proofs.Outline.Stripped
import ScriptSuite.Proofs.Path
import ScriptSuite.Proofs.Path.Join
import ScriptSuite.Proofs.Report.Json
import ScriptSuite.Proofs.Report.Junit
import ScriptSuite.Proofs.Report.Suites
import ScriptSuite.Proofs.Run.Course
import ScriptSuite.Proofs.Run.Interleaving
import ScriptSuite.Proofs.Run.Permits
import ScriptSuite.Proofs.Run.Safety
import ScriptSuite.Proofs.Run.Scheduled
import ScriptSuite.Proofs.Run.Story
import ScriptSuite.Proofs.Run.Timeline
import ScriptSuite.Proofs.Sorted
import ScriptSuite.Proofs.Template
import ScriptSuite.Proofs.TestId
import ScriptSuite.Proofs.Text.Blank
import ScriptSuite.Proofs.Text.Decimal
import ScriptSuite.Proofs.Text.Find
import ScriptSuite.Proofs.Text.Lines
import ScriptSuite.Proofs.Text.Split
import ScriptSuite.Proofs.Text.Word
import ScriptSuite.Proofs.Tree.Addresses
import ScriptSuite.Proofs.Tree.Collect
import ScriptSuite.Proofs.Tree.Lookup
import ScriptSuite.Proofs.Tree.Registry
import ScriptSuite.Proofs.Tree.Visit
import ScriptSuite.Proofs.Xml.Reader
import ScriptSuite.Proofs.Xml.RoundTrip
import ScriptSuite.Report.Format
import ScriptSuite.Report.Json
import ScriptSuite.Report.Junit
import ScriptSuite.Report.Log
import ScriptSuite.Report.Plain
import ScriptSuite.Report.Timestamp
import ScriptSuite.Run.Basic
import ScriptSuite.Run.Program
import ScriptSuite.Run.Schedule
import ScriptSuite.Run.Script
import ScriptSuite.Run.Test
import ScriptSuite.Shell.Action
import ScriptSuite.Shell.Arithmetic
import ScriptSuite.Shell.Awk.Evaluate
import ScriptSuite.Shell.Awk.Parser
import ScriptSuite.Shell.Awk.Record
import ScriptSuite.Shell.Awk.State
import ScriptSuite.Shell.Awk.Stream
import ScriptSuite.Shell.Awk.Syntax
import ScriptSuite.Shell.Awk.Table
import ScriptSuite.Shell.Awk.Text
import ScriptSuite.Shell.Awk.Token
import ScriptSuite.Shell.Awk.Value
import ScriptSuite.Shell.Builtin
import ScriptSuite.Shell.Builtin.Input
import ScriptSuite.Shell.Builtin.Jobs
import ScriptSuite.Shell.Builtin.Names
import ScriptSuite.Shell.Builtin.Settings
import ScriptSuite.Shell.Bytes
import ScriptSuite.Shell.Calendar
import ScriptSuite.Shell.Evaluate
import ScriptSuite.Shell.Expansion
import ScriptSuite.Shell.Found
import ScriptSuite.Shell.Launch
import ScriptSuite.Shell.Moment
import ScriptSuite.Shell.Parser
import ScriptSuite.Shell.Pattern
import ScriptSuite.Shell.Printf
import ScriptSuite.Shell.Program.Arguments
import ScriptSuite.Shell.Program.Awk
import ScriptSuite.Shell.Program.Basic
import ScriptSuite.Shell.Program.Find
import ScriptSuite.Shell.Program.Surroundings
import ScriptSuite.Shell.Regex
import ScriptSuite.Shell.Regex.Parser
import ScriptSuite.Shell.Sed.Edit
import ScriptSuite.Shell.Sed.Parser
import ScriptSuite.Shell.Sed.Rule
import ScriptSuite.Shell.Session
import ScriptSuite.Shell.Syntax
import ScriptSuite.Shell.Tool.Basic
import ScriptSuite.Shell.Tool.Columns
import ScriptSuite.Shell.Tool.Compare
import ScriptSuite.Shell.Tool.Condition
import ScriptSuite.Shell.Tool.Copy
import ScriptSuite.Shell.Tool.Date
import ScriptSuite.Shell.Tool.Digest
import ScriptSuite.Shell.Tool.Dump
import ScriptSuite.Shell.Tool.Files
import ScriptSuite.Shell.Tool.Lines
import ScriptSuite.Shell.Tool.Listing
import ScriptSuite.Shell.Tool.Mode
import ScriptSuite.Shell.Tool.Numbers
import ScriptSuite.Shell.Tool.Options
import ScriptSuite.Shell.Tool.Paths
import ScriptSuite.Shell.Tool.Search
import ScriptSuite.Shell.Tool.Sed
import ScriptSuite.Shell.Tool.Sort
import ScriptSuite.Shell.Tool.Translate
import ScriptSuite.Shell.Tools
import ScriptSuite.Shell.Turn
import ScriptSuite.Sorted
import ScriptSuite.Template.Basic
import ScriptSuite.TestId
import ScriptSuite.Text.Blank
import ScriptSuite.Text.Find
import ScriptSuite.Text.Lines
import ScriptSuite.Text.Utf8
import ScriptSuite.Text.Word
import ScriptSuite.Toml.Basic
import ScriptSuite.Toml.Number
import ScriptSuite.Toml.Parser
import ScriptSuite.Toml.Text
import ScriptSuite.Tree
import ScriptSuite.Tree.Json
import ScriptSuite.Tree.Load
import ScriptSuite.Xml.Basic
import ScriptSuite.Yaml.Parser
import ScriptSuite.Yaml.Place
import ScriptSuite.Yaml.Scalar
