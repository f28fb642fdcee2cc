import FeatureRunner.Cli.Execute
import FeatureRunner.Cli.Grammar
import FeatureRunner.Cli.Invocation
import FeatureRunner.Cli.Labels
import FeatureRunner.Cli.Listing
import FeatureRunner.Cli.Location
import FeatureRunner.Cli.Prompt
import FeatureRunner.Cli.Run
import FeatureRunner.Cli.Show
import FeatureRunner.Cli.Transcript
import FeatureRunner.Cli.Trouble
import FeatureRunner.Command.Basic
import FeatureRunner.Command.Json
import FeatureRunner.Command.Parts
import FeatureRunner.DebugPort
import FeatureRunner.Failure
import FeatureRunner.Feature.Json
import FeatureRunner.Feature.Line
import FeatureRunner.Feature.Section
import FeatureRunner.Feature.Sections
import FeatureRunner.Feature.TagSet
import FeatureRunner.Files.Disk
import FeatureRunner.Files.Lookup
import FeatureRunner.Files.Tree
import FeatureRunner.Glob
import FeatureRunner.Json.Decode
import FeatureRunner.Json.Draft
import FeatureRunner.Json.Reader
import FeatureRunner.Json.Value
import FeatureRunner.Main
import FeatureRunner.Path.Ancestors
import FeatureRunner.Path.Basic
import FeatureRunner.Path.Bytes
import FeatureRunner.Path.Relative
import FeatureRunner.Project.Basic
import FeatureRunner.Project.BuildSystem
import FeatureRunner.Proofs.Cli.Answering
import FeatureRunner.Proofs.Cli.Consulting
import FeatureRunner.Proofs.Cli.Locating
import FeatureRunner.Proofs.Cli.Numbering
import FeatureRunner.Proofs.Command.Dependence
import FeatureRunner.Proofs.Command.Needs
import FeatureRunner.Proofs.Command.Quoting
import FeatureRunner.Proofs.Command.Spacing
import FeatureRunner.Proofs.Command.Words
import FeatureRunner.Proofs.DebugPort.Allocating
import FeatureRunner.Proofs.DebugPort.Configured
import FeatureRunner.Proofs.Feature.Checked
import FeatureRunner.Proofs.Feature.Endings
import FeatureRunner.Proofs.Feature.Line
import FeatureRunner.Proofs.Feature.Ranges
import FeatureRunner.Proofs.Feature.Reading
import FeatureRunner.Proofs.Files.Alike
import FeatureRunner.Proofs.Files.Leading
import FeatureRunner.Proofs.Files.Tidy
import FeatureRunner.Proofs.Files.Walking
import FeatureRunner.Proofs.Files.Writing
import FeatureRunner.Proofs.Json.Reading
import FeatureRunner.Proofs.Json.Records
import FeatureRunner.Proofs.Json.RoundTrip
import FeatureRunner.Proofs.Path.Above
import FeatureRunner.Proofs.Path.Bytes
import FeatureRunner.Proofs.Path.Names
import FeatureRunner.Proofs.Path.Relative
import FeatureRunner.Proofs.Path.Steps
import FeatureRunner.Proofs.Project.Search
import FeatureRunner.Proofs.Report.Finding
import FeatureRunner.Proofs.Report.Searching
import FeatureRunner.Proofs.Session.Accepting
import FeatureRunner.Proofs.Session.Calls
import FeatureRunner.Proofs.Session.Choosing
import FeatureRunner.Proofs.Session.DebugPorts
import FeatureRunner.Proofs.Session.DebugTargets
import FeatureRunner.Proofs.Session.DryRun
import FeatureRunner.Proofs.Session.Executing
import FeatureRunner.Proofs.Session.Failing
import FeatureRunner.Proofs.Session.Handling
import FeatureRunner.Proofs.Session.History
import FeatureRunner.Proofs.Session.Preparing
import FeatureRunner.Proofs.Session.Prompting
import FeatureRunner.Proofs.Session.Repeating
import FeatureRunner.Proofs.Session.Reports
import FeatureRunner.Proofs.Session.Saving
import FeatureRunner.Proofs.Session.Turns
import FeatureRunner.Proofs.Session.Waiting
import FeatureRunner.Proofs.Settings.Defaults
import FeatureRunner.Proofs.Settings.Nearest
import FeatureRunner.Proofs.Settings.Persisting
import FeatureRunner.Proofs.Settings.Searching
import FeatureRunner.Proofs.Target.Addresses
import FeatureRunner.Proofs.Target.ClassPath
import FeatureRunner.Proofs.Target.Tagging
import FeatureRunner.Proofs.Text.Trimming
import FeatureRunner.Proofs.Text.Utf8
import FeatureRunner.Report.Find
import FeatureRunner.Report.Match
import FeatureRunner.Report.Open
import FeatureRunner.Report.Watch
import FeatureRunner.Session.Basic
import FeatureRunner.Session.Call
import FeatureRunner.Session.DryRun
import FeatureRunner.Session.Executor
import FeatureRunner.Session.RunnerClass
import FeatureRunner.Session.State
import FeatureRunner.Session.Task
import FeatureRunner.Settings.Basic
import FeatureRunner.Settings.Check
import FeatureRunner.Settings.Json
import FeatureRunner.Settings.Search
import FeatureRunner.Settings.Store
import FeatureRunner.Shell.Arithmetic
import FeatureRunner.Shell.Binary
import FeatureRunner.Shell.Braces
import FeatureRunner.Shell.Builtin
import FeatureRunner.Shell.Bytes
import FeatureRunner.Shell.Expand
import FeatureRunner.Shell.Format
import FeatureRunner.Shell.Launch
import FeatureRunner.Shell.Mode
import FeatureRunner.Shell.Pattern
import FeatureRunner.Shell.Program
import FeatureRunner.Shell.Question
import FeatureRunner.Shell.Reader
import FeatureRunner.Shell.Run
import FeatureRunner.Shell.Signal
import FeatureRunner.Shell.Source
import FeatureRunner.Shell.State
import FeatureRunner.Shell.Statement
import FeatureRunner.Shell.Variables
import FeatureRunner.Target.Basic
import FeatureRunner.Target.Json
import FeatureRunner.Target.OfFeature
import FeatureRunner.Target.Request
import FeatureRunner.Text.Blank
import FeatureRunner.Text.Lines
import FeatureRunner.Text.Numeral
import FeatureRunner.Text.Segments
import FeatureRunner.Text.Utf8
import FeatureRunner.Utility.Awk
import FeatureRunner.Utility.AwkScript
import FeatureRunner.Utility.AwkValue
import FeatureRunner.Utility.Basic
import FeatureRunner.Utility.Compare
import FeatureRunner.Utility.Digest
import FeatureRunner.Utility.Dump
import FeatureRunner.Utility.Fields
import FeatureRunner.Utility.Files
import FeatureRunner.Utility.Find
import FeatureRunner.Utility.Folder
import FeatureRunner.Utility.Grep
import FeatureRunner.Utility.Lines
import FeatureRunner.Utility.Numbers
import FeatureRunner.Utility.Owner
import FeatureRunner.Utility.Pieces
import FeatureRunner.Utility.Regex
import FeatureRunner.Utility.Sed
import FeatureRunner.Utility.SedScript
import FeatureRunner.Utility.Table
import FeatureRunner.Utility.Time
import FeatureRunner.Utility.Words
import FeatureRunner.Utility.Wrappers
