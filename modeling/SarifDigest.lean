import SarifDigest.Binary64.Basic
import SarifDigest.Binary64.Shortest
import SarifDigest.Collection.Events
import SarifDigest.Collection.Merged
import SarifDigest.Collection.ReportFile
import SarifDigest.Collection.Targets
import SarifDigest.CommandLine.Command
import SarifDigest.CommandLine.HelpText
import SarifDigest.CommandLine.Invocation
import SarifDigest.CommandLine.Misuse
import SarifDigest.CommandLine.Progress
import SarifDigest.CommandLine.Usage
import SarifDigest.CommandLine.Word
import SarifDigest.Diagnostics.Filter
import SarifDigest.Diagnostics.Record
import SarifDigest.Files.Path
import SarifDigest.Files.Tree
import SarifDigest.Glob.Expansion
import SarifDigest.Glob.Pattern
import SarifDigest.Json.Fault
import SarifDigest.Json.Number
import SarifDigest.Json.Numeral
import SarifDigest.Json.Passed
import SarifDigest.Json.Reader
import SarifDigest.Json.Record
import SarifDigest.Json.Text
import SarifDigest.Json.Value
import SarifDigest.Json.Written
import SarifDigest.Listing.Document
import SarifDigest.Listing.Human
import SarifDigest.Listing.Styled
import SarifDigest.Main
import SarifDigest.Ordered.Set
import SarifDigest.Program.Digesting
import SarifDigest.Program.Outcome
import SarifDigest.Program.Run
import SarifDigest.Projection.Report
import SarifDigest.Projection.Result
import SarifDigest.Projection.Trail
import SarifDigest.Proofs.Binary64.Nearest
import SarifDigest.Proofs.Binary64.Rounding
import SarifDigest.Proofs.Collection.Accounting
import SarifDigest.Proofs.Collection.Distinct
import SarifDigest.Proofs.Collection.Distribution
import SarifDigest.Proofs.Collection.Gaining
import SarifDigest.Proofs.Collection.Outcomes
import SarifDigest.Proofs.Collection.RelativePatterns
import SarifDigest.Proofs.Collection.Union
import SarifDigest.Proofs.Files.Components
import SarifDigest.Proofs.Files.Following
import SarifDigest.Proofs.Files.Gaining
import SarifDigest.Proofs.Files.Lawful
import SarifDigest.Proofs.Glob.Entries
import SarifDigest.Proofs.Glob.Expansion
import SarifDigest.Proofs.Glob.Gaining
import SarifDigest.Proofs.Glob.Leads
import SarifDigest.Proofs.Glob.Matching
import SarifDigest.Proofs.Glob.Reading
import SarifDigest.Proofs.Glob.Syntax
import SarifDigest.Proofs.Json.Changeable
import SarifDigest.Proofs.Json.Changes
import SarifDigest.Proofs.Json.Exact
import SarifDigest.Proofs.Json.Grammar
import SarifDigest.Proofs.Json.Lists
import SarifDigest.Proofs.Json.Numbers
import SarifDigest.Proofs.Json.Records
import SarifDigest.Proofs.Json.Refusals
import SarifDigest.Proofs.Json.Splitting
import SarifDigest.Proofs.Json.Validity
import SarifDigest.Proofs.Json.Values
import SarifDigest.Proofs.Json.Writing
import SarifDigest.Proofs.Listing.Headlines
import SarifDigest.Proofs.Listing.Lines
import SarifDigest.Proofs.Listing.Lossless
import SarifDigest.Proofs.Listing.Terminal
import SarifDigest.Proofs.Ordered.Membership
import SarifDigest.Proofs.Program.ExitStatus
import SarifDigest.Proofs.Program.Gaining
import SarifDigest.Proofs.Program.Presentation
import SarifDigest.Proofs.Projection.Accounted
import SarifDigest.Proofs.Projection.Contents
import SarifDigest.Proofs.Projection.Elements
import SarifDigest.Proofs.Projection.Elementwise
import SarifDigest.Proofs.Projection.Entries
import SarifDigest.Proofs.Projection.FilelessMessages
import SarifDigest.Proofs.Projection.Metadata
import SarifDigest.Proofs.Projection.MissingArtifact
import SarifDigest.Proofs.Projection.Projected
import SarifDigest.Proofs.Projection.Rearrangement
import SarifDigest.Proofs.Projection.Speaking
import SarifDigest.Proofs.Projection.WellFormed
import SarifDigest.Proofs.Sarif.Decoding
import SarifDigest.Proofs.Sarif.LevelChanges
import SarifDigest.Proofs.Sarif.Lines
import SarifDigest.Proofs.Sarif.Refusals
import SarifDigest.Proofs.Sarif.RuleLookups
import SarifDigest.Proofs.Sarif.RuleTables
import SarifDigest.Proofs.Sarif.Truncation
import SarifDigest.Proofs.Sarif.Validity
import SarifDigest.Proofs.Settings.AcceptedWords
import SarifDigest.Proofs.Settings.Layers
import SarifDigest.Proofs.Settings.Loading
import SarifDigest.Proofs.Settings.RootDetection
import SarifDigest.Proofs.Text.CodePoints
import SarifDigest.Proofs.Text.FirstLine
import SarifDigest.Proofs.Text.Occurrences
import SarifDigest.Proofs.Text.OneLine
import SarifDigest.Proofs.Text.Trimming
import SarifDigest.Proofs.Toml.Numbers
import SarifDigest.Proofs.Violation.Lexicographic
import SarifDigest.Proofs.Violation.LocatedMessages
import SarifDigest.Proofs.Violation.Order
import SarifDigest.Proofs.Violation.SetRun
import SarifDigest.Sarif.Document
import SarifDigest.Sarif.Log
import SarifDigest.Sarif.RuleTable
import SarifDigest.Settings.Config
import SarifDigest.Settings.Discovery
import SarifDigest.Settings.Effective
import SarifDigest.Settings.Words
import SarifDigest.Text.Blank
import SarifDigest.Text.Loop
import SarifDigest.Text.Pieces
import SarifDigest.Text.Quoted
import SarifDigest.Text.Search
import SarifDigest.Text.Visible
import SarifDigest.Toml.Document
import SarifDigest.Toml.Scalar
import SarifDigest.Toml.Table
import SarifDigest.Toml.Text
import SarifDigest.Violation.Basic
import SarifDigest.Violation.Summary
import SarifDigest.Violation.Wording
import SarifDigest.Yaml.Cursor
import SarifDigest.Yaml.Node
import SarifDigest.Yaml.Scalar
import SarifDigest.Yaml.Token
