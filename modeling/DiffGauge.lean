import DiffGauge.Analysis.Basic
import DiffGauge.Analysis.Gather
import DiffGauge.Analysis.Run
import DiffGauge.Attribute
import DiffGauge.Attribution.Block
import DiffGauge.Attribution.Changes
import DiffGauge.Attribution.Choice
import DiffGauge.Attribution.Target
import DiffGauge.CodeUnit
import DiffGauge.Command.Activity
import DiffGauge.Command.Analyze
import DiffGauge.Command.Init
import DiffGauge.Command.Machine
import DiffGauge.Command.Options
import DiffGauge.Command.Request
import DiffGauge.Command.Run
import DiffGauge.Decimal.Binary
import DiffGauge.Decimal.Shortest
import DiffGauge.Diff.Basic
import DiffGauge.Diff.Body
import DiffGauge.Diff.Fault
import DiffGauge.Diff.Header
import DiffGauge.Diff.PathQuoting
import DiffGauge.Diff.Reader
import DiffGauge.Disk
import DiffGauge.Gate.Limits
import DiffGauge.Gate.Summary
import DiffGauge.Git.Query
import DiffGauge.Glob
import DiffGauge.LineSpan
import DiffGauge.Main
import DiffGauge.Path
import DiffGauge.Proofs.Analysis.Accounting
import DiffGauge.Proofs.Analysis.Lookups
import DiffGauge.Proofs.Analysis.Strictness
import DiffGauge.Proofs.Analysis.WholeFiles
import DiffGauge.Proofs.Attribution.Blocks
import DiffGauge.Proofs.Attribution.Conservation
import DiffGauge.Proofs.Attribution.Context
import DiffGauge.Proofs.Attribution.Credit
import DiffGauge.Proofs.Attribution.Deepest
import DiffGauge.Proofs.Attribution.Deletions
import DiffGauge.Proofs.Attribution.Entries
import DiffGauge.Proofs.Attribution.HunkOrder
import DiffGauge.Proofs.Attribution.InPlace
import DiffGauge.Proofs.Attribution.Innermost
import DiffGauge.Proofs.Attribution.Kinds
import DiffGauge.Proofs.Attribution.Regions
import DiffGauge.Proofs.Attribution.Removals
import DiffGauge.Proofs.Command.ExitStatus
import DiffGauge.Proofs.Command.Parts
import DiffGauge.Proofs.Command.Sources
import DiffGauge.Proofs.Command.Verdict
import DiffGauge.Proofs.Diff.Coherence
import DiffGauge.Proofs.Diff.Counts
import DiffGauge.Proofs.Diff.Excess
import DiffGauge.Proofs.Diff.FaultPlaces
import DiffGauge.Proofs.Diff.HeaderOnly
import DiffGauge.Proofs.Diff.Headers
import DiffGauge.Proofs.Diff.Joined
import DiffGauge.Proofs.Diff.Layout
import DiffGauge.Proofs.Diff.LineEndings
import DiffGauge.Proofs.Diff.Lines
import DiffGauge.Proofs.Diff.Names
import DiffGauge.Proofs.Diff.Numbering
import DiffGauge.Proofs.Diff.Opening
import DiffGauge.Proofs.Diff.Placement
import DiffGauge.Proofs.Diff.Printed
import DiffGauge.Proofs.Diff.Quoting
import DiffGauge.Proofs.Diff.Renames
import DiffGauge.Proofs.Diff.RoundTrip
import DiffGauge.Proofs.Diff.Sides
import DiffGauge.Proofs.Gate.Additivity
import DiffGauge.Proofs.Gate.Monotone
import DiffGauge.Proofs.Purpose.Entailment
import DiffGauge.Proofs.Purpose.Inheritance
import DiffGauge.Proofs.Purpose.Spelling
import DiffGauge.Proofs.Report.Console
import DiffGauge.Proofs.Report.Documents
import DiffGauge.Proofs.Report.Terminal
import DiffGauge.Proofs.Rust.Spread
import DiffGauge.Proofs.Settings.Classification
import DiffGauge.Proofs.Settings.Failures
import DiffGauge.Proofs.Settings.Layers
import DiffGauge.Proofs.Sorting
import DiffGauge.Proofs.Sums
import DiffGauge.Proofs.Syntax.Catalogue
import DiffGauge.Proofs.Syntax.Faults
import DiffGauge.Proofs.Syntax.Inheritance
import DiffGauge.Proofs.Syntax.Nesting
import DiffGauge.Proofs.Syntax.Order
import DiffGauge.Proofs.Syntax.Paths
import DiffGauge.Proofs.Syntax.Predicates
import DiffGauge.Proofs.Syntax.Spacing
import DiffGauge.Proofs.Syntax.Spread
import DiffGauge.Proofs.Syntax.Visits
import DiffGauge.Proofs.Text.Digits
import DiffGauge.Proofs.Text.Markup
import DiffGauge.Proofs.Text.Utf8
import DiffGauge.Proofs.Traversal
import DiffGauge.Purpose
import DiffGauge.Report.Console
import DiffGauge.Report.Document
import DiffGauge.Report.Format
import DiffGauge.Report.Json
import DiffGauge.Report.Table
import DiffGauge.Report.Terminal
import DiffGauge.Report.Yaml
import DiffGauge.Report.YamlScalar
import DiffGauge.Rules
import DiffGauge.Rust.Grammar
import DiffGauge.Rust.Lexeme
import DiffGauge.Rust.Reader
import DiffGauge.Rust.Rules
import DiffGauge.Settings.Checked
import DiffGauge.Settings.Classification
import DiffGauge.Settings.Draft
import DiffGauge.Settings.Load
import DiffGauge.Settings.Moment
import DiffGauge.Settings.Template
import DiffGauge.Settings.Toml
import DiffGauge.Settings.Value
import DiffGauge.Syntax.Attributes
import DiffGauge.Syntax.Tree
import DiffGauge.Syntax.Units
import DiffGauge.Syntax.Visits
import DiffGauge.Text.Blank
import DiffGauge.Text.Breaks
import DiffGauge.Text.Cells
import DiffGauge.Text.Digit
import DiffGauge.Text.Identifier
import DiffGauge.Text.Markup
import DiffGauge.Text.Pieces
import DiffGauge.Text.Printable
import DiffGauge.Text.Printed
import DiffGauge.Text.Quoted
import DiffGauge.Text.Ranges
import DiffGauge.Text.Utf8
import DiffGauge.Total
