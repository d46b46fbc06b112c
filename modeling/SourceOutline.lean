import SourceOutline.Command.Arguments
import SourceOutline.Command.Request
import SourceOutline.Command.Run
import SourceOutline.Config.Moment
import SourceOutline.Config.Pairs
import SourceOutline.Config.Settings
import SourceOutline.Config.Store
import SourceOutline.Config.Value
import SourceOutline.Filter
import SourceOutline.Graph.Builder
import SourceOutline.Graph.Dot
import SourceOutline.Graph.DotReader
import SourceOutline.Graph.Json
import SourceOutline.Graph.JsonReader
import SourceOutline.Graph.Lookup
import SourceOutline.Graph.Node
import SourceOutline.Graph.Snapshot
import SourceOutline.Graph.Tree
import SourceOutline.Literal.Complaint
import SourceOutline.Literal.Formatted
import SourceOutline.Literal.Grammar
import SourceOutline.Literal.Lexer
import SourceOutline.Literal.Numeral
import SourceOutline.Literal.Pattern
import SourceOutline.Literal.Phrase
import SourceOutline.Literal.Quotation
import SourceOutline.Literal.Token
import SourceOutline.Literal.Value
import SourceOutline.Main
import SourceOutline.Number.Binary64
import SourceOutline.Number.Literal
import SourceOutline.Number.Shortest
import SourceOutline.Outline.Block
import SourceOutline.Outline.Definition
import SourceOutline.Outline.Scan
import SourceOutline.Outline.Scope
import SourceOutline.Proofs.Config.Excluding
import SourceOutline.Proofs.Config.Extensions
import SourceOutline.Proofs.Config.FailedSaving
import SourceOutline.Proofs.Config.Fields
import SourceOutline.Proofs.Config.Loading
import SourceOutline.Proofs.Config.Merging
import SourceOutline.Proofs.Config.Saving
import SourceOutline.Proofs.Config.Sources
import SourceOutline.Proofs.Graph.Acceptance
import SourceOutline.Proofs.Graph.Difference
import SourceOutline.Proofs.Graph.DotRoundTrip
import SourceOutline.Proofs.Graph.Drawing
import SourceOutline.Proofs.Graph.Growth
import SourceOutline.Proofs.Graph.Identity
import SourceOutline.Proofs.Graph.JsonRoundTrip
import SourceOutline.Proofs.Graph.Preorder
import SourceOutline.Proofs.Graph.Readings
import SourceOutline.Proofs.Graph.Refusal
import SourceOutline.Proofs.Graph.Unfolding
import SourceOutline.Proofs.Outline.Ancestry
import SourceOutline.Proofs.Outline.BlockEnd
import SourceOutline.Proofs.Outline.CodeLines
import SourceOutline.Proofs.Outline.Comparison
import SourceOutline.Proofs.Outline.Concatenation
import SourceOutline.Proofs.Outline.DefinitionLine
import SourceOutline.Proofs.Outline.Extent
import SourceOutline.Proofs.Outline.Nesting
import SourceOutline.Proofs.Outline.Nodes
import SourceOutline.Proofs.Outline.Placement
import SourceOutline.Proofs.Outline.Reindentation
import SourceOutline.Proofs.Repository.Completion
import SourceOutline.Proofs.Repository.Containment
import SourceOutline.Proofs.Repository.Coverage
import SourceOutline.Proofs.Repository.Difference
import SourceOutline.Proofs.Repository.Editing
import SourceOutline.Proofs.Repository.Excerpts
import SourceOutline.Proofs.Repository.Exclusion
import SourceOutline.Proofs.Repository.Freshness
import SourceOutline.Proofs.Repository.Layout
import SourceOutline.Proofs.Repository.Locality
import SourceOutline.Proofs.Repository.Numbering
import SourceOutline.Proofs.Repository.Openings
import SourceOutline.Proofs.Repository.Order
import SourceOutline.Proofs.Repository.PathReports
import SourceOutline.Proofs.Repository.Polling
import SourceOutline.Proofs.Repository.Reach
import SourceOutline.Proofs.Repository.Reading
import SourceOutline.Proofs.Repository.Recursion
import SourceOutline.Proofs.Repository.Relevance
import SourceOutline.Proofs.Repository.Reports
import SourceOutline.Proofs.Repository.Rescanning
import SourceOutline.Proofs.Repository.Scanning
import SourceOutline.Proofs.Repository.Steps
import SourceOutline.Proofs.Repository.Subwalk
import SourceOutline.Proofs.Repository.Tree
import SourceOutline.Proofs.Repository.Visit
import SourceOutline.Proofs.Repository.Watching
import SourceOutline.Proofs.Result
import SourceOutline.Proofs.Text.Decimal
import SourceOutline.Proofs.Text.Division
import SourceOutline.Proofs.Text.Line
import SourceOutline.Proofs.Text.Lowercase
import SourceOutline.Proofs.Text.Utf8
import SourceOutline.Proofs.Toml.Assembly
import SourceOutline.Proofs.Toml.Distinct
import SourceOutline.Proofs.Toml.Draft
import SourceOutline.Proofs.Toml.Lines
import SourceOutline.Proofs.Toml.Plain
import SourceOutline.Proofs.Toml.Quoting
import SourceOutline.Proofs.Toml.RoundTrip
import SourceOutline.Proofs.Toml.Sections
import SourceOutline.Proofs.Toml.Text
import SourceOutline.Proofs.Toml.Value
import SourceOutline.Proofs.Toml.Writing
import SourceOutline.Proofs.Volume.Change
import SourceOutline.Proofs.Volume.Layout
import SourceOutline.Proofs.Volume.Making
import SourceOutline.Proofs.Volume.Meeting
import SourceOutline.Proofs.Volume.PathText
import SourceOutline.Proofs.Volume.Straight
import SourceOutline.Proofs.Volume.Writing
import SourceOutline.Repository.Excerpt
import SourceOutline.Repository.Reading
import SourceOutline.Repository.Walk
import SourceOutline.Repository.Watch
import SourceOutline.Slice
import SourceOutline.Terminal.Escape
import SourceOutline.Terminal.Markup
import SourceOutline.Terminal.Style
import SourceOutline.Terminal.Wrap
import SourceOutline.Text.Blank
import SourceOutline.Text.Codec
import SourceOutline.Text.Columns
import SourceOutline.Text.Decoding
import SourceOutline.Text.Encoding
import SourceOutline.Text.Hex
import SourceOutline.Text.Identifier
import SourceOutline.Text.Line
import SourceOutline.Text.Lowercase
import SourceOutline.Text.Printable
import SourceOutline.Text.Quoted
import SourceOutline.Text.Range
import SourceOutline.Text.Sorted
import SourceOutline.Text.Split
import SourceOutline.Text.Utf16
import SourceOutline.Text.Utf8
import SourceOutline.Text.Word
import SourceOutline.Toml.Diagnosis
import SourceOutline.Toml.Draft
import SourceOutline.Toml.Fault
import SourceOutline.Toml.Form
import SourceOutline.Toml.Layout
import SourceOutline.Toml.Library
import SourceOutline.Toml.Numeral
import SourceOutline.Toml.Package
import SourceOutline.Toml.Pieces
import SourceOutline.Toml.Place
import SourceOutline.Toml.Quotation
import SourceOutline.Toml.Reader
import SourceOutline.Toml.Scalar
import SourceOutline.Toml.Writer
import SourceOutline.Volume.Basic
import SourceOutline.Volume.Edit
import SourceOutline.Volume.Path
import SourceOutline.Volume.Resolve
