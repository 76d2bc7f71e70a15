import Stencil.Text.Basic
import Stencil.Text.Blank
import Stencil.Text.Alphanumeric
import Stencil.Text.Lowercase
import Stencil.Text.Width
import Stencil.Text.Place
import Stencil.Numeral.Shortest
import Stencil.Value
import Stencil.Json.Reader
import Stencil.Delimiters.Config
import Stencil.Tag.Pairing
import Stencil.Forest.Nesting
import Stencil.Forest.Strict
import Stencil.Template
import Stencil.Header
import Stencil.Escape.Html
import Stencil.Escape.Script
import Stencil.Escape.Style
import Stencil.Escape.Url
import Stencil.Escape.Registry
import Stencil.Scope
import Stencil.Render.Engine
import Stencil.Report.Diagnostic
import Stencil.Report.Table
import Stencil.Command.Run
import Stencil.Main
import Stencil.Proofs.Text.Splicing
import Stencil.Proofs.Tag.Occurrences
import Stencil.Proofs.Tag.Excerpt
import Stencil.Proofs.Forest.Nesting
import Stencil.Proofs.Forest.Parts
import Stencil.Proofs.Forest.Moving
import Stencil.Proofs.Forest.Rereading
import Stencil.Proofs.Render.Evaluation
import Stencil.Proofs.Render.Refinement
import Stencil.Proofs.Render.Failures
import Stencil.Proofs.Command.Checked
import Stencil.Proofs.Render.Recording
import Stencil.Proofs.Render.Alignment
import Stencil.Proofs.Render.Loosening
import Stencil.Proofs.Tag.Joining
import Stencil.Proofs.Forest.Joining
import Stencil.Proofs.Render.Advance
import Stencil.Proofs.Render.Concatenation
import Stencil.Proofs.Header.Printing
import Stencil.Proofs.Render.Enclosing
import Stencil.Proofs.Render.Unrolling
import Stencil.Proofs.Forest.Grammar
import Stencil.Proofs.Forest.Offences
import Stencil.Proofs.Forest.StackMachine
import Stencil.Proofs.Forest.Descent
import Stencil.Proofs.Tag.Recognition
import Stencil.Proofs.Escape.AttributeRows
import Stencil.Proofs.Escape.Attributes
import Stencil.Proofs.Render.Verbatim
import Stencil.Proofs.Document.Splicing
import Stencil.Proofs.Tag.Division
import Stencil.Proofs.Render.Atomicity
import Stencil.Proofs.Render.Interruption
import Stencil.Proofs.Document.Offsets
import Stencil.Proofs.Escape.Entities
import Stencil.Proofs.Escape.Literals
import Stencil.Proofs.Escape.Comments
import Stencil.Proofs.Header.Recognition
import Stencil.Proofs.Text.Trimming
import Stencil.Proofs.Header.Comparisons
import Stencil.Proofs.Escape.AttributeLists
import Stencil.Proofs.Text.ByteOrder
import Stencil.Proofs.Escape.FormEncoding
import Stencil.Proofs.Value.Paths
import Stencil.Proofs.Escape.Queries
import Stencil.Proofs.Text.Splitting
import Stencil.Proofs.Scope.Aliases
import Stencil.Proofs.Header.Operators
import Stencil.Proofs.Text.Places
import Stencil.Proofs.Forest.Reports
import Stencil.Proofs.Report.Labels
import Stencil.Proofs.Tag.Search
import Stencil.Proofs.Text.Edits
import Stencil.Proofs.Suggestions
import Stencil.Proofs.Numeral.Spellings
import Stencil.Proofs.Command.Parameters
