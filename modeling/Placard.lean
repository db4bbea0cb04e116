import Placard.Command.Invocation
import Placard.Command.Manual
import Placard.Command.Run
import Placard.Decimal.Basic
import Placard.Decimal.Binary
import Placard.Decimal.Fixed
import Placard.Decimal.Shortest
import Placard.Document.Basic
import Placard.Document.Numeral
import Placard.Document.NumeralScan
import Placard.Document.Outline
import Placard.Document.Parse
import Placard.Drawing.Board
import Placard.Drawing.Chart
import Placard.Drawing.Icon
import Placard.Drawing.Panels
import Placard.Drawing.Rows
import Placard.Drawing.Steps
import Placard.Drawing.Tree
import Placard.Figure.Basic
import Placard.Figure.Wedge
import Placard.Keyword
import Placard.Line
import Placard.Lint
import Placard.Main
import Placard.Markup.BaseStyles
import Placard.Markup.DataUrl
import Placard.Markup.Escape
import Placard.Markup.Page
import Placard.Markup.Tag
import Placard.Markup.Writer
import Placard.Proofs.Command.DataUrl
import Placard.Proofs.Command.Flags
import Placard.Proofs.Command.Outcome
import Placard.Proofs.Decimal.Canonical
import Placard.Proofs.Decimal.Exact
import Placard.Proofs.Decimal.Nearest
import Placard.Proofs.Decimal.Rounding
import Placard.Proofs.Decimal.Sign
import Placard.Proofs.Document.Argument
import Placard.Proofs.Document.Coverage
import Placard.Proofs.Document.DepthFirst
import Placard.Proofs.Document.Draft
import Placard.Proofs.Document.Edit
import Placard.Proofs.Document.Extent
import Placard.Proofs.Document.Header
import Placard.Proofs.Document.Lossless
import Placard.Proofs.Document.Numeral
import Placard.Proofs.Document.NumeralScan
import Placard.Proofs.Document.Order
import Placard.Proofs.Document.Owner
import Placard.Proofs.Document.Path
import Placard.Proofs.Document.Pieces
import Placard.Proofs.Document.Place
import Placard.Proofs.Document.Realign
import Placard.Proofs.Document.Replace
import Placard.Proofs.Document.Separator
import Placard.Proofs.Document.Shift
import Placard.Proofs.Document.Trace
import Placard.Proofs.Document.Walk
import Placard.Proofs.Document.WellFormed
import Placard.Proofs.Document.Written
import Placard.Proofs.Drawing.Branches
import Placard.Proofs.Drawing.Classes
import Placard.Proofs.Drawing.Colors
import Placard.Proofs.Drawing.Entries
import Placard.Proofs.Drawing.Extents
import Placard.Proofs.Drawing.Legend
import Placard.Proofs.Drawing.Parts
import Placard.Proofs.Drawing.Percentages
import Placard.Proofs.Drawing.Places
import Placard.Proofs.Drawing.Positions
import Placard.Proofs.Drawing.Signs
import Placard.Proofs.Drawing.Slices
import Placard.Proofs.Figure.Search
import Placard.Proofs.Lint.Degradation
import Placard.Proofs.Lint.Findings
import Placard.Proofs.Lint.IconSigns
import Placard.Proofs.Lint.Lines
import Placard.Proofs.Markup.Attributes
import Placard.Proofs.Markup.Base64
import Placard.Proofs.Markup.Escape
import Placard.Proofs.Markup.Passes
import Placard.Proofs.Markup.Plain
import Placard.Proofs.Markup.Scan
import Placard.Proofs.Markup.Spacing
import Placard.Proofs.Markup.Tree
import Placard.Proofs.Markup.Writer
import Placard.Proofs.Report.Place
import Placard.Proofs.Report.Rows
import Placard.Proofs.Stylesheet.Lookup
import Placard.Proofs.Template.Families
import Placard.Proofs.Text.Bytes
import Placard.Proofs.Text.Trim
import Placard.Proofs.Text.Words
import Placard.Render
import Placard.Report
import Placard.Report.Excerpt
import Placard.Report.Paint
import Placard.Report.Row
import Placard.Stylesheet.Basic
import Placard.Stylesheet.Builtin
import Placard.Stylesheet.Palette
import Placard.Stylesheet.Read
import Placard.Template
import Placard.Template.Families
import Placard.Text.Bytes
import Placard.Text.Columns
import Placard.Text.Extending
import Placard.Text.Graphic
import Placard.Text.Ignorable
import Placard.Text.Infix
import Placard.Text.Printable
import Placard.Text.Quoted
import Placard.Text.Ranges
import Placard.Text.White
import Placard.Text.Wide
import Placard.Text.ZeroWidth
import Placard.Toml.Blank
import Placard.Toml.Document
import Placard.Toml.Moment
import Placard.Toml.Number
import Placard.Toml.Reader
import Placard.Toml.Table
import Placard.Toml.Text
import Placard.Toml.Value
