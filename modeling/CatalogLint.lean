import CatalogLint.Catalog.Entry
import CatalogLint.Catalog.Line
import CatalogLint.Catalog.Parse
import CatalogLint.Check
import CatalogLint.Checker.Entry
import CatalogLint.Checker.Grammar
import CatalogLint.Checker.Spacing
import CatalogLint.CommandLine.Arguments
import CatalogLint.CommandLine.Event
import CatalogLint.CommandLine.Run
import CatalogLint.Dictionary
import CatalogLint.Engine.Basic
import CatalogLint.Engine.Output
import CatalogLint.Engine.Session
import CatalogLint.Engine.Program
import CatalogLint.Files
import CatalogLint.Finding
import CatalogLint.Glob
import CatalogLint.Glossary
import CatalogLint.Json.Decode
import CatalogLint.Json.Read
import CatalogLint.Json.Value
import CatalogLint.Main
import CatalogLint.Markup.Normal
import CatalogLint.Markup.Span
import CatalogLint.Output
import CatalogLint.Patch.Hunk
import CatalogLint.Patch.Split
import CatalogLint.Patch.Store
import CatalogLint.Path
import CatalogLint.Proofs.Catalog.Attribution
import CatalogLint.Proofs.Catalog.Blocks
import CatalogLint.Proofs.Catalog.Composition
import CatalogLint.Proofs.Catalog.LineRange
import CatalogLint.Proofs.Catalog.LineShape
import CatalogLint.Proofs.Catalog.Rejection
import CatalogLint.Proofs.Engine.Exchange
import CatalogLint.Proofs.Markup.Composed
import CatalogLint.Proofs.Markup.Literal
import CatalogLint.Proofs.Markup.Offset
import CatalogLint.Proofs.Markup.OneLine
import CatalogLint.Proofs.Markup.Piece
import CatalogLint.Proofs.Patch.FullContext
import CatalogLint.Proofs.Patch.Section
import CatalogLint.Proofs.Patch.Touched
import CatalogLint.Proofs.Patch.Written
import CatalogLint.Proofs.Report.FileByFile
import CatalogLint.Proofs.Report.Filtered
import CatalogLint.Proofs.Report.History
import CatalogLint.Proofs.Report.Tally
import CatalogLint.Proofs.Selection.Ignored
import CatalogLint.Proofs.Selection.Order
import CatalogLint.Proofs.Selection.Selected
import CatalogLint.Proofs.Selection.Spelling
import CatalogLint.Proofs.Selection.Walk
import CatalogLint.Proofs.Suite.Isolation
import CatalogLint.Proofs.Suite.Paragraph
import CatalogLint.Proofs.Suite.Provision
import CatalogLint.Proofs.Suite.Remark
import CatalogLint.Proofs.Suite.Run
import CatalogLint.Proofs.Text.Parts
import CatalogLint.Report
import CatalogLint.Selection
import CatalogLint.Settings.Basic
import CatalogLint.Settings.Codec
import CatalogLint.Settings.Load
import CatalogLint.Settings.Suite
import CatalogLint.Suite
import CatalogLint.Text.Alphabetic
import CatalogLint.Text.Basic
import CatalogLint.Text.Class
import CatalogLint.Text.Case
import CatalogLint.Text.CaseTables
import CatalogLint.Text.Cased
import CatalogLint.Text.Lines
import CatalogLint.Text.Occurrence
import CatalogLint.Text.Printable
import CatalogLint.Text.Replacement
import CatalogLint.Text.Window
import CatalogLint.Text.Word
import CatalogLint.Verdict
import CatalogLint.Proofs.Markup.Masked
import CatalogLint.Proofs.Patch.Additions
import CatalogLint.Proofs.Selection.Repeated
import CatalogLint.Proofs.Checker.Address
import CatalogLint.Proofs.Checker.Sign
import CatalogLint.Proofs.Json.Grammar
import CatalogLint.Proofs.Json.Pretty
import CatalogLint.Proofs.Settings.RoundTrip
import CatalogLint.Proofs.Text.Pair
import CatalogLint.Proofs.Checker.Unspaced
import CatalogLint.Proofs.Checker.Guillemet
import CatalogLint.Proofs.Markup.Shape
import CatalogLint.Proofs.Markup.Spaced
import CatalogLint.Proofs.Markup.Settled
import CatalogLint.Proofs.Text.Search
import CatalogLint.Proofs.Markup.Remasked
import CatalogLint.Proofs.Checker.BlankRun
import CatalogLint.Proofs.Text.SingleSpaced
import CatalogLint.Proofs.Markup.SingleSpaced
import CatalogLint.Proofs.Markup.Stripped
import CatalogLint.Proofs.Checker.GlossaryUse
import CatalogLint.Proofs.Text.SmallForm
import CatalogLint.Proofs.Glossary.Recognised
import CatalogLint.Proofs.Text.ByteOrder
import CatalogLint.Proofs.Glossary.Extended
import CatalogLint.Proofs.Dictionary.Accepted
import CatalogLint.Proofs.Suite.Excerpt
import CatalogLint.Proofs.Report.Ordered
import CatalogLint.Proofs.Patch.Header
import CatalogLint.Proofs.Json.Field
import CatalogLint.Proofs.Engine.Reported
import CatalogLint.Proofs.Output.Agreement
import CatalogLint.Proofs.Path.Ancestor
import CatalogLint.Proofs.Settings.Search
import CatalogLint.Proofs.Catalog.Layout
import CatalogLint.Proofs.Output.Colour
import CatalogLint.Proofs.Text.Window
import CatalogLint.Proofs.Text.CharacterSet
import CatalogLint.Proofs.Text.CaseForm
import CatalogLint.Proofs.Text.TitleCase
import CatalogLint.Proofs.Text.TitleRounds
import CatalogLint.Proofs.Dictionary.TitleForm
