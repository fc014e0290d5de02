import WidgetLocator.Check
import WidgetLocator.CommandLine.Basic
import WidgetLocator.CommandLine.Options
import WidgetLocator.CommandLine.Outcome
import WidgetLocator.Config.Basic
import WidgetLocator.Config.Error
import WidgetLocator.Config.Key
import WidgetLocator.Config.Layer
import WidgetLocator.Config.Setting
import WidgetLocator.Except
import WidgetLocator.File.Directory
import WidgetLocator.File.Error
import WidgetLocator.Format.Basic
import WidgetLocator.Format.Declarations
import WidgetLocator.Format.Error
import WidgetLocator.Format.Json
import WidgetLocator.Format.Registry
import WidgetLocator.Format.Yaml
import WidgetLocator.Format.Yaml.Reading
import WidgetLocator.Format.Yaml.Scalar
import WidgetLocator.Main
import WidgetLocator.Path.Cursor
import WidgetLocator.Path.Error
import WidgetLocator.Path.Parser
import WidgetLocator.Path.Predicate
import WidgetLocator.Path.Segments
import WidgetLocator.Path.Step
import WidgetLocator.Pipeline.Basic
import WidgetLocator.Pipeline.Caching
import WidgetLocator.Pipeline.Error
import WidgetLocator.Pipeline.Rendering
import WidgetLocator.Record.Basic
import WidgetLocator.Record.Identifier
import WidgetLocator.Record.Metadata
import WidgetLocator.Record.Synthesis
import WidgetLocator.Record.Value
import WidgetLocator.Report
import WidgetLocator.Source
import WidgetLocator.Text.Casing
import WidgetLocator.Text.Decimal
import WidgetLocator.Text.Double
import WidgetLocator.Text.Line
import WidgetLocator.Text.LowerCase
import WidgetLocator.Text.Number
import WidgetLocator.Text.Quoted
import WidgetLocator.Text.Range
import WidgetLocator.Text.Word
import WidgetLocator.Token.Alphabet
import WidgetLocator.Token.Basic
import WidgetLocator.Token.Lexer
import WidgetLocator.Toml.Document
import WidgetLocator.Toml.Moment
import WidgetLocator.Toml.Number
import WidgetLocator.Toml.Quoted
import WidgetLocator.Toml.Table
import WidgetLocator.Widget.Archetype
import WidgetLocator.Widget.Rule
import WidgetLocator.Proofs.Path.Grammar
import WidgetLocator.Proofs.Path.Cursor
import WidgetLocator.Proofs.Path.Parsing
import WidgetLocator.Proofs.Token.LongestMatch
import WidgetLocator.Proofs.Text.Utf8
import WidgetLocator.Proofs.Token.Layout
import WidgetLocator.Proofs.Token.Greedy
import WidgetLocator.Proofs.Token.Lossless
import WidgetLocator.Proofs.Path.Printer
import WidgetLocator.Proofs.Path.RoundTrip
import WidgetLocator.Proofs.Record.Chain
import WidgetLocator.Proofs.Token.Adjacent
import WidgetLocator.Proofs.Path.Relocation
import WidgetLocator.Proofs.Pipeline.Composition
import WidgetLocator.Proofs.Path.Segment
import WidgetLocator.Proofs.Pipeline.PlainPaths
import WidgetLocator.Proofs.CommandLine.Batch
import WidgetLocator.Proofs.Path.Lookahead
import WidgetLocator.Proofs.Path.Failure
import WidgetLocator.Proofs.Path.ErrorPlace
import WidgetLocator.Proofs.Format.Json
import WidgetLocator.Proofs.Format.Declarations
import WidgetLocator.Proofs.Pipeline.Caching
import WidgetLocator.Proofs.Format.Registry
import WidgetLocator.Proofs.Token.Recognition
import WidgetLocator.Proofs.Token.Respacing
import WidgetLocator.Proofs.Path.Respacing
import WidgetLocator.Proofs.Token.Unterminated
import WidgetLocator.Proofs.Path.Pieces
import WidgetLocator.Proofs.Path.EndMarker
import WidgetLocator.Proofs.Path.Unmarked
import WidgetLocator.Proofs.Format.DeclarationKeys
import WidgetLocator.Proofs.Widget.Selection
import WidgetLocator.Proofs.Widget.Ending
import WidgetLocator.Proofs.Record.Writes
import WidgetLocator.Proofs.Format.Lines
import WidgetLocator.Proofs.Record.Canonical
import WidgetLocator.Proofs.Text.Line
import WidgetLocator.Proofs.Source.Expressions
import WidgetLocator.Proofs.Report.Place
import WidgetLocator.Proofs.Report.ErrorOffset
import WidgetLocator.Proofs.Report.Caret
