import Harvest.Command.Arguments
import Harvest.Command.Files
import Harvest.Command.Run
import Harvest.Css.Reader
import Harvest.Css.Selector
import Harvest.Css.Token
import Harvest.Diagnostics
import Harvest.Dictionary
import Harvest.Extraction.Basic
import Harvest.Extraction.Error
import Harvest.Extraction.Search
import Harvest.Filter.Builtin
import Harvest.Filter.Configured
import Harvest.Filter.Name
import Harvest.Filter.Registry
import Harvest.Html.Adoption
import Harvest.Html.BodyRules
import Harvest.Html.Builder
import Harvest.Html.Document
import Harvest.Html.Draft
import Harvest.Html.Element
import Harvest.Html.Entity
import Harvest.Html.ForeignNames
import Harvest.Html.ForeignRules
import Harvest.Html.HeadRules
import Harvest.Html.Markup
import Harvest.Html.Node
import Harvest.Html.Reference
import Harvest.Html.Source
import Harvest.Html.TableRules
import Harvest.Html.Token
import Harvest.Json
import Harvest.Main
import Harvest.Number.Binary
import Harvest.Number.Decimal
import Harvest.Number.Integer
import Harvest.Number.Shortest
import Harvest.Pattern.Compile
import Harvest.Pattern.Error
import Harvest.Pattern.Line
import Harvest.Pattern.Rule
import Harvest.Pattern.Scanner
import Harvest.Pattern.Target
import Harvest.Pattern.Token
import Harvest.Proofs.Command.ConfigFile
import Harvest.Proofs.Command.Flags
import Harvest.Proofs.Command.Stages
import Harvest.Proofs.Dictionary
import Harvest.Proofs.Except
import Harvest.Proofs.Extraction.Acceptance
import Harvest.Proofs.Extraction.Bindings
import Harvest.Proofs.Extraction.CheckOrder
import Harvest.Proofs.Extraction.Collection
import Harvest.Proofs.Extraction.Concatenation
import Harvest.Proofs.Extraction.Failure
import Harvest.Proofs.Extraction.Fault
import Harvest.Proofs.Extraction.Frame
import Harvest.Proofs.Extraction.Gate
import Harvest.Proofs.Extraction.Groups
import Harvest.Proofs.Extraction.Marking
import Harvest.Proofs.Extraction.NamedAttribute
import Harvest.Proofs.Extraction.NamedFilters
import Harvest.Proofs.Extraction.Search
import Harvest.Proofs.Extraction.Targets
import Harvest.Proofs.Extraction.Writes
import Harvest.Proofs.Filter.Configured
import Harvest.Proofs.Filter.History
import Harvest.Proofs.Filter.Tag
import Harvest.Proofs.Html.Postorder
import Harvest.Proofs.Number.Decimal
import Harvest.Proofs.Number.Numeral
import Harvest.Proofs.Number.Rounding
import Harvest.Proofs.Pattern.BlankLine
import Harvest.Proofs.Pattern.Call
import Harvest.Proofs.Pattern.Captures
import Harvest.Proofs.Pattern.Ending
import Harvest.Proofs.Pattern.Fault
import Harvest.Proofs.Pattern.FirstError
import Harvest.Proofs.Pattern.Forest
import Harvest.Proofs.Pattern.Group
import Harvest.Proofs.Pattern.Indentation
import Harvest.Proofs.Pattern.Item
import Harvest.Proofs.Pattern.Language
import Harvest.Proofs.Pattern.Lexeme
import Harvest.Proofs.Pattern.Line
import Harvest.Proofs.Pattern.Literal
import Harvest.Proofs.Pattern.Nesting
import Harvest.Proofs.Pattern.OneLine
import Harvest.Proofs.Pattern.Position
import Harvest.Proofs.Pattern.Reading
import Harvest.Proofs.Pattern.Run
import Harvest.Proofs.Pattern.Scan
import Harvest.Proofs.Pattern.Seam
import Harvest.Proofs.Pattern.Spacing
import Harvest.Proofs.Record.Coercion
import Harvest.Proofs.Record.Float
import Harvest.Proofs.Record.Refusal
import Harvest.Proofs.Record.Update
import Harvest.Proofs.Settings.ConfiguredFilters
import Harvest.Proofs.Settings.Layering
import Harvest.Proofs.Settings.Layers
import Harvest.Proofs.Settings.Laying
import Harvest.Proofs.Settings.Place
import Harvest.Proofs.Text.CaseMapping
import Harvest.Record.Basic
import Harvest.Record.Field
import Harvest.Regex.Basic
import Harvest.Regex.Category
import Harvest.Regex.CodeSet
import Harvest.Regex.Expr
import Harvest.Regex.Fold
import Harvest.Regex.Program
import Harvest.Regex.Property
import Harvest.Regex.Reader
import Harvest.Regex.Script
import Harvest.Regex.Search
import Harvest.Settings.Basic
import Harvest.Settings.Path
import Harvest.Settings.Sources
import Harvest.Settings.Value
import Harvest.Text.CaseMapping
import Harvest.Text.CodeRanges
import Harvest.Text.Letter
import Harvest.Text.Quoted
import Harvest.Text.Replace
import Harvest.Text.Utf8
import Harvest.Toml.Datetime
import Harvest.Toml.Number
import Harvest.Toml.Reader
import Harvest.Toml.Table
import Harvest.Toml.Text
import Harvest.Toml.Value
