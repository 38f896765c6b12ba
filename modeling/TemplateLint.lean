import TemplateLint.Command.Arguments
import TemplateLint.Command.Check
import TemplateLint.Command.ConfigSource
import TemplateLint.Command.Failure
import TemplateLint.Command.Output
import TemplateLint.Command.Run
import TemplateLint.Config.Basic
import TemplateLint.Config.Reader
import TemplateLint.Decimal.Binary64
import TemplateLint.Decimal.Shortest
import TemplateLint.Denylist.Basic
import TemplateLint.Denylist.Pattern
import TemplateLint.Denylist.Rule
import TemplateLint.Diagnostic
import TemplateLint.FilePath
import TemplateLint.Files.Basic
import TemplateLint.Files.Tree
import TemplateLint.Findings
import TemplateLint.Json.Basic
import TemplateLint.Json.Decode
import TemplateLint.Json.Document
import TemplateLint.Json.Printer
import TemplateLint.Json.Reader
import TemplateLint.Linter
import TemplateLint.Location
import TemplateLint.Log
import TemplateLint.Main
import TemplateLint.Proofs.Command.Annotated
import TemplateLint.Proofs.Command.Checks
import TemplateLint.Proofs.Command.Compact
import TemplateLint.Proofs.Command.Files
import TemplateLint.Proofs.Command.Normalized
import TemplateLint.Proofs.Command.Reread
import TemplateLint.Proofs.Command.Sources
import TemplateLint.Proofs.Config.Settings
import TemplateLint.Proofs.Denylist.AttributeOrder
import TemplateLint.Proofs.Denylist.Dynamic
import TemplateLint.Proofs.Denylist.Entries
import TemplateLint.Proofs.Denylist.Findings
import TemplateLint.Proofs.Denylist.Fragments
import TemplateLint.Proofs.Denylist.Futile
import TemplateLint.Proofs.Denylist.Meaning
import TemplateLint.Proofs.Denylist.Normal
import TemplateLint.Proofs.Denylist.Notices
import TemplateLint.Proofs.Denylist.Override
import TemplateLint.Proofs.Denylist.Quotations
import TemplateLint.Proofs.Denylist.Reading
import TemplateLint.Proofs.Denylist.StaticContent
import TemplateLint.Proofs.Denylist.Strength
import TemplateLint.Proofs.Denylist.Written
import TemplateLint.Proofs.Json.Canonical
import TemplateLint.Proofs.Json.Nesting
import TemplateLint.Proofs.Json.Printed
import TemplateLint.Proofs.Json.Reading
import TemplateLint.Proofs.Json.ReadsBack
import TemplateLint.Proofs.Json.Revision
import TemplateLint.Proofs.Json.Spelling
import TemplateLint.Proofs.Linter.Build
import TemplateLint.Proofs.Linter.Disabled
import TemplateLint.Proofs.Linter.Independence
import TemplateLint.Proofs.Linter.Inert
import TemplateLint.Proofs.Linter.Order
import TemplateLint.Proofs.Lists
import TemplateLint.Proofs.Source.Before
import TemplateLint.Proofs.Source.Counting
import TemplateLint.Proofs.Source.Coverage
import TemplateLint.Proofs.Template.Edit
import TemplateLint.Proofs.Template.Nesting
import TemplateLint.Proofs.Template.Occurrence
import TemplateLint.Proofs.Template.Rearrangement
import TemplateLint.Proofs.Template.Revision
import TemplateLint.Proofs.Template.RoundTrip
import TemplateLint.Proofs.Template.Site
import TemplateLint.Proofs.Template.Tolerance
import TemplateLint.Proofs.Text.Bytes
import TemplateLint.Proofs.Text.Tokens
import TemplateLint.Rule
import TemplateLint.Severity
import TemplateLint.Source.Annotation
import TemplateLint.Source.Excerpt
import TemplateLint.Source.Label
import TemplateLint.Template.Basic
import TemplateLint.Template.Decode
import TemplateLint.Template.Encode
import TemplateLint.Template.Outline
import TemplateLint.Text.Alphanumeric
import TemplateLint.Text.Basic
import TemplateLint.Text.BreakClass
import TemplateLint.Text.Extending
import TemplateLint.Text.Glyph
import TemplateLint.Text.LineBreak
import TemplateLint.Text.Printable
import TemplateLint.Text.Width
import TemplateLint.Text.Wrap
import TemplateLint.Toml.DateTime
import TemplateLint.Toml.Number
import TemplateLint.Toml.Reader
import TemplateLint.Toml.Table
import TemplateLint.Toml.Text
