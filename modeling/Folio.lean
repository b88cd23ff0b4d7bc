import Folio.App
import Folio.CommandLine
import Folio.Context
import Folio.ContextTree
import Folio.Decimal
import Folio.Directive
import Folio.Double
import Folio.EngineError
import Folio.Expansion
import Folio.Failure
import Folio.FileTree
import Folio.Host
import Folio.Json.Basic
import Folio.Json.Mismatch
import Folio.Json.Printer
import Folio.Json.Reader
import Folio.Languages
import Folio.Main
import Folio.Markdown.Blocks
import Folio.Markdown.Entity
import Folio.Markdown.Html
import Folio.Markdown.Inlines
import Folio.Markdown.Line
import Folio.Markdown.Mark
import Folio.Markdown.Markup
import Folio.Markdown.Reference
import Folio.Markdown.Tree
import Folio.Operation
import Folio.Output
import Folio.Path
import Folio.Project
import Folio.Queues
import Folio.Run
import Folio.Session
import Folio.Settings
import Folio.SettingsFile
import Folio.Store
import Folio.Style.Arithmetic
import Folio.Style.Calculation
import Folio.Style.Color
import Folio.Style.Evaluation
import Folio.Style.Expression
import Folio.Style.Extension
import Folio.Style.Function.All
import Folio.Style.Function.Basic
import Folio.Style.Function.Color
import Folio.Style.Function.List
import Folio.Style.Function.Math
import Folio.Style.Function.Text
import Folio.Style.Layout
import Folio.Style.Media
import Folio.Style.Number
import Folio.Style.Run
import Folio.Style.Scan
import Folio.Style.Scope
import Folio.Style.Selector
import Folio.Style.Sheet
import Folio.Style.Tree
import Folio.Style.Value
import Folio.Template.Blank
import Folio.Template.Check
import Folio.Template.Document
import Folio.Template.Evaluation
import Folio.Template.Expression
import Folio.Template.Filter
import Folio.Template.Grammar
import Folio.Template.Renderer
import Folio.Template.Tree
import Folio.Template.Value
import Folio.Text
import Folio.Toml.Document
import Folio.Toml.Text
import Folio.Unicode.Case
import Folio.Unicode.Classes
import Folio.Unicode.Printable
import Folio.Validation
import Folio.Word
import Folio.Yaml.Definition
import Folio.Yaml.Node
import Folio.Yaml.Scalar
import Folio.Yaml.Token
import Folio.Yaml.Value
import Folio.Proofs.Classification
import Folio.Proofs.Acceptance
import Folio.Proofs.Direct
import Folio.Proofs.Refinement
import Folio.Proofs.Repetition
import Folio.Proofs.Validation
import Folio.Proofs.Actions
import Folio.Proofs.Growth
import Folio.Proofs.OpenPath
import Folio.Proofs.Reads
import Folio.Proofs.Record
import Folio.Proofs.Concatenation
import Folio.Proofs.Yield
import Folio.Proofs.Twins
import Folio.Proofs.Independence
import Folio.Proofs.Steps
import Folio.Proofs.Rooted
import Folio.Proofs.Isolation
import Folio.Proofs.Faults
import Folio.Proofs.Lifetime
import Folio.Proofs.Completion
import Folio.Proofs.Schedules
import Folio.Proofs.Quiet
import Folio.Proofs.Placement
import Folio.Proofs.Fields
import Folio.Proofs.Replay
import Folio.Proofs.Exchange
import Folio.Proofs.Lexemes
import Folio.Proofs.ReadBack
import Folio.Proofs.Folders
import Folio.Proofs.LineMarks
import Folio.Proofs.Naming
import Folio.Proofs.NamedLines
import Folio.Proofs.Reports
import Folio.Proofs.Handlers
