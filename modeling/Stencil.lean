import Stencil.Calendar
import Stencil.CommandLine.Data
import Stencil.CommandLine.Options
import Stencil.CommandLine.Run
import Stencil.CommandLine.Setting
import Stencil.Config.Basic
import Stencil.Config.Load
import Stencil.Config.Validate
import Stencil.File.Path
import Stencil.File.Tree
import Stencil.Host
import Stencil.Json.Read
import Stencil.Json.Write
import Stencil.Logging.Console
import Stencil.Logging.Level
import Stencil.Logging.Pattern
import Stencil.Main
import Stencil.Markup.Escape
import Stencil.Markup.Literal
import Stencil.Markup.Panel
import Stencil.Markup.Style
import Stencil.Number.Binary64
import Stencil.Number.Integer
import Stencil.Number.Layout
import Stencil.Number.Numeral
import Stencil.Number.Places
import Stencil.Number.Shortest
import Stencil.Power
import Stencil.Proofs.CommandLine.Configuring
import Stencil.Proofs.CommandLine.DataFile
import Stencil.Proofs.CommandLine.Independence
import Stencil.Proofs.CommandLine.LastSetting
import Stencil.Proofs.CommandLine.Places
import Stencil.Proofs.CommandLine.Refusal
import Stencil.Proofs.CommandLine.Roots
import Stencil.Proofs.CommandLine.Verdict
import Stencil.Proofs.Config.Anchoring
import Stencil.Proofs.Config.Loading
import Stencil.Proofs.Config.Validity
import Stencil.Proofs.File.Gain
import Stencil.Proofs.File.LogFault
import Stencil.Proofs.File.PathText
import Stencil.Proofs.File.Resolution
import Stencil.Proofs.Host.Standing
import Stencil.Proofs.Json.Legible
import Stencil.Proofs.Json.Numeral
import Stencil.Proofs.Logging.SettingUp
import Stencil.Proofs.Markup.Escape
import Stencil.Proofs.Number.Digits
import Stencil.Proofs.Number.Reading
import Stencil.Proofs.Number.Rounding
import Stencil.Proofs.Outcome
import Stencil.Proofs.Render.BoundedExpansion
import Stencil.Proofs.Render.CacheEntries
import Stencil.Proofs.Render.Chronicle
import Stencil.Proofs.Render.Coherence
import Stencil.Proofs.Render.Composition
import Stencil.Proofs.Render.CrashLines
import Stencil.Proofs.Render.Economy
import Stencil.Proofs.Render.Effect
import Stencil.Proofs.Render.ErrorLines
import Stencil.Proofs.Render.History
import Stencil.Proofs.Render.Inclusion
import Stencil.Proofs.Render.Leaves
import Stencil.Proofs.Render.LineByLine
import Stencil.Proofs.Render.LogTrace
import Stencil.Proofs.Render.Operations
import Stencil.Proofs.Render.Overwriting
import Stencil.Proofs.Render.Plain
import Stencil.Proofs.Render.Recency
import Stencil.Proofs.Render.Residue
import Stencil.Proofs.Render.Retention
import Stencil.Proofs.Render.Settling
import Stencil.Proofs.Render.Sharing
import Stencil.Proofs.Render.Snapshot
import Stencil.Proofs.Render.SourceLine
import Stencil.Proofs.Render.Transparency
import Stencil.Proofs.Render.Upkeep
import Stencil.Proofs.Render.Writing
import Stencil.Proofs.Template.Acceptance
import Stencil.Proofs.Template.CleanText
import Stencil.Proofs.Template.Compilation
import Stencil.Proofs.Template.Dependence
import Stencil.Proofs.Template.Dotted
import Stencil.Proofs.Template.JsonRendering
import Stencil.Proofs.Template.LineBalance
import Stencil.Proofs.Template.Lines
import Stencil.Proofs.Template.Looking
import Stencil.Proofs.Template.Padding
import Stencil.Proofs.Template.Position
import Stencil.Proofs.Template.Printing
import Stencil.Proofs.Template.Privacy
import Stencil.Proofs.Template.Reassembly
import Stencil.Proofs.Template.Rows
import Stencil.Proofs.Template.Stages
import Stencil.Proofs.Template.Tokenisation
import Stencil.Proofs.Text.Blank
import Stencil.Proofs.Text.Bytes
import Stencil.Proofs.Text.Filling
import Stencil.Proofs.Text.Occurrence
import Stencil.Proofs.Text.Splitting
import Stencil.Proofs.Value.Addressing
import Stencil.Proofs.Value.JsonData
import Stencil.Proofs.Value.Rearrangement
import Stencil.Proofs.Value.Redaction
import Stencil.Proofs.Value.Separation
import Stencil.Proofs.Yaml.Building
import Stencil.Proofs.Yaml.FloatForm
import Stencil.Proofs.Yaml.IntegerForm
import Stencil.Proofs.Yaml.Nodes
import Stencil.Proofs.Yaml.PlainScalar
import Stencil.Proofs.Yaml.Scanning
import Stencil.Proofs.Yaml.Tokens
import Stencil.Render.Cache
import Stencil.Render.Expansion
import Stencil.Render.Journal
import Stencil.Render.Renderer
import Stencil.Render.Session
import Stencil.Render.Store
import Stencil.Template.Balance
import Stencil.Template.Compiled
import Stencil.Template.Error
import Stencil.Template.Program
import Stencil.Template.Token
import Stencil.Text.Basic
import Stencil.Text.Blank
import Stencil.Text.Cased
import Stencil.Text.Control
import Stencil.Text.Digit
import Stencil.Text.Lower
import Stencil.Text.Printable
import Stencil.Text.Quoted
import Stencil.Text.Ranges
import Stencil.Text.Similar
import Stencil.Text.Utf8
import Stencil.Text.Word
import Stencil.Value.Basic
import Stencil.Value.Display
import Stencil.Value.Exception
import Stencil.Value.Lookup
import Stencil.Value.Mapping
import Stencil.Yaml.Cursor
import Stencil.Yaml.Document
import Stencil.Yaml.Kind
import Stencil.Yaml.Name
import Stencil.Yaml.Node
import Stencil.Yaml.Node.Read
import Stencil.Yaml.NodeValue
import Stencil.Yaml.Scalar
import Stencil.Yaml.ScalarValue
import Stencil.Yaml.Token
import Stencil.Yaml.Token.Scan
