import DocScribe.Buffer.Basic
import DocScribe.Buffer.Insert
import DocScribe.Chat.Client
import DocScribe.Chat.Url
import DocScribe.Check.Compare
import DocScribe.Cli.Command
import DocScribe.Cli.Documenting
import DocScribe.Cli.Flag
import DocScribe.Cli.Format
import DocScribe.Cli.Human
import DocScribe.Cli.Inspection
import DocScribe.Cli.Location
import DocScribe.Cli.Program
import DocScribe.Cli.Reach
import DocScribe.Cli.Response
import DocScribe.Cli.Session
import DocScribe.Cli.SettingsView
import DocScribe.Cli.Version
import DocScribe.Documentation.Comment
import DocScribe.Documentation.Document
import DocScribe.Documentation.Prompt
import DocScribe.Documentation.PromptFile
import DocScribe.Fault.Basic
import DocScribe.Fault.Report
import DocScribe.FileSystem.Basic
import DocScribe.FileSystem.Problem
import DocScribe.Json.Basic
import DocScribe.Json.Reader
import DocScribe.Json.Writer
import DocScribe.Log.Clock
import DocScribe.Log.Event
import DocScribe.Log.Line
import DocScribe.Log.Rotation
import DocScribe.Log.Setup
import DocScribe.Log.Sink
import DocScribe.Log.Size
import DocScribe.Log.Structured
import DocScribe.Main
import DocScribe.Number.Binary64
import DocScribe.Number.Digits
import DocScribe.Number.Integer
import DocScribe.Number.Shortest
import DocScribe.Output.Tree
import DocScribe.Path.Canonical
import DocScribe.Path.Lexical
import DocScribe.Project.Draft
import DocScribe.Project.Layout
import DocScribe.Project.Manifest
import DocScribe.Project.Setting
import DocScribe.Scan.Boundary
import DocScribe.Scan.Failure
import DocScribe.Scan.Hierarchy
import DocScribe.Scan.Owner
import DocScribe.Scan.Target
import DocScribe.Settings.Basic
import DocScribe.Settings.Field
import DocScribe.Settings.Layer
import DocScribe.Settings.Layered
import DocScribe.Settings.Library
import DocScribe.Settings.Load
import DocScribe.Settings.Patch
import DocScribe.Source.Comment
import DocScribe.Source.Declaration
import DocScribe.Source.Document
import DocScribe.Source.Kind
import DocScribe.Template.Basic
import DocScribe.Template.Render
import DocScribe.Template.Token
import DocScribe.Text.Basic
import DocScribe.Text.Blank
import DocScribe.Text.Case
import DocScribe.Text.Glyph
import DocScribe.Text.Letter
import DocScribe.Text.Printable
import DocScribe.Text.Quoted
import DocScribe.Toml.Basic
import DocScribe.Toml.Literal
import DocScribe.Toml.Problem
import DocScribe.Toml.Quoted
import DocScribe.Toml.Reader
import DocScribe.Toml.Table
import DocScribe.Toml.Track
import DocScribe.Yaml.Implicit
import DocScribe.Yaml.Scalar
import DocScribe.Yaml.Writer
import DocScribe.Proofs.Buffer.Excerpt
import DocScribe.Proofs.Buffer.Insert
import DocScribe.Proofs.Buffer.LineEnds
import DocScribe.Proofs.Buffer.Reload
import DocScribe.Proofs.Buffer.Saving
import DocScribe.Proofs.Buffer.Verbatim
import DocScribe.Proofs.Check.Agreement
import DocScribe.Proofs.Check.Order
import DocScribe.Proofs.Cli.Location
import DocScribe.Proofs.Cli.SettingsView
import DocScribe.Proofs.Cli.TimeLimit
import DocScribe.Proofs.Documentation.Atomicity
import DocScribe.Proofs.Documentation.Bodiless
import DocScribe.Proofs.Documentation.Comment
import DocScribe.Proofs.Documentation.Content
import DocScribe.Proofs.Documentation.Placement
import DocScribe.Proofs.Documentation.Preservation
import DocScribe.Proofs.Documentation.Reformatting
import DocScribe.Proofs.Documentation.Stability
import DocScribe.Proofs.Fault.Marks
import DocScribe.Proofs.Fault.Report
import DocScribe.Proofs.FileSystem.Absolute
import DocScribe.Proofs.FileSystem.Directory
import DocScribe.Proofs.FileSystem.Node
import DocScribe.Proofs.FileSystem.Operation
import DocScribe.Proofs.FileSystem.Sound
import DocScribe.Proofs.FileSystem.Walk
import DocScribe.Proofs.Json.RoundTrip
import DocScribe.Proofs.Log.Capacity
import DocScribe.Proofs.Log.Generation
import DocScribe.Proofs.Log.Line
import DocScribe.Proofs.Log.Retention
import DocScribe.Proofs.Log.Session
import DocScribe.Proofs.Log.Tee
import DocScribe.Proofs.Number.Digits
import DocScribe.Proofs.Number.Format
import DocScribe.Proofs.Number.Integer
import DocScribe.Proofs.Number.Numeral
import DocScribe.Proofs.Number.Rendering
import DocScribe.Proofs.Number.Rounding
import DocScribe.Proofs.Number.Shortest
import DocScribe.Proofs.Path.Ascent
import DocScribe.Proofs.Path.Canonical
import DocScribe.Proofs.Path.Lexical
import DocScribe.Proofs.Path.Relative
import DocScribe.Proofs.Project.Inheritance
import DocScribe.Proofs.Scan.Ancestors
import DocScribe.Proofs.Scan.Boundary
import DocScribe.Proofs.Scan.Enclosure
import DocScribe.Proofs.Scan.Excerpt
import DocScribe.Proofs.Scan.Extent
import DocScribe.Proofs.Scan.Header
import DocScribe.Proofs.Scan.Hierarchy
import DocScribe.Proofs.Scan.Limit
import DocScribe.Proofs.Scan.Naming
import DocScribe.Proofs.Scan.Outcome
import DocScribe.Proofs.Scan.OwnerSearch
import DocScribe.Proofs.Scan.Ownership
import DocScribe.Proofs.Scan.Padding
import DocScribe.Proofs.Scan.Relocation
import DocScribe.Proofs.Scan.Selection
import DocScribe.Proofs.Scan.Target
import DocScribe.Proofs.Scan.Trailing
import DocScribe.Proofs.Scan.Unlimited
import DocScribe.Proofs.Settings.Document
import DocScribe.Proofs.Settings.Field
import DocScribe.Proofs.Settings.Layer
import DocScribe.Proofs.Settings.Layered
import DocScribe.Proofs.Settings.Library
import DocScribe.Proofs.Settings.Saving
import DocScribe.Proofs.Settings.Valid
import DocScribe.Proofs.Source.BlockComment
import DocScribe.Proofs.Source.Comment
import DocScribe.Proofs.Source.Declaration
import DocScribe.Proofs.Source.Document
import DocScribe.Proofs.Source.ForWord
import DocScribe.Proofs.Source.Generics
import DocScribe.Proofs.Source.Identifier
import DocScribe.Proofs.Source.ImplHeader
import DocScribe.Proofs.Source.LineComment
import DocScribe.Proofs.Source.Path
import DocScribe.Proofs.Source.Stripping
import DocScribe.Proofs.Text.Blank
import DocScribe.Proofs.Text.Case
import DocScribe.Proofs.Text.Encoding
import DocScribe.Proofs.Text.Glyph
import DocScribe.Proofs.Text.Ink
import DocScribe.Proofs.Text.Lines
import DocScribe.Proofs.Text.Order
import DocScribe.Proofs.Text.Pieces
import DocScribe.Proofs.Text.Quoted
import DocScribe.Proofs.Text.Trim
