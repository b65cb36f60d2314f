import TypedRoutes.Command.Actions
import TypedRoutes.Command.Invocation
import TypedRoutes.Command.Layout
import TypedRoutes.Command.Options
import TypedRoutes.Command.Run
import TypedRoutes.Command.Style
import TypedRoutes.Command.Transcript
import TypedRoutes.Config.GivenSettings
import TypedRoutes.Config.Guess
import TypedRoutes.Config.Layers
import TypedRoutes.Config.Merge
import TypedRoutes.Config.Router
import TypedRoutes.Config.Schema
import TypedRoutes.Config.Settings
import TypedRoutes.Config.Sharing
import TypedRoutes.Dispatch.Basic
import TypedRoutes.Dispatch.MediaTable
import TypedRoutes.Dispatch.MediaType
import TypedRoutes.Document.EnvFile
import TypedRoutes.Document.Json
import TypedRoutes.Document.Nesting
import TypedRoutes.Document.Yaml
import TypedRoutes.Document.Yaml.Cursor
import TypedRoutes.Document.Yaml.Followed
import TypedRoutes.Document.Yaml.Graph
import TypedRoutes.Document.Yaml.Node
import TypedRoutes.Document.Yaml.Plain
import TypedRoutes.Document.Yaml.Resolved
import TypedRoutes.Document.Yaml.Scalar
import TypedRoutes.Document.Yaml.Token
import TypedRoutes.Fault.Basic
import TypedRoutes.Fault.LooseReport
import TypedRoutes.Fault.Report
import TypedRoutes.Files.Glob
import TypedRoutes.Files.Pathname
import TypedRoutes.Files.Tree
import TypedRoutes.Log
import TypedRoutes.Main
import TypedRoutes.Named
import TypedRoutes.Number.Binary64
import TypedRoutes.Number.Layout
import TypedRoutes.Number.Natural
import TypedRoutes.Number.Reading
import TypedRoutes.Number.Shortest
import TypedRoutes.Parameter.Codec
import TypedRoutes.Parameter.Form
import TypedRoutes.Parameter.Kind
import TypedRoutes.Proofs.Attempt
import TypedRoutes.Proofs.Command.Arguments
import TypedRoutes.Proofs.Command.Checking
import TypedRoutes.Proofs.Command.Configuration
import TypedRoutes.Proofs.Command.Finding
import TypedRoutes.Proofs.Command.FirstFault
import TypedRoutes.Proofs.Command.Transcript
import TypedRoutes.Proofs.Command.Urls
import TypedRoutes.Proofs.Config.Assignment
import TypedRoutes.Proofs.Config.DeepMerge
import TypedRoutes.Proofs.Config.Layers
import TypedRoutes.Proofs.Config.Merge
import TypedRoutes.Proofs.Config.Obstacles
import TypedRoutes.Proofs.Config.Optional
import TypedRoutes.Proofs.Config.Order
import TypedRoutes.Proofs.Config.SameData
import TypedRoutes.Proofs.Config.Section
import TypedRoutes.Proofs.Config.TextSettings
import TypedRoutes.Proofs.Config.Unshared
import TypedRoutes.Proofs.Config.Verbatim
import TypedRoutes.Proofs.Dispatch.Coherence
import TypedRoutes.Proofs.Dispatch.Endpoints
import TypedRoutes.Proofs.Dispatch.Hosting
import TypedRoutes.Proofs.Dispatch.Mounting
import TypedRoutes.Proofs.Dispatch.Unreadable
import TypedRoutes.Proofs.Document.Graph
import TypedRoutes.Proofs.Document.Json
import TypedRoutes.Proofs.Document.Keys
import TypedRoutes.Proofs.Document.Nodes
import TypedRoutes.Proofs.Document.Reading
import TypedRoutes.Proofs.Document.Tokens
import TypedRoutes.Proofs.Document.Yaml
import TypedRoutes.Proofs.Fault.Ends
import TypedRoutes.Proofs.Files.Tree
import TypedRoutes.Proofs.Named
import TypedRoutes.Proofs.Number.Foreign
import TypedRoutes.Proofs.Number.Notation
import TypedRoutes.Proofs.Number.Numeral
import TypedRoutes.Proofs.Number.Overflow
import TypedRoutes.Proofs.Number.Rounding
import TypedRoutes.Proofs.Number.ShortestDecimal
import TypedRoutes.Proofs.Number.Standard
import TypedRoutes.Proofs.Parameter.Codec
import TypedRoutes.Proofs.Parameter.Delimiters
import TypedRoutes.Proofs.Parameter.Language
import TypedRoutes.Proofs.Parameter.Oversized
import TypedRoutes.Proofs.Parameter.Range
import TypedRoutes.Proofs.Route.Accounting
import TypedRoutes.Proofs.Route.Generation
import TypedRoutes.Proofs.Route.Operation
import TypedRoutes.Proofs.Route.RoundTrip
import TypedRoutes.Proofs.Routing.Degrading
import TypedRoutes.Proofs.Routing.History
import TypedRoutes.Proofs.Routing.Loading
import TypedRoutes.Proofs.Routing.Prefix
import TypedRoutes.Proofs.Routing.Reachable
import TypedRoutes.Proofs.Routing.Registration
import TypedRoutes.Proofs.Routing.Registry
import TypedRoutes.Proofs.Routing.Resolution
import TypedRoutes.Proofs.Routing.Reversal
import TypedRoutes.Proofs.Template.Address
import TypedRoutes.Proofs.Template.Expression
import TypedRoutes.Proofs.Template.Grammar
import TypedRoutes.Proofs.Template.Matching
import TypedRoutes.Proofs.Template.Pattern
import TypedRoutes.Proofs.Template.Pointing
import TypedRoutes.Proofs.Template.Reading
import TypedRoutes.Proofs.Template.Rendering
import TypedRoutes.Proofs.Template.Spans
import TypedRoutes.Proofs.Text.LetterCase
import TypedRoutes.Proofs.Text.Percent
import TypedRoutes.Proofs.Text.Pieces
import TypedRoutes.Proofs.Text.Utf8
import TypedRoutes.Proofs.Uri
import TypedRoutes.Proofs.Uri.Joining
import TypedRoutes.Proofs.Uri.NormalForm
import TypedRoutes.Proofs.Value.Entries
import TypedRoutes.Route.Basic
import TypedRoutes.Route.Generation
import TypedRoutes.Route.Operation
import TypedRoutes.Route.Summary
import TypedRoutes.Routing.Degrading
import TypedRoutes.Routing.Method
import TypedRoutes.Routing.Operation
import TypedRoutes.Routing.Registry
import TypedRoutes.Routing.Resolver
import TypedRoutes.Routing.Table
import TypedRoutes.Template.Basic
import TypedRoutes.Template.Diagnostic
import TypedRoutes.Template.Expression
import TypedRoutes.Template.Matching
import TypedRoutes.Template.Parser
import TypedRoutes.Template.Pattern
import TypedRoutes.Text.Blank
import TypedRoutes.Text.CaseTable
import TypedRoutes.Text.Digit
import TypedRoutes.Text.Hex
import TypedRoutes.Text.LetterCase
import TypedRoutes.Text.Percent
import TypedRoutes.Text.Pieces
import TypedRoutes.Text.Printable
import TypedRoutes.Text.Quoted
import TypedRoutes.Text.SigmaContext
import TypedRoutes.Text.Utf8
import TypedRoutes.Uri
import TypedRoutes.Value.Basic
import TypedRoutes.Value.Display
import TypedRoutes.Value.Json
import TypedRoutes.Value.Store
import TypedRoutes.Value.Tag
