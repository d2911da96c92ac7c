import RouteExplorer.Change.Event
import RouteExplorer.Change.FileEvent
import RouteExplorer.Change.Pending
import RouteExplorer.Change.Watch
import RouteExplorer.CommandLine.Command
import RouteExplorer.CommandLine.Run
import RouteExplorer.Config
import RouteExplorer.Config.Fields
import RouteExplorer.Config.Loading
import RouteExplorer.FilePath
import RouteExplorer.Glob.Parser
import RouteExplorer.Glob.Pattern
import RouteExplorer.Glob.PatternSet
import RouteExplorer.Glob.Shape
import RouteExplorer.Index.FileIndex
import RouteExplorer.Index.Scan
import RouteExplorer.Index.Store
import RouteExplorer.Json.Decode
import RouteExplorer.Json.Fault
import RouteExplorer.Json.Printer
import RouteExplorer.Json.Reader
import RouteExplorer.Json.Value
import RouteExplorer.Main
import RouteExplorer.Number.Binary64
import RouteExplorer.Number.Shortest
import RouteExplorer.Number.Unsigned
import RouteExplorer.Proofs.Change.Absorption
import RouteExplorer.Proofs.Change.Coalescing
import RouteExplorer.Proofs.Change.DirectoryMoves
import RouteExplorer.Proofs.Change.FileSteps
import RouteExplorer.Proofs.Glob.Deepening
import RouteExplorer.Proofs.Glob.Language
import RouteExplorer.Proofs.Index.Freshness
import RouteExplorer.Proofs.Index.Listing
import RouteExplorer.Proofs.Index.Pruning
import RouteExplorer.Proofs.Json.Fields
import RouteExplorer.Proofs.Route.Identity
import RouteExplorer.Proofs.Route.Ownership
import RouteExplorer.Proofs.Rpc.Mirror
import RouteExplorer.Proofs.Rpc.Serving
import RouteExplorer.Proofs.Rpc.Transcript
import RouteExplorer.Proofs.Search.Endpoints
import RouteExplorer.Proofs.Search.Partition
import RouteExplorer.Proofs.Session.Consistency
import RouteExplorer.Proofs.Session.Incremental
import RouteExplorer.Proofs.Session.Run
import RouteExplorer.Proofs.Text.Pieces
import RouteExplorer.Proofs.Workspace.DirectoryMove
import RouteExplorer.Proofs.Workspace.FileStep
import RouteExplorer.Proofs.Workspace.PathMap
import RouteExplorer.Proofs.Workspace.SoundDisk
import RouteExplorer.Proofs.Workspace.Spelling
import RouteExplorer.Route.Descriptor
import RouteExplorer.Route.Encoding
import RouteExplorer.Route.Extraction
import RouteExplorer.Route.Marker
import RouteExplorer.Route.Template
import RouteExplorer.Rpc.Answer
import RouteExplorer.Rpc.Envelope
import RouteExplorer.Rpc.Request
import RouteExplorer.Rpc.Server
import RouteExplorer.Script.Bracket
import RouteExplorer.Script.Class
import RouteExplorer.Script.Expression
import RouteExplorer.Script.Goal
import RouteExplorer.Script.Grammar
import RouteExplorer.Script.Literal
import RouteExplorer.Script.Markup
import RouteExplorer.Script.Parser
import RouteExplorer.Script.Signature
import RouteExplorer.Script.Source
import RouteExplorer.Script.Statement
import RouteExplorer.Script.Syntax
import RouteExplorer.Script.TypeText
import RouteExplorer.Search.CharClass
import RouteExplorer.Search.Engine
import RouteExplorer.Search.Fuzzy
import RouteExplorer.Search.Grouping
import RouteExplorer.Search.Highlight
import RouteExplorer.Search.Result
import RouteExplorer.Session
import RouteExplorer.Text.Accents
import RouteExplorer.Text.Blank
import RouteExplorer.Text.CodeRanges
import RouteExplorer.Text.Folding
import RouteExplorer.Text.GraphemeBreak
import RouteExplorer.Text.Graphemes
import RouteExplorer.Text.Letters
import RouteExplorer.Text.Quoted
import RouteExplorer.Text.Split
import RouteExplorer.Text.Uppercase
import RouteExplorer.Workspace.Disk
import RouteExplorer.Workspace.Overlay
import RouteExplorer.Workspace.PathMap
import RouteExplorer.Yaml.Cursor
import RouteExplorer.Yaml.Lexer
import RouteExplorer.Yaml.Node
import RouteExplorer.Yaml.Property
import RouteExplorer.Yaml.Scalar
import RouteExplorer.Yaml.Token
import RouteExplorer.Proofs.Change.Batching
import RouteExplorer.Proofs.Index.Replay
import RouteExplorer.Proofs.Search.Agreement
import RouteExplorer.Proofs.Session.UpToDate
import RouteExplorer.Proofs.Workspace.Canonical
import RouteExplorer.Proofs.Rpc.UnsavedEdits
import RouteExplorer.Proofs.Rpc.Handling
import RouteExplorer.Proofs.Index.WellFormed
import RouteExplorer.Proofs.Rpc.Choices
import RouteExplorer.Proofs.Change.Rearrangement
import RouteExplorer.Proofs.Index.Leftovers
import RouteExplorer.Proofs.Rpc.Addressing
import RouteExplorer.Proofs.Session.InStep
import RouteExplorer.Proofs.Rpc.Respelling
import RouteExplorer.Proofs.Search.Ranking
import RouteExplorer.Proofs.Search.Filtering
import RouteExplorer.Proofs.Search.Groups
import RouteExplorer.Proofs.Number.Exact
import RouteExplorer.Proofs.Workspace.Drafts
import RouteExplorer.Proofs.Search.EvenScores
import RouteExplorer.Proofs.Session.Settling
import RouteExplorer.Proofs.Change.Retention
import RouteExplorer.Proofs.Glob.Truncation
import RouteExplorer.Proofs.Session.Reconfiguration
import RouteExplorer.Proofs.Text.ByteOrder
import RouteExplorer.Proofs.Index.ScanOrder
import RouteExplorer.Proofs.Session.Focus
import RouteExplorer.Proofs.Route.Location
import RouteExplorer.Proofs.Route.Joining
import RouteExplorer.Proofs.Json.Reading
import RouteExplorer.Proofs.Json.Records
import RouteExplorer.Proofs.Route.Wire
import RouteExplorer.Proofs.Script.StringValue
import RouteExplorer.Proofs.Route.DeclaredPath
import RouteExplorer.Proofs.Config.Environment
import RouteExplorer.Proofs.Search.Ranges
import RouteExplorer.Proofs.Route.Parameters
import RouteExplorer.Proofs.Workspace.RelativeNames
