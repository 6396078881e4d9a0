import Montage.Assets
import Montage.Caption.Drawing
import Montage.Caption.Layout
import Montage.Caption.Text
import Montage.Color
import Montage.Composition
import Montage.Download.Address
import Montage.Download.Coding
import Montage.Download.Destination
import Montage.Download.Disposition
import Montage.Download.Exchange
import Montage.Download.FileName
import Montage.Download.Header
import Montage.Download.Origin
import Montage.Download.Size
import Montage.Download.Transfer
import Montage.Encoding.Compression
import Montage.Encoding.Fallback
import Montage.Encoding.Profile
import Montage.Engine.LineReader
import Montage.Engine.Outcome
import Montage.Engine.Report
import Montage.Engine.Run
import Montage.Entries
import Montage.Fault
import Montage.Files.Path
import Montage.Files.Tree
import Montage.Form.Basic
import Montage.Form.Composition
import Montage.Form.Compress
import Montage.Form.Settings
import Montage.Form.Value
import Montage.Geometry
import Montage.Graph.Program
import Montage.HostName.Basic
import Montage.HostName.Composite
import Montage.HostName.Direction
import Montage.HostName.Label
import Montage.HostName.Letter
import Montage.HostName.Mark
import Montage.HostName.Neighbour
import Montage.Http.BodyText
import Montage.Http.CrossOrigin
import Montage.Http.Date
import Montage.Http.Delivery
import Montage.Http.Range
import Montage.Http.Request
import Montage.Http.Response
import Montage.Http.Route
import Montage.Http.Server
import Montage.Http.Serving
import Montage.Http.Target
import Montage.Job.Basic
import Montage.Job.Registry
import Montage.Job.Service
import Montage.Job.Workshop
import Montage.Json.Basic
import Montage.Json.Reader
import Montage.MediaType
import Montage.Number.Binary64
import Montage.Number.Decimal
import Montage.Number.Numeral
import Montage.Processing.Compose
import Montage.Processing.Compress
import Montage.Processing.Order
import Montage.Processing.Output
import Montage.Processing.Relay
import Montage.Progress.Event
import Montage.Progress.Message
import Montage.Progress.Stream
import Montage.Scene
import Montage.Settings
import Montage.Text.Blank
import Montage.Text.Digit
import Montage.Text.Hex
import Montage.Text.Letter
import Montage.Text.Percent
import Montage.Text.Punycode
import Montage.Text.Quoted
import Montage.Text.Runs
import Montage.Text.Search
import Montage.Text.SmallForm
import Montage.Text.Utf8
import Montage.Work.Basic
import Montage.Work.World
import Montage.Proofs.Graph.Selector
import Montage.Proofs.Graph.Tree
import Montage.Proofs.Result
import Montage.Proofs.Composition.Pad
import Montage.Proofs.Composition.Parts
import Montage.Proofs.Composition.Tree
import Montage.Proofs.Graph.Validation
import Montage.Proofs.Composition.Soundness
import Montage.Proofs.Composition.Painting
import Montage.Proofs.Composition.Unfolding
import Montage.Proofs.Job.Record
import Montage.Proofs.Job.Steps
import Montage.Proofs.Job.Turn
import Montage.Proofs.Job.Frame
import Montage.Proofs.Job.Lifecycle
import Montage.Proofs.Job.Filing
import Montage.Proofs.Job.History
import Montage.Proofs.Job.Workshop
import Montage.Proofs.Composition.Motion
import Montage.Proofs.Graph.Lexer
import Montage.Proofs.Graph.PlainText
import Montage.Proofs.Composition.Quoting
import Montage.Proofs.Progress.Delivery
import Montage.Proofs.Work.Transcript
import Montage.Proofs.Engine.Report
import Montage.Proofs.Processing.Relay
import Montage.Proofs.Processing.Attempts
import Montage.Proofs.Download.Transfer
import Montage.Proofs.Number.Range
import Montage.Proofs.Geometry
import Montage.Proofs.Caption.Layout
import Montage.Proofs.Color
import Montage.Proofs.Form.Composition
import Montage.Proofs.Composition.Range
import Montage.Proofs.Job.Barrier
import Montage.Proofs.Files.Path
import Montage.Proofs.Files.Place
import Montage.Proofs.Work.Crew
import Montage.Proofs.Processing.Compress
import Montage.Proofs.Work.Turn
import Montage.Proofs.Files.Storing
import Montage.Proofs.Download.Stage
import Montage.Proofs.Download.Sharing
import Montage.Proofs.Progress.Attendance
import Montage.Proofs.Job.Attendance
import Montage.Proofs.Job.Index
import Montage.Proofs.Job.Retention
import Montage.Proofs.Job.Leaving
import Montage.Proofs.Engine.Child
import Montage.Proofs.Http.Serving
import Montage.Proofs.Http.Audience
import Montage.Proofs.Progress.Apart
import Montage.Proofs.Composition.Inputs
import Montage.Proofs.Composition.Lookup
import Montage.Proofs.Processing.Compose
import Montage.Proofs.Graph.Acceptance
import Montage.Proofs.Graph.Consumers
import Montage.Proofs.Encoding.Fallback
import Montage.Proofs.Engine.Answers
import Montage.Proofs.Engine.LineReader
import Montage.Proofs.Engine.Lines
import Montage.Proofs.Entries
import Montage.Proofs.Text.Utf8
import Montage.Proofs.Text.Search
import Montage.Proofs.Engine.Blocks
import Montage.Proofs.Engine.Statistics
import Montage.Proofs.Work.Alone
import Montage.Proofs.Files.Draft
import Montage.Proofs.Download.Alone
import Montage.Proofs.Download.Atomic
import Montage.Proofs.Download.Frame
import Montage.Proofs.Text.Letter
import Montage.Proofs.Text.Percent
import Montage.Proofs.Text.Blank
import Montage.Proofs.MediaType
import Montage.Proofs.Files.Name
import Montage.Proofs.Files.Child
import Montage.Proofs.Download.Disposition
import Montage.Proofs.Download.FileName
import Montage.Proofs.Download.Extension
import Montage.Proofs.Download.Declared
import Montage.Proofs.Download.Seeking
import Montage.Proofs.Download.Faults
import Montage.Proofs.Download.QuotedName
import Montage.Proofs.Assets.Name
import Montage.Proofs.Assets.Confinement
import Montage.Proofs.Assets.Listing
import Montage.Proofs.Assets.Order
import Montage.Proofs.Assets.Fonts
import Montage.Proofs.Color.Agreement
import Montage.Proofs.Number.Places
import Montage.Proofs.Composition.Overlays
import Montage.Proofs.Caption.Quoting
import Montage.Proofs.Caption.LineBreak
import Montage.Proofs.Number.Rounding
import Montage.Proofs.Geometry.Box
import Montage.Proofs.Number.Expression
import Montage.Proofs.Caption.Centring
import Montage.Proofs.Number.Shortest
import Montage.Proofs.Number.Spelling
import Montage.Proofs.Json.Scalar
import Montage.Proofs.Json.RoundTrip
import Montage.Proofs.Progress.Framing
