import GraphTable.Config.Basic
import GraphTable.Config.Environment
import GraphTable.Config.EnvironmentFile
import GraphTable.Config.Error
import GraphTable.Config.File
import GraphTable.Decimal.Notation
import GraphTable.Decimal.Shortest
import GraphTable.Entries
import GraphTable.Graph.Basic
import GraphTable.Graph.Evaluate
import GraphTable.Graph.Session
import GraphTable.Json.Draft
import GraphTable.Json.Numeral
import GraphTable.Json.Printer
import GraphTable.Json.Reader
import GraphTable.Json.Value
import GraphTable.Read
import GraphTable.Rehearsal
import GraphTable.Remote.Client
import GraphTable.Remote.Connection
import GraphTable.Remote.Request
import GraphTable.Remote.Response
import GraphTable.Request.Basic
import GraphTable.Request.Json
import GraphTable.Request.Kind
import GraphTable.Request.Schema
import GraphTable.Request.Shape
import GraphTable.Shape.Fault
import GraphTable.Shape.FromDraft
import GraphTable.Shape.FromJson
import GraphTable.Shape.FromYaml
import GraphTable.Shape.Medium
import GraphTable.Sink.Block
import GraphTable.Sink.Guarded
import GraphTable.Status
import GraphTable.Store.Error
import GraphTable.Store.Outside
import GraphTable.Store.Puller
import GraphTable.Stream
import GraphTable.Table.Projector
import GraphTable.Table.Record
import GraphTable.Table.Row
import GraphTable.Text.Alphanumeric
import GraphTable.Text.AsciiCase
import GraphTable.Text.Blank
import GraphTable.Text.Quoted
import GraphTable.Text.Shown
import GraphTable.Text.Utf8
import GraphTable.Traversal.Basic
import GraphTable.Traversal.Literal
import GraphTable.Traversal.Script
import GraphTable.Word
import GraphTable.Yaml.Document
import GraphTable.Yaml.Node
import GraphTable.Yaml.Place
import GraphTable.Yaml.PlainValue
import GraphTable.Yaml.Scalar
import GraphTable.Yaml.Tag
import GraphTable.Yaml.Token
import GraphTable.Yaml.Token.Scan
import GraphTable.Proofs.Stream.Course
import GraphTable.Proofs.Stream.Relay
import GraphTable.Proofs.Remote.Delivery
import GraphTable.Proofs.Remote.ResponseText
import GraphTable.Proofs.Remote.Failure
import GraphTable.Proofs.Entries
import GraphTable.Proofs.Sink.Rows
import GraphTable.Proofs.Stream.Full
import GraphTable.Proofs.Graph.Scan
import GraphTable.Proofs.Read.Scan
import GraphTable.Proofs.Read.Identity
import GraphTable.Proofs.Traversal.Literal
import GraphTable.Proofs.Traversal.Script
import GraphTable.Proofs.Sink.Blocks
import GraphTable.Proofs.Stream.Simulation
import GraphTable.Proofs.Remote.Supply
import GraphTable.Proofs.Read.Complete
import GraphTable.Proofs.Read.Interchange
import GraphTable.Proofs.Outside.Log
import GraphTable.Proofs.Stream.Protocol
import GraphTable.Proofs.Read.Conduct
import GraphTable.Proofs.Stream.Cutoff
import GraphTable.Proofs.Text.Blank
import GraphTable.Proofs.Text.Utf8
import GraphTable.Proofs.Remote.RequestMessage
import GraphTable.Proofs.Json.Edits
import GraphTable.Proofs.Shape.Edited
import GraphTable.Proofs.Request.RoundTrip
import GraphTable.Proofs.Table.Rows
import GraphTable.Proofs.Table.Columns
import GraphTable.Proofs.Table.Exact
import GraphTable.Proofs.Table.Search
import GraphTable.Proofs.Stream.Added
import GraphTable.Proofs.Read.Properties
import GraphTable.Proofs.Table.Cells
import GraphTable.Proofs.Table.LetterCase
import GraphTable.Proofs.Table.Order
import GraphTable.Proofs.Table.Relevance
import GraphTable.Proofs.Table.Views
import GraphTable.Proofs.Remote.Pull
import GraphTable.Proofs.Remote.Buffer
import GraphTable.Proofs.Remote.Interruption
import GraphTable.Proofs.Graph.Evaluation
import GraphTable.Proofs.Graph.Cursors
import GraphTable.Proofs.Graph.Growth
import GraphTable.Proofs.Graph.Projections
import GraphTable.Proofs.Graph.Queries
import GraphTable.Proofs.Sink.Closing
import GraphTable.Proofs.Stream.Feeding
import GraphTable.Proofs.Stream.Resumption
import GraphTable.Proofs.Stream.Cancelling
import GraphTable.Proofs.Graph.Scripts
import GraphTable.Proofs.Text.AsciiCase
import GraphTable.Proofs.Request.Kinds
import GraphTable.Proofs.Flags.Families
import GraphTable.Proofs.Config.Settings
import GraphTable.Proofs.Config.Validity
import GraphTable.Proofs.Json.Grammar
import GraphTable.Proofs.Json.Depicted
import GraphTable.Proofs.Json.Reading
import GraphTable.Proofs.Json.Printed
import GraphTable.Proofs.Remote.Decoding
import GraphTable.Proofs.Traversal.Scanner
