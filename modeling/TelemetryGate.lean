import TelemetryGate.Body
import TelemetryGate.Client
import TelemetryGate.Command.Arguments
import TelemetryGate.Command.Execute
import TelemetryGate.Command.Options
import TelemetryGate.Command.Presentation
import TelemetryGate.Command.Replay
import TelemetryGate.Decimal.Nearest
import TelemetryGate.Decimal.Notation
import TelemetryGate.Decimal.Reading
import TelemetryGate.Decimal.Shortest
import TelemetryGate.Delivery.Message
import TelemetryGate.Delivery.Post
import TelemetryGate.Delivery.Queue
import TelemetryGate.Delivery.Sink
import TelemetryGate.Delivery.Stamp
import TelemetryGate.Event
import TelemetryGate.Failure
import TelemetryGate.FileTree
import TelemetryGate.Form
import TelemetryGate.Gate
import TelemetryGate.Host
import TelemetryGate.Json
import TelemetryGate.Json.Conversion
import TelemetryGate.Json.Fault
import TelemetryGate.Json.Printer
import TelemetryGate.Json.Reader
import TelemetryGate.Json.Record
import TelemetryGate.Json.Scan
import TelemetryGate.Json.Skip
import TelemetryGate.Log
import TelemetryGate.Log.Directive
import TelemetryGate.Log.Filter
import TelemetryGate.Log.Line
import TelemetryGate.Log.Setup
import TelemetryGate.Main
import TelemetryGate.Manager
import TelemetryGate.Members
import TelemetryGate.Mismatch
import TelemetryGate.Path
import TelemetryGate.Program
import TelemetryGate.Program.Run
import TelemetryGate.Proofs.Body
import TelemetryGate.Proofs.Callers.Clients
import TelemetryGate.Proofs.Callers.Locks
import TelemetryGate.Proofs.Callers.Order
import TelemetryGate.Proofs.Callers.Path
import TelemetryGate.Proofs.Callers.Program
import TelemetryGate.Proofs.Callers.Run
import TelemetryGate.Proofs.Calls
import TelemetryGate.Proofs.Command.Closing
import TelemetryGate.Proofs.Command.Key
import TelemetryGate.Proofs.Command.Replay
import TelemetryGate.Proofs.Decimal
import TelemetryGate.Proofs.Delivery.Answers
import TelemetryGate.Proofs.Delivery.Close
import TelemetryGate.Proofs.Delivery.Creation
import TelemetryGate.Proofs.Delivery.Endpoint
import TelemetryGate.Proofs.Delivery.Ledger
import TelemetryGate.Proofs.Delivery.Locks
import TelemetryGate.Proofs.Delivery.Numbering
import TelemetryGate.Proofs.Delivery.Payload
import TelemetryGate.Proofs.Delivery.Program
import TelemetryGate.Proofs.Delivery.Progress
import TelemetryGate.Proofs.Gate.Bounded
import TelemetryGate.Proofs.Gate.Checks
import TelemetryGate.Proofs.Gate.Front
import TelemetryGate.Proofs.Gate.Given
import TelemetryGate.Proofs.Gate.Identity
import TelemetryGate.Proofs.Gate.Payload
import TelemetryGate.Proofs.Gate.Requests
import TelemetryGate.Proofs.Gate.Verdict
import TelemetryGate.Proofs.Gate.Wire
import TelemetryGate.Proofs.Json.Behind
import TelemetryGate.Proofs.Json.Contents
import TelemetryGate.Proofs.Json.Counted
import TelemetryGate.Proofs.Json.Entries
import TelemetryGate.Proofs.Json.Grammar
import TelemetryGate.Proofs.Json.Number
import TelemetryGate.Proofs.Json.Numerals
import TelemetryGate.Proofs.Json.Parts
import TelemetryGate.Proofs.Json.Passing
import TelemetryGate.Proofs.Json.Quotes
import TelemetryGate.Proofs.Json.Reads
import TelemetryGate.Proofs.Json.Record
import TelemetryGate.Proofs.Json.Regular
import TelemetryGate.Proofs.Json.Skipped
import TelemetryGate.Proofs.Json.Slots
import TelemetryGate.Proofs.Json.Taken
import TelemetryGate.Proofs.Json.Text
import TelemetryGate.Proofs.Json.Value
import TelemetryGate.Proofs.Log.Chosen
import TelemetryGate.Proofs.Manager
import TelemetryGate.Proofs.Members
import TelemetryGate.Proofs.Response
import TelemetryGate.Proofs.Session.Faults
import TelemetryGate.Proofs.Session.Idle
import TelemetryGate.Proofs.Session.InForce
import TelemetryGate.Proofs.Session.Ledger
import TelemetryGate.Proofs.Session.Log
import TelemetryGate.Proofs.Session.Program
import TelemetryGate.Proofs.Setting.Ordered
import TelemetryGate.Proofs.Setting.Record
import TelemetryGate.Proofs.Setting.Standing
import TelemetryGate.Proofs.Setting.Tables
import TelemetryGate.Proofs.Settings.Agreement
import TelemetryGate.Proofs.Settings.Fields
import TelemetryGate.Proofs.Settings.Layers
import TelemetryGate.Proofs.Settings.Load
import TelemetryGate.Proofs.Settings.Reporting
import TelemetryGate.Proofs.Settings.Shown
import TelemetryGate.Proofs.Settings.Table
import TelemetryGate.Proofs.Settings.Variables
import TelemetryGate.Proofs.Settings.Written
import TelemetryGate.Proofs.Threads.Locks
import TelemetryGate.Proofs.Threads.Program
import TelemetryGate.Proofs.Threads.Progress
import TelemetryGate.Proofs.Toml.Document
import TelemetryGate.Proofs.Toml.Lines
import TelemetryGate.Proofs.Toml.Text
import TelemetryGate.Proofs.Toml.Value
import TelemetryGate.Proofs.Url.Base
import TelemetryGate.Proofs.Url.Blanks
import TelemetryGate.Proofs.Url.Domain
import TelemetryGate.Proofs.Url.Slash
import TelemetryGate.Proofs.Utf8
import TelemetryGate.Proofs.Visitors.Ingest
import TelemetryGate.Proofs.Visitors.Program
import TelemetryGate.Proofs.Visitors.Run
import TelemetryGate.Proofs.Watch
import TelemetryGate.Read
import TelemetryGate.Registry
import TelemetryGate.Setting
import TelemetryGate.Setting.Conversion
import TelemetryGate.Setting.Source
import TelemetryGate.Settings
import TelemetryGate.Settings.Load
import TelemetryGate.Settings.Shown
import TelemetryGate.Text.Alphanumeric
import TelemetryGate.Text.Base64
import TelemetryGate.Text.Blank
import TelemetryGate.Text.Composed
import TelemetryGate.Text.Hidden
import TelemetryGate.Text.Lower
import TelemetryGate.Text.Quoted
import TelemetryGate.Text.Ranges
import TelemetryGate.Text.Shift
import TelemetryGate.Text.Utf8
import TelemetryGate.Toml
import TelemetryGate.Toml.Printer
import TelemetryGate.Toml.Reader
import TelemetryGate.Toml.Scan
import TelemetryGate.Toml.Table
import TelemetryGate.Url
import TelemetryGate.Url.Address
import TelemetryGate.Url.Domain
import TelemetryGate.Url.Domain.Characters
import TelemetryGate.Url.Domain.Direction
import TelemetryGate.Url.Domain.Joiners
import TelemetryGate.Url.Punycode
import TelemetryGate.Url.Reader
import TelemetryGate.Watch
import TelemetryGate.Word
