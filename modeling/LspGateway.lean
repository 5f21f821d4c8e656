import LspGateway.Agenda
import LspGateway.Bridge.Basic
import LspGateway.Bridge.Outbound
import LspGateway.Bridge.Stage
import LspGateway.Bridge.Supervision
import LspGateway.Config.Basic
import LspGateway.Config.Files
import LspGateway.Config.Flags
import LspGateway.Config.Load
import LspGateway.Config.Variables
import LspGateway.Daemon.Attendance
import LspGateway.Daemon.Health
import LspGateway.Daemon.Program
import LspGateway.Decimal.Reader
import LspGateway.Decimal.Shortest
import LspGateway.Dispatch.Direct
import LspGateway.Dispatch.Error
import LspGateway.Dispatch.Handler
import LspGateway.Dispatch.Table
import LspGateway.Engine.Backend
import LspGateway.Engine.Bare
import LspGateway.Engine.Documents
import LspGateway.Engine.Error
import LspGateway.Engine.Event
import LspGateway.Engine.Interface
import LspGateway.Engine.Operation
import LspGateway.Engine.Placeholder
import LspGateway.Engine.Script
import LspGateway.Engine.Scripted
import LspGateway.Frame.Fault
import LspGateway.Frame.Reader
import LspGateway.Frame.Writer
import LspGateway.Gate
import LspGateway.Hub.Basic
import LspGateway.Hub.Emission
import LspGateway.Json.Basic
import LspGateway.Json.Fault
import LspGateway.Json.Mismatch
import LspGateway.Json.Overlay
import LspGateway.Json.Printer
import LspGateway.Json.Reader
import LspGateway.Json.Shape
import LspGateway.Json.Undecodable
import LspGateway.Lifecycle.Basic
import LspGateway.Lifecycle.Phase
import LspGateway.Log.Entry
import LspGateway.Log.Filter
import LspGateway.Log.Pattern
import LspGateway.Log.Subscriber
import LspGateway.Main
import LspGateway.Message.Display
import LspGateway.Message.Id
import LspGateway.Message.Incoming
import LspGateway.Message.Outgoing
import LspGateway.Proofs.Bridge.Forwarding
import LspGateway.Proofs.Bridge.Silence
import LspGateway.Proofs.Bridge.Undoing
import LspGateway.Proofs.Engine.Course
import LspGateway.Proofs.Engine.Documents
import LspGateway.Proofs.Engine.Recording
import LspGateway.Proofs.Frame.Blocks
import LspGateway.Proofs.Frame.Encoding
import LspGateway.Proofs.Frame.Grammar
import LspGateway.Proofs.Frame.Recognition
import LspGateway.Proofs.Frame.Truncation
import LspGateway.Proofs.Json.Ordered
import LspGateway.Proofs.Json.Printed
import LspGateway.Proofs.Json.Record
import LspGateway.Proofs.Json.RoundTrip
import LspGateway.Proofs.Message.Classification
import LspGateway.Proofs.Message.Correlation
import LspGateway.Proofs.Message.Envelope
import LspGateway.Proofs.Message.Wire
import LspGateway.Proofs.Registry.Cancellation
import LspGateway.Proofs.Registry.Counts
import LspGateway.Proofs.Registry.Entries
import LspGateway.Proofs.Registry.Live
import LspGateway.Proofs.Registry.Refinement
import LspGateway.Proofs.Registry.Roll
import LspGateway.Proofs.Registry.Standing
import LspGateway.Proofs.Service.Acts
import LspGateway.Proofs.Service.Delivery
import LspGateway.Proofs.Service.Framing
import LspGateway.Proofs.Service.Outcome
import LspGateway.Proofs.Service.Pieces
import LspGateway.Proofs.Session.Accounting
import LspGateway.Proofs.Session.Acts
import LspGateway.Proofs.Session.Alike
import LspGateway.Proofs.Session.Answering
import LspGateway.Proofs.Session.Calls
import LspGateway.Proofs.Session.Chronicle
import LspGateway.Proofs.Session.Coherent
import LspGateway.Proofs.Session.Completion
import LspGateway.Proofs.Session.Discipline
import LspGateway.Proofs.Session.Ending
import LspGateway.Proofs.Session.Forgetting
import LspGateway.Proofs.Session.Handling
import LspGateway.Proofs.Session.Handshake
import LspGateway.Proofs.Session.Order
import LspGateway.Proofs.Session.Outstanding
import LspGateway.Proofs.Session.Reading
import LspGateway.Proofs.Session.Registration
import LspGateway.Proofs.Session.Responses
import LspGateway.Proofs.Session.Steps
import LspGateway.Proofs.Session.Summons
import LspGateway.Proofs.Session.Teardown
import LspGateway.Proofs.Session.Tending
import LspGateway.Proofs.Text.Reading
import LspGateway.Protocol.Methods
import LspGateway.Protocol.Params
import LspGateway.Protocol.Results
import LspGateway.Protocol.Text
import LspGateway.Registry.Basic
import LspGateway.Registry.Holders
import LspGateway.Registry.Token
import LspGateway.Service.Basic
import LspGateway.Service.Command
import LspGateway.Service.Input
import LspGateway.Service.Turn
import LspGateway.Session.Basic
import LspGateway.Session.Frame
import LspGateway.Session.Request
import LspGateway.Supervisor.Basic
import LspGateway.Supervisor.Clock
import LspGateway.Supervisor.Probe
import LspGateway.Text.Alphanumeric
import LspGateway.Text.Blank
import LspGateway.Text.Quoted
import LspGateway.Text.Ranges
import LspGateway.Text.Unsigned
import LspGateway.Text.Utf8
import LspGateway.Text.Visible
import LspGateway.Toml.Fault
import LspGateway.Toml.Reader
import LspGateway.Toml.Scalar
import LspGateway.Toml.Table
import LspGateway.Uri
import LspGateway.Proofs.Supervisor.Vigil
import LspGateway.Proofs.Hub.Ledger
import LspGateway.Proofs.Hub.Delivery
import LspGateway.Proofs.Bridge.Disposal
import LspGateway.Proofs.Bridge.Tenure
import LspGateway.Proofs.Bridge.Roster
import LspGateway.Proofs.Session.Departure
import LspGateway.Proofs.Service.Approach
import LspGateway.Proofs.Service.Deafness
import LspGateway.Proofs.Service.Alertness
import LspGateway.Proofs.Service.Abreast
import LspGateway.Proofs.Service.Aftermath
import LspGateway.Proofs.Lifecycle.Diary
import LspGateway.Proofs.Session.Inert
import LspGateway.Proofs.Bridge.Verbatim
import LspGateway.Proofs.Bridge.Lateness
import LspGateway.Proofs.Frame.Capacity
import LspGateway.Proofs.Service.Bounds
import LspGateway.Proofs.Dispatch.Handlers
import LspGateway.Proofs.Engine.Tracking
