import GatewayClient.Config.Document
import GatewayClient.Config.Dotenv
import GatewayClient.Config.Settings
import GatewayClient.Config.Variables
import GatewayClient.Decimal.Binary64
import GatewayClient.Decimal.Integer
import GatewayClient.Decimal.Natural
import GatewayClient.Decimal.Scientific
import GatewayClient.Decimal.Shortest
import GatewayClient.Event.Bus
import GatewayClient.Event.Kind
import GatewayClient.Event.Ready
import GatewayClient.Gateway.CloseCode
import GatewayClient.Gateway.Envelope
import GatewayClient.Gateway.Frame
import GatewayClient.Gateway.OpCode
import GatewayClient.Gateway.Payload
import GatewayClient.Json.Number
import GatewayClient.Json.Record
import GatewayClient.Json.Token
import GatewayClient.Json.Tree
import GatewayClient.Json.Value
import GatewayClient.KeyValue.Address
import GatewayClient.KeyValue.Command
import GatewayClient.KeyValue.Documented
import GatewayClient.KeyValue.Reply
import GatewayClient.KeyValue.Server
import GatewayClient.RateLimit.Bucket
import GatewayClient.RateLimit.Caller
import GatewayClient.RateLimit.Limiter
import GatewayClient.RateLimit.Memory
import GatewayClient.RateLimit.Route
import GatewayClient.RateLimit.Setup
import GatewayClient.RateLimit.Shared
import GatewayClient.RateLimit.Store
import GatewayClient.Rest.ApiError
import GatewayClient.Rest.Body
import GatewayClient.Rest.Client
import GatewayClient.Rest.Config
import GatewayClient.Rest.Endpoint
import GatewayClient.Rest.Form
import GatewayClient.Rest.Headers
import GatewayClient.Rest.MediaType
import GatewayClient.Rest.Run
import GatewayClient.Rest.Url
import GatewayClient.Schedule
import GatewayClient.Shard.Attempt
import GatewayClient.Shard.Basic
import GatewayClient.Shard.Config
import GatewayClient.Shard.Error
import GatewayClient.Shard.Heartbeat
import GatewayClient.Shard.Manager
import GatewayClient.Shard.Monitor
import GatewayClient.Shard.Operation
import GatewayClient.Shard.Reader
import GatewayClient.Shard.Session
import GatewayClient.Shard.System
import GatewayClient.Table
import GatewayClient.Telemetry
import GatewayClient.Text.Alphanumeric
import GatewayClient.Text.Blank
import GatewayClient.Text.Lower
import GatewayClient.Text.Trim
import GatewayClient.Text.Utf8
import GatewayClient.Time
import GatewayClient.RateLimit.Traffic
import GatewayClient.Proofs.RateLimit.Traffic
import GatewayClient.Proofs.RateLimit.Bucket
import GatewayClient.Proofs.RateLimit.Window
import GatewayClient.Proofs.RateLimit.ServerWindow
import GatewayClient.Proofs.Shard.Basic
import GatewayClient.Proofs.Shard.Opening
import GatewayClient.Proofs.Shard.History
import GatewayClient.Proofs.Shard.Effect
import GatewayClient.Proofs.Shard.Shutdown
import GatewayClient.Proofs.KeyValue.Documented
import GatewayClient.Proofs.KeyValue.Server
import GatewayClient.Proofs.RateLimit.Shared
import GatewayClient.Proofs.RateLimit.Agreement
import GatewayClient.Proofs.RateLimit.Lockout
import GatewayClient.Proofs.RateLimit.Recovery
import GatewayClient.Proofs.RateLimit.Attribution
import GatewayClient.RateLimit.Handshakes
import GatewayClient.Proofs.RateLimit.Slot
import GatewayClient.Proofs.RateLimit.Handshakes
import GatewayClient.Proofs.RateLimit.HandshakeProgress
import GatewayClient.Shard.Start
import GatewayClient.Proofs.Shard.Step
import GatewayClient.Proofs.Shard.Establish
import GatewayClient.Proofs.Shard.Generation
import GatewayClient.Proofs.Shard.Survival
import GatewayClient.Proofs.Shard.Loss
import GatewayClient.Proofs.Shard.Start
import GatewayClient.Proofs.Shard.Heartbeats
import GatewayClient.Shard.Admission
import GatewayClient.Shard.Fleet
import GatewayClient.Proofs.Shard.Provenance
import GatewayClient.Proofs.Shard.CloseCodes
import GatewayClient.Proofs.Shard.Lifecycle
import GatewayClient.Proofs.Shard.Delivery
import GatewayClient.Proofs.Json.Token
import GatewayClient.Proofs.Json.Tree
import GatewayClient.Proofs.Json.Value
import GatewayClient.Proofs.Json.Record
import GatewayClient.Proofs.Gateway.Envelope
import GatewayClient.Proofs.Gateway.Payload
import GatewayClient.Proofs.Rest.Admission
import GatewayClient.Proofs.Rest.Feedback
import GatewayClient.Proofs.RateLimit.Acquire
import GatewayClient.Proofs.RateLimit.Route
import GatewayClient.Proofs.RateLimit.Report
import GatewayClient.Proofs.RateLimit.Accounting
import GatewayClient.Proofs.RateLimit.Entries
import GatewayClient.Proofs.RateLimit.NameLife
import GatewayClient.Proofs.RateLimit.ServerReport
import GatewayClient.Proofs.Rest.Deadlines
import GatewayClient.Proofs.Shard.Refusal
import GatewayClient.Proofs.Shard.Pace
import GatewayClient.Proofs.Text.Utf8
import GatewayClient.Proofs.Config.Variables
import GatewayClient.Proofs.Shard.Target
import GatewayClient.Proofs.RateLimit.Cells
import GatewayClient.Proofs.RateLimit.Separation
