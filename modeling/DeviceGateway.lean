import DeviceGateway.Access.Accounts
import DeviceGateway.Access.Authorization
import DeviceGateway.Access.Credentials
import DeviceGateway.Access.Level
import DeviceGateway.Access.PrincipalText
import DeviceGateway.Binary.Base64
import DeviceGateway.Bytes
import DeviceGateway.Channel.Close
import DeviceGateway.Channel.Command
import DeviceGateway.Channel.Envelope
import DeviceGateway.Channel.Frame
import DeviceGateway.Channel.Message
import DeviceGateway.Channel.Sessions
import DeviceGateway.Channel.Task
import DeviceGateway.Client.Inbox
import DeviceGateway.Command.Help
import DeviceGateway.Command.Line
import DeviceGateway.Command.Report
import DeviceGateway.Command.Start
import DeviceGateway.Command.Style
import DeviceGateway.Decimal.Binary64
import DeviceGateway.Decimal.Notation
import DeviceGateway.Decimal.Shortest
import DeviceGateway.Discovery.Beacon
import DeviceGateway.Discovery.Responder
import DeviceGateway.Files.Assets
import DeviceGateway.Files.Path
import DeviceGateway.Files.Tree
import DeviceGateway.Gateway.Basic
import DeviceGateway.Gateway.Connection
import DeviceGateway.Gateway.Network
import DeviceGateway.Gateway.Routes
import DeviceGateway.Hash.Padding
import DeviceGateway.Hash.Sha1
import DeviceGateway.Hash.Sha256
import DeviceGateway.Home.Resources
import DeviceGateway.Home.State
import DeviceGateway.Http.Body
import DeviceGateway.Http.Date
import DeviceGateway.Http.Head
import DeviceGateway.Http.Headers
import DeviceGateway.Http.Reply
import DeviceGateway.Http.Status
import DeviceGateway.Http.Target
import DeviceGateway.Http.Wire
import DeviceGateway.Json.Basic
import DeviceGateway.Json.Fault
import DeviceGateway.Json.Printer
import DeviceGateway.Json.Reader
import DeviceGateway.Json.Skip
import DeviceGateway.Json.Token
import DeviceGateway.Json.Typed
import DeviceGateway.Log.Directive
import DeviceGateway.Log.Filter
import DeviceGateway.Log.Pattern
import DeviceGateway.Log.Severity
import DeviceGateway.Main
import DeviceGateway.Net.Address
import DeviceGateway.Net.Host
import DeviceGateway.Schema.Data
import DeviceGateway.Schema.Mismatch
import DeviceGateway.Service.Listener
import DeviceGateway.Service.Socket
import DeviceGateway.Settings.Basic
import DeviceGateway.Settings.Document
import DeviceGateway.Settings.File
import DeviceGateway.Settings.Schema
import DeviceGateway.Signal
import DeviceGateway.Stream.Deadline
import DeviceGateway.Stream.Pipe
import DeviceGateway.Stream.Script
import DeviceGateway.Text.Alphanumeric
import DeviceGateway.Text.Blank
import DeviceGateway.Text.Hidden
import DeviceGateway.Text.Quoted
import DeviceGateway.Text.Terminal
import DeviceGateway.Text.Utf8
import DeviceGateway.Tls.Der
import DeviceGateway.Tls.Material
import DeviceGateway.Tls.Pem
import DeviceGateway.Toml.Number
import DeviceGateway.Toml.Quoted
import DeviceGateway.Toml.Reader
import DeviceGateway.Toml.Text
import DeviceGateway.Toml.Value
import DeviceGateway.Proofs.Outcome
import DeviceGateway.Proofs.Channel.Queue
import DeviceGateway.Proofs.Channel.Outbound
import DeviceGateway.Proofs.Channel.Step
import DeviceGateway.Proofs.Channel.Course
import DeviceGateway.Proofs.Channel.Order
import DeviceGateway.Proofs.Channel.Reasons
import DeviceGateway.Proofs.Channel.Inbound
import DeviceGateway.Proofs.Channel.Exchange
import DeviceGateway.Proofs.Channel.Lone
import DeviceGateway.Proofs.Channel.Hearing
import DeviceGateway.Proofs.Channel.Rest
import DeviceGateway.Proofs.Channel.Answered
import DeviceGateway.Proofs.Json.Printer
import DeviceGateway.Proofs.Home.Announce
import DeviceGateway.Proofs.Home.Asks
import DeviceGateway.Proofs.Home.Changes
import DeviceGateway.Proofs.Access.TokenTable
import DeviceGateway.Proofs.Access.TokenLife
import DeviceGateway.Proofs.Access.Entitled
import DeviceGateway.Proofs.Gateway.Bearers
import DeviceGateway.Proofs.Channel.Owners
import DeviceGateway.Proofs.Home.Acts
import DeviceGateway.Proofs.Home.Lanes
import DeviceGateway.Proofs.Home.Guests
import DeviceGateway.Proofs.Home.Convergence
import DeviceGateway.Proofs.Text.Utf8
import DeviceGateway.Proofs.Text.Boundary
import DeviceGateway.Proofs.Toml.Strings
import DeviceGateway.Proofs.Toml.Lines
import DeviceGateway.Proofs.Settings.Document
import DeviceGateway.Proofs.Settings.Schema
import DeviceGateway.Proofs.Files.Tree
import DeviceGateway.Proofs.Files.Assets
import DeviceGateway.Proofs.Settings.File
import DeviceGateway.Proofs.Channel.Registry
import DeviceGateway.Proofs.Gateway.Refusals
import DeviceGateway.Proofs.Json.RoundTrip
import DeviceGateway.Proofs.Channel.Envelopes
import DeviceGateway.Proofs.Schema.Records
import DeviceGateway.Proofs.Toml.Distinct
import DeviceGateway.Proofs.Settings.Keys
import DeviceGateway.Proofs.Channel.Farewell
import DeviceGateway.Proofs.Channel.Due
import DeviceGateway.Proofs.Channel.Handover
import DeviceGateway.Proofs.Channel.Overlap
import DeviceGateway.Proofs.Channel.Overflow
import DeviceGateway.Proofs.Channel.Refusals
import DeviceGateway.Proofs.Channel.Teardown
import DeviceGateway.Proofs.Gateway.Statuses
import DeviceGateway.Proofs.Gateway.Switching
import DeviceGateway.Proofs.Text.Parts
import DeviceGateway.Proofs.Stream.Stalls
import DeviceGateway.Proofs.Stream.Shutdown
import DeviceGateway.Proofs.Home.Writes
import DeviceGateway.Proofs.Access.Headers
import DeviceGateway.Proofs.Json.Grammar
import DeviceGateway.Proofs.Json.Strings
import DeviceGateway.Proofs.Json.Numerals
import DeviceGateway.Proofs.Json.Reading
import DeviceGateway.Proofs.Channel.Requests
import DeviceGateway.Proofs.Http.Lists
import DeviceGateway.Proofs.Net.Numerals
import DeviceGateway.Proofs.Net.Address
import DeviceGateway.Proofs.Settings.Addresses
import DeviceGateway.Proofs.Settings.Partial
import DeviceGateway.Proofs.Discovery.Responder
