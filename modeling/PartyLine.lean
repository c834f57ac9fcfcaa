import PartyLine.Channel
import PartyLine.Channel.Run
import PartyLine.Client
import PartyLine.Configuration
import PartyLine.Configuration.Environment
import PartyLine.Configuration.File
import PartyLine.Configuration.Path
import PartyLine.Configuration.Reading
import PartyLine.Connection
import PartyLine.Connection.Run
import PartyLine.Connection.State
import PartyLine.Double
import PartyLine.Double.Decimal
import PartyLine.Engine
import PartyLine.Envelope
import PartyLine.Fanout
import PartyLine.Json
import PartyLine.Json.Printer
import PartyLine.Json.Problem
import PartyLine.Json.Reader
import PartyLine.Json.Skipper
import PartyLine.Logging
import PartyLine.Proofs.Channel.Account
import PartyLine.Proofs.Channel.Alike
import PartyLine.Proofs.Channel.Deeds
import PartyLine.Proofs.Channel.Emitted
import PartyLine.Proofs.Channel.Ending
import PartyLine.Proofs.Channel.Erasure
import PartyLine.Proofs.Channel.Fields
import PartyLine.Proofs.Channel.Hearing
import PartyLine.Proofs.Channel.Hub
import PartyLine.Proofs.Channel.Inbound
import PartyLine.Proofs.Channel.Journal
import PartyLine.Proofs.Channel.Lasting
import PartyLine.Proofs.Channel.Latecomer
import PartyLine.Proofs.Channel.Outbound
import PartyLine.Proofs.Channel.Release
import PartyLine.Proofs.Channel.Replies
import PartyLine.Proofs.Channel.Report
import PartyLine.Proofs.Channel.Round
import PartyLine.Proofs.Channel.Scene
import PartyLine.Proofs.Channel.Sound
import PartyLine.Proofs.Channel.Statistics
import PartyLine.Proofs.Channel.Storage
import PartyLine.Proofs.Channel.Turn
import PartyLine.Proofs.Circuit.Attempt
import PartyLine.Proofs.Circuit.Deeds
import PartyLine.Proofs.Circuit.Rest
import PartyLine.Proofs.Configuration.Environment
import PartyLine.Proofs.Configuration.File
import PartyLine.Proofs.Configuration.Order
import PartyLine.Proofs.Configuration.Preset
import PartyLine.Proofs.Configuration.Same
import PartyLine.Proofs.Connecting
import PartyLine.Proofs.Connection.Course
import PartyLine.Proofs.Connection.Flushing
import PartyLine.Proofs.Connection.Guarded
import PartyLine.Proofs.Connection.Guards
import PartyLine.Proofs.Connection.History
import PartyLine.Proofs.Connection.Outgoing
import PartyLine.Proofs.Connection.Queueing
import PartyLine.Proofs.Connection.Step
import PartyLine.Proofs.Connection.Stopping
import PartyLine.Proofs.Connection.Story
import PartyLine.Proofs.Double
import PartyLine.Proofs.Double.Shortest
import PartyLine.Proofs.Engine
import PartyLine.Proofs.Envelope
import PartyLine.Proofs.Envelope.Doubles
import PartyLine.Proofs.Fanout
import PartyLine.Proofs.Fanout.Order
import PartyLine.Proofs.Fanout.Round
import PartyLine.Proofs.Fanout.Transcript
import PartyLine.Proofs.Fanout.Window
import PartyLine.Proofs.FarEnd
import PartyLine.Proofs.Frame
import PartyLine.Proofs.Isolation
import PartyLine.Proofs.Json.Depth
import PartyLine.Proofs.Json.Double
import PartyLine.Proofs.Json.Escape
import PartyLine.Proofs.Json.Integer
import PartyLine.Proofs.Json.Normal
import PartyLine.Proofs.Json.Printed
import PartyLine.Proofs.Json.Reading
import PartyLine.Proofs.Json.Written
import PartyLine.Proofs.Logging
import PartyLine.Proofs.Registry
import PartyLine.Proofs.Session
import PartyLine.Proofs.Settings
import PartyLine.Proofs.Settings.Defaults
import PartyLine.Proofs.Settings.Large
import PartyLine.Proofs.Settings.Order
import PartyLine.Proofs.Timeout
import PartyLine.Proofs.WebSocket.Receiving
import PartyLine.Proofs.WebSocket.Socket
import PartyLine.Record
import PartyLine.Record.Text
import PartyLine.Registry
import PartyLine.Session
import PartyLine.Settings
import PartyLine.Settings.Load
import PartyLine.Subscriber
import PartyLine.Text.Lowercase
import PartyLine.Text.Quoted
import PartyLine.Text.Unprintable
import PartyLine.Text.Utf8
import PartyLine.Toml
import PartyLine.Toml.Datetime
import PartyLine.Toml.Reader
import PartyLine.Transport.Address
import PartyLine.Transport.Error
import PartyLine.Transport.FarEnd
import PartyLine.WebSocket.Client
import PartyLine.WebSocket.Failure
import PartyLine.WebSocket.Frame
import PartyLine.WebSocket.Handshake
import PartyLine.WebSocket.Socket
