import Datastream.Backlog.Manager
import Datastream.Backlog.Request
import Datastream.Bytes
import Datastream.Calendar.Date
import Datastream.Calendar.DateTime
import Datastream.Calendar.TimeOfDay
import Datastream.Certificate.Sha256
import Datastream.Certificate.Trust
import Datastream.Channel.Basic
import Datastream.Channel.ReceiveBuffer
import Datastream.Channel.Stage
import Datastream.Client.Basic
import Datastream.Client.Connection
import Datastream.Client.Form
import Datastream.Compression.Inflate
import Datastream.Compression.PrefixCode
import Datastream.Compression.Stream
import Datastream.Compression.Zlib
import Datastream.Config.Basic
import Datastream.Config.Environment
import Datastream.Config.Form
import Datastream.Config.Toml
import Datastream.Datum
import Datastream.Error
import Datastream.Error.Form
import Datastream.Feature
import Datastream.Frame
import Datastream.Handshake.Exchange
import Datastream.Handshake.Form
import Datastream.Handshake.Message
import Datastream.Link
import Datastream.Listing.Helper
import Datastream.Listing.Reply
import Datastream.Listing.Search
import Datastream.Metrics
import Datastream.Negotiation.Exchange
import Datastream.Negotiation.Form
import Datastream.Negotiation.Header
import Datastream.Net.Address
import Datastream.Net.HostName
import Datastream.Proofs.Bytes
import Datastream.Proofs.Calendar.DayCount
import Datastream.Proofs.Calendar.Precision
import Datastream.Proofs.Frame.Stream
import Datastream.Proofs.Queue.Waits
import Datastream.Proofs.Text.Utf16
import Datastream.Proofs.Text.Utf8
import Datastream.Proofs.Value.Fields
import Datastream.Proofs.Value.Normal
import Datastream.Proofs.Value.Tree
import Datastream.Proofs.Wire.Boxed
import Datastream.Proofs.Wire.Limits
import Datastream.Proofs.Wire.Primitive
import Datastream.Proofs.Wire.Reads
import Datastream.Proofs.Wire.Record
import Datastream.Proofs.Wire.Registry
import Datastream.Proxy.Form
import Datastream.Proxy.Message
import Datastream.Queue.Await
import Datastream.Queue.Keyed
import Datastream.Session.Basic
import Datastream.Session.Call
import Datastream.Session.Event
import Datastream.Session.Form
import Datastream.Session.RpcHandler
import Datastream.Session.Run
import Datastream.Session.Tracker
import Datastream.Sync.Counter
import Datastream.Sync.Effect
import Datastream.Sync.Form
import Datastream.Sync.Method
import Datastream.Sync.Object
import Datastream.Sync.Recorder
import Datastream.Sync.Repository
import Datastream.Sync.Store
import Datastream.Table
import Datastream.Text.Hex
import Datastream.Text.Numeral
import Datastream.Text.Printable
import Datastream.Text.Quoted
import Datastream.Text.Utf16
import Datastream.Text.Utf8
import Datastream.Toml.Document
import Datastream.Toml.Number
import Datastream.Toml.Parser
import Datastream.Toml.Quoted
import Datastream.Transport.LayerStack
import Datastream.Turn
import Datastream.Value.Basic
import Datastream.Value.Equality
import Datastream.Value.Extract
import Datastream.Value.Extractor
import Datastream.Value.Flags
import Datastream.Value.Form
import Datastream.Value.Record
import Datastream.Value.Tag
import Datastream.Wire.Decode
import Datastream.Wire.Encode
import Datastream.Wire.Form
import Datastream.Wire.Output
import Datastream.Wire.Primitive
import Datastream.Wire.Reader
import Datastream.Wire.Registry
import Datastream.Proofs.Feature
import Datastream.Proofs.Handshake.RoundTrip
import Datastream.Proofs.Proxy.RoundTrip
import Datastream.Proofs.Queue.Index
import Datastream.Proofs.Compression.Inverse
import Datastream.Proofs.Queue.Delivery
import Datastream.Proofs.Compression.Receiving
import Datastream.Proofs.Channel.Observation
import Datastream.Proofs.Channel.Course
import Datastream.Proofs.Channel.Reading
import Datastream.Proofs.Sync.Repository
import Datastream.Proofs.Session.Operations
import Datastream.Proofs.Session.Tracker
import Datastream.Proofs.Session.InitRun
import Datastream.Proofs.Session.Tracking
import Datastream.Proofs.Wire.Delimited
import Datastream.Proofs.Wire.Yields
import Datastream.Proofs.Wire.Decoded
import Datastream.Proofs.Wire.Stable
import Datastream.Proofs.Wire.Depth
import Datastream.Proofs.Session.Bystanders
import Datastream.Proofs.Handshake.Closing
import Datastream.Proofs.Listing.Hearing
import Datastream.Proofs.Session.Naming
import Datastream.Proofs.Session.Routing
import Datastream.Proofs.Backlog.Repeating
import Datastream.Proofs.Backlog.Echo
import Datastream.Proofs.Sync.LiveNames
import Datastream.Compression.Writing
import Datastream.Proofs.Compression.Passage
import Datastream.Proofs.Negotiation.Agreement
import Datastream.Proofs.Session.Reaching
import Datastream.Proofs.Wire.Specs
import Datastream.Proofs.Negotiation.Offered
import Datastream.Proofs.Client.Announcing
import Datastream.Proofs.Client.Stages
import Datastream.Proofs.Handshake.Switching
import Datastream.Proofs.Frame.Ending
import Datastream.Proofs.Backlog.Matching
import Datastream.Proofs.Queue.Outstanding
import Datastream.Proofs.Listing.Course
import Datastream.Proofs.Listing.Tending
import Datastream.Proofs.Listing.Replies
import Datastream.Proofs.Handshake.Announced
import Datastream.Proofs.Handshake.Layout
import Datastream.Proofs.Handshake.Description
import Datastream.Proofs.Proxy.Grammar
import Datastream.Proofs.Wire.Failing
import Datastream.Proofs.Session.Unsent
import Datastream.Proofs.Queue.Callers
import Datastream.Proofs.Handshake.Requests
import Datastream.Proofs.Handshake.Replies
import Datastream.Proofs.Handshake.Unmatched
import Datastream.Proofs.Calendar.Succession
import Datastream.Proofs.Wire.Days
import Datastream.Proofs.Wire.Room
import Datastream.Proofs.Frame.Length
import Datastream.Proofs.Text.Hex
import Datastream.Proofs.Certificate.Pins
