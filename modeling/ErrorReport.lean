import ErrorReport.Calendar
import ErrorReport.Checksum.Crc32
import ErrorReport.Checksum.Sha256
import ErrorReport.Client
import ErrorReport.Client.Helpers
import ErrorReport.Client.Trial
import ErrorReport.Dictionary
import ErrorReport.Dsn
import ErrorReport.Dsn.Lookup
import ErrorReport.ErrorGraph
import ErrorReport.Event
import ErrorReport.Event.Builder
import ErrorReport.Exception
import ErrorReport.Factory
import ErrorReport.Factory.Trial
import ErrorReport.Frame
import ErrorReport.FrameFilter
import ErrorReport.Grouping
import ErrorReport.HostName
import ErrorReport.HostName.Callers
import ErrorReport.HostName.Trial
import ErrorReport.Json.Binary64
import ErrorReport.Json.Output
import ErrorReport.Json.Printer
import ErrorReport.Json.Reader
import ErrorReport.Json.Shortest
import ErrorReport.Json.Sorted
import ErrorReport.Json.Value
import ErrorReport.Level
import ErrorReport.Log
import ErrorReport.Marshaller
import ErrorReport.Marshaller.Binding
import ErrorReport.Marshaller.Envelope
import ErrorReport.Payload
import ErrorReport.Pool
import ErrorReport.Pool.Config
import ErrorReport.Pool.DropCounter
import ErrorReport.Pool.Log
import ErrorReport.Pool.Trial
import ErrorReport.Scope
import ErrorReport.Text.Alphanumeric
import ErrorReport.Text.Ascii
import ErrorReport.Text.Blank
import ErrorReport.Text.Duration
import ErrorReport.Text.Form
import ErrorReport.Text.Hex
import ErrorReport.Text.Percent
import ErrorReport.Text.Printable
import ErrorReport.Text.Quoted
import ErrorReport.Text.Range
import ErrorReport.Text.Shown
import ErrorReport.Text.Split
import ErrorReport.Text.Utf8
import ErrorReport.TextSet
import ErrorReport.Transport.Auth
import ErrorReport.Transport.Error
import ErrorReport.Transport.Http
import ErrorReport.Transport.Script
import ErrorReport.Transport.Udp
import ErrorReport.Url
import ErrorReport.Url.Host
import ErrorReport.Url.Idna
import ErrorReport.Url.Idna.Composition
import ErrorReport.Url.Idna.Label
import ErrorReport.Url.Idna.Mapping
import ErrorReport.Url.Idna.Table.Allowed
import ErrorReport.Url.Idna.Table.Alphabets
import ErrorReport.Url.Idna.Table.Composition
import ErrorReport.Url.Idna.Table.Direction
import ErrorReport.Url.Idna.Table.Ideographs
import ErrorReport.Url.Idna.Table.Joining
import ErrorReport.Url.Idna.Table.Run
import ErrorReport.Url.Idna.Table.Supplementary
import ErrorReport.Url.Ipv4
import ErrorReport.Url.Ipv6
import ErrorReport.Url.Path
import ErrorReport.Url.Punycode
import ErrorReport.Url.Scheme
import ErrorReport.Uuid
import ErrorReport.Writer
import ErrorReport.Proofs.Pool.Step
import ErrorReport.Proofs.Pool.Ledger
import ErrorReport.Proofs.Pool.Delivery
import ErrorReport.Proofs.Pool.Close
import ErrorReport.Proofs.Pool.SharedCounter
import ErrorReport.Proofs.Pool.Warnings
import ErrorReport.Proofs.Client.Fate
import ErrorReport.Proofs.Client.Helpers
import ErrorReport.Proofs.Client.Reporting
import ErrorReport.Proofs.Dictionary
import ErrorReport.Proofs.Dsn.Accepted
import ErrorReport.Proofs.Dsn.Credentials
import ErrorReport.Proofs.Dsn.Grammar
import ErrorReport.Proofs.Dsn.Outcome
import ErrorReport.Proofs.Dsn.RoundTrip
import ErrorReport.Proofs.Dsn.Store
import ErrorReport.Proofs.ErrorGraph
import ErrorReport.Proofs.Event.Builder
import ErrorReport.Proofs.Event.Identifier
import ErrorReport.Proofs.Exception
import ErrorReport.Proofs.Frame
import ErrorReport.Proofs.FrameFilter
import ErrorReport.Proofs.HostName.Answers
import ErrorReport.Proofs.HostName.Resolution
import ErrorReport.Proofs.Json.Binary64
import ErrorReport.Proofs.Json.Double
import ErrorReport.Proofs.Json.Output
import ErrorReport.Proofs.Json.RoundTrip
import ErrorReport.Proofs.Marshaller.Document
import ErrorReport.Proofs.Marshaller.Members
import ErrorReport.Proofs.Marshaller.Mismatch
import ErrorReport.Proofs.Marshaller.Request
import ErrorReport.Proofs.Marshaller.Room
import ErrorReport.Proofs.Marshaller.Timestamp
import ErrorReport.Proofs.Marshaller.Trace
import ErrorReport.Proofs.Scope
import ErrorReport.Proofs.Transport.AuthLine
import ErrorReport.Proofs.Transport.Datagram
import ErrorReport.Proofs.Writer
import ErrorReport.Proofs.Grouping
import ErrorReport.Proofs.Marshaller.Receiver
import ErrorReport.Proofs.Checksum.Crc32
import ErrorReport.Proofs.Factory
import ErrorReport.Proofs.Pool.Completion
import ErrorReport.Proofs.Transport.Http
import ErrorReport.Proofs.Uuid
