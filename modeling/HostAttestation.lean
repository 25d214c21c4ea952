import HostAttestation.Agent.Address
import HostAttestation.Agent.Bus
import HostAttestation.Agent.Client
import HostAttestation.Agent.Error
import HostAttestation.Agent.Http
import HostAttestation.Agent.Message
import HostAttestation.Agent.Operation
import HostAttestation.Agent.SoftwareManifest
import HostAttestation.Bytes.Base64
import HostAttestation.Bytes.BigEndian
import HostAttestation.Bytes.Hex
import HostAttestation.Bytes.Utf8
import HostAttestation.Cause
import HostAttestation.Config.Conversion
import HostAttestation.Config.File
import HostAttestation.Config.Place
import HostAttestation.Config.Settings
import HostAttestation.Config.Toml.Document
import HostAttestation.Config.Toml.Moment
import HostAttestation.Config.Toml.Numeral
import HostAttestation.Config.Toml.Quoted
import HostAttestation.Config.Toml.Tree
import HostAttestation.Config.Toml.Value
import HostAttestation.Connection
import HostAttestation.Connector.Error
import HostAttestation.Connector.Host
import HostAttestation.Connector.Hypervisor
import HostAttestation.Connector.TrustAgent
import HostAttestation.Digest.Algorithm
import HostAttestation.Digest.Padding
import HostAttestation.Digest.Sha1
import HostAttestation.Digest.Sha2
import HostAttestation.EventLog.Entry
import HostAttestation.EventLog.Map
import HostAttestation.EventLog.Replay
import HostAttestation.Factory
import HostAttestation.HostInfo
import HostAttestation.HostManifest
import HostAttestation.Json.Basic
import HostAttestation.Json.Fields
import HostAttestation.Json.Literal
import HostAttestation.Json.Parser
import HostAttestation.Json.Printer
import HostAttestation.Json.Source
import HostAttestation.Json.Tagged
import HostAttestation.Net.Bus
import HostAttestation.Net.Certificate
import HostAttestation.Net.Der
import HostAttestation.Net.Http
import HostAttestation.Net.Pem
import HostAttestation.Number.Double
import HostAttestation.Number.Shortest
import HostAttestation.Pcr.Basic
import HostAttestation.Pcr.Table
import HostAttestation.Pcr.Value
import HostAttestation.Pcr.Violation
import HostAttestation.PcrManifest
import HostAttestation.Proofs.Agent.Action
import HostAttestation.Proofs.Agent.Authorization
import HostAttestation.Proofs.Agent.BaseUrl
import HostAttestation.Proofs.Agent.Delivery
import HostAttestation.Proofs.Agent.Documents
import HostAttestation.Proofs.Agent.Noting
import HostAttestation.Proofs.Agent.Subjects
import HostAttestation.Proofs.Agent.TokenProtocol
import HostAttestation.Proofs.Agent.Transports
import HostAttestation.Proofs.Agent.Verdict
import HostAttestation.Proofs.Bytes.Base64
import HostAttestation.Proofs.Bytes.BigEndian
import HostAttestation.Proofs.Bytes.Utf8
import HostAttestation.Proofs.Connection.Secrecy
import HostAttestation.Proofs.Connection.Written
import HostAttestation.Proofs.Connector.Course
import HostAttestation.Proofs.Connector.Interview
import HostAttestation.Proofs.Connector.QuoteAcceptance
import HostAttestation.Proofs.Connector.QuoteDigest
import HostAttestation.Proofs.Connector.Rearrangement
import HostAttestation.Proofs.Connector.Restriction
import HostAttestation.Proofs.Connector.Selection
import HostAttestation.Proofs.EventLog.Building
import HostAttestation.Proofs.EventLog.Conservation
import HostAttestation.Proofs.EventLog.Decoding
import HostAttestation.Proofs.EventLog.Grouping
import HostAttestation.Proofs.EventLog.Groups
import HostAttestation.Proofs.EventLog.Rearrangement
import HostAttestation.Proofs.EventLog.Replay
import HostAttestation.Proofs.EventLog.Resumption
import HostAttestation.Proofs.EventLog.Tampering
import HostAttestation.Proofs.Factory.Acceptance
import HostAttestation.Proofs.Factory.Credentials
import HostAttestation.Proofs.Json.Fields
import HostAttestation.Proofs.Json.RoundTrip
import HostAttestation.Proofs.Manifest.Canonical
import HostAttestation.Proofs.Manifest.Decoding
import HostAttestation.Proofs.Manifest.Groups
import HostAttestation.Proofs.Manifest.RoundTrip
import HostAttestation.Proofs.Manifest.Values
import HostAttestation.Proofs.Manifest.Verdict
import HostAttestation.Proofs.Manifest.Verification
import HostAttestation.Proofs.Net.Exchange
import HostAttestation.Proofs.Net.Renewal
import HostAttestation.Proofs.Net.Retry
import HostAttestation.Proofs.Net.Turns
import HostAttestation.Proofs.Outcome
import HostAttestation.Proofs.Pcr.Banks
import HostAttestation.Proofs.Pcr.Collecting
import HostAttestation.Proofs.Pcr.Groups
import HostAttestation.Proofs.Pcr.IndexText
import HostAttestation.Proofs.Pcr.Listing
import HostAttestation.Proofs.Pcr.RoundTrip
import HostAttestation.Proofs.Pcr.Table
import HostAttestation.Proofs.Pcr.Value
import HostAttestation.Proofs.Quote.Binding
import HostAttestation.Proofs.Quote.Bitmap
import HostAttestation.Proofs.Quote.Calls
import HostAttestation.Proofs.Quote.Checked
import HostAttestation.Proofs.Quote.Checks
import HostAttestation.Proofs.Quote.Cut
import HostAttestation.Proofs.Quote.Form
import HostAttestation.Proofs.Quote.Grammar
import HostAttestation.Proofs.Quote.Layout
import HostAttestation.Proofs.Quote.Positions
import HostAttestation.Proofs.Quote.RoundTrip
import HostAttestation.Proofs.Quote.Selection
import HostAttestation.Proofs.Quote.Signature
import HostAttestation.Proofs.Run
import HostAttestation.Proofs.Text.Blank
import HostAttestation.Proofs.Text.Composed
import HostAttestation.Proofs.Trust.Directory
import HostAttestation.Proofs.Url.Authority
import HostAttestation.Proofs.Url.Domain
import HostAttestation.Proofs.Url.Escapes
import HostAttestation.Proofs.Url.Extension
import HostAttestation.Proofs.Url.Form
import HostAttestation.Proofs.Url.Host
import HostAttestation.Proofs.Url.Ideographs
import HostAttestation.Proofs.Url.Numerals
import HostAttestation.Proofs.Url.Path
import HostAttestation.Proofs.Url.Pieces
import HostAttestation.Proofs.Url.Placement
import HostAttestation.Proofs.Url.Punycode
import HostAttestation.Proofs.Url.RoundTrip
import HostAttestation.Proofs.Url.Segments
import HostAttestation.Proofs.Url.Unescaped
import HostAttestation.Proofs.Url.Unread
import HostAttestation.Proofs.Vcenter.Documents
import HostAttestation.Proofs.Vcenter.HostTarget
import HostAttestation.Proofs.Vcenter.Inquiry
import HostAttestation.Proofs.Vcenter.Login
import HostAttestation.Proofs.Vcenter.Records
import HostAttestation.Proofs.Vcenter.ReportAcceptance
import HostAttestation.Proofs.Vcenter.SessionProtocol
import HostAttestation.Quote.Basic
import HostAttestation.Quote.Cursor
import HostAttestation.Quote.Selection
import HostAttestation.Quote.Signature
import HostAttestation.Text.Blank
import HostAttestation.Text.CodeTable
import HostAttestation.Text.Composed
import HostAttestation.Text.Composite
import HostAttestation.Text.Duration
import HostAttestation.Text.Escaped
import HostAttestation.Text.Mark
import HostAttestation.Text.Quoted
import HostAttestation.Text.Split
import HostAttestation.Text.Uuid
import HostAttestation.Trust
import HostAttestation.Url.Basic
import HostAttestation.Url.Domain
import HostAttestation.Url.Domain.Direction
import HostAttestation.Url.Domain.Folding
import HostAttestation.Url.Domain.Label
import HostAttestation.Url.Host
import HostAttestation.Url.Parser
import HostAttestation.Url.Path
import HostAttestation.Url.Percent
import HostAttestation.Url.Punycode
import HostAttestation.Vcenter.Api
import HostAttestation.Vcenter.Client
import HostAttestation.Vcenter.Evidence
import HostAttestation.Vcenter.Inventory
import HostAttestation.Vcenter.Report
