import Dataspace.Command.Arguments
import Dataspace.Command.Artifact
import Dataspace.Command.Desk
import Dataspace.Command.Error
import Dataspace.Command.Image
import Dataspace.Command.Init
import Dataspace.Command.Negotiate
import Dataspace.Command.Program
import Dataspace.Command.Provision
import Dataspace.Config.Basic
import Dataspace.Config.Search
import Dataspace.Config.Template
import Dataspace.Connector.Description
import Dataspace.Connector.Refusal
import Dataspace.Connector.Route
import Dataspace.Connector.Site
import Dataspace.Connector.Store
import Dataspace.Entity.Handle
import Dataspace.Entity.Kind
import Dataspace.Exchange.Artifact
import Dataspace.Exchange.Client
import Dataspace.Exchange.Error
import Dataspace.Exchange.Negotiation
import Dataspace.Exchange.Request
import Dataspace.Exchange.Transport
import Dataspace.Files.Disk
import Dataspace.Files.Fault
import Dataspace.Files.Path
import Dataspace.Gzip.Bits
import Dataspace.Gzip.Checksum
import Dataspace.Gzip.Code
import Dataspace.Gzip.Deflate
import Dataspace.Gzip.Fault
import Dataspace.Gzip.Member
import Dataspace.Http.Authority
import Dataspace.Http.Chunks
import Dataspace.Http.Fault
import Dataspace.Http.Head
import Dataspace.Http.Network
import Dataspace.Http.Reader
import Dataspace.Http.Reply
import Dataspace.Http.Settings
import Dataspace.Http.Url
import Dataspace.Json.Basic
import Dataspace.Json.Outline
import Dataspace.Json.Parser
import Dataspace.Json.Printer
import Dataspace.Json.Record
import Dataspace.Keyed
import Dataspace.Main
import Dataspace.Number.Binary64
import Dataspace.Number.Decimal
import Dataspace.Number.Shortest
import Dataspace.Payload.Basic
import Dataspace.Payload.Codec
import Dataspace.Payload.Offer
import Dataspace.Payload.Window
import Dataspace.Plan.Basic
import Dataspace.Plan.Offer
import Dataspace.Plan.Run
import Dataspace.Program.Host
import Dataspace.Proofs.Address
import Dataspace.Proofs.Building
import Dataspace.Proofs.Calls
import Dataspace.Proofs.Commands
import Dataspace.Proofs.Excluded
import Dataspace.Proofs.FailFast
import Dataspace.Proofs.Frame
import Dataspace.Proofs.KeepGoing
import Dataspace.Proofs.Keyed
import Dataspace.Proofs.OfferRun
import Dataspace.Proofs.OfferShape
import Dataspace.Proofs.Placing
import Dataspace.Proofs.PlanShape
import Dataspace.Proofs.Provisioned
import Dataspace.Proofs.Reach
import Dataspace.Proofs.Serving
import Dataspace.Proofs.Text
import Dataspace.Proofs.Turns
import Dataspace.Proofs.Visits
import Dataspace.Registry.Docker
import Dataspace.Registry.Engine
import Dataspace.Registry.Error
import Dataspace.Registry.Event
import Dataspace.Registry.Publisher
import Dataspace.Registry.Reference
import Dataspace.Registry.Settings
import Dataspace.Text.Base64
import Dataspace.Text.Blank
import Dataspace.Text.Hex
import Dataspace.Text.Percent
import Dataspace.Text.Sha256
import Dataspace.Text.Split
import Dataspace.Text.Utf8
import Dataspace.Text.Uuid
import Dataspace.Time.Date
import Dataspace.Time.Instant
import Dataspace.Time.Span
import Dataspace.Toml.Document
import Dataspace.Toml.Moment
import Dataspace.Toml.Scalar
import Dataspace.Toml.Table
import Dataspace.Toml.Value
import Dataspace.Proofs.JsonShape
import Dataspace.Proofs.Utf8
import Dataspace.Proofs.JsonScan
import Dataspace.Proofs.JsonText
import Dataspace.Proofs.Described
import Dataspace.Proofs.Negotiating
import Dataspace.Proofs.Lasting
import Dataspace.Proofs.Noted
import Dataspace.Proofs.EngineCalls
import Dataspace.Proofs.Publishing
import Dataspace.Proofs.PublisherCalls
import Dataspace.Proofs.Contacts
import Dataspace.Proofs.FollowUps
import Dataspace.Proofs.Provisioning
import Dataspace.Proofs.Policies
import Dataspace.Proofs.UuidText
import Dataspace.Proofs.Notifying
import Dataspace.Proofs.EventTags
import Dataspace.Proofs.Answered
import Dataspace.Proofs.BlankBase
import Dataspace.Proofs.Success
import Dataspace.Proofs.DryRun
import Dataspace.Proofs.Linking
import Dataspace.Proofs.Listings
import Dataspace.Proofs.LinkOrder
import Dataspace.Proofs.LinkedHandles
import Dataspace.Proofs.TwoRuns
import Dataspace.Proofs.Secrecy
import Dataspace.Proofs.Spelling
import Dataspace.Proofs.Creating
import Dataspace.Proofs.Contracting
import Dataspace.Proofs.Shown
import Dataspace.Proofs.PrintedHandles
import Dataspace.Proofs.RecordForm
import Dataspace.Proofs.Disks
import Dataspace.Proofs.Downloading
import Dataspace.Proofs.PayloadForms
import Dataspace.Proofs.Calendar
import Dataspace.Proofs.Windows
import Dataspace.Proofs.TrailingSlashes
import Dataspace.Proofs.Credentials
import Dataspace.Proofs.StageOrder
import Dataspace.Proofs.EventForms
import Dataspace.Proofs.Simulating
import Dataspace.Proofs.TextParts
import Dataspace.Proofs.PushOutput
import Dataspace.Proofs.Ascent
import Dataspace.Proofs.Searching
import Dataspace.Proofs.SlotOrigins
