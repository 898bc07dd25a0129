import CleanupCourier.Cleaner.Action
import CleanupCourier.Cleaner.Basic
import CleanupCourier.Cleaner.Notification
import CleanupCourier.Cluster.Api
import CleanupCourier.Cluster.Metadata
import CleanupCourier.Cluster.Secret
import CleanupCourier.Credentials.Basic
import CleanupCourier.Credentials.Reference
import CleanupCourier.Definition.Resource
import CleanupCourier.Definition.Schema
import CleanupCourier.Definition.Stream
import CleanupCourier.Destination.Delivery
import CleanupCourier.Destination.Description
import CleanupCourier.Destination.Discord
import CleanupCourier.Destination.Mailing
import CleanupCourier.Destination.Posting
import CleanupCourier.Destination.Sinks
import CleanupCourier.Destination.Slack
import CleanupCourier.Destination.Teams
import CleanupCourier.Destination.Webex
import CleanupCourier.Destination.Webhook
import CleanupCourier.Dispatch
import CleanupCourier.Domain.Ascii
import CleanupCourier.Domain.Composition
import CleanupCourier.Domain.CompositionTable
import CleanupCourier.Domain.DirectionTable
import CleanupCourier.Domain.MappingTable
import CleanupCourier.Domain.Punycode
import CleanupCourier.Failure
import CleanupCourier.Http.Client
import CleanupCourier.Http.Message
import CleanupCourier.Journal.Directive
import CleanupCourier.Journal.Event
import CleanupCourier.Journal.Filter
import CleanupCourier.Journal.Line
import CleanupCourier.Json.Basic
import CleanupCourier.Json.Decode
import CleanupCourier.Json.Encode
import CleanupCourier.Json.Normal
import CleanupCourier.Json.Number
import CleanupCourier.Json.Octets
import CleanupCourier.Json.Printer
import CleanupCourier.Json.Reader
import CleanupCourier.KeyMap
import CleanupCourier.Mail.Address
import CleanupCourier.Mail.Header
import CleanupCourier.Mail.Mailbox
import CleanupCourier.Mail.Message
import CleanupCourier.Mail.Relay
import CleanupCourier.Main
import CleanupCourier.Metrics.Observation
import CleanupCourier.Metrics.Sample
import CleanupCourier.Network
import CleanupCourier.Network.Scripted
import CleanupCourier.Pattern.Basic
import CleanupCourier.Pattern.Category
import CleanupCourier.Pattern.Class
import CleanupCourier.Pattern.Folding
import CleanupCourier.Pattern.Property
import CleanupCourier.Pattern.Reader
import CleanupCourier.Pattern.Script
import CleanupCourier.Report.Basic
import CleanupCourier.Report.Generation
import CleanupCourier.Report.Upsert
import CleanupCourier.Settings
import CleanupCourier.Store.Basic
import CleanupCourier.Store.Cluster
import CleanupCourier.Store.Memory
import CleanupCourier.Text.Alphanumeric
import CleanupCourier.Text.Base64
import CleanupCourier.Text.Blank
import CleanupCourier.Text.CodeRanges
import CleanupCourier.Text.CodeTable
import CleanupCourier.Text.CommaList
import CleanupCourier.Text.Decimal
import CleanupCourier.Text.Description
import CleanupCourier.Text.Hex
import CleanupCourier.Text.Quoted
import CleanupCourier.Text.Shortest
import CleanupCourier.Text.Unprintable
import CleanupCourier.Text.Utf8
import CleanupCourier.Time.Calendar
import CleanupCourier.Time.Instant
import CleanupCourier.Time.Stamp
import CleanupCourier.Url.Basic
import CleanupCourier.Url.Host
import CleanupCourier.Url.Parser
import CleanupCourier.Url.Percent
import CleanupCourier.Url.Reference
import CleanupCourier.Work
import CleanupCourier.Yaml.Printer
import CleanupCourier.Proofs.Json.Codec
import CleanupCourier.Proofs.Report.Payload
import CleanupCourier.Proofs.Dispatch.Pass
import CleanupCourier.Proofs.Text.Utf8
import CleanupCourier.Proofs.Http.Exchange
import CleanupCourier.Proofs.Store.Memory
import CleanupCourier.Proofs.Destination.Effects
import CleanupCourier.Proofs.Dispatch.History
import CleanupCourier.Proofs.Mail.Talk
import CleanupCourier.Proofs.Destination.Carrier
import CleanupCourier.Proofs.Dispatch.Carriage
import CleanupCourier.Proofs.Http.Redirect
import CleanupCourier.Proofs.Destination.Course
import CleanupCourier.Proofs.Destination.Confinement
import CleanupCourier.Proofs.Network.Veil
import CleanupCourier.Proofs.Work.Agreement
import CleanupCourier.Proofs.Credentials.Tolerance
import CleanupCourier.Proofs.Http.Agreement
import CleanupCourier.Proofs.Mail.Agreement
import CleanupCourier.Proofs.Store.Agreement
import CleanupCourier.Proofs.Destination.Agreement
import CleanupCourier.Proofs.Dispatch.Agreement
import CleanupCourier.Proofs.Dispatch.Logins
import CleanupCourier.Proofs.Dispatch.WebhookSecret
import CleanupCourier.Proofs.Mail.Order
import CleanupCourier.Proofs.Destination.Handover
import CleanupCourier.Proofs.Destination.Secrecy
import CleanupCourier.Proofs.Dispatch.Misconfiguration
import CleanupCourier.Proofs.Text.CommaList
import CleanupCourier.Proofs.Destination.Unheard
import CleanupCourier.Proofs.Pattern.Matching
import CleanupCourier.Proofs.Url.HostVisible
import CleanupCourier.Proofs.Destination.KnownHosts
import CleanupCourier.Proofs.Report.Interleaving
import CleanupCourier.Proofs.Cluster.ObjectName
import CleanupCourier.Proofs.Store.Cluster
import CleanupCourier.Proofs.Report.Requests
import CleanupCourier.Proofs.Text.Base64
import CleanupCourier.Proofs.Text.Decimal
import CleanupCourier.Proofs.Time.Calendar
import CleanupCourier.Proofs.Json.Fields
import CleanupCourier.Proofs.Time.Stamp
import CleanupCourier.Proofs.Cluster.Metadata
import CleanupCourier.Proofs.Cluster.Objects
import CleanupCourier.Proofs.Cluster.Registry
import CleanupCourier.Proofs.Store.Refinement
import CleanupCourier.Proofs.Definition.Agreement
import CleanupCourier.Proofs.Store.Calls
import CleanupCourier.Proofs.Destination.Pairing
import CleanupCourier.Proofs.Dispatch.Accounting
import CleanupCourier.Proofs.Dispatch.Isolation
import CleanupCourier.Proofs.Dispatch.UnknownType
import CleanupCourier.Proofs.Json.Values
import CleanupCourier.Proofs.Json.Separation
import CleanupCourier.Proofs.Json.Whole
import CleanupCourier.Proofs.Json.Layout
import CleanupCourier.Proofs.Cleaner.RoundTrip
import CleanupCourier.Proofs.Cleaner.Arrangement
import CleanupCourier.Proofs.Json.Octets
import CleanupCourier.Proofs.Http.Answer
import CleanupCourier.Proofs.Destination.Verdict
import CleanupCourier.Proofs.Destination.Answers
import CleanupCourier.Proofs.Mail.Mailbox
import CleanupCourier.Proofs.Mail.Words
import CleanupCourier.Proofs.Mail.Names
import CleanupCourier.Proofs.Mail.Items
import CleanupCourier.Proofs.Mail.Header
import CleanupCourier.Proofs.Destination.Envelope
import CleanupCourier.Proofs.Report.Renewal
import CleanupCourier.Proofs.Destination.LogIn
import CleanupCourier.Proofs.Cluster.SecretPlace
import CleanupCourier.Proofs.Text.Trimming
import CleanupCourier.Proofs.Url.BlankHost
import CleanupCourier.Proofs.Url.Anchored
import CleanupCourier.Proofs.Destination.DiscordServer
import CleanupCourier.Proofs.Credentials.Reading
import CleanupCourier.Proofs.Credentials.Extraction
import CleanupCourier.Proofs.Time.Succession
import CleanupCourier.Proofs.Report.Stamping
import CleanupCourier.Proofs.Work.Telling
import CleanupCourier.Proofs.Destination.Telling
import CleanupCourier.Proofs.Dispatch.Blocks
import CleanupCourier.Proofs.Settings.Lists
