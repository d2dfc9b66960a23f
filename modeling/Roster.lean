import Roster.Activity
import Roster.Address.Basic
import Roster.Address.Ipv4
import Roster.Address.Ipv6
import Roster.Address.Reader
import Roster.Address.Seed
import Roster.CommandLine
import Roster.Discovery
import Roster.Discovery.Answers
import Roster.Document.Data
import Roster.Document.Format
import Roster.Document.Ini
import Roster.Document.Json
import Roster.Document.Json5
import Roster.Document.Reader
import Roster.Document.Ron
import Roster.Document.Toml.Lines
import Roster.Document.Toml.Scalar
import Roster.Document.Toml.Table
import Roster.Document.Yaml.Cursor
import Roster.Document.Yaml.Node
import Roster.Document.Yaml.Scalar
import Roster.Document.Yaml.Text
import Roster.Domain.Composition
import Roster.Domain.Direction
import Roster.Domain.Joining
import Roster.Domain.Mapping
import Roster.Domain.Name
import Roster.Domain.Punycode
import Roster.Duration
import Roster.Failure
import Roster.Http.Client
import Roster.Http.Exchange
import Roster.Json.Form
import Roster.Json.Number
import Roster.Json.Reader
import Roster.Json.Value
import Roster.Ledger
import Roster.Log.Event
import Roster.Log.Filter
import Roster.Log.Level
import Roster.Log.Setup
import Roster.Log.Stamp
import Roster.Main
import Roster.Number.Binary64
import Roster.Number.Decimal
import Roster.Number.Shortest
import Roster.Pool
import Roster.Proofs.Activity.Blindness
import Roster.Proofs.Activity.Deadline
import Roster.Proofs.Activity.Making
import Roster.Proofs.Activity.Run
import Roster.Proofs.Activity.Safety
import Roster.Proofs.Address.Hosts
import Roster.Proofs.Address.Network
import Roster.Proofs.Address.Rereading
import Roster.Proofs.Address.Seeds
import Roster.Proofs.Address.Segments
import Roster.Proofs.Address.Service
import Roster.Proofs.Address.Written
import Roster.Proofs.Discovery.Agreement
import Roster.Proofs.Discovery.Commuting
import Roster.Proofs.Discovery.Counting
import Roster.Proofs.Discovery.Delays
import Roster.Proofs.Discovery.Displacing
import Roster.Proofs.Discovery.Homes
import Roster.Proofs.Discovery.Introducing
import Roster.Proofs.Discovery.Outcome
import Roster.Proofs.Discovery.Probing
import Roster.Proofs.Discovery.Refreshing
import Roster.Proofs.Discovery.Rest
import Roster.Proofs.Discovery.Run
import Roster.Proofs.Discovery.Safety
import Roster.Proofs.Discovery.Starting
import Roster.Proofs.Discovery.Times
import Roster.Proofs.Domain.Ascii
import Roster.Proofs.Domain.Separators
import Roster.Proofs.Http.Exchanges
import Roster.Proofs.Http.Failures
import Roster.Proofs.Http.Members
import Roster.Proofs.Http.Nameless
import Roster.Proofs.Http.Requests
import Roster.Proofs.Json.Bytes
import Roster.Proofs.Json.Written
import Roster.Proofs.Pool.Failover
import Roster.Proofs.Pool.Interleaving
import Roster.Proofs.Pool.Keeping
import Roster.Proofs.Pool.Making
import Roster.Proofs.Pool.Naming
import Roster.Proofs.Pool.Safety
import Roster.Proofs.Pool.Sessions
import Roster.Proofs.Pool.Setup
import Roster.Proofs.Pool.Turns
import Roster.Proofs.Record.Json
import Roster.Proofs.Registry.Agreement
import Roster.Proofs.Registry.Changes
import Roster.Proofs.Registry.Deeds
import Roster.Proofs.Registry.Lookup
import Roster.Proofs.Registry.Order
import Roster.Proofs.Registry.Reachable
import Roster.Proofs.Registry.Status
import Roster.Proofs.Registry.Times
import Roster.Proofs.Rehearsal.Loops
import Roster.Proofs.Rehearsal.Turns
import Roster.Proofs.Settings.Layers
import Roster.Proofs.Settings.Variables
import Roster.Proofs.Tracking.Cluster
import Roster.Proofs.Tracking.Connecting
import Roster.Proofs.Tracking.History
import Roster.Proofs.Tracking.Landscape
import Roster.Proofs.Tracking.Passing
import Roster.Proofs.Tracking.Placement
import Roster.Proofs.Tracking.Search
import Roster.Proofs.Watch.Completion
import Roster.Proofs.Watch.Course
import Roster.Proofs.Watch.Hearsay
import Roster.Proofs.Watch.Once
import Roster.Proofs.Watch.Pacing
import Roster.Proofs.Watch.Run
import Roster.Proofs.Watch.Safety
import Roster.Proofs.Watch.Summary
import Roster.Proofs.Watch.Timeless
import Roster.Proofs.Watch.Unlisted
import Roster.Proofs.Watch.Unresolved
import Roster.Proofs.Watch.Verdict
import Roster.Proofs.Watch.Vigil
import Roster.Record
import Roster.Record.Json
import Roster.Registry.Basic
import Roster.Rehearsal.Clock
import Roster.Rehearsal.Script
import Roster.Rehearsal.Stage
import Roster.Reply
import Roster.Selector
import Roster.Service.Preparation
import Roster.Service.Running
import Roster.Settings.Basic
import Roster.Settings.Conversion
import Roster.Settings.Environment
import Roster.Settings.Loading
import Roster.Settings.Path
import Roster.Settings.Reading
import Roster.Settings.Surroundings
import Roster.Settings.Tree
import Roster.Settings.Validation
import Roster.Text.Cased
import Roster.Text.Lowercase
import Roster.Text.Numeral
import Roster.Text.Percent
import Roster.Text.Pieces
import Roster.Text.Runs
import Roster.Text.Trim
import Roster.Text.Utf8
import Roster.Text.Visible
import Roster.View
import Roster.Watch.Loop
import Roster.Watch.Pass
