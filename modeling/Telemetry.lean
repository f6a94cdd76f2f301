import Telemetry.Agent.Client
import Telemetry.Agent.Registry
import Telemetry.Agent.Report
import Telemetry.Agent.Sample
import Telemetry.Agent.Settings
import Telemetry.Agent.Timeline
import Telemetry.Agent.Trial
import Telemetry.Collector.Page
import Telemetry.Collector.Persistence
import Telemetry.Collector.Route
import Telemetry.Collector.Server
import Telemetry.Collector.Settings
import Telemetry.CommandLine
import Telemetry.Contents
import Telemetry.Database
import Telemetry.Database.Rows
import Telemetry.Dialogue
import Telemetry.Disk
import Telemetry.Double
import Telemetry.Double.Decimal
import Telemetry.EnvFile
import Telemetry.Failure
import Telemetry.Field
import Telemetry.Gzip
import Telemetry.Gzip.Checksum
import Telemetry.Gzip.Inflate
import Telemetry.Http
import Telemetry.Ingest
import Telemetry.Json.Reader
import Telemetry.Json.Value
import Telemetry.Json.Writer
import Telemetry.Lock
import Telemetry.Lock.Session
import Telemetry.Log
import Telemetry.Main
import Telemetry.Metric
import Telemetry.Metric.Plain
import Telemetry.Metric.Wire
import Telemetry.Outcome
import Telemetry.Proofs.Agent.Exchange
import Telemetry.Proofs.Agent.Fallback
import Telemetry.Proofs.Agent.Precedence
import Telemetry.Proofs.Agent.Tally
import Telemetry.Proofs.Collector.Answers
import Telemetry.Proofs.Collector.Page
import Telemetry.Proofs.Collector.PlainText
import Telemetry.Proofs.Collector.ReadBack
import Telemetry.Proofs.Collector.Rules
import Telemetry.Proofs.Collector.Saving
import Telemetry.Proofs.Collector.Signed
import Telemetry.Proofs.Collector.VirtualClock
import Telemetry.Proofs.Contents
import Telemetry.Proofs.Database
import Telemetry.Proofs.Delivery.Accounts
import Telemetry.Proofs.Delivery.Agreement
import Telemetry.Proofs.Delivery.Carried
import Telemetry.Proofs.Delivery.Conservation
import Telemetry.Proofs.Delivery.Legacy
import Telemetry.Proofs.Delivery.Pending
import Telemetry.Proofs.Delivery.Plain
import Telemetry.Proofs.Delivery.Report
import Telemetry.Proofs.Delivery.Request
import Telemetry.Proofs.Delivery.Response
import Telemetry.Proofs.Delivery.Store
import Telemetry.Proofs.Delivery.System
import Telemetry.Proofs.Dialogue
import Telemetry.Proofs.Double.Number
import Telemetry.Proofs.Double.Rounding
import Telemetry.Proofs.Double.Shortest
import Telemetry.Proofs.Gzip
import Telemetry.Proofs.Ingest
import Telemetry.Proofs.Ingest.Singly
import Telemetry.Proofs.Json.Document
import Telemetry.Proofs.Json.Number
import Telemetry.Proofs.Json.Refused
import Telemetry.Proofs.Json.Text
import Telemetry.Proofs.Lock.Counters
import Telemetry.Proofs.Lock.Places
import Telemetry.Proofs.Lock.Scene
import Telemetry.Proofs.Lock.Session
import Telemetry.Proofs.Lock.Waking
import Telemetry.Proofs.Metric.Plain
import Telemetry.Proofs.Metric.Snapshot
import Telemetry.Proofs.Metric.Wire
import Telemetry.Proofs.Retry
import Telemetry.Proofs.Retry.Course
import Telemetry.Proofs.Retry.Effort
import Telemetry.Proofs.Signature
import Telemetry.Proofs.Store.Alone
import Telemetry.Proofs.Store.AtWork
import Telemetry.Proofs.Store.Brittle
import Telemetry.Proofs.Store.Crowd
import Telemetry.Proofs.Store.Effect
import Telemetry.Proofs.Store.File.Calls
import Telemetry.Proofs.Store.File.Concurrent
import Telemetry.Proofs.Store.File.Feasible
import Telemetry.Proofs.Store.File.Interrupted
import Telemetry.Proofs.Store.File.Loaded
import Telemetry.Proofs.Store.File.Restore
import Telemetry.Proofs.Store.File.Shared
import Telemetry.Proofs.Store.File.Write
import Telemetry.Proofs.Store.Gather
import Telemetry.Proofs.Store.Ideal
import Telemetry.Proofs.Store.Interrupted
import Telemetry.Proofs.Store.Memory
import Telemetry.Proofs.Store.Rearranged
import Telemetry.Proofs.Store.Reference
import Telemetry.Proofs.Store.Relational.Change
import Telemetry.Proofs.Store.Relational.Deeds
import Telemetry.Proofs.Store.Relational.Interrupted
import Telemetry.Proofs.Store.Relational.Migrations
import Telemetry.Proofs.Store.Relational.Opening
import Telemetry.Proofs.Store.Relational.Rollback
import Telemetry.Proofs.Store.Relational.Rows
import Telemetry.Proofs.Store.Relational.SaveAll
import Telemetry.Proofs.Store.Relational.WriteThrough
import Telemetry.Proofs.Store.Schedule
import Telemetry.Proofs.Store.Serial
import Telemetry.Proofs.Store.Shared
import Telemetry.Proofs.Table
import Telemetry.Proofs.Text.Digit
import Telemetry.Proofs.Text.Html
import Telemetry.Proofs.Text.Numeral
import Telemetry.Proofs.Text.Percent
import Telemetry.Proofs.Url
import Telemetry.Retry
import Telemetry.Retry.Trial
import Telemetry.Settings
import Telemetry.Sha256
import Telemetry.Signature
import Telemetry.Store
import Telemetry.Store.Concurrent
import Telemetry.Store.File
import Telemetry.Store.Memory
import Telemetry.Store.Refusing
import Telemetry.Store.Relational
import Telemetry.Store.Site
import Telemetry.Table
import Telemetry.Text.Blank
import Telemetry.Text.Case
import Telemetry.Text.Digit
import Telemetry.Text.Hex
import Telemetry.Text.Html
import Telemetry.Text.Line
import Telemetry.Text.Numeral
import Telemetry.Text.Percent
import Telemetry.Text.Quoted
import Telemetry.Text.Utf8
import Telemetry.Text.Visible
import Telemetry.Url
import Telemetry.Yaml.Cursor
import Telemetry.Yaml.Node
import Telemetry.Yaml.Property
import Telemetry.Yaml.Scalar
import Telemetry.Yaml.Token
import Telemetry.Yaml.Value
