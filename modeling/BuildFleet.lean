import BuildFleet.Agent.Work
import BuildFleet.Backoff
import BuildFleet.Build.Basic
import BuildFleet.Build.LineReader
import BuildFleet.Build.Report
import BuildFleet.Build.Script
import BuildFleet.Build.Variables
import BuildFleet.CommandLine.Arguments
import BuildFleet.CommandLine.Command
import BuildFleet.CommandLine.Report
import BuildFleet.CommandLine.Session
import BuildFleet.Decimal.Shortest
import BuildFleet.Digest.Signature
import BuildFleet.Dispatcher
import BuildFleet.Docker.Daemon
import BuildFleet.Docker.Environment
import BuildFleet.Docker.Request
import BuildFleet.Failure
import BuildFleet.Fleet.AgentLoop
import BuildFleet.Fleet.Assignment
import BuildFleet.Fleet.Basic
import BuildFleet.Http.Api
import BuildFleet.Http.Client
import BuildFleet.Http.Message
import BuildFleet.Http.MediaType
import BuildFleet.Identity.Basic
import BuildFleet.Job.Basic
import BuildFleet.Job.Event
import BuildFleet.Job.Result
import BuildFleet.Job.Row
import BuildFleet.Job.Status
import BuildFleet.Json.Number
import BuildFleet.Json.Reading
import BuildFleet.Json.Text
import BuildFleet.Json.Value
import BuildFleet.Json.Writer
import BuildFleet.Kdl.Blank
import BuildFleet.Kdl.Document
import BuildFleet.Kdl.Number
import BuildFleet.Kdl.Quoted
import BuildFleet.Kdl.Reading
import BuildFleet.LeaseMonitor
import BuildFleet.Machine.Files
import BuildFleet.Main
import BuildFleet.Native.Course
import BuildFleet.Native.Environment
import BuildFleet.Native.Table
import BuildFleet.Net.Address
import BuildFleet.Ordered
import BuildFleet.Payload.Schema
import BuildFleet.Queue.Basic
import BuildFleet.Relay
import BuildFleet.Services.Basic
import BuildFleet.Services.Journal
import BuildFleet.Settings.Basic
import BuildFleet.Settings.Duration
import BuildFleet.Settings.Reading
import BuildFleet.Shell.Arithmetic
import BuildFleet.Shell.Format
import BuildFleet.Shell.Reading
import BuildFleet.Shell.Running
import BuildFleet.Shell.Script
import BuildFleet.Shell.State
import BuildFleet.Shell.Tools
import BuildFleet.Store.Basic
import BuildFleet.Store.Call
import BuildFleet.Target.Basic
import BuildFleet.Target.Registry
import BuildFleet.Text.Blank
import BuildFleet.Text.Hex
import BuildFleet.Text.Quoted
import BuildFleet.Text.Punycode
import BuildFleet.Text.Utf8
import BuildFleet.Time.Calendar
import BuildFleet.Time.Instant
import BuildFleet.Time.Rfc3339
import BuildFleet.Time.Span
import BuildFleet.Time.Ticker
import BuildFleet.Url.Basic
import BuildFleet.Url.Reading
import BuildFleet.Webhook
import BuildFleet.Worker.Info
import BuildFleet.Proofs.Text.Blanks
import BuildFleet.Proofs.Time.Spans
import BuildFleet.Proofs.Time.Order
import BuildFleet.Proofs.Job.Step
import BuildFleet.Proofs.Job.Halt
import BuildFleet.Proofs.Job.Expiry
import BuildFleet.Proofs.Job.Record
import BuildFleet.Proofs.Job.Attempts
import BuildFleet.Proofs.Job.Exclusion
import BuildFleet.Proofs.Store.Lookup
import BuildFleet.Proofs.Store.Run
import BuildFleet.Proofs.Store.Outbox
import BuildFleet.Proofs.Store.Pending
import BuildFleet.Proofs.Store.Takeover
import BuildFleet.Proofs.Store.Course
import BuildFleet.Proofs.Store.Backlog
import BuildFleet.Proofs.Store.Expiry
import BuildFleet.Proofs.Store.Routes
import BuildFleet.Proofs.Store.Replay
import BuildFleet.Proofs.Store.Republication
import BuildFleet.Proofs.Queue.Deliveries
import BuildFleet.Proofs.Queue.Pending
import BuildFleet.Proofs.Queue.Waking
import BuildFleet.Proofs.Services.Calls
import BuildFleet.Proofs.Services.Deeds
import BuildFleet.Proofs.Fleet.Calls
import BuildFleet.Proofs.Monitor.Scan
import BuildFleet.Proofs.Relay.Turns
import BuildFleet.Proofs.Relay.Delivery
import BuildFleet.Proofs.Routing.Turns
import BuildFleet.Proofs.Routing.Calls
import BuildFleet.Proofs.Routing.Parties
import BuildFleet.Proofs.Routing.Traffic
import BuildFleet.Proofs.Services.Moment
import BuildFleet.Proofs.Time.Elapsed
import BuildFleet.Proofs.Fleet.Course
import BuildFleet.Proofs.Fleet.Run
import BuildFleet.Proofs.Fleet.Timers
import BuildFleet.Proofs.Fleet.Pursuit
import BuildFleet.Proofs.Fleet.Tenure
import BuildFleet.Proofs.Fleet.Leases
import BuildFleet.Proofs.Job.Keeping
import BuildFleet.Proofs.Job.Lasting
import BuildFleet.Proofs.Store.Tenure
import BuildFleet.Proofs.Store.Ends
import BuildFleet.Proofs.Services.Inspection
import BuildFleet.Proofs.Http.Token
import BuildFleet.Proofs.Services.Laws
import BuildFleet.Proofs.Services.Plans
import BuildFleet.Proofs.Services.Parting
import BuildFleet.Proofs.Agent.Dialogue
import BuildFleet.Proofs.Agent.Discipline
import BuildFleet.Proofs.Agent.Exchanges
import BuildFleet.Proofs.Agent.Reporting
import BuildFleet.Proofs.Agent.Watching
import BuildFleet.Proofs.Fleet.Rules
import BuildFleet.Proofs.Fleet.Supervision
import BuildFleet.Proofs.Fleet.Loss
import BuildFleet.Proofs.Monitor.Unfailing
import BuildFleet.Proofs.Monitor.Patrol
import BuildFleet.Proofs.Target.Registry
import BuildFleet.Proofs.Dispatcher.Submission
import BuildFleet.Proofs.Http.Answers
import BuildFleet.Proofs.Settings.Nodes
import BuildFleet.Proofs.Settings.Soundness
import BuildFleet.Proofs.Job.Refusal
import BuildFleet.Proofs.Target.Expansion
import BuildFleet.Proofs.Settings.Expansion
import BuildFleet.Proofs.Dispatcher.Faults
import BuildFleet.Proofs.Time.Range
import BuildFleet.Proofs.Store.LeaseLength
import BuildFleet.Proofs.Settings.TimeLimits
import BuildFleet.Proofs.Settings.Sections
import BuildFleet.Proofs.Settings.Rearrangement
import BuildFleet.Proofs.Settings.Repetition
import BuildFleet.Proofs.Settings.Places
import BuildFleet.Proofs.Settings.Misfits
import BuildFleet.Proofs.Time.Windows
import BuildFleet.Proofs.Store.Workers
import BuildFleet.Proofs.Store.Windows
import BuildFleet.Proofs.Json.Values
import BuildFleet.Proofs.Json.Records
import BuildFleet.Proofs.Payload.Acceptance
import BuildFleet.Proofs.Native.Entries
import BuildFleet.Proofs.Native.Floor
import BuildFleet.Proofs.Native.Life
import BuildFleet.Proofs.Native.Interference
import BuildFleet.Proofs.Native.Abandonment
import BuildFleet.Proofs.Native.Calls
import BuildFleet.Proofs.Time.Civil
import BuildFleet.Proofs.Time.Written
import BuildFleet.Proofs.Identity.Written
import BuildFleet.Proofs.Json.Spelling
import BuildFleet.Proofs.Json.Copies
import BuildFleet.Proofs.Json.Found
import BuildFleet.Proofs.Job.Written
import BuildFleet.Proofs.Job.Origins
import BuildFleet.Proofs.Job.Rows
import BuildFleet.Proofs.Payload.Written
import BuildFleet.Proofs.Job.Survival
import BuildFleet.Proofs.Build.Lines
import BuildFleet.Proofs.Build.Draining
import BuildFleet.Proofs.Docker.Traces
import BuildFleet.Proofs.Docker.Processing
import BuildFleet.Proofs.Docker.Undisturbed
import BuildFleet.Proofs.Docker.Removal
import BuildFleet.Proofs.Docker.Verdicts
import BuildFleet.Proofs.Docker.Daemon
import BuildFleet.Proofs.Docker.Yard
import BuildFleet.Proofs.Docker.Successors
import BuildFleet.Proofs.Backoff.Doubling
import BuildFleet.Proofs.Settings.Durations
import BuildFleet.Proofs.Identity.Workers
import BuildFleet.Proofs.Http.Admission
