import RoutePreference.Aft.Entry
import RoutePreference.Aft.Session
import RoutePreference.Bench.Chain
import RoutePreference.Bench.Clock
import RoutePreference.Bench.Faults
import RoutePreference.Bench.Interval
import RoutePreference.Bench.Queue
import RoutePreference.Bench.Script
import RoutePreference.Cli.Arguments
import RoutePreference.Cli.Program
import RoutePreference.Config.Load
import RoutePreference.Config.Logging
import RoutePreference.Config.Sections
import RoutePreference.Data.Codec
import RoutePreference.Data.Forms
import RoutePreference.Data.Value
import RoutePreference.Device.Configuration
import RoutePreference.Device.Forwarding
import RoutePreference.Device.Generation
import RoutePreference.Device.Interfaces
import RoutePreference.Device.Programming
import RoutePreference.Device.Refusal
import RoutePreference.Device.Rib
import RoutePreference.Device.Serving
import RoutePreference.Device.State
import RoutePreference.Harness.Call
import RoutePreference.Harness.CallError
import RoutePreference.Harness.Checked
import RoutePreference.Harness.Convergence
import RoutePreference.Harness.Installer
import RoutePreference.Harness.Procedure
import RoutePreference.Harness.Report
import RoutePreference.Harness.Run
import RoutePreference.Harness.RunError
import RoutePreference.Harness.Scenario
import RoutePreference.Harness.TrafficCheck
import RoutePreference.Main
import RoutePreference.Net.Addr
import RoutePreference.Net.AddrRange
import RoutePreference.Net.Network
import RoutePreference.Proofs.Bench.Feed
import RoutePreference.Proofs.Bench.Followed
import RoutePreference.Proofs.Bench.Heard
import RoutePreference.Proofs.Bench.Kept
import RoutePreference.Proofs.Bench.Leaves
import RoutePreference.Proofs.Bench.Loop
import RoutePreference.Proofs.Bench.Paced
import RoutePreference.Proofs.Bench.Schedule
import RoutePreference.Proofs.Bench.Testbed
import RoutePreference.Proofs.Bench.Ticks
import RoutePreference.Proofs.Device.Accounting
import RoutePreference.Proofs.Device.Acknowledgement
import RoutePreference.Proofs.Device.Alike
import RoutePreference.Proofs.Device.Changes
import RoutePreference.Proofs.Device.Election
import RoutePreference.Proofs.Device.Errors
import RoutePreference.Proofs.Device.Flows
import RoutePreference.Proofs.Device.History
import RoutePreference.Proofs.Device.Hops
import RoutePreference.Proofs.Device.InPlace
import RoutePreference.Proofs.Device.Integrity
import RoutePreference.Proofs.Device.Mirror
import RoutePreference.Proofs.Device.Outcomes
import RoutePreference.Proofs.Device.Reachable
import RoutePreference.Proofs.Device.Reference
import RoutePreference.Proofs.Device.References
import RoutePreference.Proofs.Device.Residue
import RoutePreference.Proofs.Device.Resolution
import RoutePreference.Proofs.Device.Sessions
import RoutePreference.Proofs.Device.Soundness
import RoutePreference.Proofs.Device.Statics
import RoutePreference.Proofs.Device.Tokens
import RoutePreference.Proofs.Device.Use
import RoutePreference.Proofs.Device.WellFormed
import RoutePreference.Proofs.Device.Writer
import RoutePreference.Proofs.Harness.Acknowledged
import RoutePreference.Proofs.Harness.Attended
import RoutePreference.Proofs.Harness.Bookkeeping
import RoutePreference.Proofs.Harness.Checkup
import RoutePreference.Proofs.Harness.Consecutive
import RoutePreference.Proofs.Harness.Course
import RoutePreference.Proofs.Harness.Errands
import RoutePreference.Proofs.Harness.Installing
import RoutePreference.Proofs.Harness.Interrupt
import RoutePreference.Proofs.Harness.Observation
import RoutePreference.Proofs.Harness.Pipeline
import RoutePreference.Proofs.Harness.Polling
import RoutePreference.Proofs.Harness.Recognition
import RoutePreference.Proofs.Harness.Release
import RoutePreference.Proofs.Harness.Sequence
import RoutePreference.Proofs.Harness.Stages
import RoutePreference.Proofs.Harness.Teardown
import RoutePreference.Proofs.Harness.Timeline
import RoutePreference.Proofs.Harness.Transcript
import RoutePreference.Proofs.Harness.Triples
import RoutePreference.Proofs.Harness.Watching
import RoutePreference.Proofs.Identifiers
import RoutePreference.Proofs.LongestMatch
import RoutePreference.Proofs.Net.Spread
import RoutePreference.Proofs.Net.Text
import RoutePreference.Proofs.Rib.Choice
import RoutePreference.Proofs.Rib.Fairness
import RoutePreference.Proofs.Rib.Hash
import RoutePreference.Proofs.Rib.Live
import RoutePreference.Proofs.Rib.Settling
import RoutePreference.Proofs.Rib.Shares
import RoutePreference.Proofs.Tables
import RoutePreference.Proofs.Word
import RoutePreference.Protocol
import RoutePreference.Table
import RoutePreference.Telemetry.Path
import RoutePreference.Text.Binary32
import RoutePreference.Text.Elapsed
import RoutePreference.Text.Number
import RoutePreference.Text.Printable
import RoutePreference.Text.Quoted
import RoutePreference.Text.Timestamp
import RoutePreference.Toml.Document
import RoutePreference.Toml.Entries
import RoutePreference.Toml.Quotation
import RoutePreference.Toml.Scalar
import RoutePreference.Toml.Scan
import RoutePreference.Topology.Config
import RoutePreference.Traffic.Flow
