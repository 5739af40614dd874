import PrivateComputation.Cloud.AddressBlock
import PrivateComputation.Cloud.Compute
import PrivateComputation.Cloud.Container
import PrivateComputation.Cloud.Environment
import PrivateComputation.Cloud.Format
import PrivateComputation.Cloud.Inventory
import PrivateComputation.Cloud.Network
import PrivateComputation.Cloud.Tags
import PrivateComputation.CommandLine.Options
import PrivateComputation.CommandLine.Perform
import PrivateComputation.CommandLine.Request
import PrivateComputation.Config.Effective
import PrivateComputation.Config.Merge
import PrivateComputation.Config.Settings
import PrivateComputation.Config.Toml.Reader
import PrivateComputation.Config.Toml.Scalar
import PrivateComputation.Config.Toml.Section
import PrivateComputation.Config.Toml.Value
import PrivateComputation.Containers.FailurePlan
import PrivateComputation.Containers.Local
import PrivateComputation.Containers.Observed
import PrivateComputation.Containers.Processes
import PrivateComputation.Containers.Recorded
import PrivateComputation.Containers.Scripted
import PrivateComputation.Containers.Service
import PrivateComputation.Containers.Watched
import PrivateComputation.Digest.Sha256
import PrivateComputation.Files.Directory
import PrivateComputation.Files.Fault
import PrivateComputation.Files.Tree
import PrivateComputation.Json.Decoder
import PrivateComputation.Json.Place
import PrivateComputation.Json.Printer
import PrivateComputation.Json.Reader
import PrivateComputation.Json.Sorted
import PrivateComputation.Json.Tree
import PrivateComputation.Json.Value
import PrivateComputation.Main
import PrivateComputation.Number.Binary64
import PrivateComputation.Number.Shortest
import PrivateComputation.Proofs.Cloud.AddressBlock
import PrivateComputation.Proofs.Cloud.AddressText
import PrivateComputation.Proofs.Config.Effective
import PrivateComputation.Proofs.Config.Merge
import PrivateComputation.Proofs.Config.Nulls
import PrivateComputation.Proofs.Config.Toml
import PrivateComputation.Proofs.Containers.Dispatch
import PrivateComputation.Proofs.Containers.Ledger
import PrivateComputation.Proofs.Containers.Polling
import PrivateComputation.Proofs.Containers.Scripted
import PrivateComputation.Proofs.Containers.Unhindered
import PrivateComputation.Proofs.Json.Canonical
import PrivateComputation.Proofs.Json.Decoding
import PrivateComputation.Proofs.Json.Equality
import PrivateComputation.Proofs.Json.Number
import PrivateComputation.Proofs.Json.Reading
import PrivateComputation.Proofs.Outcomes
import PrivateComputation.Proofs.Places
import PrivateComputation.Proofs.Repository.Atomic
import PrivateComputation.Proofs.Repository.Creation
import PrivateComputation.Proofs.Repository.Directory
import PrivateComputation.Proofs.Repository.Interrupted
import PrivateComputation.Proofs.Repository.Lawful
import PrivateComputation.Proofs.Repository.Leavings
import PrivateComputation.Proofs.Repository.Mirrors
import PrivateComputation.Proofs.Repository.Race
import PrivateComputation.Proofs.Repository.Refinement
import PrivateComputation.Proofs.Session.Attended
import PrivateComputation.Proofs.Session.BorneOut
import PrivateComputation.Proofs.Session.Budget
import PrivateComputation.Proofs.Session.Coherent
import PrivateComputation.Proofs.Session.Ended
import PrivateComputation.Proofs.Session.Finish
import PrivateComputation.Proofs.Session.Grounded
import PrivateComputation.Proofs.Session.History
import PrivateComputation.Proofs.Session.Ledger
import PrivateComputation.Proofs.Session.Loop
import PrivateComputation.Proofs.Session.Move
import PrivateComputation.Proofs.Session.Outage
import PrivateComputation.Proofs.Session.Outcome
import PrivateComputation.Proofs.Session.Overflow
import PrivateComputation.Proofs.Session.Refused
import PrivateComputation.Proofs.Session.Released
import PrivateComputation.Proofs.Session.Resume
import PrivateComputation.Proofs.Session.Retries
import PrivateComputation.Proofs.Session.Stored
import PrivateComputation.Proofs.Session.Throughout
import PrivateComputation.Proofs.Session.Transitions
import PrivateComputation.Proofs.Session.Underway
import PrivateComputation.Proofs.Shell.Quoting
import PrivateComputation.Proofs.Shell.Words
import PrivateComputation.Proofs.SortedMap
import PrivateComputation.Proofs.Time.Reading
import PrivateComputation.Proofs.Validation.Attainable
import PrivateComputation.Proofs.Validation.Containment
import PrivateComputation.Proofs.Validation.Digest
import PrivateComputation.Proofs.Validation.Firewall
import PrivateComputation.Proofs.Validation.FirewallRemedies
import PrivateComputation.Proofs.Validation.Holdings
import PrivateComputation.Proofs.Validation.Pipeline
import PrivateComputation.Proofs.Validation.Policies
import PrivateComputation.Proofs.Validation.Questions
import PrivateComputation.Proofs.Validation.Reordered
import PrivateComputation.Proofs.Validation.RouteTable
import PrivateComputation.Proofs.Validation.Separate
import PrivateComputation.Proofs.Validation.Skipping
import PrivateComputation.Proofs.Validation.Zones
import PrivateComputation.Proofs.Workflow.Accepted
import PrivateComputation.Proofs.Workflow.Interrupts
import PrivateComputation.Proofs.Workflow.Launching
import PrivateComputation.Proofs.Workflow.RoundTrip
import PrivateComputation.Proofs.Workflow.Walk
import PrivateComputation.Repository.Basic
import PrivateComputation.Repository.Call
import PrivateComputation.Repository.Directory
import PrivateComputation.Repository.Interruption
import PrivateComputation.Repository.Race
import PrivateComputation.Shell.Arithmetic
import PrivateComputation.Shell.Command
import PrivateComputation.Shell.Condition
import PrivateComputation.Shell.Execution
import PrivateComputation.Shell.Expansion
import PrivateComputation.Shell.Host
import PrivateComputation.Shell.Machine
import PrivateComputation.Shell.Pattern
import PrivateComputation.Shell.Printing
import PrivateComputation.Shell.Run
import PrivateComputation.Shell.Signal
import PrivateComputation.Shell.Symbol
import PrivateComputation.Shell.Token
import PrivateComputation.SortedMap
import PrivateComputation.Text.Decimal
import PrivateComputation.Text.Encoding
import PrivateComputation.Text.Hex
import PrivateComputation.Text.Printable
import PrivateComputation.Text.Quoted
import PrivateComputation.Text.Split
import PrivateComputation.Text.Uuid
import PrivateComputation.Text.Whitespace
import PrivateComputation.Time.Calendar
import PrivateComputation.Time.Instant
import PrivateComputation.Time.Reader
import PrivateComputation.Validation.ComputeChecks
import PrivateComputation.Validation.Fault
import PrivateComputation.Validation.Finding
import PrivateComputation.Validation.NetworkChecks
import PrivateComputation.Validation.Problem
import PrivateComputation.Validation.Report
import PrivateComputation.Validation.Role
import PrivateComputation.Validation.Selection
import PrivateComputation.Validation.Standards
import PrivateComputation.Validation.Step
import PrivateComputation.Validation.Suite
import PrivateComputation.Workflow.Command
import PrivateComputation.Workflow.Definition
import PrivateComputation.Workflow.Interrupts
import PrivateComputation.Workflow.Run
import PrivateComputation.Workflow.Session
