import Uplink.Address.Basic
import Uplink.Address.Family
import Uplink.Address.Text
import Uplink.Buffer.Basic
import Uplink.Buffer.Hash
import Uplink.CancelToken
import Uplink.Cli.Command
import Uplink.Cli.Flag
import Uplink.Cli.Layout
import Uplink.Cli.Mark
import Uplink.Cli.Parse
import Uplink.Cli.Printer
import Uplink.Cli.Report
import Uplink.Cli.Screen
import Uplink.Cli.Session
import Uplink.Cli.Usage
import Uplink.Clock
import Uplink.CodecError
import Uplink.Duration
import Uplink.Endpoint.Basic
import Uplink.Endpoint.Wire
import Uplink.ErrorChain
import Uplink.Host.Machine
import Uplink.Host.Network
import Uplink.Host.Program
import Uplink.Host.StandIn
import Uplink.Host.Watcher
import Uplink.Interface
import Uplink.IpConfiguration.Basic
import Uplink.IpConfiguration.Mask
import Uplink.Log
import Uplink.Log.Filter
import Uplink.Main
import Uplink.Network.Command
import Uplink.Network.Shared
import Uplink.Network.Simulated
import Uplink.Number.Decimal
import Uplink.Number.Dyadic
import Uplink.Number.Seconds
import Uplink.Pattern
import Uplink.Pattern.Bracket
import Uplink.Pattern.Escape
import Uplink.Pattern.Mode
import Uplink.Pattern.Nesting
import Uplink.Proofs.Entries
import Uplink.Proofs.Host.Delivery
import Uplink.Proofs.Host.Run
import Uplink.Proofs.Network.Shared
import Uplink.Proofs.Readiness.Admission
import Uplink.Proofs.Readiness.Course
import Uplink.Proofs.Readiness.Evidence
import Uplink.Proofs.Readiness.Following
import Uplink.Proofs.Readiness.Lease
import Uplink.Proofs.Readiness.Lifecycle
import Uplink.Proofs.Readiness.Outlook
import Uplink.Proofs.Readiness.Polling
import Uplink.Proofs.Readiness.Resolution
import Uplink.Proofs.Readiness.Run
import Uplink.Proofs.Readiness.Stage
import Uplink.Proofs.Readiness.Story
import Uplink.Proofs.Readiness.Supersession
import Uplink.Proofs.Readiness.Waiting
import Uplink.Proofs.Readiness.Wakeup
import Uplink.Proofs.Readiness.Watching
import Uplink.Proofs.Readiness.Write
import Uplink.Proofs.Runs
import Uplink.Quad
import Uplink.Readiness.Caller
import Uplink.Readiness.Cells
import Uplink.Readiness.Config
import Uplink.Readiness.Ending
import Uplink.Readiness.Fault
import Uplink.Readiness.Probe
import Uplink.Readiness.Request
import Uplink.Readiness.Reset
import Uplink.Readiness.Status
import Uplink.Readiness.System
import Uplink.Readiness.Watch
import Uplink.Readiness.Worker
import Uplink.Rehearsal.HostScene
import Uplink.Rehearsal.Play
import Uplink.Rehearsal.Scene
import Uplink.Rehearsal.Site
import Uplink.Signal.Basic
import Uplink.Signal.Waiting
import Uplink.SocketOption
import Uplink.Text.Alphabetic
import Uplink.Text.Alphanumeric
import Uplink.Text.Blank
import Uplink.Text.Cut
import Uplink.Text.Hex
import Uplink.Text.Numeral
import Uplink.Text.UpperCase
import Uplink.Text.Utf8
import Uplink.Proofs.Readiness.Subscriptions
import Uplink.Proofs.Readiness.Dealings
import Uplink.Proofs.Readiness.Itinerary
import Uplink.Proofs.Words
import Uplink.Proofs.Endpoint.Wire
import Uplink.Proofs.Host.Staffing
import Uplink.Proofs.Readiness.Renewal
import Uplink.Proofs.Readiness.Agreement
import Uplink.Proofs.Host.Bookkeeping
import Uplink.Proofs.Host.Differences
import Uplink.Proofs.Cli.Application
import Uplink.Proofs.Signal
import Uplink.Proofs.Host.Snapshot
import Uplink.Proofs.Readiness.Leading
import Uplink.Proofs.Readiness.Selection
import Uplink.Proofs.Readiness.Applied
import Uplink.Proofs.Readiness.Faults
import Uplink.Proofs.Cli.Report
import Uplink.Proofs.CancelToken
import Uplink.Proofs.Text.Hex
import Uplink.Proofs.Cli.Layout
import Uplink.Proofs.Cli.Coding
import Uplink.Proofs.Number.Dyadic
import Uplink.Proofs.Number.Decimal
import Uplink.Proofs.Number.Seconds
import Uplink.Proofs.Cli.Timeout
import Uplink.Proofs.Text.Blank
import Uplink.Proofs.Endpoint.Text
import Uplink.Proofs.IpConfiguration.Usable
import Uplink.Proofs.IpConfiguration.Text
import Uplink.Proofs.Buffer.Hash
import Uplink.Proofs.Endpoint.Hash
import Uplink.Proofs.SocketOption
import Uplink.Proofs.Network.Assignment
import Uplink.Proofs.Network.Listening
import Uplink.Proofs.IpConfiguration.Prefix
import Uplink.Proofs.Buffer.Construction
import Uplink.Proofs.Cli.Printer
