import Uplink.Cli.Layout
import Uplink.Number.Seconds
import Uplink.Readiness.Cells

/-!
# What is told at the end of a wait

## Main definitions

- `Report.lines`: the lines that sum up a wait.
- `Report.notReady`: why the network is not ready.
- `Report.interface`: what is told of an interface.
-/

namespace Uplink.Report

open Readiness

/-- The lines that sum up a wait: where the coordinator stands, what was configured, and how long
it took. -/
def lines (c : Cells) (elapsed : String) : List String :=
  let configuration := match c.applied with
    | some applied => applied.text
    | none => "dhcp"
  Layout.table [("Status", c.status.text), ("Config", configuration), ("Elapsed", elapsed)]

/-- Why the network is not ready. A coordinator that has neither succeeded nor failed was left by
whoever waited for it. -/
def notReady (status : Status) (lastError : Option ErrorChain) : String :=
  match lastError with
  | some e => s!"network is not ready: {e.line}"
  | none =>
    if status.isFailure then s!"network is not ready: {status.text}"
    else s!"gave up waiting for the network: timed out or interrupted while {status.text}"

/-- What is told of an interface. -/
def interface (i : Interface) : List (String × String) :=
  [("Type", i.kind.text), ("IPv4", if i.hasAddress then i.ipv4.text else "none")]

end Uplink.Report
