import Uplink.Duration
import Uplink.Endpoint.Basic
import Uplink.Interface
import Uplink.IpConfiguration.Basic

/-!
# Commands of the command line

## Main definitions

- `WaitOptions`: what the wait command was told, `WaitOptions.configuration` being the static
  configuration that follows from it.
- `Command`, `CommandLine`: a command, and how verbose the log is to be.
-/

namespace Uplink.Cli

/-- What the wait command was told. -/
structure WaitOptions where
  /-- The static address in CIDR notation; without one, the address comes from DHCP. -/
  staticAddress : Option String := none
  gateway : Option Address := none
  servers : List Address := []
  requiresClock : Bool := false
  minYear : Int := 2019
  timeout : Option Duration := none
  /-- Whether to wait for events instead of looking again and again. -/
  events : Bool := false
  target : InterfaceKind := .ethernet
  /-- Whether to configure the host instead of only watching it. -/
  apply : Bool := false
  deriving DecidableEq, Repr

/-- The static configuration that was asked for; no gateway is the zero address. -/
def WaitOptions.configuration (o : WaitOptions) : Except CodecError (Option IpConfiguration) :=
  match o.staticAddress with
  | none => .ok none
  | some cidr => do
    let base ← IpConfiguration.ofCidr cidr (o.gateway.getD .any)
    some <$> base.withServers o.servers

/-- A command. -/
inductive Command where
  /-- Lists the interfaces. -/
  | interfaces
  /-- Configures an interface and waits until the network is ready. -/
  | wait (o : WaitOptions)
  /-- Shows the bytes of an endpoint. -/
  | encode (e : Endpoint)
  /-- Shows the endpoint of bytes. -/
  | decode (hex : String)
  deriving DecidableEq, Repr

/-- A command, and how verbose the log is to be. -/
structure CommandLine where
  verbosity : Nat
  command : Command
  deriving DecidableEq, Repr

end Uplink.Cli
