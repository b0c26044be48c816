import Uplink.Address.Text
import Uplink.ErrorChain

/-!
# Commands to a network

What can be asked of a network that configures interfaces, and the identifiers it hands to
listeners.
-/

namespace Uplink

/-- Names the listener that a subscription made. -/
structure SubscriptionId where
  number : UInt64
  deriving DecidableEq, Repr

/-- A command to configure the interface of a given name. -/
inductive NetworkCommand where
  | staticAddress (interface : String) (address mask gateway : Address)
  | dhcp (interface : String)
  | staticServers (interface : String) (servers : List Address)
  | automaticServers (interface : String)
  deriving DecidableEq, Repr

/-- The name of the interface that a command is about. -/
def NetworkCommand.interface : NetworkCommand → String
  | staticAddress interface .. => interface
  | dhcp interface => interface
  | staticServers interface _ => interface
  | automaticServers interface => interface

end Uplink
