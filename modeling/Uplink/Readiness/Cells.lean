import Uplink.Network.Command
import Uplink.Readiness.Fault
import Uplink.Readiness.Status
import Uplink.Signal.Basic

/-!
# The cells of a coordinator

Everything that the threads of one coordinator share. Each cell is read and written in single
steps; nothing ties two cells together but the order in which the threads write them.
-/

namespace Uplink.Readiness

/-- What the threads of one coordinator share. -/
structure Cells where
  status : Status := .idle
  /-- Whether a setup has been admitted since the last reset. -/
  claimed : Bool := false
  /-- Counts the resets, so that workers from before one can tell. -/
  generation : UInt64 := 0
  addressObserved : Signal := .pending
  ready : Signal := .pending
  fault : Option Fault := none
  /-- The static configuration that was applied. -/
  applied : Option IpConfiguration := none
  subscription : Option SubscriptionId := none
  deriving DecidableEq, Repr

namespace Cells

/-- The cells of a new coordinator. -/
def fresh : Cells := {}

/-- The error behind the status `faulted`. -/
def lastError (c : Cells) : Option ErrorChain := c.fault.map Fault.chain

end Cells

end Uplink.Readiness
