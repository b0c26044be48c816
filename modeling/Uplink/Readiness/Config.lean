import Uplink.Duration
import Uplink.Interface

/-!
# Settings of a coordinator
-/

namespace Uplink.Readiness

/-- What a coordinator watches and how long it pauses. -/
structure Config where
  /-- The kind of interface that is configured and watched. -/
  target : InterfaceKind := .ethernet
  /-- The pause between two looks at the address. -/
  pollInterval : Duration := .ofMillis 200
  /-- The pause between two readings of the wall clock. -/
  clockPollInterval : Duration := .ofMillis 100
  /-- The pause after the configuration commands. -/
  settleDelay : Duration := .ofMillis 100
  /-- The first year in which the wall clock is taken to be set. -/
  minYear : Int := 2019
  deriving DecidableEq, Repr

end Uplink.Readiness
