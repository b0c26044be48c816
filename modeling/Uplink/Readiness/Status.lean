/-!
# Readiness status

How far a coordinator has come from "nothing requested" to "network usable".

## Main definitions

- `Status`: the seven positions, with code and text.
- `Status.isTerminal`, `Status.isFailure`: positions that are final, and those that are no success.
-/

namespace Uplink.Readiness

/-- The position of a coordinator. Every position after `started` is final until a reset. -/
inductive Status where
  | idle
  | started
  | ready
  | noInterface
  | expiredForAddress
  | expiredForClock
  | faulted
  deriving DecidableEq, Repr

namespace Status

/-- The number of a position. -/
def code : Status → UInt8
  | idle => 0
  | started => 1
  | ready => 2
  | noInterface => 3
  | expiredForAddress => 4
  | expiredForClock => 5
  | faulted => 6

/-- How a position is shown. -/
def text : Status → String
  | idle => "not started"
  | started => "waiting for network"
  | ready => "network is ready"
  | noInterface => "no interface available"
  | expiredForAddress => "cancelled while waiting for an IP address"
  | expiredForClock => "cancelled while waiting for a valid clock"
  | faulted => "failed with an error"

/-- Whether a position is final. -/
def isTerminal (s : Status) : Bool := s != idle && s != started

/-- Whether a position is final and no success. -/
def isFailure (s : Status) : Bool := s.isTerminal && s != ready

end Status

end Uplink.Readiness
