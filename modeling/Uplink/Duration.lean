/-!
# Durations and deadlines

A duration is a number of nanoseconds of less than `2 ^ 64` seconds. The monotonic clock counts
seconds in 63 bits: an instant beyond its range does not exist, and a deadline that would lie there
is no deadline at all.

## Main definitions

- `Duration`: a span of time, `Duration.longest` being the longest.
- `Instant`: a reading of the monotonic clock.
- `Instant.after?`: the instant a span later, if the clock can show it.
-/

namespace Uplink

/-- A span of time in nanoseconds. -/
structure Duration where
  nanos : Nat
  deriving DecidableEq, Repr

namespace Duration

/-- Nanoseconds in a second. -/
def nanosPerSecond : Nat := 1000000000

/-- Nanoseconds in a millisecond. -/
def nanosPerMilli : Nat := 1000000

/-- A span of whole milliseconds. -/
def ofMillis (ms : Nat) : Duration := ⟨ms * nanosPerMilli⟩

/-- The number of whole milliseconds in a span. -/
def toMillis (d : Duration) : Nat := d.nanos / nanosPerMilli

/-- The number of whole seconds in a span. -/
def seconds (d : Duration) : Nat := d.nanos / nanosPerSecond

/-- The nanoseconds beyond the whole seconds of a span. -/
def subsecond (d : Duration) : Nat := d.nanos % nanosPerSecond

/-- No time. -/
def zero : Duration := ⟨0⟩

/-- The longest span. -/
def longest : Duration := ⟨UInt64.size * nanosPerSecond - 1⟩

end Duration

/-- A reading of the monotonic clock, in nanoseconds. -/
structure Instant where
  nanos : Nat
  deriving DecidableEq, Repr

namespace Instant

/-- The first reading that the clock cannot show. -/
def range : Nat := Nat.pow 2 63 * Duration.nanosPerSecond

/-- The instant a span later, if the clock can show it. -/
def after? (t : Instant) (d : Duration) : Option Instant :=
  if t.nanos + d.nanos < range then some ⟨t.nanos + d.nanos⟩ else none

/-- The instant a span later, where the range of the clock does not matter. -/
def later (t : Instant) (d : Duration) : Instant := ⟨t.nanos + d.nanos⟩

/-- Whether an instant has been reached at another one. -/
def reachedAt (t now : Instant) : Bool := t.nanos ≤ now.nanos

end Instant

end Uplink
