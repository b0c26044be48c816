import Uplink.Duration
import Uplink.Number.Decimal

/-!
# Numbers of seconds

A number of seconds is written in decimal. It is read as the nearest binary fraction, and that is
rounded to whole nanoseconds. A number beyond the longest duration is told apart from a text that is
no number.

## Main definitions

- `Seconds.read`: a duration from a text.
- `Seconds.elapsedText`: a duration in seconds with two places.
-/

namespace Uplink

namespace Seconds

/-- Why a text gives no duration. -/
inductive ReadError where
  /-- It is no finite number of seconds from zero on. -/
  | invalid (text : String)
  /-- It is more than the longest duration. -/
  | tooLong
  deriving DecidableEq, Repr

/-- The wording of an error. -/
def ReadError.message : ReadError → String
  | invalid text => s!"invalid number of seconds: {text}"
  | tooLong => "cannot convert float seconds to Duration: value is either too big or NaN"

/-- A binary fraction of seconds in nanoseconds, if it is below `2 ^ 64` seconds. -/
def ofDyadic? (x : Dyadic) : Option Duration :=
  let (n, d) := x.toRatio
  if n < UInt64.size * d then some ⟨x.scaled Duration.nanosPerSecond⟩ else none

/-- Reads a duration from a number of seconds. A negative number that is too small to tell from
zero is zero. -/
def read (text : String) : Except ReadError Duration :=
  match Decimal.read? text.toList with
  | none => .error (.invalid text)
  | some x =>
    match x.toDyadic? with
    | none => .error (.invalid text)
    | some y =>
      if x.negative ∧ y.mantissa ≠ 0 then .error (.invalid text)
      else
        match ofDyadic? y with
        | some d => .ok d
        | none => .error .tooLong

/-- A duration as a binary fraction of seconds: whole seconds and the rest, rounded each, then
added. -/
def toDyadic (d : Duration) : Dyadic :=
  let whole := (Dyadic.ofRatio? d.seconds 1).getD .zero
  let part := (Dyadic.ofRatio? d.subsecond Duration.nanosPerSecond).getD .zero
  (whole.add? part).getD .zero

/-- A duration in seconds with two places. -/
def elapsedText (d : Duration) : String := (toDyadic d).fixed ++ "s"

end Seconds

end Uplink
