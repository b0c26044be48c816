/-!
# Wall clocks

The year that a wall clock shows, and a clock that only moves when it is told to.

## Main definitions

- `daysBeforeYear`: the days from the first of January 1970 to that of another year.
- `ManualClock`: a clock that is set by hand.
-/

namespace Uplink

/-- The years before a year that are leap years by the Gregorian rule, counted from year one; years
up to zero count as negative. -/
def leapYearsBefore (year : Int) : Int :=
  Int.fdiv (year - 1) 4 - Int.fdiv (year - 1) 100 + Int.fdiv (year - 1) 400

/-- The days from the first of January 1970 to the first of January of a year. -/
def daysBeforeYear (year : Int) : Int :=
  365 * (year - 1970) + leapYearsBefore year - leapYearsBefore 1970

/-- A clock that stands still until it is set. -/
structure ManualClock where
  /-- The year that it shows. -/
  year : Int := 1970
  /-- Seconds since the start of 1970. -/
  seconds : Int := 0
  deriving DecidableEq, Repr

namespace ManualClock

/-- The years that a clock can show. -/
def firstYear : Int := -262143

/-- The last year that a clock can show. -/
def lastYear : Int := 262142

/-- The start of 1970. -/
def epoch : ManualClock := {}

/-- Sets the clock to noon of the first of January; a year that it cannot show changes nothing. -/
def setYear (c : ManualClock) (year : Int) : ManualClock :=
  if firstYear ≤ year ∧ year ≤ lastYear then
    { year, seconds := daysBeforeYear year * 86400 + 43200 }
  else c

end ManualClock

end Uplink
