import Gatehouse.Calendar.Duration

/-!
# Instants

Points of time as microseconds since the start of 1970 in UTC. The calendar has the years 1 to 9999.
-/

namespace Gatehouse

/-- Microseconds since the start of 1970. -/
abbrev Instant := Int

namespace Instant

def first : Instant := -62135596800 * Duration.second

def last : Instant := 253402300800 * Duration.second - 1

def add? (t : Instant) (d : Duration.Span) : Option Instant :=
  if first ≤ t + d ∧ t + d ≤ last then some (t + d) else none

def wholeSeconds (t : Instant) : Int := t.fdiv Duration.second

/-- Seconds as a binary64 number: the fraction is rounded first, then the sum. -/
def toReal (t : Instant) : Binary64 :=
  let whole := (Binary64.ofInt t.wholeSeconds).toRat?.getD 0
  let part := (Binary64.ofRat (mkRat (t.fmod Duration.second) 1000000)).toRat?.getD 0
  Binary64.ofRat (whole + part)

end Instant

end Gatehouse
