import Gatehouse.Calendar.Instant
import Gatehouse.Json.Reader

/-!
# Counts of time

An instant given as a number since the start of 1970: of seconds, or of milliseconds where the number
is too large for seconds. The instants reach from the start of the year 0 to the end of 9999.
-/

namespace Gatehouse

/-- A number of seconds or milliseconds, exact or in binary64. -/
inductive Count where
  | whole (n : Int)
  | real (x : Binary64)
  deriving DecidableEq, Repr

namespace Count

/-- Larger counts are in milliseconds. -/
def limit : Int := 20000000000

def isWord (n : Int) : Bool := -0x8000000000000000 ≤ n && n < 0x8000000000000000

/-- Microseconds in the unit of a count. -/
def unit (x : Rat) : Int :=
  if -limit ≤ x ∧ x ≤ limit then Duration.second else 1000

def yearZero : Instant := -62167219200 * Duration.second

/-- An instant that has a second in the years 0 to 9999. -/
def within? (t : Instant) : Option Instant :=
  if yearZero ≤ t ∧ t ≤ Instant.last then some t else none

/-- Twice rounded: a binary64 number that stands in for a rational one. -/
def rounded (x : Rat) : Rat := ((Binary64.ofRat x).toRat?).getD 0

/-- The part above the next lower integer is taken and scaled in binary64, and then goes to the nearest
microsecond, a half upwards. -/
def ofRat? (x : Rat) : Option Instant :=
  let unit := unit x
  let part := rounded (rounded (x - x.floor) * unit)
  within? (x.floor * unit + (part + mkRat 1 2).floor)

def instant? : Count → Option Instant
  | whole n => within? (n * unit n)
  | real x => x.toRat?.bind ofRat?

/-! ## Counts as texts -/

def power? : List Char → Option Int
  | [] => some 0
  | cs =>
    match Json.exponent cs with
    | some (written, n) => if written.length = cs.length then some n else none
    | none => none

/-- A sign, digits, and perhaps a point with more digits and a power of ten. The digits before the
point are an integer of 64 bits. -/
def ofText? (cs : List Char) : Option Count :=
  let (negative, rest) := match cs with
    | '-' :: rest => (true, rest)
    | '+' :: rest => (false, rest)
    | _ => (false, cs)
  let digits := rest.takeWhile Json.isDigit
  let n : Int := Json.digitsValue digits
  if !isWord n then none
  else
    match rest.drop digits.length with
    | [] => if digits.isEmpty then none else some (whole (if negative then -n else n))
    | '.' :: more =>
      let part := more.takeWhile Json.isDigit
      if digits.isEmpty && part.isEmpty then none
      else
        (power? (more.drop part.length)).map fun e =>
          real (.ofDecimal negative (Json.digitsValue (digits ++ part)) (e - part.length))
    | _ => none

end Count

end Gatehouse
