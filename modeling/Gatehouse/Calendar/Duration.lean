import Gatehouse.Json.Basic

/-!
# Durations

Spans of time in whole microseconds, and their reading from a number of seconds. A span has at most
999999999 days.
-/

namespace Gatehouse.Duration

/-- A span in microseconds. -/
abbrev Span := Int

def second : Int := 1000000

def day : Int := 86400 * second

inductive Fault where
  | overflow
  | notANumber
  | wrongType
  deriving DecidableEq, Repr

def check (us : Int) : Except Fault Span :=
  let days := us.fdiv day
  if -999999999 ≤ days ∧ days ≤ 999999999 then .ok us else .error .overflow

/-- Whole seconds count exactly; the fraction is first scaled as a binary64 number and then rounded
to the nearest microsecond. -/
def ofReal (x : Binary64) : Except Fault Span :=
  match x, x.toRat? with
  | .nan, _ => .error .notANumber
  | _, none => .error .overflow
  | _, some r =>
    let whole := Rounding.truncate r
    let part := (Binary64.ofRat ((r - whole) * second)).toRat?.getD 0
    check (whole * second + Rounding.nearestInt part)

def ofSeconds : Json → Except Fault Span
  | .integer n => check (n * second)
  | .bool b => check (if b then second else 0)
  | .real x => ofReal x
  | _ => .error .wrongType

/-- The whole seconds of a span, which is first counted in seconds as a binary64 number. -/
def seconds (us : Span) : Int :=
  Rounding.truncate ((Binary64.ofRat (mkRat us 1000000)).toRat?.getD 0)

end Gatehouse.Duration
