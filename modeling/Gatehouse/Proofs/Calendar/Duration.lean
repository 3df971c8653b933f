import Gatehouse.Calendar.Instant
import Gatehouse.Proofs.Number.Rounding

/-!
# Spans of whole seconds

A span is counted in seconds as a binary64 number, which is exact where it has a whole number of them and a
clock of the calendar can run for so long.
-/

namespace Gatehouse

theorem Rounding.truncate_intCast (n : Int) : truncate (n : Rat) = n := by
  rw [truncate, Rat.num_intCast, Rat.den_intCast, Nat.cast_one, Int.tdiv_one]

namespace Duration

theorem seconds_mul_second {n : Int} (hleast : -2 ^ 52 ≤ n) (hmost : n ≤ 2 ^ 52) : seconds (n * second) = n := by
  have hwhole : mkRat (n * second) 1000000 = (n : Rat) := by
    have hsecond : ((second : Int) : Rat) = 1000000 := rfl
    rw [Rat.mkRat_eq_div, Int.cast_mul, hsecond]
    norm_num
  rw [seconds, hwhole, Binary64.toRat?_ofRat_intCast hleast hmost, Option.getD_some, Rounding.truncate_intCast]

/-- No span between two instants of the calendar is too long to be counted exactly. -/
theorem seconds_within {t : Instant} {n : Int} (hn : 0 ≤ n) (hfirst : Instant.first ≤ t)
    (hlast : t + n * second ≤ Instant.last) : seconds (n * second) = n := by
  have hstart : (-62135596800000000 : Int) ≤ t := hfirst
  have hend : (253402300799999999 : Int) ≥ t + n * 1000000 := hlast
  exact seconds_mul_second (by omega) (by omega)

end Duration

end Gatehouse
