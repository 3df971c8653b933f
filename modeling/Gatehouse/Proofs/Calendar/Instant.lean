import Gatehouse.Calendar.Instant

/-!
# Whole seconds of an instant

The second that an instant lies in never goes back while time goes on, and every second begins with an
instant of its own.
-/

namespace Gatehouse.Instant

theorem wholeSeconds_eq (t : Instant) : t.wholeSeconds = t / 1000000 :=
  Int.fdiv_eq_ediv_of_nonneg t (by decide)

theorem wholeSeconds_mono {a b : Instant} (h : a ≤ b) : a.wholeSeconds ≤ b.wholeSeconds := by
  rw [wholeSeconds_eq, wholeSeconds_eq]
  exact Int.ediv_le_ediv (by decide) h

theorem wholeSeconds_begin (second : Int) : wholeSeconds (second * Duration.second) = second := by
  rw [wholeSeconds_eq]
  exact Int.mul_ediv_cancel second (by decide)

end Gatehouse.Instant
