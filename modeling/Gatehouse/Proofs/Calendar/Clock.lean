import Gatehouse.Proofs.Calendar.Instant
import Gatehouse.Proofs.Number.Rounding

/-!
# The clock as a number

The clock is read as a binary64 number of seconds. The reading lies in the second of the instant, whose
end it may reach by rounding, and at the start of a second it is this second.
-/

namespace Gatehouse.Instant

def reading (t : Instant) : Rat := t.toReal.toRat?.getD 0

theorem fraction_between (t : Instant) :
    ((0 : Int) : Rat) ≤ mkRat (t.fmod Duration.second) 1000000 ∧
      mkRat (t.fmod Duration.second) 1000000 ≤ ((1 : Int) : Rat) := by
  have hmod : t.fmod Duration.second = t % 1000000 := Int.fmod_eq_emod_of_nonneg t (by decide)
  have hnonneg : (0 : Rat) ≤ ((t % 1000000 : Int) : Rat) := by
    exact_mod_cast Int.emod_nonneg t (by decide)
  have hless : ((t % 1000000 : Int) : Rat) ≤ 1000000 := by
    exact_mod_cast (Int.emod_lt_of_pos t (by decide)).le
  rw [hmod, Rat.mkRat_eq_div]
  refine ⟨?_, ?_⟩
  · rw [Int.cast_zero]
    positivity
  · rw [div_le_iff₀ (by norm_num)]
    norm_num
    exact hless

section
variable {t : Instant} (hcalendar : first ≤ t ∧ t ≤ last)
include hcalendar

theorem wholeSeconds_exact : -2 ^ 52 ≤ t.wholeSeconds ∧ t.wholeSeconds + 1 ≤ 2 ^ 52 := by
  have hfirst : (-62135596800000000 : Int) ≤ t := hcalendar.1
  have hlast : (253402300799999999 : Int) ≥ t := hcalendar.2
  rw [wholeSeconds_eq]
  omega

theorem toReal_eq : t.toReal = Binary64.ofRat (t.wholeSeconds +
    (Binary64.ofRat (mkRat (t.fmod Duration.second) 1000000)).toRat?.getD 0) := by
  have hexact := wholeSeconds_exact hcalendar
  have hwhole := Binary64.toRat?_ofRat_intCast hexact.1 (by omega)
  rw [toReal, Binary64.ofInt_eq_ofRat, hwhole]
  rfl

/-- The clock shows a time in the second that the instant lies in, or the end of this second. -/
theorem reading_between : (t.wholeSeconds : Rat) ≤ t.reading ∧ t.reading ≤ t.wholeSeconds + 1 := by
  have hexact := wholeSeconds_exact hcalendar
  obtain ⟨hleast, hmost⟩ := fraction_between t
  obtain ⟨part, hpart, hlow, hhigh⟩ := Binary64.ofRat_between hleast hmost (by decide) (by decide)
  rw [Int.cast_zero] at hlow
  rw [Int.cast_one] at hhigh
  have hfrom : (t.wholeSeconds : Rat) ≤ t.wholeSeconds + part := by linarith
  have hto : t.wholeSeconds + part ≤ ((t.wholeSeconds + 1 : Int) : Rat) := by
    push_cast
    linarith
  obtain ⟨y, hy, hbelow, habove⟩ := Binary64.ofRat_between hfrom hto hexact.1 hexact.2
  rw [reading, toReal_eq hcalendar, hpart, Option.getD_some, hy, Option.getD_some]
  push_cast at habove
  exact ⟨hbelow, habove⟩

/-- At the start of a second the clock shows just this second. -/
theorem reading_start (hstart : t.fmod Duration.second = 0) : t.reading = t.wholeSeconds := by
  have hexact := wholeSeconds_exact hcalendar
  have hpart : (Binary64.ofRat (mkRat 0 1000000)).toRat? = some 0 := by
    rw [Rat.zero_mkRat]
    exact Binary64.toRat?_ofRat_intCast (n := 0) (by decide) (by decide)
  rw [reading, toReal_eq hcalendar, hstart, hpart, Option.getD_some, add_zero,
    Binary64.toRat?_ofRat_intCast hexact.1 (by omega)]
  rfl

end

end Gatehouse.Instant
