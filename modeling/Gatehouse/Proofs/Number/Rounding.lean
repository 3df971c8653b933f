import Gatehouse.Number.Binary64
import Mathlib.Algebra.Order.Field.Rat
import Mathlib.Tactic.FieldSimp
import Mathlib.Tactic.Linarith
import Mathlib.Tactic.Positivity

/-!
# Rounding to binary64

Quotients up to `2 ^ 52` are rounded on a grid of binary places that contains the whole numbers. So
rounding does not take a number past a whole number, and it leaves whole numbers as they are.
-/

namespace Gatehouse

/-! ## The nearest integer -/

namespace Rounding

theorem le_nearest {num den c : Nat} (hden : 0 < den) (h : c * den ≤ num) : c ≤ nearest num den := by
  have hfloor : c ≤ num / den := (Nat.le_div_iff_mul_le hden).mpr h
  unfold nearest
  dsimp only
  split <;> omega

theorem nearest_le {num den c : Nat} (hden : 0 < den) (h : num ≤ c * den) : nearest num den ≤ c := by
  have hparts := Nat.div_add_mod num den
  have hfloor : num / den ≤ c := Nat.div_le_of_le_mul (by rwa [Nat.mul_comm])
  unfold nearest
  dsimp only
  split
  · rename_i hup
    -- what is rounded up has left something over, so its quotient is below the bound
    rcases Nat.lt_or_eq_of_le hfloor with hbelow | hequal
    · exact hbelow
    · rw [hequal, Nat.mul_comm den c] at hparts
      omega
  · exact hfloor

end Rounding

namespace Binary64

open Rounding

/-! ## One rounding -/

def inUnits (num den : Nat) (e : Int) : Nat × Nat :=
  if e < 0 then (num * Nat.pow 2 (-e).toNat, den) else (num, den * Nat.pow 2 e.toNat)

def exponentOf (num den : Nat) : Int :=
  let guess : Int := (num.log2 : Int) - den.log2 - 52
  let below := let (n, d) := inUnits num den guess; n < unitMantissa * d
  max (if below then guess - 1 else guess) (-1074)

/-- A mantissa of 54 bits moves on to the next exponent. -/
def carried (negative : Bool) (m : Nat) (e : Int) : Binary64 :=
  let (m, e) := if m = 2 * unitMantissa then (unitMantissa, e + 1) else (m, e)
  if e > 971 then infinite negative else finite negative m e

def mantissaAt (num den : Nat) (e : Int) : Nat :=
  let (n, d) := inUnits num den e
  nearest n d

theorem ofRatio_eq (negative : Bool) (num den : Nat) (h : num ≠ 0) : ofRatio negative num den =
    carried negative (mantissaAt num den (exponentOf num den)) (exponentOf num den) := by
  rw [ofRatio, if_neg h]
  unfold carried mantissaAt exponentOf inUnits
  rfl

theorem exponentOf_nonpos {num den : Nat} (hnum : num ≠ 0) (h : num ≤ 2 ^ 52 * den) :
    exponentOf num den ≤ 0 := by
  have hlog : num.log2 < 53 + den.log2 := by
    rw [Nat.log2_lt hnum]
    calc num ≤ 2 ^ 52 * den := h
      _ < 2 ^ 52 * 2 ^ (den.log2 + 1) := Nat.mul_lt_mul_of_pos_left Nat.lt_log2_self (by decide)
      _ = 2 ^ (53 + den.log2) := by rw [← Nat.pow_add]; congr 1; omega
  have hguess : (num.log2 : Int) - den.log2 - 52 ≤ 0 := by omega
  unfold exponentOf
  generalize (num.log2 : Int) - den.log2 - 52 = guess at hguess
  dsimp only
  refine max_le ?_ (by decide)
  split
  · exact (Int.sub_le_self guess (by decide)).trans hguess
  · exact hguess

/-! ## Values with binary places -/

theorem inUnits_places (num den places : Nat) :
    inUnits num den (-places) = (num * 2 ^ places, den) := by
  rcases places with - | places
  · simp [inUnits]
  · rw [inUnits, if_pos (by omega)]
    congr 3

theorem toRat?_finite (negative : Bool) (m places : Nat) : (finite negative m (-places)).toRat? =
    some (if negative then -((m : Rat) / 2 ^ places) else (m : Rat) / 2 ^ places) := by
  have hsize : (if (-(places : Int)) < 0 then mkRat m (Nat.pow 2 (- -(places : Int)).toNat)
      else ((m * Nat.pow 2 (-(places : Int)).toNat : Nat) : Rat)) = (m : Rat) / 2 ^ places := by
    split
    · rw [Rat.mkRat_eq_div]
      simp
    · have hzero : places = 0 := by omega
      subst hzero
      simp
  simp only [toRat?, hsize]

theorem toRat?_carried (negative : Bool) {m places : Nat} (h : places = 0 → m ≤ unitMantissa) :
    (carried negative m (-places)).toRat? = (finite negative m (-places)).toRat? := by
  unfold carried
  by_cases hm : m = 2 * unitMantissa
  · obtain ⟨places, rfl⟩ : ∃ fewer, places = fewer + 1 := by
      refine ⟨places - 1, ?_⟩
      have : places ≠ 0 := fun hzero => by have := h hzero; simp only [unitMantissa] at *; omega
      omega
    have hnext : -((places + 1 : Nat) : Int) + 1 = -places := by omega
    simp only [hm, if_true, hnext]
    rw [if_neg (by omega), toRat?_finite, toRat?_finite, pow_succ]
    have hvalue : ((unitMantissa : Nat) : Rat) / 2 ^ places =
        ((2 * unitMantissa : Nat) : Rat) / (2 ^ places * 2) := by
      rw [Nat.cast_mul]
      field_simp
      norm_num
    rw [hvalue]
  · simp only [hm, if_false]
    rw [if_neg (by omega)]

/-! ## The grid -/

theorem toRat?_ofRatio (negative : Bool) {num den : Nat} (hden : 0 < den) (h : num ≤ 2 ^ 52 * den) :
    ∃ places : Nat, (ofRatio negative num den).toRat? =
      (finite negative (nearest (num * 2 ^ places) den) (-places)).toRat? := by
  by_cases hnum : num = 0
  · have hzero : nearest 0 den = 0 := Nat.le_zero.mp (nearest_le hden (by omega))
    exact ⟨1074, by rw [ofRatio, if_pos hnum, hnum, Nat.zero_mul, hzero]; rfl⟩
  · obtain ⟨places, hplaces⟩ : ∃ places : Nat, exponentOf num den = -places :=
      ⟨(-exponentOf num den).toNat, by have := exponentOf_nonpos hnum h; omega⟩
    refine ⟨places, ?_⟩
    rw [ofRatio_eq negative num den hnum, hplaces, mantissaAt, inUnits_places]
    refine toRat?_carried negative fun hzero => ?_
    subst hzero
    exact nearest_le hden (by simpa [unitMantissa] using h)

theorem ofRatio_between (negative : Bool) {num den low high : Nat} (hden : 0 < den)
    (hlow : low * den ≤ num) (hhigh : num ≤ high * den) (hsize : high ≤ 2 ^ 52) :
    ∃ size : Rat, (ofRatio negative num den).toRat? = some (if negative then -size else size) ∧
      (low : Rat) ≤ size ∧ size ≤ high := by
  obtain ⟨places, hvalue⟩ :=
    toRat?_ofRatio negative hden (hhigh.trans (Nat.mul_le_mul_right den hsize))
  have hpow : (0 : Rat) < 2 ^ places := by positivity
  have hbelow : low * 2 ^ places ≤ nearest (num * 2 ^ places) den :=
    le_nearest hden (by nlinarith [Nat.mul_le_mul_right (2 ^ places) hlow])
  have habove : nearest (num * 2 ^ places) den ≤ high * 2 ^ places :=
    nearest_le hden (by nlinarith [Nat.mul_le_mul_right (2 ^ places) hhigh])
  refine ⟨(nearest (num * 2 ^ places) den : Rat) / 2 ^ places, ?_, ?_, ?_⟩
  · rw [hvalue, toRat?_finite]
  · rw [le_div_iff₀ hpow]
    exact_mod_cast hbelow
  · rw [div_le_iff₀ hpow]
    exact_mod_cast habove

/-! ## Whole numbers as bounds -/

theorem toNat_mul_le {c : Int} {num den : Nat} (h : c * den ≤ num) : c.toNat * den ≤ num := by
  rcases Int.le_total 0 c with hc | hc
  · lift c to Nat using hc
    exact_mod_cast h
  · rw [Int.toNat_of_nonpos hc]
    omega

theorem le_toNat_mul {c : Int} {num den : Nat} (h : num ≤ c * den) : num ≤ c.toNat * den := by
  have : (num : Int) ≤ c.toNat * den :=
    h.trans (mul_le_mul_of_nonneg_right (Int.self_le_toNat c) (by omega))
  exact_mod_cast this

/-- Rounding keeps a number between the whole numbers that it lies between. -/
theorem ofRat_between {x : Rat} {low high : Int} (hlow : low ≤ x) (hhigh : x ≤ high)
    (hleast : -2 ^ 52 ≤ low) (hmost : high ≤ 2 ^ 52) :
    ∃ y : Rat, (ofRat x).toRat? = some y ∧ low ≤ y ∧ y ≤ high := by
  have hsign : (0 : Int) < x.den := by exact_mod_cast x.den_pos
  have hden : (0 : Rat) < x.den := by exact_mod_cast x.den_pos
  have hx : x * x.den = x.num := Rat.mul_den_eq_num x
  have hbelow : low * x.den ≤ x.num := by
    have := mul_le_mul_of_nonneg_right hlow hden.le
    rw [hx] at this
    exact_mod_cast this
  have habove : x.num ≤ high * x.den := by
    have := mul_le_mul_of_nonneg_right hhigh hden.le
    rw [hx] at this
    exact_mod_cast this
  -- a number below zero is rounded by its size, which the opposite bounds enclose
  by_cases hnegative : x.num < 0
  · have hlowSign : low < 0 := by
      by_contra hnot
      have := Int.mul_nonneg (Int.not_lt.mp hnot) hsign.le
      omega
    have hleastNum : (-high).toNat * x.den ≤ x.num.natAbs :=
      toNat_mul_le (by rw [Int.neg_mul]; omega)
    have hmostNum : x.num.natAbs ≤ (-low).toNat * x.den :=
      le_toNat_mul (by rw [Int.neg_mul]; omega)
    obtain ⟨size, hvalue, hleastSize, hmostSize⟩ :=
      ofRatio_between (decide (x.num < 0)) x.den_pos hleastNum hmostNum (by omega)
    have hleastCast : -(high : Rat) ≤ ((-high).toNat : Rat) := by
      exact_mod_cast Int.self_le_toNat (-high)
    have hmostCast : ((-low).toNat : Rat) = -(low : Rat) := by
      exact_mod_cast Int.toNat_of_nonneg (show 0 ≤ -low by omega)
    rw [if_pos (by simpa using hnegative)] at hvalue
    exact ⟨-size, hvalue, by linarith, by linarith⟩
  · have hhighSign : 0 ≤ high := by
      by_contra hnot
      have := Int.mul_neg_of_neg_of_pos (Int.not_le.mp hnot) hsign
      omega
    have hleastNum : low.toNat * x.den ≤ x.num.natAbs := toNat_mul_le (by omega)
    have hmostNum : x.num.natAbs ≤ high.toNat * x.den := le_toNat_mul (by omega)
    obtain ⟨size, hvalue, hleastSize, hmostSize⟩ :=
      ofRatio_between (decide (x.num < 0)) x.den_pos hleastNum hmostNum (by omega)
    have hleastCast : (low : Rat) ≤ (low.toNat : Rat) := by exact_mod_cast Int.self_le_toNat low
    have hmostCast : (high.toNat : Rat) = (high : Rat) := by
      exact_mod_cast Int.toNat_of_nonneg hhighSign
    rw [if_neg (by simpa using hnegative)] at hvalue
    exact ⟨size, hvalue, by linarith, by linarith⟩

theorem toRat?_ofRat_intCast {n : Int} (hleast : -2 ^ 52 ≤ n) (hmost : n ≤ 2 ^ 52) :
    (ofRat n).toRat? = some (n : Rat) := by
  obtain ⟨y, hvalue, hlow, hhigh⟩ := ofRat_between (x := n) le_rfl le_rfl hleast hmost
  rw [hvalue, le_antisymm hhigh hlow]

theorem ofInt_eq_ofRat (n : Int) : ofInt n = ofRat n := by
  rw [ofInt, ofRat, Rat.num_intCast, Rat.den_intCast]

end Binary64

end Gatehouse
