/-!
# Rounding

Quotients rounded to the nearest integer, a half going to the even neighbour.
-/

namespace Gatehouse.Rounding

def nearest (num den : Nat) : Nat :=
  let q := num / den
  let r := num % den
  if den < 2 * r ∨ (2 * r = den ∧ q % 2 = 1) then q + 1 else q

def nearestInt (x : Rat) : Int :=
  let q : Int := nearest x.num.natAbs x.den
  if x.num < 0 then -q else q

def truncate (x : Rat) : Int :=
  x.num.tdiv x.den

end Gatehouse.Rounding
