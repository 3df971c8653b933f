import Gatehouse.Number.Binary64

/-!
# Significant digits

Numbers with fifteen significant digits at most, as a table of texts keeps a number: positional if the
first digit stands from the fourth place behind the point to the fifteenth before it, else with an
exponent, and always with a digit behind the point.
-/

namespace Gatehouse.Significant

def count : Nat := 15

/-- The digits of `num / den`, rounded, and the place of the point among them. -/
def digitsOf (num den : Nat) : Nat × Int :=
  let point := Binary64.pointOf num den
  let places := (count : Int) - point
  let d := if places < 0 then Rounding.nearest num (den * Nat.pow 10 (-places).toNat)
    else Rounding.nearest (num * Nat.pow 10 places.toNat) den
  if d = Nat.pow 10 count then (1, point + 1) else (d, point)

def scientific (digits : List Char) (point : Int) : List Char :=
  let size := (point - 1).natAbs
  let part := if digits.length ≤ 1 then ['0'] else digits.drop 1
  digits.take 1 ++ '.' :: part ++ 'e' :: (if point - 1 < 0 then '-' else '+') ::
    (if size < 10 then ['0'] else []) ++ (toString size).toList

def ofRat (x : Rat) : String :=
  let body := if x.num = 0 then "0.0".toList else
    let (d, point) := digitsOf x.num.natAbs x.den
    let digits := Binary64.dropZeros (toString d).toList
    if -4 < point ∧ point ≤ count then Binary64.layout digits point else scientific digits point
  String.ofList (if x.num < 0 then '-' :: body else body)

end Gatehouse.Significant
