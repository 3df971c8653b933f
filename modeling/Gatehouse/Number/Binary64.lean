import Gatehouse.Number.Rounding

/-!
# Binary64 numbers

Floating-point numbers as exact values: a sign, 53 bits and a power of two. Every operation is the
exact one on rational numbers followed by one rounding, and the shortest decimal text that reads
back is found on the decimal grids themselves.
-/

namespace Gatehouse

/-- `finite s m e` is `± m · 2^e`; the sign is kept for zero too. -/
inductive Binary64 where
  | finite (negative : Bool) (mantissa : Nat) (exponent : Int)
  | infinite (negative : Bool)
  | nan
  deriving DecidableEq, Repr, Inhabited

namespace Binary64

/-! ## Rounding to 53 bits -/

/-- The least mantissa of 53 bits, `2^52`. -/
def unitMantissa : Nat := 0x10000000000000

/-- `num / den` with the given sign. The exponent is the largest that keeps 53 bits, and at least
`-1074`. -/
def ofRatio (negative : Bool) (num den : Nat) : Binary64 :=
  if num = 0 then finite negative 0 (-1074)
  else
    let scaled (e : Int) : Nat × Nat :=
      if e < 0 then (num * Nat.pow 2 (-e).toNat, den) else (num, den * Nat.pow 2 e.toNat)
    let guess : Int := (num.log2 : Int) - den.log2 - 52
    let below := let (n, d) := scaled guess; n < unitMantissa * d
    let e := max (if below then guess - 1 else guess) (-1074)
    let (n, d) := scaled e
    let m := Rounding.nearest n d
    let (m, e) := if m = 2 * unitMantissa then (unitMantissa, e + 1) else (m, e)
    if e > 971 then infinite negative else finite negative m e

def ofRat (x : Rat) : Binary64 :=
  ofRatio (x.num < 0) x.num.natAbs x.den

def ofInt (n : Int) : Binary64 :=
  ofRatio (n < 0) n.natAbs 1

/-- `± digits · 10^exponent`. Exponents far outside the range are settled without computing their
power. -/
def ofDecimal (negative : Bool) (digits : Nat) (exponent : Int) : Binary64 :=
  if digits = 0 then finite negative 0 (-1074)
  else
    let size : Int := exponent + digits.log2 * 30103 / 100000
    if size > 400 then infinite negative
    else if size < -400 then finite negative 0 (-1074)
    else if exponent < 0 then ofRatio negative digits (Nat.pow 10 (-exponent).toNat)
    else ofRatio negative (digits * Nat.pow 10 exponent.toNat) 1

/-! ## Exact value -/

def toRat? : Binary64 → Option Rat
  | finite negative m e =>
    let size : Rat := if e < 0 then mkRat m (Nat.pow 2 (-e).toNat) else ((m * Nat.pow 2 e.toNat : Nat) : Rat)
    some (if negative then -size else size)
  | _ => none

def isZero : Binary64 → Bool
  | finite _ m _ => m == 0
  | _ => false

/-! ## Shortest text -/

/-- The number of decimal places before the point: the least `k` with `num / den < 10^k`. -/
def pointOf (num den : Nat) : Int :=
  let guess : Int := ((num.log2 : Int) - den.log2) * 30103 / 100000 - 1
  let reaches (k : Int) : Bool :=
    if k < 0 then num * Nat.pow 10 (-k).toNat < den else num < den * Nat.pow 10 k.toNat
  ((List.range 5).map fun (i : Nat) => guess + i).find? reaches |>.getD (guess + 5)

/-- One grid of decimal digits: the nearer of the two neighbours of `num / den` on the grid of unit
`10^(-places)`, if either lies between the bounds. A tie goes to the even digit. -/
def onGrid (num low high den : Nat) (closed : Bool) (places : Int) : Option Nat :=
  let up (x : Nat) : Nat := if places < 0 then x else x * Nat.pow 10 places.toNat
  let unit : Nat := if places < 0 then den * Nat.pow 10 (-places).toNat else den
  let inside (d : Nat) : Bool :=
    if closed then up low ≤ d * unit && d * unit ≤ up high
    else up low < d * unit && d * unit < up high
  let d := up num / unit
  let r := up num % unit
  let first := if 2 * r < unit ∨ (2 * r = unit ∧ d % 2 = 0) then d else d + 1
  let second := if first = d then d + 1 else d
  if inside first then some first else if inside second then some second else none

/-- Digits and the place of the point of the shortest decimal that reads back as `m · 2^e`. -/
def shortestDigits (m : Nat) (e : Int) : Nat × Int :=
  -- four times the value and the two ends of its interval, over one denominator
  let lower := if m = unitMantissa ∧ e > -1074 then 4 * m - 1 else 4 * m - 2
  let scale (x : Nat) : Nat := if e < 0 then x else x * Nat.pow 2 e.toNat
  let den := if e < 0 then 4 * Nat.pow 2 (-e).toNat else 4
  let (num, low, high) := (scale (4 * m), scale lower, scale (4 * m + 2))
  let point := pointOf num den
  let hit := (List.range 17).findSome? fun (i : Nat) =>
    (onGrid num low high den (m % 2 == 0) ((i : Int) + 1 - point)).map fun d => (d, i + 1)
  match hit with
  | some (d, count) => if d = Nat.pow 10 count then (1, point + 1) else (d, point)
  | none => (m, point)

def dropZeros (digits : List Char) : List Char :=
  (digits.reverse.dropWhile (· == '0')).reverse

/-- Positional from `1e-4` on and below `1e16`, otherwise with an exponent of at least two digits. -/
def layout (digits : List Char) (point : Int) : List Char :=
  if -4 < point ∧ point ≤ 16 then
    if point ≤ 0 then '0' :: '.' :: List.replicate (-point).toNat '0' ++ digits
    else if digits.length ≤ point.toNat then
      digits ++ List.replicate (point.toNat - digits.length) '0' ++ ['.', '0']
    else digits.take point.toNat ++ '.' :: digits.drop point.toNat
  else
    let size := (point - 1).natAbs
    let body := match digits with
      | d :: r :: rest => d :: '.' :: r :: rest
      | one => one
    body ++ 'e' :: (if point - 1 < 0 then '-' else '+') ::
      (if size < 10 then ['0'] else []) ++ (toString size).toList

/-- The shortest text that reads back as the number. -/
def text : Binary64 → String
  | nan => "nan"
  | infinite negative => if negative then "-inf" else "inf"
  | finite negative m e =>
    let body := if m = 0 then ['0', '.', '0'] else
      let (d, point) := shortestDigits m e
      layout (dropZeros (toString d).toList) point
    String.ofList (if negative then '-' :: body else body)

end Binary64

end Gatehouse
