import Gatehouse.Text.Digit
import Gatehouse.Text.Split

/-!
# Charts

Sets of characters and maps on them, written as ascending rows in lines of words. The word
`41-5A` is the row from U+0041 to U+005A, and `C0>41+300` sends U+00C0 to two characters. Where a
row holds several characters, its image moves along with them.
-/

namespace Gatehouse

/-- A row of neighbouring characters with the image of the first. -/
structure Chart.Row where
  first : Nat
  last : Nat
  image : List Nat

structure Chart where
  rows : List Chart.Row

namespace Chart

def hexadecimal (digits : List Char) : Nat :=
  digits.foldl (fun n c => 16 * n + (Digit.value? c).getD 0) 0

def Row.ofWord (word : List Char) : Row :=
  let sides := Split.on '>' word
  let ends := Split.on '-' (sides.headD [])
  ⟨hexadecimal (ends.headD []), hexadecimal (ends.getLastD []),
    (sides.drop 1).flatMap fun image => (Split.on '+' image).map hexadecimal⟩

def ofLines (lines : List String) : Chart :=
  ⟨lines.flatMap fun line => (Split.on ' ' line.toList).map Row.ofWord⟩

/-- The row of a character. The rows ascend, so the search ends at the first row beyond it. -/
def rowOf? (c : Char) : List Row → Option Row
  | [] => none
  | r :: rest =>
    if c.toNat < r.first then none else if c.toNat ≤ r.last then some r else rowOf? c rest

def contains (chart : Chart) (c : Char) : Bool :=
  (rowOf? c chart.rows).isSome

def image? (chart : Chart) (c : Char) : Option (List Char) :=
  (rowOf? c chart.rows).map fun r => r.image.map fun n => Char.ofNat (n + (c.toNat - r.first))

/-- The number that all characters of a row share. -/
def value? (chart : Chart) (c : Char) : Option Nat :=
  (rowOf? c chart.rows).bind fun r => r.image.head?

end Chart

end Gatehouse
