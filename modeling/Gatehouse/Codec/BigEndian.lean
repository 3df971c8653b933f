/-!
# Big-endian bytes

Natural numbers as rows of bytes, the highest byte first.
-/

namespace Gatehouse.BigEndian

def bytes : (count : Nat) → Nat → List UInt8
  | 0, _ => []
  | count + 1, n => bytes count (n / 256) ++ [UInt8.ofNat (n % 256)]

def number (bs : List UInt8) : Nat :=
  bs.foldl (fun n b => n * 256 + b.toNat) 0

theorem length_bytes (count n : Nat) : (bytes count n).length = count := by
  induction count generalizing n with
  | zero => rfl
  | succ count ih => simp [bytes, ih]

end Gatehouse.BigEndian
