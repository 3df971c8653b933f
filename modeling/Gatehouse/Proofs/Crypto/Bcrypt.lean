import Gatehouse.Crypto.Bcrypt
import Mathlib.Algebra.Group.Nat.Defs

/-!
# Keys of the password digest

A key counts only through 72 bytes of its endless repetition. Two keys that end with a zero byte are the same
in these bytes if they are the same, or if the longer one goes on behind the zero of the shorter one.
-/

namespace Gatehouse

/-! ## Numbers of rows of bytes -/

namespace BigEndian

/-- The bytes and what came before them can be read off a number. -/
theorem foldl_injective {xs ys : List UInt8} (hlength : xs.length = ys.length) {n m : Nat}
    (h : xs.foldl (fun n b => n * 256 + b.toNat) n = ys.foldl (fun n b => n * 256 + b.toNat) m) :
    n = m ∧ xs = ys := by
  induction xs generalizing ys n m with
  | nil =>
    obtain rfl := List.eq_nil_of_length_eq_zero hlength.symm
    exact ⟨h, rfl⟩
  | cons x xs ih =>
    cases ys with
    | nil => cases hlength
    | cons y ys =>
      obtain ⟨hsum, rfl⟩ := ih (Nat.succ.inj hlength) h
      have hsum : n * 256 + x.toNat = m * 256 + y.toNat := hsum
      have hx := x.toNat_lt
      have hy := y.toNat_lt
      have hbyte : x.toNat = y.toNat := by omega
      exact ⟨by omega, by rw [UInt8.toNat_inj.mp hbyte]⟩

theorem number_injective {xs ys : List UInt8} (hlength : xs.length = ys.length) (h : number xs = number ys) :
    xs = ys :=
  (foldl_injective hlength h).2

theorem foldl_lt (xs : List UInt8) (n : Nat) :
    xs.foldl (fun n b => n * 256 + b.toNat) n < (n + 1) * 256 ^ xs.length := by
  induction xs generalizing n with
  | nil => simp
  | cons x xs ih =>
    have hx := x.toNat_lt
    have hstart : n * 256 + x.toNat + 1 ≤ (n + 1) * 256 := by omega
    calc xs.foldl (fun n b => n * 256 + b.toNat) (n * 256 + x.toNat)
        < (n * 256 + x.toNat + 1) * 256 ^ xs.length := ih _
      _ ≤ (n + 1) * 256 * 256 ^ xs.length := Nat.mul_le_mul_right _ hstart
      _ = (n + 1) * 256 ^ (x :: xs).length := by
        rw [List.length_cons, Nat.pow_succ', Nat.mul_assoc]

theorem number_lt (xs : List UInt8) : number xs < 256 ^ xs.length := by
  have h := foldl_lt xs 0
  rwa [Nat.zero_add, Nat.one_mul] at h

end BigEndian

namespace Bcrypt

/-! ## Schedule words -/

def wordBytes (key : List UInt8) (i : Nat) : List UInt8 := (List.range' (4 * i) 4).map (cyclicByte key)

theorem getElem_keyWords (key : List UInt8) {i : Nat} (hi : i < 18) :
    (keyWords key)[i] = UInt32.ofNat (BigEndian.number (wordBytes key i)) :=
  Vector.getElem_ofFn hi

theorem toNat_keyWords (key : List UInt8) {i : Nat} (hi : i < 18) :
    (keyWords key)[i].toNat = BigEndian.number (wordBytes key i) := by
  have hlt := BigEndian.number_lt (wordBytes key i)
  rw [wordBytes, List.length_map, List.length_range'] at hlt
  rw [getElem_keyWords key hi]
  exact UInt32.toNat_ofNat_of_lt' hlt

/-- A key enters through the first 72 bytes of its repetition, and each of them counts. -/
theorem keyWords_eq_iff {key other : List UInt8} :
    keyWords key = keyWords other ↔ ∀ i < 72, cyclicByte key i = cyclicByte other i := by
  constructor
  · intro h i hi
    have hword : i / 4 < 18 := by omega
    have hnumber : BigEndian.number (wordBytes key (i / 4)) = BigEndian.number (wordBytes other (i / 4)) := by
      rw [← toNat_keyWords key hword, ← toNat_keyWords other hword, h]
    have hbytes := BigEndian.number_injective (by simp [wordBytes]) hnumber
    exact List.map_inj_left.mp hbytes i (List.mem_range'_1.mpr (by omega))
  · intro h
    apply Vector.ext
    intro i hi
    have hbytes : wordBytes key i = wordBytes other i := by
      apply List.map_inj_left.mpr
      intro j hj
      have hrange := List.mem_range'_1.mp hj
      exact h j (by omega)
    rw [getElem_keyWords key hi, getElem_keyWords other hi, hbytes]

/-! ## Keys that end with a zero -/

variable {a b : List UInt8}

theorem cyclicByte_of_lt {i : Nat} (hi : i < a.length) : cyclicByte (a ++ [0]) i = a[i] := by
  have hlength : (a ++ [0]).length = a.length + 1 := by simp
  rw [cyclicByte, Nat.mod_eq_of_lt (by omega), List.getD_eq_getElem?_getD, List.getElem?_append_left hi,
    List.getElem?_eq_getElem hi, Option.getD_some]

theorem cyclicByte_end : cyclicByte (a ++ [0]) a.length = 0 := by
  have hlength : (a ++ [0]).length = a.length + 1 := by simp
  rw [cyclicByte, Nat.mod_eq_of_lt (by omega)]
  simp

/-- Two keys of the same length are alike only if they are the same. -/
theorem eq_of_alike (ha : a.length ≤ 72) (hlength : a.length = b.length)
    (h : ∀ i < 72, cyclicByte (a ++ [0]) i = cyclicByte (b ++ [0]) i) : a = b := by
  apply List.ext_getElem hlength
  intro i hi hi'
  have hbyte := h i (by omega)
  rwa [cyclicByte_of_lt hi, cyclicByte_of_lt hi'] at hbyte

/-- Where the shorter one of two keys that are alike ends, the longer one has a zero too. -/
theorem prefix_of_alike (hb : b.length ≤ 72) (hlength : a.length < b.length)
    (h : ∀ i < 72, cyclicByte (a ++ [0]) i = cyclicByte (b ++ [0]) i) : a ++ [0] <+: b := by
  rw [List.prefix_iff_getElem]
  refine ⟨by simpa using Nat.succ_le_of_lt hlength, fun i hi => ?_⟩
  have hroom : i < a.length + 1 := by simpa using hi
  have hbyte := h i (by omega)
  rw [cyclicByte_of_lt (show i < b.length by omega)] at hbyte
  rw [← hbyte]
  rcases Nat.lt_succ_iff_lt_or_eq.mp hroom with hinside | rfl
  · rw [cyclicByte_of_lt hinside, List.getElem_append_left hinside]
  · rw [cyclicByte_end]
    simp

end Bcrypt

end Gatehouse
