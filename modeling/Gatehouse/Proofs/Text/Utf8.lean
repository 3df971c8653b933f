import Gatehouse.Text.Utf8

/-!
# Bytes of texts

The bytes of a text are the bytes of its characters one after the other, and an ASCII character is
its own byte.
-/

namespace Gatehouse.Utf8

def byte (c : Char) : UInt8 := UInt8.ofNat c.toNat

theorem encode_ofList (cs : List Char) :
    encode (String.ofList cs) = cs.flatMap String.utf8EncodeChar := by
  simp [encode, List.utf8Encode]

theorem encode_append (s t : String) : encode (s ++ t) = encode s ++ encode t := by
  simp [encode]

theorem encodeChar_of_ascii {c : Char} (h : c.toNat < 128) : String.utf8EncodeChar c = [byte c] := by
  have hc : c.val.toNat ≤ 0x7F := Nat.le_of_lt_succ h
  unfold String.utf8EncodeChar
  simp only [hc, if_true]
  rfl

theorem encode_ascii (cs : List Char) (h : ∀ c ∈ cs, c.toNat < 128) :
    encode (String.ofList cs) = cs.map byte := by
  rw [encode_ofList]
  induction cs with
  | nil => rfl
  | cons c cs ih =>
    rw [List.flatMap_cons, encodeChar_of_ascii (h c (by simp)), ih fun d hd => h d (by simp [hd])]
    rfl

/-! ## Lengths -/

theorem encodeChar_of_not_ascii {c : Char} (h : ¬ c.toNat < 128) {b : UInt8}
    (hb : b ∈ String.utf8EncodeChar c) : ¬ b.toNat < 128 := by
  have hlarge : ∀ n, n % 256 = n → 128 ≤ n → ¬ (UInt8.ofNat n).toNat < 128 := by
    intro n hn hlow
    rw [UInt8.toNat_ofNat', hn]
    omega
  have h1 : ¬ c.val.toNat ≤ 0x7f := fun h1 => h (Nat.lt_succ_of_le h1)
  unfold String.utf8EncodeChar at hb
  simp only [h1, if_false] at hb
  split at hb
  · simp only [List.mem_cons, List.not_mem_nil, or_false] at hb
    rcases hb with rfl | rfl <;> exact hlarge _ (by omega) (by omega)
  · split at hb
    · simp only [List.mem_cons, List.not_mem_nil, or_false] at hb
      rcases hb with rfl | rfl | rfl <;> exact hlarge _ (by omega) (by omega)
    · simp only [List.mem_cons, List.not_mem_nil, or_false] at hb
      rcases hb with rfl | rfl | rfl | rfl <;> exact hlarge _ (by omega) (by omega)

/-- An ASCII byte of a text is one of its characters. -/
theorem exists_of_mem_encode {s : String} {b : UInt8} (hb : b.toNat < 128) (h : b ∈ encode s) :
    ∃ c ∈ s.toList, c.toNat = b.toNat := by
  rw [← String.ofList_toList (s := s), encode_ofList, List.mem_flatMap] at h
  obtain ⟨c, hc, hbyte⟩ := h
  by_cases hascii : c.toNat < 128
  · rw [encodeChar_of_ascii hascii, List.mem_singleton] at hbyte
    refine ⟨c, hc, ?_⟩
    rw [hbyte, byte, UInt8.toNat_ofNat']
    omega
  · exact absurd hb (encodeChar_of_not_ascii hascii hbyte)

/-- No more bytes of a text are ASCII than it has characters. -/
theorem ascii_encode (s : String) : (encode s).countP (·.toNat < 128) ≤ s.length := by
  rw [← String.ofList_toList (s := s), encode_ofList, String.length_ofList]
  induction s.toList with
  | nil => exact Nat.le_refl 0
  | cons c cs ih =>
    rw [List.flatMap_cons, List.countP_append, List.length_cons]
    by_cases hc : c.toNat < 128
    · have : [byte c].countP (·.toNat < 128) ≤ 1 := List.countP_le_length
      rw [encodeChar_of_ascii hc]
      omega
    · have : (String.utf8EncodeChar c).countP (·.toNat < 128) = 0 := by
        simpa using fun b hb => encodeChar_of_not_ascii hc hb
      omega

theorem length_le_encode (s : String) : s.length ≤ (encode s).length := by
  rw [← String.ofList_toList (s := s), encode_ofList, String.length_ofList]
  induction s.toList with
  | nil => exact Nat.le_refl 0
  | cons c cs ih =>
    have hc := List.length_pos_iff.mpr (String.utf8EncodeChar_ne_nil (c := c))
    rw [List.flatMap_cons, List.length_append, List.length_cons]
    omega

end Gatehouse.Utf8
