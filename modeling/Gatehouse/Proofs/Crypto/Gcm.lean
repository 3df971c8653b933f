import Gatehouse.Crypto.Gcm

/-!
# Sealing and opening are inverse

The key stream is laid over a text of any length, and laying it over the text once more takes it away.
So what opens is exactly the seal of what it opens to.
-/

namespace Gatehouse.Gcm

variable (cipher : BitVec 128 → BitVec 128) (nonce : List UInt8)

/-! ## Counter mode -/

theorem length_toBytes (x : BitVec 128) : (Aes.toBytes x).length = 16 :=
  BigEndian.length_bytes 16 x.toNat

theorem length_keyStream (n : Nat) : (keyStream cipher nonce n).length = (n + 15) / 16 * 16 := by
  simp [keyStream, List.length_flatMap, length_toBytes, List.map_const']

theorem length_crypt (bytes : List UInt8) : (crypt cipher nonce bytes).length = bytes.length := by
  have h := length_keyStream cipher nonce bytes.length
  simp only [crypt, Aes.xor, List.length_zipWith, h]
  omega

theorem xor_xor : ∀ {xs ys : List UInt8}, xs.length ≤ ys.length → Aes.xor (Aes.xor xs ys) ys = xs
  | [], _, _ => rfl
  | _ :: _, [], h => by simp at h
  | x :: xs, y :: ys, h => by
    have ih : Aes.xor (Aes.xor xs ys) ys = xs := xor_xor (Nat.le_of_succ_le_succ h)
    simp only [Aes.xor, List.zipWith_cons_cons] at ih ⊢
    rw [ih, UInt8.xor_assoc, UInt8.xor_self, UInt8.xor_zero]

theorem crypt_crypt (bytes : List UInt8) : crypt cipher nonce (crypt cipher nonce bytes) = bytes := by
  have hroom : bytes.length ≤ (keyStream cipher nonce bytes.length).length := by
    rw [length_keyStream]
    omega
  have hlen := length_crypt cipher nonce bytes
  rw [crypt, hlen]
  exact xor_xor hroom

/-! ## Tags -/

theorem length_tag (ciphertext : List UInt8) : (tag cipher nonce ciphertext).length = 16 :=
  length_toBytes _

theorem length_sealBytes (plaintext : List UInt8) :
    (sealBytes cipher nonce plaintext).length = plaintext.length + 16 := by
  simp [sealBytes, length_crypt, length_tag]

/-! ## Opening -/

theorem openBytes_sealBytes (plaintext : List UInt8) :
    openBytes cipher nonce (sealBytes cipher nonce plaintext) = some plaintext := by
  have hsize : (sealBytes cipher nonce plaintext).length - 16 = (crypt cipher nonce plaintext).length := by
    rw [length_sealBytes, length_crypt]
    omega
  have hlong : 16 ≤ (sealBytes cipher nonce plaintext).length := by
    rw [length_sealBytes]
    omega
  simp only [openBytes, hsize, hlong, true_and]
  simp [sealBytes, crypt_crypt]

variable {cipher nonce}

theorem eq_sealBytes_of_openBytes {sealed plaintext : List UInt8}
    (h : openBytes cipher nonce sealed = some plaintext) : sealed = sealBytes cipher nonce plaintext := by
  simp only [openBytes] at h
  split at h
  · rename_i hopen
    cases h
    -- the text under the tag is the plaintext laid under the key stream twice
    rw [sealBytes, crypt_crypt, ← hopen.2, List.take_append_drop]
  · cases h

theorem openBytes_eq_some_iff {sealed plaintext : List UInt8} :
    openBytes cipher nonce sealed = some plaintext ↔ sealed = sealBytes cipher nonce plaintext :=
  ⟨eq_sealBytes_of_openBytes, fun h => h ▸ openBytes_sealBytes cipher nonce plaintext⟩

end Gatehouse.Gcm
