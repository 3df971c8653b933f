import Gatehouse.Password
import Gatehouse.Proofs.Codec.Base64
import Mathlib.Data.Nat.Digits.Defs

/-!
# Hashes open to their passwords

A hash text says with which variant, cost and salt it was computed. So the password it was computed from
opens it, and so does every password with the same first bytes.
-/

namespace Gatehouse

namespace Password

/-! ## Digits of hash texts -/

theorem digit?_digit : ∀ v < 64, digit? (digit v) = some v := by decide

theorem mapM_digit? : ∀ {vs : List Nat}, (∀ v ∈ vs, v < 64) → (vs.map digit).mapM digit? = some vs
  | [], _ => rfl
  | v :: vs, h => by
    rw [List.forall_mem_cons] at h
    rw [List.map_cons, List.mapM_cons, digit?_digit v h.1, mapM_digit? h.2]
    rfl

/-- Bytes come back from their digits. -/
theorem ofDigits_encode (bytes : List UInt8) : ((encode bytes).mapM digit?).map Base64.ofDigits = some bytes := by
  rw [encode, Base64.encode_eq_map, mapM_digit? (Base64.digitsOf_lt bytes), Option.map_some,
    Base64.ofDigits_digitsOf]

/-! ## Recipes -/

structure Recipe.IsShown (r : Recipe) : Prop where
  variant : isVariant r.variant = true
  cheap : 4 ≤ r.cost
  dear : r.cost < 32
  salt : r.salt.length = 16

theorem length_digest (key : Blowfish.KeyWords) (salt : List UInt8) (cost : Nat) :
    (Bcrypt.digest key salt cost).length = 23 := by
  simp [Bcrypt.digest, Bcrypt.magic, BigEndian.length_bytes]

theorem cost_digits : ∀ cost < 32, isDigit (Char.ofNat (48 + cost / 10)) = true ∧
    isDigit (Char.ofNat (48 + cost % 10)) = true ∧
    ((Char.ofNat (48 + cost / 10)).toNat - 48) * 10 + ((Char.ofNat (48 + cost % 10)).toNat - 48) = cost := by
  decide

theorem recipe?_cook {r : Recipe} (h : r.IsShown) (password : String) :
    recipe? (cook r password) = some r := by
  obtain ⟨htens, hones, hcost⟩ := cost_digits r.cost h.dear
  have hsalt : (encode r.salt).length = 22 := by
    rw [encode, Base64.length_encode, h.salt]
  have hbody : (encode r.salt ++
      encode (Bcrypt.digest (Bcrypt.keyWords (keyBytes password)) r.salt r.cost)).length = 53 := by
    rw [List.length_append, hsalt, encode, Base64.length_encode, length_digest]
  obtain ⟨digits, hdigits, hbytes⟩ := Option.map_eq_some_iff.mp (ofDigits_encode r.salt)
  have hrange : ¬ (r.cost < 4 ∨ 31 < r.cost) := by
    have hcheap := h.cheap
    have hdear := h.dear
    omega
  simp only [cook, recipe?, List.cons_append, List.nil_append, h.variant, htens, hones, hcost, hbody]
  rw [List.take_left' hsalt, hdigits, Option.map_some, hbytes]
  simp [hrange]

/-! ## Checking -/

theorem isShown_hash {salt : List UInt8} (h : salt.length = 16) : (⟨'b', cost, salt⟩ : Recipe).IsShown :=
  ⟨rfl, (by decide : 4 ≤ cost), (by decide : cost < 32), h⟩

/-- Nothing of a password enters its hash but the bytes of the key. -/
theorem verify_hash {salt : List UInt8} (h : salt.length = 16) {p q : String}
    (hsame : keyBytes q = keyBytes p) : verify q (hash salt p) = true := by
  rw [verify, hash, String.toList_ofList, recipe?_cook (isShown_hash h)]
  simp [cook, hsame]

theorem length_countedSalt (n : Nat) : (countedSalt n).length = 16 := by
  have hlt : n % 1000000000000000000000 < 10 ^ 21 := Nat.mod_lt n (by decide)
  have hdigits : (toString (n % 1000000000000000000000)).toList.length ≤ 21 := by
    rw [Nat.toString_eq_repr, Nat.repr, String.toList_ofList]
    exact Nat.toDigits_length 10 _ 21 (by decide) hlt
  rw [countedSalt, Base64.length_ofDigits]
  simp only [List.length_map, List.length_append, List.length_replicate, List.length_cons, List.length_nil]
  omega

end Password

end Gatehouse
