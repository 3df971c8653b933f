import Gatehouse.Envelope
import Gatehouse.Proofs.Codec.Base64
import Gatehouse.Proofs.Crypto.Gcm
import Mathlib.Data.List.Induction

/-!
# Envelopes are exact

Under a key of 32 bytes every token comes back from its envelope, and a text opens to a token only if
its bytes are a nonce and the seal of that token under the nonce. Any other key is refused first.
-/

namespace Gatehouse

/-! ## Counted nonces -/

/-- The last bytes of a number do not tell what came before them. -/
theorem BigEndian.bytes_foldl (xs : List UInt8) (n : Nat) :
    bytes xs.length (xs.foldl (fun n b => n * 256 + b.toNat) n) = xs := by
  induction xs using List.reverseRecOn with
  | nil => rfl
  | append_singleton xs x ih =>
    have hx := x.toNat_lt
    simp only [List.length_append, List.length_singleton, List.foldl_append, List.foldl_cons, List.foldl_nil, bytes]
    rw [show ∀ m, (m * 256 + x.toNat) / 256 = m by omega, show ∀ m, (m * 256 + x.toNat) % 256 = x.toNat by omega,
      ih, UInt8.ofNat_toNat]

theorem BigEndian.le_foldl (xs : List UInt8) (n : Nat) : n ≤ xs.foldl (fun n b => n * 256 + b.toNat) n := by
  induction xs generalizing n with
  | nil => exact Nat.le_refl n
  | cons x xs ih =>
    have h := ih (n * 256 + x.toNat)
    rw [List.foldl_cons]
    omega

namespace Envelope

/-- Every nonce comes up in the count. -/
theorem exists_countedNonce {nonce : List UInt8} (h : nonce.length = nonceSize) :
    ∃ n, countedNonce (n + 1) = nonce := by
  have hpos := BigEndian.le_foldl nonce 1
  have hbytes := BigEndian.bytes_foldl nonce 1
  refine ⟨nonce.foldl (fun n b => n * 256 + b.toNat) 1 - 1, ?_⟩
  rw [Nat.sub_add_cancel hpos, countedNonce, ← h, hbytes]

def cipherOf (key : Key) : BitVec 128 → BitVec 128 := Aes.encipher (Aes.roundKeys key.raw)

/-! ## Keys -/

section
variable {key : Key}

theorem checkKey_usable (h : key.raw.length = keySize) : checkKey key = .ok key.raw := by
  rw [checkKey, if_pos h]

theorem unwrap_unusable (h : key.raw.length ≠ keySize) (sealed : String) :
    unwrap key sealed = .error (.keyLength key.raw.length) := by
  rw [unwrap, checkKey, if_neg h]
  rfl

/-! ## Sealed bytes -/

theorem decode?_encodePadded (bytes : List UInt8) : decode? (Base64.encodePadded bytes) = some bytes := by
  have hascii : (Base64.encodePadded bytes).toList.all (·.toNat < 128) = true := by
    rw [Base64.encodePadded, String.toList_ofList, List.all_eq_true]
    intro c hc
    simpa using Base64.ascii_of_mem_encode hc
  rw [decode?, hascii]
  exact Base64.decode_encodePadded bytes

theorem wrap_usable (h : key.raw.length = keySize) (nonce : List UInt8) (token : String) :
    wrap key nonce token =
      .ok (Base64.encodePadded (nonce ++ Gcm.sealBytes (cipherOf key) nonce (Utf8.encode token))) := by
  rw [wrap, checkKey_usable h]
  rfl

theorem wrap_eq_ok {nonce : List UInt8} {token sealed : String}
    (h : wrap key nonce token = .ok sealed) :
    sealed = Base64.encodePadded (nonce ++ Gcm.sealBytes (cipherOf key) nonce (Utf8.encode token)) := by
  by_cases hkey : key.raw.length = keySize
  · rw [wrap_usable hkey] at h
    exact (Except.ok.inj h).symm
  · rw [wrap, checkKey, if_neg hkey] at h
    cases h

theorem wrap_ne_empty {nonce : List UInt8} {token sealed : String}
    (h : wrap key nonce token = .ok sealed) : sealed ≠ "" := by
  intro hempty
  have hdecode := Base64.decode_encodePadded
    (nonce ++ Gcm.sealBytes (cipherOf key) nonce (Utf8.encode token))
  rw [← wrap_eq_ok h, hempty] at hdecode
  have hnone : Base64.decode (Utf8.encode "") = some [] := rfl
  have hlength := congrArg List.length (Option.some.inj (hnone.symm.trans hdecode))
  rw [List.length_append, Gcm.length_sealBytes] at hlength
  simp at hlength

/-- Bytes that begin with a nonce and go on with the seal of a text under it. -/
def IsSeal (key : Key) (token : String) (bytes : List UInt8) : Prop :=
  bytes = bytes.take nonceSize ++
    Gcm.sealBytes (cipherOf key) (bytes.take nonceSize) (Utf8.encode token)

theorem isSeal_append {nonce : List UInt8} (h : nonce.length = nonceSize) (token : String) :
    IsSeal key token (nonce ++ Gcm.sealBytes (cipherOf key) nonce (Utf8.encode token)) := by
  rw [IsSeal, List.take_left' h]

theorem IsSeal.nonce {token : String} {bytes : List UInt8} (h : IsSeal key token bytes) :
    nonceSize ≤ bytes.length := by
  have hlen := congrArg List.length h
  rw [List.length_append, Gcm.length_sealBytes, List.length_take] at hlen
  omega

theorem IsSeal.opens {token : String} {bytes : List UInt8} (h : IsSeal key token bytes) :
    Gcm.openBytes (cipherOf key) (bytes.take nonceSize) (bytes.drop nonceSize) =
      some (Utf8.encode token) := by
  have hbody : bytes.drop nonceSize =
      Gcm.sealBytes (cipherOf key) (bytes.take nonceSize) (Utf8.encode token) := by
    have hlen : (bytes.take nonceSize).length = nonceSize := List.length_take_of_le h.nonce
    have hdrop := congrArg (List.drop nonceSize) h
    rwa [List.drop_left' hlen] at hdrop
  rw [hbody, Gcm.openBytes_sealBytes]

theorem isSeal_of_openBytes {token : String} {bytes plaintext : List UInt8}
    (hopen : Gcm.openBytes (cipherOf key) (bytes.take nonceSize) (bytes.drop nonceSize) = some plaintext)
    (htext : Utf8.decode plaintext = some token) : IsSeal key token bytes := by
  rw [IsSeal, Utf8.encode_of_decode htext, ← Gcm.openBytes_eq_some_iff.mp hopen,
    List.take_append_drop]

/-! ## Opening -/

theorem unwrap_seal (h : key.raw.length = keySize) {sealed token : String} {bytes : List UInt8}
    (hdecode : decode? sealed = some bytes) (hseal : IsSeal key token bytes) :
    unwrap key sealed = .ok token := by
  have hlong : ¬ bytes.length < nonceSize := Nat.not_lt.mpr hseal.nonce
  rw [unwrap, checkKey_usable h]
  simp only [bind, Except.bind, hdecode, if_neg hlong]
  have hopens := hseal.opens
  rw [cipherOf] at hopens
  simp only [hopens, Utf8.decode_encode]

theorem unwrap_wrapped {nonce : List UInt8} (hnonce : nonce.length = nonceSize) {token sealed : String}
    (h : wrap key nonce token = .ok sealed) : unwrap key sealed = .ok token := by
  by_cases hkey : key.raw.length = keySize
  · rw [wrap_eq_ok h]
    exact unwrap_seal hkey (decode?_encodePadded _) (isSeal_append hnonce token)
  · rw [wrap, checkKey, if_neg hkey] at h
    cases h

theorem seal_of_unwrap (h : key.raw.length = keySize) {sealed token : String}
    (hunwrap : unwrap key sealed = .ok token) :
    ∃ bytes, decode? sealed = some bytes ∧ IsSeal key token bytes := by
  rw [unwrap, checkKey_usable h] at hunwrap
  simp only [bind, Except.bind] at hunwrap
  -- each way of failing ends in an error, so the text has gone through all of them
  split at hunwrap
  · cases hunwrap
  rename_i bytes hdecode
  split at hunwrap
  · cases hunwrap
  split at hunwrap
  · cases hunwrap
  rename_i plaintext hopen
  split at hunwrap
  · cases hunwrap
  rename_i text htext
  cases hunwrap
  exact ⟨bytes, hdecode, isSeal_of_openBytes hopen htext⟩

/-! ## Seals that are the same -/

/-- A nonce stands in front of what was sealed under it, whatever the key. -/
theorem nonce_of_wrap {other : Key} {nonce otherNonce : List UInt8} (h : nonce.length = nonceSize)
    (hother : otherNonce.length = nonceSize) {token otherToken sealed : String}
    (hwrap : wrap key nonce token = .ok sealed) (hwrapped : wrap other otherNonce otherToken = .ok sealed) :
    nonce = otherNonce :=
  List.append_inj_left (Base64.encodePadded_injective ((wrap_eq_ok hwrap).symm.trans (wrap_eq_ok hwrapped)))
    (h.trans hother.symm)

theorem wrap_injective (hkey : key.raw.length = keySize) {nonce other : List UInt8}
    (hnonce : nonce.length = nonceSize) (hother : other.length = nonceSize) {token twin : String}
    (h : wrap key nonce token = wrap key other twin) : token = twin ∧ nonce = other := by
  have hwrap := wrap_usable hkey nonce token
  have htwin := h.symm.trans hwrap
  refine ⟨?_, nonce_of_wrap hnonce hother hwrap htwin⟩
  exact Except.ok.inj ((unwrap_wrapped hnonce hwrap).symm.trans (unwrap_wrapped hother htwin))

end

/-- **Envelopes are exact.** What was wrapped is unwrapped again; what is unwrapped is, byte for byte,
a nonce and the seal of the token; and a key of another length is reported whatever the text is. -/
theorem unwrap_exact (key : Key) :
    (key.raw.length = 32 →
      (∀ nonce token, nonce.length = 12 →
        ∃ sealed, wrap key nonce token = .ok sealed ∧ unwrap key sealed = .ok token) ∧
      ∀ sealed token, unwrap key sealed = .ok token ↔
        ∃ bytes, decode? sealed = some bytes ∧
          bytes = bytes.take 12 ++ Gcm.sealBytes (Aes.encipher (Aes.roundKeys key.raw)) (bytes.take 12)
            (Utf8.encode token)) ∧
      (key.raw.length ≠ 32 → ∀ sealed, unwrap key sealed = .error (.keyLength key.raw.length)) := by
  refine ⟨fun h => ⟨fun nonce token hnonce => ?_, fun sealed token => ⟨?_, ?_⟩⟩, unwrap_unusable⟩
  · refine ⟨_, wrap_usable h nonce token, ?_⟩
    exact unwrap_seal h (decode?_encodePadded _) (isSeal_append hnonce token)
  · exact seal_of_unwrap h
  · rintro ⟨bytes, hdecode, hseal⟩
    exact unwrap_seal h hdecode hseal

theorem unwrap_exact_text_key :
    ∃ sealed, wrap (.text "0123456789abcdef0123456789abcdef") (countedNonce 1) "a.b.c" = .ok sealed ∧
      unwrap (.text "0123456789abcdef0123456789abcdef") sealed = .ok "a.b.c" := by
  have hkey : (Key.text "0123456789abcdef0123456789abcdef").raw.length = 32 := by decide
  exact ((unwrap_exact (.text "0123456789abcdef0123456789abcdef")).1 hkey).1 (countedNonce 1) "a.b.c" rfl

end Envelope

end Gatehouse
