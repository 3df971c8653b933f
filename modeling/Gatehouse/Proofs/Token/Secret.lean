import Gatehouse.Proofs.Json.Size
import Gatehouse.Proofs.Token.Authenticity

/-!
# The key of a secret

Signing takes the bytes of the secret, and checking takes the keys that are found in it. The two agree
for the secrets that are read as nothing but themselves, and for no others: every key that is found
inside of an array, an object or a quoted text is too short to be the whole secret.
-/

namespace Gatehouse.Token

open Json (Fits)

/-! ## Secrets that are their own keys -/

/-- A secret that is no JSON text, or is read as the very text it is written in, as plain numbers are. -/
def IsOwnKey (secret : String) : Prop := ∀ v, Json.read secretDialect secret = .ok v → v = .text secret

instance (secret : String) : Decidable (IsOwnKey secret) :=
  match h : Json.read secretDialect secret with
  | .error _ => isTrue fun v hv => by rw [h] at hv; cases hv
  | .ok v =>
    match v with
    | .text s =>
      if hs : s = secret then isTrue fun v hv => by rw [h, hs] at hv; cases hv; rfl
      else isFalse fun hown => hs (by cases hown _ h; rfl)
    | .null | .bool _ | .integer _ | .real _ | .torn _ | .array _ | .object _ | .tornObject _ =>
      isFalse fun hown => by cases hown _ h

def HasOwnKey (secret : String) : Prop :=
  ∃ key, keyValues secret = .ok [key] ∧ keyBytes key = .ok (Utf8.encode secret)

section
variable {secret : String}

theorem keyValues_own (h : IsOwnKey secret) : keyValues secret = .ok [.text secret] := by
  have hv : secretValue secret = .text secret := by
    unfold secretValue
    split
    · rename_i v hv
      exact h v hv
    · rfl
  rw [keyValues, hv]
  rfl

theorem keyBytes_text (h : isForeignKey secret = false) :
    keyBytes (.text secret) = .ok (Utf8.encode secret) := by
  simp [keyBytes, h]

end

/-! ## Keys inside of a secret -/

section
variable {n : Nat} {v key : Json}

def IsInside (n : Nat) (key : Json) : Prop := ∃ m < n, Fits m key

theorem field?_inside (h : Fits n v) {name : String} (hf : v.field? name = some key) : IsInside n key := by
  obtain ⟨fields, hfields, hfind⟩ := Option.bind_eq_some_iff.mp hf
  obtain ⟨f, hfound, rfl⟩ := Option.map_eq_some_iff.mp hfind
  have hmem := List.mem_of_find?_eq_some hfound
  cases h with
  | @object m _ _ hvalues =>
    cases hfields
    exact ⟨m, Nat.lt_succ_self m, hvalues f hmem⟩
  | @tornObject m _ _ hvalues =>
    cases hfields
    obtain ⟨g, hg, hname⟩ := List.mem_filterMap.mp hmem
    obtain ⟨_, -, rfl⟩ := Option.map_eq_some_iff.mp hname
    exact ⟨m, Nat.lt_succ_self m, hvalues g hg⟩
  | _ => cases hfields

theorem items_inside {items : List Json} (h : Fits n (.array items)) (hk : key ∈ items) : IsInside n key := by
  cases h with
  | @array m _ hitems => exact ⟨m, Nat.lt_succ_self m, hitems key hk⟩

theorem valuesOf_inside (h : Fits n v) (hk : key ∈ valuesOf v) : IsInside n key := by
  cases h with
  | @object m _ _ hvalues =>
    obtain ⟨f, hf, rfl⟩ := List.mem_map.mp hk
    exact ⟨m, Nat.lt_succ_self m, hvalues f hf⟩
  | @tornObject m _ _ hvalues =>
    obtain ⟨f, hf, rfl⟩ := List.mem_map.mp hk
    exact ⟨m, Nat.lt_succ_self m, hvalues f hf⟩
  | _ => cases hk

theorem setItems_fits (h : Fits n v) {keys : List Json} (hs : setItems v = .ok keys) (hk : key ∈ keys) :
    Fits n key := by
  cases h with
  | @array m _ hitems =>
    cases hs
    exact (hitems key hk).mono (Nat.le_succ m)
  | @text _ s hlength =>
    cases hs
    obtain ⟨c, hc, rfl⟩ := List.mem_map.mp hk
    have hpos := List.length_pos_of_mem hc
    rw [String.length_toList] at hpos
    have hone : c.toString.length = 1 := by simp
    exact .text (by omega)
  | @torn _ codes hlength =>
    cases hs
    obtain ⟨c, hc, rfl⟩ := List.mem_map.mp hk
    have hpos := List.length_pos_of_mem hc
    refine Json.fits_ofRaw ?_
    rw [RawText.length_ofCodes]
    exact Nat.le_trans hpos hlength
  | @object m _ hnames _ =>
    cases hs
    obtain ⟨f, hf, rfl⟩ := List.mem_map.mp hk
    exact .text (Nat.le_succ_of_le (hnames f hf))
  | @tornObject m _ hnames _ =>
    cases hs
    obtain ⟨f, hf, rfl⟩ := List.mem_map.mp hk
    exact Json.fits_ofRaw (Nat.le_succ_of_le (hnames f hf))
  | _ => cases hs

/-- Every key is what the secret is read as, or stands inside of it. -/
theorem keyValues_inside {secret : String} (hread : Json.read secretDialect secret = .ok v)
    {keys : List Json} (h : keyValues secret = .ok keys) (hk : key ∈ keys) :
    key = v ∨ IsInside secret.length key := by
  have hfits := Json.read_fits hread
  have hv : secretValue secret = v := by rw [secretValue, hread]
  rw [keyValues, hv] at h
  split at h
  · cases h
    exact .inr (items_inside hfits hk)
  · split at h
    · rename_i set hset
      obtain ⟨m, hm, hsize⟩ := field?_inside hfits hset
      exact .inr ⟨m, hm, setItems_fits hsize h hk⟩
    · split at h
      · cases h
        exact .inl (List.mem_singleton.mp hk)
      · cases h
        exact .inr (valuesOf_inside hfits hk)

/-- A key with all the bytes of the secret is the secret itself. -/
theorem eq_of_keyBytes {secret : String} (hfits : Fits n key) (hn : n ≤ secret.length)
    (h : keyBytes key = .ok (Utf8.encode secret)) : key = .text secret := by
  unfold keyBytes at h
  split at h
  · rename_i s
    split at h
    · cases h
    · have hsame := congrArg Utf8.decode (Except.ok.inj h)
      rw [Utf8.decode_encode, Utf8.decode_encode] at hsame
      cases hsame
      rfl
  · cases h
  · split at h
    · rename_i k _ hk
      split at h
      · rename_i bytes hbytes
        cases h
        -- the bytes that a field of the key is decoded to are fewer than its characters
        obtain ⟨m, hm, hsize⟩ := field?_inside hfits hk
        cases hsize with
        | text hlength =>
          have hshort := Base64.length_decodeBare hbytes
          have hlong := Utf8.length_le_encode secret
          omega
      · cases h
    all_goals cases h

theorem hasOwnKey_iff {secret : String} (husable : isForeignKey secret = false) :
    HasOwnKey secret ↔ IsOwnKey secret := by
  constructor
  · rintro ⟨key, hkeys, hbytes⟩ v hread
    have hfits := Json.read_fits hread
    rcases keyValues_inside hread hkeys List.mem_cons_self with rfl | ⟨m, hm, hsize⟩
    · exact eq_of_keyBytes hfits (Nat.le_refl _) hbytes
    · have hkey := eq_of_keyBytes hsize (Nat.le_of_lt hm) hbytes
      rw [hkey] at hsize
      cases hsize with
      | text hlength => exact absurd hm (Nat.not_lt.mpr hlength)
  · intro hown
    exact ⟨_, keyValues_own hown, keyBytes_text husable⟩

end

/-! ## Faults of keys -/

def Fault.isKey : Fault → Bool
  | keyRefused | keySetShape | keyField | keyText | keyEncoding => true
  | _ => false

def SparesKeys {α : Type} (r : Except Fault α) : Prop := ∀ fault, r = .error fault → fault.isKey = false

theorem Fault.isKey_of_isOfPayload {fault : Fault} (h : fault.isOfPayload = true) : fault.isKey = false := by
  cases fault <;> first | rfl | cases h

theorem blames_setItems (v : Json) : Blames Fault.isKey (setItems v) := by
  unfold setItems
  split
  all_goals first | exact blames_ok _ | exact blames_error rfl

theorem blames_keyValues (secret : String) : Blames Fault.isKey (keyValues secret) := by
  unfold keyValues
  dsimp only
  split
  · exact blames_ok _
  · split
    · exact blames_setItems _
    · split
      · exact blames_ok _
      · exact blames_ok _

theorem blames_keyBytes (key : Json) : Blames Fault.isKey (keyBytes key) := by
  unfold keyBytes
  split
  · split
    · exact blames_error rfl
    · exact blames_ok _
  · exact blames_error rfl
  · split
    · split
      · exact blames_ok _
      · exact blames_error rfl
    all_goals exact blames_error rfl

theorem blames_matchesKey (algorithm : Algorithm) (signed signature : List UInt8) :
    ∀ keys, Blames Fault.isKey (matchesKey algorithm signed signature keys)
  | [] => blames_ok false
  | key :: rest => by
    refine (blames_keyBytes key).bind fun bytes => ?_
    split
    · exact blames_ok true
    · exact blames_matchesKey algorithm signed signature rest

theorem sparesKeys_examine (codec : Codec) (now : Instant) (payload : List UInt8) :
    SparesKeys (examine codec now payload) :=
  fun fault h => Fault.isKey_of_isOfPayload (blames_examine codec now payload fault h)

/-! ## Verification with one key -/

def Codec.verifyWith (codec : Codec) (key : List UInt8) (now : Instant) (token : String) :
    Except Fault Json :=
  match segments? token with
  | none => .error .malformed
  | some s =>
    if namesAlgorithm codec s ∧ Hmac.mac codec.algorithm.variant key s.signed = s.signature then
      examine codec now s.payload
    else .error .invalid

section
variable {codec : Codec} {now : Instant} {token : String}

theorem verify_eq_verifyWith (hown : IsOwnKey codec.secret) (husable : isForeignKey codec.secret = false) :
    codec.verify now token = codec.verifyWith (Utf8.encode codec.secret) now token := by
  rw [verify_eq, Codec.verifyWith]
  cases segments? token with
  | none => rfl
  | some s =>
    simp only [keyValues_own hown]
    cases halg : namesAlgorithm codec s with
    | false => rfl
    | true =>
      by_cases hmac : Hmac.mac codec.algorithm.variant (Utf8.encode codec.secret) s.signed = s.signature
      · simp [hmac, matchesKey_own husable, Except.bind, require]
      · simp [hmac, matchesKey_own husable, Except.bind, require]

theorem sparesKeys_verifyWith (key : List UInt8) : SparesKeys (codec.verifyWith key now token) := by
  unfold Codec.verifyWith
  split
  · intro fault h
    cases h
    rfl
  · split
    · exact sparesKeys_examine _ _ _
    · intro fault h
      cases h
      rfl

/-- Whatever is said about the claims of a token is said only if it was signed. -/
theorem signed_of_verifyWith (husable : isForeignKey codec.secret = false)
    (h : codec.verifyWith (Utf8.encode codec.secret) now token ≠ .error .malformed)
    (h' : codec.verifyWith (Utf8.encode codec.secret) now token ≠ .error .invalid) :
    ∃ p, IsSigned codec token p := by
  unfold Codec.verifyWith at h h'
  cases hs : segments? token with
  | none =>
    rw [hs] at h
    exact absurd rfl h
  | some s =>
    simp only [hs] at h'
    split at h'
    · rename_i hsigned
      have hauth : Authentic codec token s :=
        ⟨⟨hs, namesAlgorithm_iff.mp hsigned.1⟩, husable, hsigned.2⟩
      obtain ⟨p, hp, -⟩ := hauth.isSigned
      exact ⟨p, hp⟩
    · exact absurd rfl h'

/-- **One key for signing and checking.** A secret that signs is its own only key exactly if it is read
as nothing but itself. Then no token upsets a key, and those that are not just called malformed or
invalid were signed with the bytes of the secret. -/
theorem verify_with_own_key {issued : Instant} {user own : String} {ttl : Option Duration.Span}
    (hissue : codec.issue issued user ttl = .ok own) :
    (HasOwnKey codec.secret ↔ IsOwnKey codec.secret) ∧
      (IsOwnKey codec.secret → ∀ now token,
        codec.verify now token = codec.verifyWith (Utf8.encode codec.secret) now token ∧
        SparesKeys (codec.verify now token) ∧
        (codec.verify now token ≠ .error .malformed → codec.verify now token ≠ .error .invalid →
          ∃ p, IsSigned codec token p)) := by
  obtain ⟨-, husable, -⟩ := issue_eq_ok hissue
  refine ⟨hasOwnKey_iff husable, ?_⟩
  intro hown now token
  rw [verify_eq_verifyWith hown husable]
  exact ⟨rfl, sparesKeys_verifyWith _, signed_of_verifyWith husable⟩

/-- A secret of digits is read as JSON and still is its own key. -/
theorem verify_with_own_key_digits :
    let codec : Codec := ⟨"12345", 60 * Duration.second, "iam_service", .hs256⟩
    ∃ token, codec.issue 0 "ann" none = .ok token ∧ ¬ IsRaw codec.secret ∧ HasOwnKey codec.secret ∧
      codec.verify 0 token = codec.verifyWith (Utf8.encode codec.secret) 0 token := by
  intro codec
  have hissue : codec.issue 0 "ann" none = .ok _ := issue_sealed "ann" (by decide) (by decide +kernel)
  have hown : IsOwnKey codec.secret := by decide +kernel
  obtain ⟨hiff, hverify⟩ := verify_with_own_key hissue
  exact ⟨_, hissue, by decide +kernel, hiff.mpr hown, (hverify hown 0 _).1⟩

/-- Under a secret in quotes the tokens are let in that were signed with the text between them. -/
theorem quoted_secret_lets_in_stranger :
    let codec : Codec := ⟨"\"other\"", 60 * Duration.second, "iam_service", .hs256⟩
    let stranger : Codec := { codec with secret := "other" }
    (∃ own, codec.issue 0 "ann" none = .ok own) ∧
      Utf8.encode stranger.secret ≠ Utf8.encode codec.secret ∧
      ∃ token, stranger.issue 0 "ann" none = .ok token ∧ codec.verify 0 token = .ok (.text "ann") := by
  intro codec stranger
  have hraw : IsRaw stranger.secret := by decide +kernel
  have hissue : stranger.issue 0 "ann" none = .ok _ :=
    issue_sealed "ann" (by decide) (by decide +kernel)
  have hread : Json.read secretDialect "\"other\"" = .ok (.text "other") := by rfl
  have hkeys : keyValues codec.secret = keyValues stranger.secret := by
    rw [keyValues_raw hraw, keyValues, secretValue, show Json.read secretDialect codec.secret = _ from hread]
    rfl
  refine ⟨⟨_, issue_sealed "ann" (by decide) (by decide +kernel)⟩, by decide +kernel, _, hissue, ?_⟩
  have hsame : ∀ token, codec.verify 0 token = stranger.verify 0 token := by
    intro token
    rw [verify_eq, verify_eq, hkeys]
    rfl
  rw [hsame]
  exact verify_issued hraw (by decide) hissue (by decide) (by decide) (by decide)

end

end Gatehouse.Token
