import Gatehouse.Proofs.Token.RoundTrip

/-!
# Only authentic tokens get through

A token that is accepted, and also one that is only told to have expired, was signed with the secret,
byte for byte up to its last dot. Where the dots stand is said on the bytes of the token, without the
steps that take it apart.
-/

namespace Gatehouse.Token

/-! ## Dots -/

theorem not_mem_of_splitLast : ∀ {bytes : List UInt8}, splitLast bytes = none → dot ∉ bytes
  | [], _ => List.not_mem_nil
  | b :: rest, h => by
    rw [splitLast] at h
    cases hrest : splitLast rest with
    | some found =>
      rw [hrest] at h
      cases h
    | none =>
      rw [hrest] at h
      simp only at h
      split at h
      · cases h
      · rename_i hb
        rw [List.mem_cons, not_or]
        exact ⟨Ne.symm hb, not_mem_of_splitLast hrest⟩

theorem splitLast_eq_some : ∀ {bytes before after : List UInt8},
    splitLast bytes = some (before, after) → bytes = before ++ dot :: after ∧ dot ∉ after
  | [], _, _, h => by cases h
  | b :: rest, before, after, h => by
    rw [splitLast] at h
    cases hrest : splitLast rest with
    | some found =>
      obtain ⟨front, back⟩ := found
      rw [hrest] at h
      cases h
      obtain ⟨rfl, hback⟩ := splitLast_eq_some hrest
      exact ⟨rfl, hback⟩
    | none =>
      rw [hrest] at h
      simp only at h
      split at h
      · rename_i hb
        cases h
        exact ⟨by rw [hb]; rfl, not_mem_of_splitLast hrest⟩
      · cases h

theorem splitFirst_eq_some : ∀ {bytes before after : List UInt8},
    splitFirst bytes = some (before, after) → bytes = before ++ dot :: after ∧ dot ∉ before
  | [], _, _, h => by cases h
  | b :: rest, before, after, h => by
    rw [splitFirst] at h
    split at h
    · rename_i hb
      cases h
      exact ⟨by rw [hb]; rfl, List.not_mem_nil⟩
    · rename_i hb
      obtain ⟨⟨front, back⟩, hrest, hpair⟩ := Option.map_eq_some_iff.mp h
      cases hpair
      obtain ⟨rfl, hfront⟩ := splitFirst_eq_some hrest
      refine ⟨rfl, ?_⟩
      rw [List.mem_cons, not_or]
      exact ⟨Ne.symm hb, hfront⟩

/-! ## Pieces -/

/-- The bytes before the first dot of a token, behind its last dot, and between the two. -/
structure Pieces where
  header : List UInt8
  payload : List UInt8
  signature : List UInt8

namespace Pieces

def signed (p : Pieces) : List UInt8 := p.header ++ dot :: p.payload

structure IsOf (p : Pieces) (token : String) : Prop where
  bytes : Utf8.encode token = p.signed ++ dot :: p.signature
  header : dot ∉ p.header
  signature : dot ∉ p.signature

def Encodes (piece : List UInt8) (fields : List (String × Json)) : Prop :=
  ∃ bytes, Base64.decodeBare piece = some bytes ∧ object? bytes = .ok fields

end Pieces

theorem segments?_eq_some_iff {token : String} {s : Segments} : segments? token = some s ↔
    ∃ p : Pieces, p.IsOf token ∧ s.signed = p.signed ∧ Pieces.Encodes p.header s.header ∧
      Base64.decodeBare p.payload = some s.payload ∧
      Base64.decodeBare p.signature = some s.signature := by
  constructor
  · intro h
    simp only [segments?, Option.bind_eq_bind, Option.bind_eq_some_iff] at h
    obtain ⟨⟨signed, signature⟩, hlast, ⟨header, payload⟩, hfirst, fields, ⟨bytes, hheader, hfields⟩,
      decoded, hpayload, mac, hsignature, hs⟩ := h
    cases hs
    obtain ⟨hbytes, hback⟩ := splitLast_eq_some hlast
    obtain ⟨rfl, hfront⟩ := splitFirst_eq_some hfirst
    refine ⟨⟨header, payload, signature⟩, ⟨hbytes, hfront, hback⟩, rfl, ⟨bytes, hheader, ?_⟩, hpayload,
      hsignature⟩
    cases hobject : object? bytes with
    | ok found =>
      rw [hobject] at hfields
      cases hfields
      rfl
    | error e =>
      rw [hobject] at hfields
      cases hfields
  · rintro ⟨p, hp, hsigned, ⟨bytes, hheader, hfields⟩, hpayload, hsignature⟩
    rw [segments?, hp.bytes, splitLast_append hp.signature]
    simp only [bind, Option.bind, Pieces.signed, splitFirst_append p.payload hp.header, hheader, hfields,
      Except.toOption, hpayload, hsignature]
    cases s
    cases hsigned
    rfl

/-! ## Signed tokens -/

/-- The header names the algorithm of the codec, and the last piece is the keyed hash, under the secret,
of all that stands before the last dot. -/
structure IsSigned (codec : Codec) (token : String) (p : Pieces) : Prop extends p.IsOf token where
  algorithm : ∃ fields, Pieces.Encodes p.header fields ∧
    Json.find? fields "alg" = some (.text codec.algorithm.name)
  mac : Base64.decodeBare p.signature =
    some (Hmac.mac codec.algorithm.variant (Utf8.encode codec.secret) p.signed)

section
variable {codec : Codec} {now : Instant} {token : String}

theorem Authentic.isSigned {s : Segments} (h : Authentic codec token s) :
    ∃ p, IsSigned codec token p ∧ Base64.decodeBare p.payload = some s.payload := by
  obtain ⟨p, hp, hsigned, hheader, hpayload, hsignature⟩ := segments?_eq_some_iff.mp h.segments
  refine ⟨p, ⟨hp, ⟨s.header, hheader, h.algorithm⟩, ?_⟩, hpayload⟩
  rw [hsignature, ← h.signature, hsigned]

theorem IsSigned.authentic {p : Pieces} (h : IsSigned codec token p)
    (husable : isForeignKey codec.secret = false) {payload : List UInt8}
    (hpayload : Base64.decodeBare p.payload = some payload) :
    ∃ s, Authentic codec token s ∧ s.payload = payload := by
  obtain ⟨fields, hheader, halg⟩ := h.algorithm
  let mac := Hmac.mac codec.algorithm.variant (Utf8.encode codec.secret) p.signed
  have hs : segments? token = some ⟨p.signed, fields, payload, mac⟩ :=
    segments?_eq_some_iff.mpr ⟨p, h.toIsOf, rfl, hheader, hpayload, h.mac⟩
  exact ⟨_, ⟨⟨hs, halg⟩, husable, rfl⟩, rfl⟩

/-- Of a token that was not signed with the secret nothing is told but that it is no good. -/
theorem verify_unauthentic (hraw : IsRaw codec.secret) (h : ∀ s, ¬ Authentic codec token s) :
    codec.verify now token = .error .malformed ∨ codec.verify now token = .error .invalid ∨
      codec.verify now token = .error .keyRefused := by
  cases hs : segments? token with
  | none => exact .inl (by rw [verify_eq, hs])
  | some s =>
    cases halg : namesAlgorithm codec s with
    | false => exact .inr (.inl (by rw [verify_eq, hs]; simp only [halg]; rfl))
    | true =>
      have ha : Addressed codec token s := ⟨hs, namesAlgorithm_iff.mp halg⟩
      rw [verify_addressed hraw ha]
      cases hk : isForeignKey codec.secret with
      | true => exact .inr (.inr (by rw [matchesKey_foreign hk]; rfl))
      | false =>
        have hm : Hmac.mac codec.algorithm.variant (Utf8.encode codec.secret) s.signed ≠ s.signature :=
          fun hm => h s ⟨ha, hk, hm⟩
        exact .inr (.inl (by rw [matchesKey_own hk, decide_eq_false hm]; rfl))

/-! ## Users -/

/-- The first of the two names of the user that counts as true. -/
def IsNamed (claims : Claims) (user : Json) : Prop :=
  user.isTruthy = true ∧ (Json.find? claims "user_id" = some user ∨
    (∀ v, Json.find? claims "user_id" = some v → v.isTruthy = false) ∧
      Json.find? claims "sub" = some user)

theorem subject?_eq_some_iff {claims : Claims} {user : Json} :
    subject? claims = some user ↔ IsNamed claims user := by
  unfold subject? IsNamed
  cases hid : Json.find? claims "user_id" with
  | none => simp [Option.filter_eq_some_iff, and_comm]
  | some v =>
    cases hv : v.isTruthy with
    | true =>
      simp only [Option.filter_some, hv, if_true, Option.some.injEq]
      constructor
      · rintro rfl
        exact ⟨hv, .inl rfl⟩
      · rintro ⟨-, heq | ⟨hnone, -⟩⟩
        · exact heq
        · rw [hnone v rfl] at hv
          cases hv
    | false =>
      simp only [Option.filter_some, hv, Bool.false_eq_true, if_false, Option.filter_eq_some_iff]
      constructor
      · rintro ⟨hsub, htrue⟩
        exact ⟨htrue, .inr ⟨fun w hw => by cases hw; exact hv, hsub⟩⟩
      · rintro ⟨htrue, heq | ⟨-, hsub⟩⟩
        · cases heq
          rw [hv] at htrue
          cases htrue
        · exact ⟨hsub, htrue⟩

/-! ## Acceptance -/

/-- **Only authentic tokens get through.** Accepted are exactly the tokens signed with the secret whose
claims hold at the second and name the user, and none other is told to have expired. -/
theorem verify_only_signed (hraw : IsRaw codec.secret) (now : Instant) (token : String) :
    (∀ user, codec.verify now token = .ok user ↔ isForeignKey codec.secret = false ∧
      ∃ p claims, IsSigned codec token p ∧ Pieces.Encodes p.payload claims ∧
        Hold codec.issuer now.wholeSeconds claims ∧ IsNamed claims user) ∧
    (codec.verify now token = .error .expired → ∃ p, IsSigned codec token p) := by
  refine ⟨fun user => ⟨fun h => ?_, ?_⟩, fun h => ?_⟩
  · rcases verify_cases hraw now token with ⟨other, hother, ha⟩ | ⟨⟨fault, hf, -⟩, -⟩ | ⟨fault, hf, -⟩
    · have hsame : other = user := Except.ok.inj (hother.symm.trans h)
      subst hsame
      obtain ⟨s, claims, hauth, hclaims, hhold, hname⟩ := ha
      obtain ⟨p, hp, hpayload⟩ := hauth.isSigned
      exact ⟨hauth.usable, p, claims, hp, ⟨s.payload, hpayload, hclaims⟩, hhold,
        subject?_eq_some_iff.mp hname⟩
    · rw [hf] at h
      cases h
    · rw [hf] at h
      cases h
  · rintro ⟨husable, p, claims, hp, ⟨payload, hpayload, hclaims⟩, hhold, hname⟩
    obtain ⟨s, hauth, rfl⟩ := hp.authentic husable hpayload
    exact verify_accepts hraw ⟨s, claims, hauth, hclaims, hhold, subject?_eq_some_iff.mpr hname⟩
  · by_cases hauth : ∃ s, Authentic codec token s
    · obtain ⟨s, hauth⟩ := hauth
      obtain ⟨p, hp, -⟩ := hauth.isSigned
      exact ⟨p, hp⟩
    · have hforged : ∀ s, ¬ Authentic codec token s := fun s hs => hauth ⟨s, hs⟩
      rcases verify_unauthentic hraw hforged with hv | hv | hv
      all_goals
        rw [hv] at h
        cases h

/-- A token of a minute is signed while it counts and when it has expired. -/
theorem verify_only_signed_minute :
    let codec : Codec := ⟨"scenario-secret", 60 * Duration.second, "iam_service", .hs256⟩
    ∃ token, (∃ p claims, IsSigned codec token p ∧ Pieces.Encodes p.payload claims ∧
      Hold codec.issuer 60 claims ∧ IsNamed claims (.text "ann")) ∧
        codec.verify 61000000 token = .error .expired ∧ ∃ p, IsSigned codec token p := by
  intro codec
  have hraw : IsRaw codec.secret := by decide +kernel
  obtain ⟨token, hissue⟩ : ∃ token, codec.issue 0 "ann" none = .ok token :=
    ⟨_, issue_sealed "ann" (by decide) (by decide +kernel)⟩
  have haccepted : codec.verify 60999999 token = .ok (.text "ann") :=
    verify_issued hraw (by decide) hissue (by decide) (by decide) (by decide)
  have hexpired : codec.verify 61000000 token = .error .expired :=
    verify_outdated hraw (by decide) hissue (by decide) (by decide)
  exact ⟨token, (((verify_only_signed hraw 60999999 token).1 _).mp haccepted).2, hexpired,
    (verify_only_signed hraw 61000000 token).2 hexpired⟩

end

end Gatehouse.Token
