import Gatehouse.Proofs.Calendar.Instant
import Gatehouse.Proofs.Token.Segments
import Gatehouse.Proofs.Token.Verification
import Mathlib.Data.Nat.Digits.Defs

/-!
# Issued tokens over time

An issued token is accepted, and names its user, from the second in which it was issued to the second
in which it expires. Before that it is invalid and after that it has expired.
-/

namespace Gatehouse.Token

/-! ## Sealed claims -/

def unsigned (codec : Codec) (claims : Claims) : String :=
  segmentOf (headerOf codec.algorithm) ++ "." ++ segmentOf (.object claims)

def Codec.sign (codec : Codec) (signed : List UInt8) : List UInt8 :=
  Hmac.mac codec.algorithm.variant (Utf8.encode codec.secret) signed

def sealed (codec : Codec) (claims : Claims) : String :=
  unsigned codec claims ++ "." ++
    Base64.encodeBare (codec.sign (Utf8.encode (unsigned codec claims)))

theorem isPlain_headerOf (a : Algorithm) :
    Json.IsPlain Json.lenient Json.lenient.depth (headerOf a) := by
  have hnames : ["alg", "typ"].Nodup := by decide
  refine .object _ hnames ?_
  intro f hf
  simp only [List.mem_cons, List.not_mem_nil, or_false] at hf
  rcases hf with rfl | rfl <;> exact .text _

theorem segments?_unsigned (codec : Codec) (claims : Claims) {last : String} (hlast : dot ∉ Utf8.encode last) :
    segments? (unsigned codec claims ++ "." ++ last) =
      (Base64.decodeBare (Utf8.encode last)).map fun signature =>
        ⟨Utf8.encode (unsigned codec claims), [("alg", .text codec.algorithm.name), ("typ", .text "JWT")],
          Utf8.encode ((Json.object claims).write Json.compactAscii), signature⟩ :=
  segments?_joined (object?_written Json.compactAscii_lawful (isPlain_headerOf codec.algorithm)) _ hlast

theorem authentic_sealed {codec : Codec} {claims : Claims} (husable : isForeignKey codec.secret = false)
    (hplain : Json.IsPlain Json.lenient Json.lenient.depth (.object claims)) :
    ∃ s, Authentic codec (sealed codec claims) s ∧ object? s.payload = .ok claims := by
  have hs := segments?_unsigned codec claims
    (dot_not_mem_encode (Base64.dot_not_mem_encodeBare (codec.sign (Utf8.encode (unsigned codec claims)))))
  rw [Base64.decodeBare_encodeBare] at hs
  exact ⟨_, ⟨⟨hs, rfl⟩, husable, rfl⟩, object?_written Json.compactAscii_lawful hplain⟩

theorem verify_sealed {codec : Codec} {claims : Claims} (now : Instant) (hraw : IsRaw codec.secret)
    (husable : isForeignKey codec.secret = false)
    (hplain : Json.IsPlain Json.lenient Json.lenient.depth (.object claims)) :
    codec.verify now (sealed codec claims) =
      (checkClaims codec.issuer now.wholeSeconds claims).bind fun _ => named claims := by
  obtain ⟨s, ha, hp⟩ := authentic_sealed husable hplain
  rw [verify_authentic hraw ha, examine_ok hp]

/-! ## The claims of an issued token -/

section
variable {issuer user : String} {issued expiry now : Int}

theorem hold_claimsOf (hbegun : issued ≤ now) (hahead : now ≤ expiry) :
    Hold issuer now (claimsOf issuer user issued expiry) where
  issued := ⟨some issued, rfl⟩
  begun := ⟨some issued, rfl, by simpa using hbegun⟩
  unexpired := ⟨some expiry, rfl, by simpa using hahead⟩
  audience := rfl
  issuer := rfl
  subject := rfl
  identifier := rfl
  hash := rfl

theorem checkClaims_early (h : now < issued) :
    checkClaims issuer now (claimsOf issuer user issued expiry) = .error .invalid := by
  have hn : timeClaim (claimsOf issuer user issued expiry) "nbf" = .ok (some issued) := rfl
  have hi : timeClaim (claimsOf issuer user issued expiry) "iat" = .ok (some issued) := rfl
  have hpast : isPast now (some issued) = false := decide_eq_false (by omega)
  rw [checkClaims_eq, hi, hn]
  simp only [Except.bind, hpast]
  rfl

theorem checkClaims_late (hbegun : issued ≤ now) (h : expiry < now) :
    checkClaims issuer now (claimsOf issuer user issued expiry) = .error .expired :=
  checkClaims_eq_expired_iff.mpr
    ⟨⟨some issued, rfl⟩, ⟨some issued, rfl, by simpa using hbegun⟩, expiry, h, rfl⟩

theorem subject?_claimsOf (h : user ≠ "") :
    subject? (claimsOf issuer user issued expiry) = some (.text user) := by
  have ht : Json.isTruthy (.text user) = true := by simpa [Json.isTruthy] using h
  have hf : Json.find? (claimsOf issuer user issued expiry) "user_id" = some (.text user) := rfl
  simp only [subject?, hf, Option.filter, ht, if_true]

end

/-! ## Size of the claims -/

/-- Seconds of the calendar have at most twelve digits. -/
theorem isPlain_wholeSeconds {t : Int} (h : Instant.first ≤ t ∧ t ≤ Instant.last) {depth : Nat} :
    Json.IsPlain Json.lenient depth (.integer (Instant.wholeSeconds t)) := by
  have hfirst : (-62135596800000000 : Int) ≤ t := h.1
  have hlast : t ≤ (253402300799999999 : Int) := h.2
  have hs : (Instant.wholeSeconds t).natAbs < 10 ^ 12 := by
    rw [Instant.wholeSeconds_eq]
    omega
  refine .integer _ ?_
  have := Nat.toDigitsCore_length 10 ((Instant.wholeSeconds t).natAbs + 1) _ 12 (by decide) hs
  exact Nat.lt_of_le_of_lt this (by decide)

theorem isPlain_claimsOf (issuer user : String) {issued expiry : Instant}
    (hi : Instant.first ≤ issued ∧ issued ≤ Instant.last)
    (he : Instant.first ≤ expiry ∧ expiry ≤ Instant.last) :
    Json.IsPlain Json.lenient Json.lenient.depth
      (.object (claimsOf issuer user issued.wholeSeconds expiry.wholeSeconds)) := by
  have hnames : ["user_id", "sub", "iss", "iat", "nbf", "exp"].Nodup := by decide
  refine .object _ hnames ?_
  intro f hf
  simp only [claimsOf, List.mem_cons, List.not_mem_nil, or_false] at hf
  rcases hf with rfl | rfl | rfl | rfl | rfl | rfl
  · exact .text _
  · exact .text _
  · exact .text _
  · exact isPlain_wholeSeconds hi
  · exact isPlain_wholeSeconds hi
  · exact isPlain_wholeSeconds he

/-! ## Issuing -/

theorem issue_eq_ok {codec : Codec} {now : Instant} {user token : String} {ttl : Option Duration.Span}
    (h : codec.issue now user ttl = .ok token) :
    (Instant.first ≤ now + ttl.getD codec.ttl ∧ now + ttl.getD codec.ttl ≤ Instant.last) ∧
      isForeignKey codec.secret = false ∧
      token = sealed codec (claimsOf codec.issuer user now.wholeSeconds
        (Instant.wholeSeconds (now + ttl.getD codec.ttl))) := by
  unfold Codec.issue Instant.add? at h
  split at h
  · cases h
  · rename_i expiry hadd
    split at hadd
    · rename_i hin
      cases hadd
      split at h
      · cases h
      · rename_i husable
        refine ⟨hin, by simpa using husable, ?_⟩
        rw [sealed, unsigned, Codec.sign]
        exact (Except.ok.inj h).symm
    · cases hadd

theorem issue_sealed {codec : Codec} {now : Instant} (user : String) {ttl : Option Duration.Span}
    (hin : Instant.first ≤ now + ttl.getD codec.ttl ∧ now + ttl.getD codec.ttl ≤ Instant.last)
    (husable : isForeignKey codec.secret = false) :
    codec.issue now user ttl = .ok (sealed codec (claimsOf codec.issuer user now.wholeSeconds
      (Instant.wholeSeconds (now + ttl.getD codec.ttl)))) := by
  rw [sealed, unsigned, Codec.sign, Codec.issue, Instant.add?, if_pos hin]
  simp only [husable]
  rfl

/-- What can be read off an issued token without its secret. -/
theorem peekClaims_issued {codec : Codec} {issued : Instant} {user token : String} {ttl : Option Duration.Span}
    (hcalendar : Instant.first ≤ issued ∧ issued ≤ Instant.last)
    (hissue : codec.issue issued user ttl = .ok token) :
    peekClaims token = .ok (claimsOf codec.issuer user issued.wholeSeconds
      (Instant.wholeSeconds (issued + ttl.getD codec.ttl))) := by
  obtain ⟨hin, husable, rfl⟩ := issue_eq_ok hissue
  obtain ⟨s, hauthentic, hclaims⟩ :=
    authentic_sealed husable (isPlain_claimsOf codec.issuer user hcalendar hin)
  rw [peekClaims, hauthentic.segments]
  simp only [payloadClaims, hclaims]

/-- Whether a token can be issued does not depend on its user. -/
theorem issue_other {codec : Codec} {now : Instant} {user token : String} {ttl : Option Duration.Span}
    (h : codec.issue now user ttl = .ok token) (other : String) :
    ∃ token, codec.issue now other ttl = .ok token := by
  obtain ⟨hin, husable, -⟩ := issue_eq_ok h
  exact ⟨_, issue_sealed other hin husable⟩

section
variable {codec : Codec} (hraw : IsRaw codec.secret) {issued : Instant}
  (hcalendar : Instant.first ≤ issued ∧ issued ≤ Instant.last) {user token : String}
  {ttl : Option Duration.Span} (hissue : codec.issue issued user ttl = .ok token) {now : Instant}
include hraw hcalendar hissue

theorem verify_issued (huser : user ≠ "") (hbegun : issued.wholeSeconds ≤ now.wholeSeconds)
    (hahead : now.wholeSeconds ≤ Instant.wholeSeconds (issued + ttl.getD codec.ttl)) :
    codec.verify now token = .ok (.text user) := by
  obtain ⟨hin, husable, rfl⟩ := issue_eq_ok hissue
  rw [verify_sealed now hraw husable (isPlain_claimsOf codec.issuer user hcalendar hin),
    checkClaims_hold (hold_claimsOf hbegun hahead)]
  simp only [Except.bind, named, subject?_claimsOf huser]

theorem verify_outdated (hbegun : issued.wholeSeconds ≤ now.wholeSeconds)
    (hlate : Instant.wholeSeconds (issued + ttl.getD codec.ttl) < now.wholeSeconds) :
    codec.verify now token = .error .expired := by
  obtain ⟨hin, husable, rfl⟩ := issue_eq_ok hissue
  rw [verify_sealed now hraw husable (isPlain_claimsOf codec.issuer user hcalendar hin),
    checkClaims_late hbegun hlate]
  rfl

end

/-- **Round trip over the timeline.** -/
theorem verify_issue {codec : Codec} (hraw : IsRaw codec.secret) {issued : Instant}
    (hcalendar : Instant.first ≤ issued ∧ issued ≤ Instant.last) {user token : String} (huser : user ≠ "")
    {ttl : Option Duration.Span} (hissue : codec.issue issued user ttl = .ok token) (now : Instant) :
    let expiry : Instant := issued + ttl.getD codec.ttl
    (issued.wholeSeconds ≤ now.wholeSeconds → now.wholeSeconds ≤ expiry.wholeSeconds →
        codec.verify now token = .ok (.text user)) ∧
      (now.wholeSeconds < issued.wholeSeconds → codec.verify now token = .error .invalid) ∧
      (issued.wholeSeconds ≤ now.wholeSeconds → expiry.wholeSeconds < now.wholeSeconds →
        codec.verify now token = .error .expired) := by
  intro expiry
  obtain ⟨hin, husable, rfl⟩ := issue_eq_ok hissue
  -- everything but the times of the claims has been undone
  have hverify := verify_sealed now hraw husable
    (isPlain_claimsOf codec.issuer user hcalendar hin)
  rw [hverify]
  refine ⟨fun hbegun hahead => ?_, fun hearly => ?_, fun hbegun hlate => ?_⟩
  · rw [checkClaims_hold (hold_claimsOf hbegun hahead)]
    simp only [Except.bind, named, subject?_claimsOf huser]
  · rw [checkClaims_early hearly]
    rfl
  · rw [checkClaims_late hbegun hlate]
    rfl

theorem verify_issue_minute :
    let codec : Codec := ⟨"scenario-secret", 60 * Duration.second, "iam_service", .hs256⟩
    ∃ token, codec.issue 0 "ann" none = .ok token ∧ codec.verify 60999999 token = .ok (.text "ann") ∧
      codec.verify (-1) token = .error .invalid ∧ codec.verify 61000000 token = .error .expired := by
  intro codec
  have hraw : IsRaw codec.secret := by decide +kernel
  have hissue : codec.issue 0 "ann" none = .ok _ := issue_sealed "ann" (by decide) (by decide +kernel)
  have h := verify_issue hraw (by decide) (by decide) hissue
  exact ⟨_, hissue, (h 60999999).1 (by decide) (by decide), (h (-1)).2.1 (by decide),
    (h 61000000).2.2 (by decide) (by decide)⟩

end Gatehouse.Token
