import Gatehouse.Proofs.Calendar.Clock
import Gatehouse.Proofs.Token.RoundTrip

/-!
# Two expiry checks

Verification compares the expiry of a token with the second that the clock is in, a peek with the clock
itself, fraction included. So the two checks can part in one second only, the one that is still accepted.
-/

namespace Gatehouse.Token

section
variable {codec : Codec} {issued : Instant} (hcalendar : Instant.first ≤ issued ∧ issued ≤ Instant.last)
  {user token : String} {ttl : Option Duration.Span} (hissue : codec.issue issued user ttl = .ok token)
include hcalendar hissue

/-- A peek at an issued token compares its last second with the reading of the clock. -/
theorem peekExpired_issued (now : Instant) : ∃ isOver, peekExpired now token = .ok isOver ∧
    (isOver = true ↔
      ((Instant.wholeSeconds (issued + ttl.getD codec.ttl) : Int) : Rat) < now.reading) := by
  have hclaims := peekClaims_issued hcalendar hissue
  have hfind : Json.find? (claimsOf codec.issuer user issued.wholeSeconds
      (Instant.wholeSeconds (issued + ttl.getD codec.ttl))) "exp" =
        some (.integer (Instant.wholeSeconds (issued + ttl.getD codec.ttl))) := rfl
  refine ⟨_, ?_, decide_eq_true_iff⟩
  simp only [peekExpired, hclaims, hfind, isBefore]
  rfl

theorem verify_issued_expired_iff (hraw : IsRaw codec.secret) (huser : user ≠ "") {now : Instant}
    (hbegun : issued.wholeSeconds ≤ now.wholeSeconds) : codec.verify now token = .error .expired ↔
      Instant.wholeSeconds (issued + ttl.getD codec.ttl) < now.wholeSeconds := by
  constructor
  · intro h
    by_contra hahead
    rw [verify_issued hraw hcalendar hissue huser hbegun (Int.not_lt.mp hahead)] at h
    cases h
  · exact verify_outdated hraw hcalendar hissue hbegun

end

/-- **When the two checks agree.** They do so at every instant but those of the token's last second at
which the clock reads as more than this second. -/
theorem peekExpired_agrees_iff {codec : Codec} (hraw : IsRaw codec.secret) {issued : Instant}
    (hcalendar : Instant.first ≤ issued ∧ issued ≤ Instant.last) {user token : String} (huser : user ≠ "")
    {ttl : Option Duration.Span} (hissue : codec.issue issued user ttl = .ok token) {now : Instant}
    (hlater : issued ≤ now) (hlast : now ≤ Instant.last) :
    let expiry : Instant := issued + ttl.getD codec.ttl
    ∃ isOver, peekExpired now token = .ok isOver ∧
      ((isOver = true ↔ codec.verify now token = .error .expired) ↔
        (now.wholeSeconds = expiry.wholeSeconds → now.reading = now.wholeSeconds)) := by
  intro expiry
  obtain ⟨isOver, hpeek, hover⟩ := peekExpired_issued hcalendar hissue now
  have hverify := verify_issued_expired_iff hcalendar hissue hraw huser (Instant.wholeSeconds_mono hlater)
  obtain ⟨hlow, hhigh⟩ := Instant.reading_between ⟨hcalendar.1.trans hlater, hlast⟩
  refine ⟨isOver, hpeek, ?_⟩
  rw [hover, hverify]
  rcases lt_trichotomy expiry.wholeSeconds now.wholeSeconds with hpast | hsame | hahead
  · -- over for both
    have hread : (expiry.wholeSeconds : Rat) < now.reading :=
      lt_of_lt_of_le (by exact_mod_cast hpast) hlow
    exact ⟨fun _ hequal => absurd hequal.symm hpast.ne, fun _ => ⟨fun _ => hpast, fun _ => hread⟩⟩
  · have hequal : (expiry.wholeSeconds : Rat) = now.wholeSeconds := by rw [hsame]
    rw [hequal, hsame]
    constructor
    · intro hagree _
      exact le_antisymm (not_lt.mp fun hread => lt_irrefl _ (hagree.mp hread)) hlow
    · intro hstart
      rw [hstart rfl]
      exact ⟨fun h => absurd h (lt_irrefl _), fun h => absurd h (lt_irrefl _)⟩
  · -- over for neither, since the reading is at most the next second
    have hnext : ((now.wholeSeconds + 1 : Int) : Rat) ≤ expiry.wholeSeconds := by
      exact_mod_cast hahead
    push_cast at hnext
    have hread : ¬ (expiry.wholeSeconds : Rat) < now.reading := not_lt.mpr (hhigh.trans hnext)
    exact ⟨fun _ hequal => absurd hequal hahead.ne,
      fun _ => ⟨fun h => absurd h hread, fun h => absurd h hahead.not_gt⟩⟩

/-- At the start of its last second a token is over for neither check. -/
theorem peekExpired_agrees_minute :
    let codec : Codec := ⟨"scenario-secret", 60 * Duration.second, "iam_service", .hs256⟩
    ∃ token isOver, codec.issue 0 "ann" none = .ok token ∧ peekExpired 60000000 token = .ok isOver ∧
      (isOver = true ↔ codec.verify 60000000 token = .error .expired) := by
  intro codec
  have hraw : IsRaw codec.secret := by decide +kernel
  have hissue : codec.issue 0 "ann" none = .ok _ := issue_sealed "ann" (by decide) (by decide +kernel)
  have hstart : Instant.reading 60000000 = Instant.wholeSeconds 60000000 :=
    Instant.reading_start (by decide) (by decide)
  have hlater : (0 : Instant) ≤ 60000000 := by decide
  obtain ⟨isOver, hpeek, hagree⟩ :=
    peekExpired_agrees_iff hraw (by decide) (by decide) hissue hlater (by decide)
  exact ⟨_, isOver, hissue, hpeek, hagree.mpr fun _ => hstart⟩

/-- Half a second later it is over for a peek, and verification still names its user. -/
theorem peekExpired_early_half_second :
    let codec : Codec := ⟨"scenario-secret", 60 * Duration.second, "iam_service", .hs256⟩
    ∃ token, codec.issue 0 "ann" none = .ok token ∧ codec.verify 60500000 token = .ok (.text "ann") ∧
      peekExpired 60500000 token = .ok true := by
  intro codec
  have hraw : IsRaw codec.secret := by decide +kernel
  have hissue : codec.issue 0 "ann" none = .ok _ := issue_sealed "ann" (by decide) (by decide +kernel)
  obtain ⟨isOver, hpeek, hover⟩ := peekExpired_issued (by decide) hissue 60500000
  have hread : ((60 : Int) : Rat) < Instant.reading 60500000 := by decide +kernel
  have htrue : isOver = true := hover.mpr hread
  rw [htrue] at hpeek
  exact ⟨_, hissue, verify_issued hraw (by decide) hissue (by decide) (by decide) (by decide), hpeek⟩

end Gatehouse.Token
