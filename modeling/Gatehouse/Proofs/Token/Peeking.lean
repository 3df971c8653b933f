import Gatehouse.Proofs.Token.Lifetime

/-!
# Peeking and verifying

A peek takes a token apart in the same way as verification does and looks at no more than its payload.
So it shows the user whom verification lets in, and it shows nothing where verification finds no token.
-/

namespace Gatehouse.Token

def shown : Json → RawText
  | .text s => .whole s
  | .torn codes => .torn codes
  | v => .whole v.display

theorem shown_eq (v : Json) : shown v = (v.raw?).getD (.whole v.display) := by
  cases v <;> rfl

section
variable {codec : Codec} {now : Instant} {token : String} {claims : Claims}

/-! ## Claims that are vouched for -/

/-- Claims that the keys vouch for can be read without them. -/
theorem peekClaims_of_unlock (h : codec.unlock token = .ok claims) : peekClaims token = .ok claims := by
  unfold Codec.unlock at h
  unfold peekClaims
  cases hs : segments? token with
  | none =>
    rw [hs] at h
    cases h
  | some s =>
    rw [hs] at h
    obtain ⟨-, -, h⟩ := bind_eq_ok_iff.mp h
    obtain ⟨keys, -, h⟩ := bind_eq_ok_iff.mp h
    obtain ⟨authentic, -, h⟩ := bind_eq_ok_iff.mp h
    obtain ⟨-, -, h⟩ := bind_eq_ok_iff.mp h
    exact h

theorem peekSubject_of_claims {user : Json} (h : peekClaims token = .ok claims)
    (hs : subject? claims = some user) : peekSubject token = .ok (shown user) := by
  simp only [peekSubject, h, hs, shown_eq]

/-! ## Texts that are no tokens -/

/-- Only a text that cannot be taken apart is called malformed. -/
theorem verify_eq_malformed_iff : codec.verify now token = .error .malformed ↔ segments? token = none := by
  constructor
  · intro h
    cases hs : segments? token with
    | none => rfl
    | some s =>
      have hunlock : Blames (· != .malformed) (codec.unlock token) :=
        (blames_unlock hs).mono fun {fault} h => by cases fault <;> first | rfl | cases h
      have hpayload : ∀ {fault : Fault}, fault.isOfPayload = true → (fault != .malformed) = true :=
        fun {fault} h => by cases fault <;> first | rfl | cases h
      have hverify : Blames (· != .malformed) (codec.verify now token) := by
        rw [verify_eq_unlock]
        exact hunlock.bind fun claims => ((blames_checkClaims _ _ claims).mono hpayload).bind fun _ =>
          (blames_named claims).mono fun hr => hpayload (Fault.isOfPayload_of_isOfReading hr)
      exact absurd (hverify .malformed h) (by decide)
  · intro h
    rw [verify_eq, h]

theorem peekClaims_malformed (h : segments? token = none) : peekClaims token = .error .malformed := by
  simp only [peekClaims, h]

/-! ## Both readings -/

/-- **A peek shows whom verification names.** Whatever user is let in, a peek shows this user; and what
is called malformed has no user to be shown and counts as over at every moment. -/
theorem peek_agrees_with_verify (codec : Codec) (now : Instant) (token : String) :
    (∀ user, codec.verify now token = .ok user → peekSubject token = .ok (shown user)) ∧
      (codec.verify now token = .error .malformed →
        peekSubject token = .ok (.whole "") ∧ ∀ clock, peekExpired clock token = .ok true) := by
  constructor
  · intro user h
    obtain ⟨claims, hu, -, hs⟩ := verify_eq_ok_iff.mp h
    exact peekSubject_of_claims (peekClaims_of_unlock hu) hs
  · intro h
    have hclaims := peekClaims_malformed (verify_eq_malformed_iff.mp h)
    exact ⟨by simp only [peekSubject, hclaims], fun clock => by simp only [peekExpired, hclaims]⟩

/-- A user who is a number is shown by its digits, and a text without dots shows nobody. -/
theorem peek_agrees_with_verify_seven :
    let codec : Codec := ⟨"scenario-secret", 60 * Duration.second, "iam_service", .hs256⟩
    let token := sealed codec [("user_id", .integer 7), ("iss", .text "iam_service")]
    codec.verify 0 token = .ok (.integer 7) ∧ peekSubject token = .ok (.whole "7") ∧
      codec.verify 0 "no token" = .error .malformed ∧ peekSubject "no token" = .ok (.whole "") ∧
      peekExpired 0 "no token" = .ok true := by
  intro codec token
  have hnames : ["user_id", "iss"].Nodup := by decide
  have hplain : Json.IsPlain Json.lenient Json.lenient.depth
      (.object [("user_id", .integer 7), ("iss", .text "iam_service")]) := by
    refine .object _ hnames fun f hf => ?_
    simp only [List.mem_cons, List.not_mem_nil, or_false] at hf
    rcases hf with rfl | rfl
    · exact .integer _ (by decide)
    · exact .text _
  have hverify : codec.verify 0 token = .ok (.integer 7) := by
    rw [verify_sealed 0 (by decide +kernel) (by decide +kernel) hplain]
    rfl
  have hmalformed : codec.verify 0 "no token" = .error .malformed := rfl
  obtain ⟨hshown, -⟩ := peek_agrees_with_verify codec 0 token
  obtain ⟨hnobody, hover⟩ := (peek_agrees_with_verify codec 0 "no token").2 hmalformed
  exact ⟨hverify, hshown _ hverify, hmalformed, hnobody, hover 0⟩

end

end Gatehouse.Token
