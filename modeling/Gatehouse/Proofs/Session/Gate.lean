import Gatehouse.Proofs.Service.Settled
import Gatehouse.Proofs.Token.RoundTrip
import Gatehouse.Session.Gate

/-!
# Decisions of the gate

Which tokens let a user in, which are turned away, and on which the gate itself fails. The last are
exactly the tokens on which verification breaks off and the accepted ones that name something other
than a text.
-/

namespace Gatehouse.Gate

open Token Run

/-! ## Subjects -/

def Names (codec : Codec) (now : Instant) (token : String) (user : Uuid) : Prop :=
  ∃ s, Accepts codec now token (.text s) ∧ Uuid.read s = .ok user

inductive Upsets (codec : Codec) (now : Instant) (token : String) : Prop
  | derails : Derails codec now token → Upsets codec now token
  | subject (v : Json) : Accepts codec now token v → v.raw? = none → Upsets codec now token

section
variable {codec : Codec} {now : Instant} {token : String}

theorem not_addressed_empty (s : Segments) : ¬ Addressed codec "" s := fun h => nomatch h.segments

theorem Accepts.ne_empty {v : Json} (h : Accepts codec now token v) : token ≠ "" := by
  rintro rfl
  obtain ⟨s, claims, ha, -⟩ := h
  exact not_addressed_empty s ha.toAddressed

theorem Names.ne_empty {user : Uuid} (h : Names codec now token user) : token ≠ "" := by
  obtain ⟨s, ha, -⟩ := h
  exact Accepts.ne_empty ha

theorem Upsets.ne_empty (h : Upsets codec now token) : token ≠ "" := by
  cases h with
  | derails hd =>
    rintro rfl
    cases hd with
    | key s ha => exact not_addressed_empty s ha
    | depth s ha => exact not_addressed_empty s ha.toAddressed
    | claims s claims ha => exact not_addressed_empty s ha.toAddressed
  | subject v ha => exact Accepts.ne_empty ha

theorem subject_names (hraw : IsRaw codec.secret) {user : Uuid} (h : Names codec now token user) :
    subject codec now token = .ok (.ok user) := by
  obtain ⟨s, ha, hu⟩ := h
  unfold subject
  rw [verify_accepts hraw ha]
  simp only [hu]

theorem subject_accepted {v : Json} (h : codec.verify now token = .ok v) :
    (∃ s, v = .text s) ∨ (∃ codes, v = .torn codes) ∧ subject codec now token = .ok (.error .tokenInvalid) ∨
      v.raw? = none ∧ subject codec now token = .error .missingAttribute := by
  unfold subject
  rw [h]
  cases v with
  | text s => exact .inl ⟨s, rfl⟩
  | torn codes => exact .inr (.inl ⟨⟨codes, rfl⟩, rfl⟩)
  | _ => exact .inr (.inr ⟨rfl, rfl⟩)

theorem subject_upsets (hraw : IsRaw codec.secret) (h : Upsets codec now token) :
    ∃ failure, subject codec now token = .error failure := by
  cases h with
  | derails hd =>
    obtain ⟨fault, hf, hn⟩ := verify_derails hraw hd
    refine ⟨.token fault, ?_⟩
    unfold subject
    rw [hf]
    simp only [hn]
    rfl
  | subject v ha hv =>
    rcases subject_accepted (verify_accepts hraw ha) with ⟨s, rfl⟩ | ⟨⟨codes, rfl⟩, -⟩ | ⟨-, hs⟩
    · cases hv
    · cases hv
    · exact ⟨_, hs⟩

/-- Every token names a user, or upsets the gate, or is turned away. -/
theorem subject_cases (hraw : IsRaw codec.secret) (now : Instant) (token : String) :
    (∃ user, Names codec now token user) ∨ Upsets codec now token ∨
      subject codec now token = .ok (.error .tokenInvalid) := by
  rcases verify_cases hraw now token with ⟨v, hv, ha⟩ | ⟨-, hd⟩ | ⟨fault, hf, hn⟩
  · rcases subject_accepted hv with ⟨s, rfl⟩ | ⟨-, hs⟩ | ⟨hr, -⟩
    · cases hu : Uuid.read s with
      | ok user => exact .inl ⟨user, s, ha, hu⟩
      | error e =>
        refine .inr (.inr ?_)
        unfold subject
        rw [hv]
        simp only [hu]
    · exact .inr (.inr hs)
    · exact .inr (.inl (.subject v ha hr))
  · exact .inr (.inl (.derails hd))
  · refine .inr (.inr ?_)
    unfold subject
    rw [hf]
    simp only [hn, if_true]

end

/-! ## Callers -/

def admission : Option User → Answer Caller
  | none => .error .userNotFound
  | some user => if user.status = .active then .ok (.of user) else .error .userInactive

section
variable {s : Service} (hsettled : s.IsSettled) (hworks : s.fault? .userById = none)
include hsettled hworks

theorem exec_caller (user : Uuid) : (caller user).exec s = (.ok (admission (s.store.userById? user)), s) := by
  rw [caller, exec_inTransaction, exec_bind_ok (Directory.exec_userById hsettled hworks user)]
  cases hu : s.store.userById? user with
  | none => rw [exec_pure, hsettled.rolledBack]; rfl
  | some found =>
    by_cases ha : found.status = .active
    · simp [admission, ha, hsettled.rolledBack]
    · simp [admission, ha, hsettled.rolledBack]

/-! ## Decisions -/

theorem exec_recognize {codec : Codec} {token : String} (h : token ≠ "") :
    (recognize codec token).exec s =
      match subject codec s.now token with
      | .error failure => (.error failure, s)
      | .ok (.error refusal) => (.ok (.error refusal), s)
      | .ok (.ok user) => (.ok (admission (s.store.userById? user)), s) := by
  have he : token.isEmpty = false := by simpa using h
  rw [recognize, he]
  show ((get : Run Service) >>= _).exec s = _
  rw [exec_bind_ok exec_get]
  cases subject codec s.now token with
  | error failure => exact exec_bind_error (exec_ofExcept_error _ _) _
  | ok answer =>
    rw [exec_bind_ok (exec_ofExcept_ok _ _)]
    cases answer with
    | error refusal => rfl
    | ok user => exact exec_caller hsettled hworks user

theorem exec_recognize_invalid {codec : Codec} {token : String} (h : token ≠ "")
    (hs : subject codec s.now token = .ok (.error .tokenInvalid)) :
    (recognize codec token).exec s = (.ok (.error .tokenInvalid), s) := by
  rw [exec_recognize hsettled hworks h, hs]

theorem exec_recognize_upsets {codec : Codec} (hraw : IsRaw codec.secret) {token : String}
    (h : Upsets codec s.now token) : ∃ failure, (recognize codec token).exec s = (.error failure, s) := by
  obtain ⟨failure, hs⟩ := subject_upsets hraw h
  exact ⟨failure, by rw [exec_recognize hsettled hworks h.ne_empty, hs]⟩

theorem exec_recognize_names {codec : Codec} (hraw : IsRaw codec.secret) {token : String} {user : Uuid}
    (h : Names codec s.now token user) :
    (recognize codec token).exec s = (.ok (admission (s.store.userById? user)), s) := by
  rw [exec_recognize hsettled hworks h.ne_empty, subject_names hraw h]

/-- **The decision on every token.** The gate fails on the tokens that upset it and on no others. -/
theorem recognize_decides {codec : Codec} (hraw : IsRaw codec.secret) (token : String) :
    (token = "" → (recognize codec token).exec s = (.ok (.error .tokenRequired), s)) ∧
      ((∃ failure t, (recognize codec token).exec s = (.error failure, t)) ↔
        Upsets codec s.now token) ∧
      (token ≠ "" → ¬ Upsets codec s.now token → (∀ user, ¬ Names codec s.now token user) →
        (recognize codec token).exec s = (.ok (.error .tokenInvalid), s)) ∧
      ∀ user, Names codec s.now token user →
        (s.store.userById? user = none →
          (recognize codec token).exec s = (.ok (.error .userNotFound), s)) ∧
        ∀ found, s.store.userById? user = some found →
          (found.status ≠ .active →
            (recognize codec token).exec s = (.ok (.error .userInactive), s)) ∧
          (found.status = .active → (recognize codec token).exec s = (.ok (.ok (.of found)), s)) := by
  refine ⟨?_, ⟨?_, ?_⟩, ?_, ?_⟩
  · rintro rfl
    rfl
  -- tokens that name a user or are turned away have an answer
  · rintro ⟨failure, t, hd⟩
    by_cases he : token = ""
    · subst he
      cases hd
    · rcases subject_cases hraw s.now token with ⟨user, hn⟩ | hu | hi
      · rw [exec_recognize_names hsettled hworks hraw hn] at hd
        cases hd
      · exact hu
      · rw [exec_recognize_invalid hsettled hworks he hi] at hd
        cases hd
  · intro hu
    obtain ⟨failure, h⟩ := exec_recognize_upsets hsettled hworks hraw hu
    exact ⟨failure, s, h⟩
  · intro he hu hn
    rcases subject_cases hraw s.now token with ⟨user, hs⟩ | hs | hs
    · exact absurd hs (hn user)
    · exact absurd hs hu
    · exact exec_recognize_invalid hsettled hworks he hs
  · intro user hn
    have hexec := exec_recognize_names hsettled hworks hraw hn
    refine ⟨fun hf => ?_, fun found hf => ⟨fun ha => ?_, fun ha => ?_⟩⟩
    · rw [hexec, hf, admission]
    · rw [hexec, hf, admission, if_neg ha]
    · rw [hexec, hf, admission, if_pos ha]

end

/-! ## A user at the gate -/

def guide : Codec := ⟨"scenario-secret", 60 * Duration.second, "iam_service", .hs256⟩

def visitor : User :=
  ⟨.counted 1, "ann@example.com", none, none, none, .customer, .active, none, none, none⟩

theorem recognize_decides_visitor :
    let s := { Service.start 0 with
      store := { Store.empty with users := [visitor] }
      transaction := ⟨{ Store.empty with users := [visitor] }, false⟩ }
    ((recognize guide (sealed guide (claimsOf guide.issuer visitor.id.text 0 60))).exec s).1 =
      .ok (.ok (.of visitor)) := by
  intro s
  have hraw : IsRaw guide.secret := by decide +kernel
  have hplain : Json.IsPlain Json.lenient Json.lenient.depth
      (.object (claimsOf guide.issuer visitor.id.text (Instant.wholeSeconds 0)
        (Instant.wholeSeconds (60 * Duration.second)))) :=
    isPlain_claimsOf _ _ (by decide) (by decide)
  have husable : isForeignKey guide.secret = false := by decide +kernel
  obtain ⟨parts, ha, hp⟩ := authentic_sealed husable hplain
  have hread : Uuid.read visitor.id.text = .ok visitor.id := by decide +kernel
  have hnames : Names guide s.now (sealed guide (claimsOf guide.issuer visitor.id.text 0 60)) visitor.id :=
    ⟨_, ⟨parts, _, ha, hp, hold_claimsOf (by decide) (by decide), subject?_claimsOf (by decide +kernel)⟩,
      hread⟩
  have h := (recognize_decides (s := s) rfl rfl hraw _).2.2.2 visitor.id hnames
  rw [(h.2 visitor rfl).2 rfl]

/-- A token correctly signed for `{"exp": null}`: the gate has no answer for it. -/
theorem recognize_fails_on_null_expiry :
    let token := "eyJhbGciOiJIUzI1NiIsInR5cCI6IkpXVCJ9.eyJleHAiOm51bGx9." ++
      "xeZcVBqtZt1I-AFUNceQEpHdBEMmC5QisrJNukawhbs"
    IsRaw guide.secret ∧ (Service.start 1700000000000000).IsSettled ∧
      (Service.start 1700000000000000).fault? .userById = none ∧
      ((recognize guide token).exec (Service.start 1700000000000000)).1 =
        .error (.token .claimShape) := by
  refine ⟨by decide +kernel, rfl, rfl, by decide +kernel⟩

end Gatehouse.Gate
