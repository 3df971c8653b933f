import Gatehouse.Proofs.Token.Secret
import Mathlib.Data.Int.ConditionallyCompleteOrder
import Mathlib.Order.Interval.Set.OrdConnected

/-!
# The lifetime of a token

Everything about a token but its times is settled before the clock is looked at. What is left are two
bounds on the second, so a token is accepted during one interval, for one user, and does not come back
once it has expired.
-/

namespace Gatehouse.Token

/-! ## Before the clock -/

def Codec.unlock (codec : Codec) (token : String) : Except Fault Claims :=
  match segments? token with
  | none => .error .malformed
  | some s =>
    (require (namesAlgorithm codec s) .invalid).bind fun _ => (keyValues codec.secret).bind fun keys =>
      (matchesKey codec.algorithm s.signed s.signature keys).bind fun authentic =>
        (require authentic .invalid).bind fun _ => payloadClaims s.payload

/-- What can be wrong with a token that can be taken apart, before the clock is looked at. -/
def Fault.isOfUnlocking (fault : Fault) : Bool := fault.isKey || fault.isOfReading

section
variable {codec : Codec} {now later : Instant} {token : String}

theorem verify_eq_unlock (codec : Codec) (now : Instant) (token : String) :
    codec.verify now token = (codec.unlock token).bind fun claims =>
      (checkClaims codec.issuer now.wholeSeconds claims).bind fun _ => named claims := by
  have hassoc {α β : Type} (r : Except Fault α) (f : α → Except Fault β) (g : β → Except Fault Json) :
      (r.bind f).bind g = r.bind fun a => (f a).bind g := bind_assoc r f g
  rw [verify_eq, Codec.unlock]
  cases segments? token with
  | none => rfl
  | some s =>
    simp only [hassoc]
    rfl

theorem blames_unlock {s : Segments} (hs : segments? token = some s) :
    Blames Fault.isOfUnlocking (codec.unlock token) := by
  have hkey {α : Type} {r : Except Fault α} (h : Blames Fault.isKey r) : Blames Fault.isOfUnlocking r :=
    h.mono fun hk => Bool.or_eq_true_iff.mpr (.inl hk)
  rw [Codec.unlock, hs]
  exact (blames_require _ rfl).bind fun _ => (hkey (blames_keyValues _)).bind fun keys =>
    (hkey (blames_matchesKey _ _ _ keys)).bind fun authentic => (blames_require _ rfl).bind fun _ =>
      (blames_payloadClaims s.payload).mono fun hr => Bool.or_eq_true_iff.mpr (.inr hr)

theorem unlock_never_expired (codec : Codec) (token : String) :
    Blames (· != .expired) (codec.unlock token) := by
  cases hs : segments? token with
  | none =>
    rw [Codec.unlock, hs]
    exact blames_error rfl
  | some s => exact (blames_unlock hs).mono fun {fault} h => by cases fault <;> first | rfl | cases h

theorem verify_eq_ok_iff {user : Json} : codec.verify now token = .ok user ↔
    ∃ claims, codec.unlock token = .ok claims ∧ Hold codec.issuer now.wholeSeconds claims ∧
      subject? claims = some user := by
  rw [verify_eq_unlock, bind_eq_ok_iff]
  refine exists_congr fun claims => and_congr_right fun _ => ?_
  rw [bind_eq_ok_iff, ← checkClaims_eq_ok_iff, ← named_eq_ok_iff]
  exact ⟨fun ⟨_, hc, hn⟩ => ⟨hc, hn⟩, fun ⟨hc, hn⟩ => ⟨(), hc, hn⟩⟩

theorem verify_eq_expired_iff : codec.verify now token = .error .expired ↔
    ∃ claims, codec.unlock token = .ok claims ∧ Overdue now.wholeSeconds claims := by
  rw [verify_eq_unlock, (unlock_never_expired codec token).bind_eq_error rfl]
  refine exists_congr fun claims => and_congr_right fun _ => ?_
  have hoverdue : checkClaims codec.issuer now.wholeSeconds claims = .error .expired ↔
      Overdue now.wholeSeconds claims := checkClaims_eq_expired_iff
  rw [← hoverdue]
  cases hc : checkClaims codec.issuer now.wholeSeconds claims with
  | error => exact ⟨fun h => by cases h; rfl, fun h => by cases h; rfl⟩
  | ok =>
    refine ⟨fun h => ?_, fun h => by cases h⟩
    exact absurd (blames_named claims _ h) (by decide)

/-! ## The interval -/

def Codec.acceptance (codec : Codec) (token : String) : Set Int :=
  {second | ∃ now : Instant, now.wholeSeconds = second ∧ ∃ user, codec.verify now token = .ok user}

theorem mem_acceptance_iff {second : Int} : second ∈ codec.acceptance token ↔
    ∃ claims user, codec.unlock token = .ok claims ∧ Hold codec.issuer second claims ∧
      subject? claims = some user := by
  constructor
  · rintro ⟨now, rfl, user, h⟩
    obtain ⟨claims, hu, hh, hs⟩ := verify_eq_ok_iff.mp h
    exact ⟨claims, user, hu, hh, hs⟩
  · rintro ⟨claims, user, hu, hh, hs⟩
    have hbegin := Instant.wholeSeconds_begin second
    exact ⟨_, hbegin, user, verify_eq_ok_iff.mpr ⟨claims, hu, by rwa [hbegin], hs⟩⟩

theorem ordConnected_acceptance (codec : Codec) (token : String) : (codec.acceptance token).OrdConnected := by
  refine ⟨fun first hfirst last hlast second hbetween => ?_⟩
  obtain ⟨claims, user, hu, hh, hs⟩ := mem_acceptance_iff.mp hfirst
  obtain ⟨claims', -, hu', hh', -⟩ := mem_acceptance_iff.mp hlast
  rw [hu] at hu'
  cases hu'
  exact mem_acceptance_iff.mpr ⟨claims, user, hu, hh.between hh' hbetween.1 hbetween.2, hs⟩

theorem verify_user_unique {user other : Json} (h : codec.verify now token = .ok user)
    (hother : codec.verify later token = .ok other) : user = other := by
  obtain ⟨claims, hu, -, hs⟩ := verify_eq_ok_iff.mp h
  obtain ⟨claims', hu', -, hs'⟩ := verify_eq_ok_iff.mp hother
  rw [hu] at hu'
  cases hu'
  exact Option.some.inj (hs.symm.trans hs')

theorem verify_stays_expired (hlater : now ≤ later) (h : codec.verify now token = .error .expired) :
    codec.verify later token = .error .expired := by
  obtain ⟨claims, hu, ho⟩ := verify_eq_expired_iff.mp h
  exact verify_eq_expired_iff.mpr ⟨claims, hu, ho.mono (Instant.wholeSeconds_mono hlater)⟩

/-- **One life for every token.** An instant is let in by its second alone, the seconds let in are an
interval, all name one user, and a token that has expired stays so. -/
theorem verify_lifetime (codec : Codec) (token : String) :
    (codec.acceptance token).OrdConnected ∧
      (∀ now, now.wholeSeconds ∈ codec.acceptance token ↔ ∃ user, codec.verify now token = .ok user) ∧
      (∀ now later user other, codec.verify now token = .ok user → codec.verify later token = .ok other →
        user = other) ∧
      ∀ now later, now ≤ later → codec.verify now token = .error .expired →
        codec.verify later token = .error .expired := by
  refine ⟨ordConnected_acceptance codec token, fun now => ⟨fun h => ?_, fun h => ⟨now, rfl, h⟩⟩,
    fun _ _ _ _ => verify_user_unique, fun _ _ => verify_stays_expired⟩
  obtain ⟨claims, user, hu, hh, hs⟩ := mem_acceptance_iff.mp h
  exact ⟨user, verify_eq_ok_iff.mpr ⟨claims, hu, hh, hs⟩⟩

/-- A token over a minute: let in at its two ends, hence between them, and over for good after it. -/
theorem verify_lifetime_minute :
    let codec : Codec := ⟨"scenario-secret", 60 * Duration.second, "iam_service", .hs256⟩
    ∃ token, codec.issue 0 "ann" none = .ok token ∧ 30 ∈ codec.acceptance token ∧
      codec.verify 61000000 token = .error .expired ∧ codec.verify 90000000 token = .error .expired := by
  intro codec
  have hraw : IsRaw codec.secret := by decide +kernel
  have hissue : codec.issue 0 "ann" none = .ok _ := issue_sealed "ann" (by decide) (by decide +kernel)
  have hfirst : codec.verify 0 _ = .ok (.text "ann") :=
    verify_issued hraw (by decide) hissue (by decide) (by decide) (by decide)
  have hlast : codec.verify 60000000 _ = .ok (.text "ann") :=
    verify_issued hraw (by decide) hissue (by decide) (by decide) (by decide)
  have hexpired : codec.verify 61000000 _ = .error .expired :=
    verify_outdated hraw (by decide) hissue (by decide) (by decide)
  obtain ⟨hinterval, haccepted, -, hstays⟩ := verify_lifetime codec (sealed codec _)
  exact ⟨_, hissue,
    hinterval.out ((haccepted 0).mpr ⟨_, hfirst⟩) ((haccepted 60000000).mpr ⟨_, hlast⟩)
      ⟨by decide, by decide⟩, hexpired, hstays _ _ (by decide) hexpired⟩

end

end Gatehouse.Token
