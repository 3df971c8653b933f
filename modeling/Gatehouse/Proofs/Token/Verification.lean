import Gatehouse.Proofs.Token.Claims
import Gatehouse.Token.Codec

/-!
# What verification accepts

For a secret that is no JSON text, the tokens that are accepted and the tokens on which verification
breaks off are each described without its steps. All other tokens get a verdict against them.
-/

namespace Gatehouse.Token

/-! ## Keys -/

/-- A secret that is not read as JSON, so that it is its own only key. -/
def IsRaw (secret : String) : Prop := ∀ v, Json.read secretDialect secret ≠ .ok v

instance (secret : String) : Decidable (IsRaw secret) :=
  match h : Json.read secretDialect secret with
  | .ok v => isFalse fun hraw => hraw v h
  | .error _ => isTrue fun v hv => by rw [h] at hv; cases hv

theorem keyValues_raw {secret : String} (h : IsRaw secret) : keyValues secret = .ok [.text secret] := by
  have hv : secretValue secret = .text secret := by
    unfold secretValue
    split
    · rename_i v hv
      exact absurd hv (h v)
    · rfl
  rw [keyValues, hv]
  rfl

theorem matchesKey_foreign {algorithm : Algorithm} {signed signature : List UInt8} {secret : String}
    (h : isForeignKey secret = true) :
    matchesKey algorithm signed signature [.text secret] = .error .keyRefused := by
  rw [matchesKey, keyBytes, if_pos h]
  rfl

theorem matchesKey_own {algorithm : Algorithm} {signed signature : List UInt8} {secret : String}
    (h : isForeignKey secret = false) : matchesKey algorithm signed signature [.text secret] =
      .ok (decide (Hmac.mac algorithm.variant (Utf8.encode secret) signed = signature)) := by
  rw [matchesKey, keyBytes, if_neg (by rw [h]; decide)]
  by_cases hm : Hmac.mac algorithm.variant (Utf8.encode secret) signed = signature
  · simp [hm, bind, Except.bind]
  · simp [hm, bind, Except.bind, matchesKey]

/-! ## Tokens -/

structure Addressed (codec : Codec) (token : String) (s : Segments) : Prop where
  segments : segments? token = some s
  algorithm : Json.find? s.header "alg" = some (.text codec.algorithm.name)

structure Authentic (codec : Codec) (token : String) (s : Segments) : Prop extends
    Addressed codec token s where
  usable : isForeignKey codec.secret = false
  signature : Hmac.mac codec.algorithm.variant (Utf8.encode codec.secret) s.signed = s.signature

inductive Accepts (codec : Codec) (now : Instant) (token : String) (user : Json) : Prop
  | intro (s : Segments) (claims : Claims) : Authentic codec token s → object? s.payload = .ok claims →
      Hold codec.issuer now.wholeSeconds claims → subject? claims = some user →
      Accepts codec now token user

/-- A token on which verification breaks off: the secret is no key for signatures, the payload is
nested too deep, or a time claim has no rule. -/
inductive Derails (codec : Codec) (now : Instant) (token : String) : Prop
  | key (s : Segments) : Addressed codec token s → isForeignKey codec.secret = true →
      Derails codec now token
  | depth (s : Segments) : Authentic codec token s → object? s.payload = .error .tooDeep →
      Derails codec now token
  | claims (s : Segments) (claims : Claims) : Authentic codec token s → object? s.payload = .ok claims →
      Derail now.wholeSeconds claims → Derails codec now token

/-! ## Payloads -/

section
variable {codec : Codec} {now : Instant} {token : String}

def named (claims : Claims) : Except Fault Json :=
  match subject? claims with
  | some user => .ok user
  | none => .error .invalid

def examine (codec : Codec) (now : Instant) (payload : List UInt8) : Except Fault Json := do
  let claims ← payloadClaims payload
  checkClaims codec.issuer now.wholeSeconds claims
  named claims

theorem payloadClaims_ok {payload : List UInt8} {claims : Claims} (h : object? payload = .ok claims) :
    payloadClaims payload = .ok claims := by
  unfold payloadClaims
  rw [h]

theorem examine_ok {payload : List UInt8} {claims : Claims} (h : object? payload = .ok claims) :
    examine codec now payload =
      (checkClaims codec.issuer now.wholeSeconds claims).bind fun _ => named claims := by
  rw [examine, payloadClaims_ok h]
  rfl

theorem examine_tooDeep {payload : List UInt8} (h : object? payload = .error .tooDeep) :
    examine codec now payload = .error .claimDepth := by
  unfold examine payloadClaims
  rw [h]
  rfl

theorem examine_cases (codec : Codec) (now : Instant) (payload : List UInt8) :
    (∃ claims user, examine codec now payload = .ok user ∧ object? payload = .ok claims ∧
        Hold codec.issuer now.wholeSeconds claims ∧ subject? claims = some user) ∨
      ((∃ fault, examine codec now payload = .error fault ∧ fault.isVerdict = false) ∧
        (object? payload = .error .tooDeep ∨
          ∃ claims, object? payload = .ok claims ∧ Derail now.wholeSeconds claims)) ∨
      ∃ fault, examine codec now payload = .error fault ∧ fault.isVerdict = true := by
  cases hp : object? payload with
  | error e =>
    cases e with
    | tooDeep => exact .inr (.inl ⟨⟨.claimDepth, examine_tooDeep hp, rfl⟩, .inl rfl⟩)
    | malformed => exact .inr (.inr ⟨.invalid, by unfold examine payloadClaims; rw [hp]; rfl, rfl⟩)
    | tooLong => exact .inr (.inr ⟨.invalid, by unfold examine payloadClaims; rw [hp]; rfl, rfl⟩)
  | ok claims =>
    rw [examine_ok hp]
    rcases checkClaims_cases codec.issuer now.wholeSeconds claims with
      ⟨hc, hh⟩ | ⟨⟨fault, hc, hn⟩, hd⟩ | ⟨fault, hc, hn⟩
    · rw [hc]
      cases hs : subject? claims with
      | some user => exact .inl ⟨claims, user, by simp only [named, hs]; rfl, rfl, hh, hs⟩
      | none => exact .inr (.inr ⟨.invalid, by simp only [named, hs]; rfl, rfl⟩)
    · rw [hc]
      exact .inr (.inl ⟨⟨fault, rfl, hn⟩, .inr ⟨claims, rfl, hd⟩⟩)
    · rw [hc]
      exact .inr (.inr ⟨fault, rfl, hn⟩)

theorem blames_payloadClaims (payload : List UInt8) : Blames Fault.isOfReading (payloadClaims payload) := by
  unfold payloadClaims
  split
  · exact blames_ok _
  · exact blames_error rfl
  · exact blames_error rfl

theorem named_eq_ok_iff {claims : Claims} {user : Json} :
    named claims = .ok user ↔ subject? claims = some user := by
  unfold named
  cases subject? claims with
  | some other => exact ⟨fun h => by cases h; rfl, fun h => by cases h; rfl⟩
  | none => exact ⟨nofun, nofun⟩

theorem blames_named (claims : Claims) : Blames Fault.isOfReading (named claims) := by
  unfold named
  split
  · exact blames_ok _
  · exact blames_error rfl

theorem blames_examine (codec : Codec) (now : Instant) (payload : List UInt8) :
    Blames Fault.isOfPayload (examine codec now payload) :=
  ((blames_payloadClaims payload).mono Fault.isOfPayload_of_isOfReading).bind fun claims =>
    (blames_checkClaims codec.issuer now.wholeSeconds claims).bind fun _ =>
      (blames_named claims).mono Fault.isOfPayload_of_isOfReading

/-! ## Verification -/

def namesAlgorithm (codec : Codec) (s : Segments) : Bool :=
  match Json.find? s.header "alg" with
  | some (.text a) => a == codec.algorithm.name
  | _ => false

theorem namesAlgorithm_iff {s : Segments} : namesAlgorithm codec s = true ↔
    Json.find? s.header "alg" = some (.text codec.algorithm.name) := by
  unfold namesAlgorithm
  split
  · rename_i a ha
    rw [ha, beq_iff_eq]
    exact ⟨fun h => by rw [h], fun h => by cases h; rfl⟩
  · rename_i h
    exact ⟨fun hf => (by cases hf), fun hs => absurd hs (h _)⟩

theorem verify_eq (codec : Codec) (now : Instant) (token : String) : codec.verify now token =
    match segments? token with
    | none => .error .malformed
    | some s =>
      (require (namesAlgorithm codec s) .invalid).bind fun _ => (keyValues codec.secret).bind fun keys =>
        (matchesKey codec.algorithm s.signed s.signature keys).bind fun authentic =>
          (require authentic .invalid).bind fun _ => examine codec now s.payload := rfl

theorem verify_addressed (hraw : IsRaw codec.secret) {s : Segments} (h : Addressed codec token s) :
    codec.verify now token =
      (matchesKey codec.algorithm s.signed s.signature [.text codec.secret]).bind fun authentic =>
        (require authentic .invalid).bind fun _ => examine codec now s.payload := by
  rw [verify_eq, h.segments]
  simp only [namesAlgorithm_iff.mpr h.algorithm, keyValues_raw hraw]
  rfl

theorem verify_unaddressed (h : ∀ s, ¬ Addressed codec token s) :
    ∃ fault, codec.verify now token = .error fault ∧ fault.isVerdict = true := by
  rw [verify_eq]
  cases hs : segments? token with
  | none => exact ⟨.malformed, rfl, rfl⟩
  | some s =>
    cases halg : namesAlgorithm codec s with
    | true => exact absurd ⟨hs, namesAlgorithm_iff.mp halg⟩ (h s)
    | false => exact ⟨.invalid, by simp only [halg]; rfl, rfl⟩

theorem verify_authentic (hraw : IsRaw codec.secret) {s : Segments} (h : Authentic codec token s) :
    codec.verify now token = examine codec now s.payload := by
  rw [verify_addressed hraw h.toAddressed, matchesKey_own h.usable, decide_eq_true h.signature]
  rfl

theorem verify_accepts (hraw : IsRaw codec.secret) {user : Json} (h : Accepts codec now token user) :
    codec.verify now token = .ok user := by
  obtain ⟨s, claims, ha, hp, hh, hs⟩ := h
  rw [verify_authentic hraw ha, examine_ok hp, checkClaims_hold hh]
  simp only [Except.bind, named, hs]

theorem verify_derails (hraw : IsRaw codec.secret) (h : Derails codec now token) :
    ∃ fault, codec.verify now token = .error fault ∧ fault.isVerdict = false := by
  cases h with
  | key s ha hk =>
    refine ⟨.keyRefused, ?_, rfl⟩
    rw [verify_addressed hraw ha, matchesKey_foreign hk]
    rfl
  | depth s ha hp => exact ⟨.claimDepth, by rw [verify_authentic hraw ha, examine_tooDeep hp], rfl⟩
  | claims s claims ha hp hd =>
    obtain ⟨fault, hc, hn⟩ := checkClaims_derail codec.issuer hd
    exact ⟨fault, by rw [verify_authentic hraw ha, examine_ok hp, hc]; rfl, hn⟩

/-- Every token is accepted, or verification breaks off, or there is a verdict against it. -/
theorem verify_cases (hraw : IsRaw codec.secret) (now : Instant) (token : String) :
    (∃ user, codec.verify now token = .ok user ∧ Accepts codec now token user) ∨
      (∃ fault, codec.verify now token = .error fault ∧ fault.isVerdict = false) ∧
        Derails codec now token ∨
      ∃ fault, codec.verify now token = .error fault ∧ fault.isVerdict = true := by
  by_cases ha : ∃ s, Addressed codec token s
  · obtain ⟨s, ha⟩ := ha
    -- a foreign key is refused before the signature is looked at
    cases hk : isForeignKey codec.secret with
    | true =>
      have hd : Derails codec now token := .key s ha hk
      exact .inr (.inl ⟨verify_derails hraw hd, hd⟩)
    | false =>
      by_cases hm : Hmac.mac codec.algorithm.variant (Utf8.encode codec.secret) s.signed = s.signature
      · have hauth : Authentic codec token s := ⟨ha, hk, hm⟩
        rw [verify_authentic hraw hauth]
        rcases examine_cases codec now s.payload with
          ⟨claims, user, he, hp, hh, hs⟩ | ⟨he, hp | ⟨claims, hp, hd⟩⟩ | he
        · exact .inl ⟨user, he, s, claims, hauth, hp, hh, hs⟩
        · exact .inr (.inl ⟨he, .depth s hauth hp⟩)
        · exact .inr (.inl ⟨he, .claims s claims hauth hp hd⟩)
        · exact .inr (.inr he)
      · refine .inr (.inr ⟨.invalid, ?_, rfl⟩)
        rw [verify_addressed hraw ha, matchesKey_own hk, decide_eq_false hm]
        rfl
  · exact .inr (.inr (verify_unaddressed fun s hs => ha ⟨s, hs⟩))

end

end Gatehouse.Token
