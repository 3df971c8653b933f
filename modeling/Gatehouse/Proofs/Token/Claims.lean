import Gatehouse.Token.Claims

/-!
# When claims hold

The claims that count at a second, said without an order of checks, and the claims on which the checks
break off without a verdict. Whatever is neither of the two is a verdict against the token.
-/

namespace Gatehouse.Token

/-! ## Kinds of faults -/

def Blames {α : Type} (kind : Fault → Bool) (r : Except Fault α) : Prop :=
  ∀ fault, r = .error fault → kind fault = true

def Fault.isOfReading : Fault → Bool
  | invalid | claimShape | claimInfinite | claimDepth => true
  | _ => false

def Fault.isOfPayload : Fault → Bool
  | expired => true
  | fault => fault.isOfReading

theorem Fault.isOfPayload_of_isOfReading {fault : Fault} (h : fault.isOfReading = true) :
    fault.isOfPayload = true := by
  cases fault <;> first | rfl | cases h

section
variable {α β : Type} {kind : Fault → Bool}

theorem blames_ok (a : α) : Blames kind (.ok a) := by
  intro fault h
  cases h

theorem blames_error {fault : Fault} (h : kind fault = true) : Blames kind (.error fault : Except Fault α) := by
  intro other hother
  cases hother
  exact h

theorem Blames.bind {r : Except Fault α} (h : Blames kind r) {f : α → Except Fault β}
    (hf : ∀ a, Blames kind (f a)) : Blames kind (r.bind f) := by
  cases r with
  | ok a => exact hf a
  | error fault => exact blames_error (h fault rfl)

theorem Blames.mono {wider : Fault → Bool} {r : Except Fault α} (h : Blames kind r)
    (hkinds : ∀ {fault}, kind fault = true → wider fault = true) : Blames wider r :=
  fun fault hfault => hkinds (h fault hfault)

theorem bind_eq_ok_iff {r : Except Fault α} {f : α → Except Fault β} {b : β} :
    r.bind f = .ok b ↔ ∃ a, r = .ok a ∧ f a = .ok b := by
  cases r with
  | ok a => exact ⟨fun h => ⟨a, rfl, h⟩, fun ⟨_, ha, h⟩ => by cases ha; exact h⟩
  | error => exact ⟨nofun, fun ⟨_, ha, _⟩ => nomatch ha⟩

/-- A fault of another kind comes from what follows. -/
theorem Blames.bind_eq_error {r : Except Fault α} (h : Blames kind r) {f : α → Except Fault β} {fault : Fault}
    (hother : kind fault = false) : r.bind f = .error fault ↔ ∃ a, r = .ok a ∧ f a = .error fault := by
  cases r with
  | ok a => exact ⟨fun hf => ⟨a, rfl, hf⟩, fun ⟨_, ha, hf⟩ => by cases ha; exact hf⟩
  | error own =>
    refine ⟨fun hf => ?_, fun ⟨_, ha, _⟩ => by cases ha⟩
    cases hf
    exact absurd (h fault rfl) (by rw [hother]; exact Bool.false_ne_true)

theorem blames_require (condition : Bool) {fault : Fault} (h : kind fault = true) :
    Blames kind (require condition fault) := by
  cases condition with
  | true => exact blames_ok ()
  | false => exact blames_error h

theorem require_eq_ok {condition : Bool} {fault : Fault} {u : Unit} (h : require condition fault = .ok u) :
    condition = true := by
  cases condition with
  | true => rfl
  | false => cases h

end

theorem blames_wholeNumber (v : Json) : Blames Fault.isOfReading (wholeNumber v) := by
  unfold wholeNumber
  split
  · exact blames_ok _
  · exact blames_ok _
  · exact blames_error rfl
  · split
    · exact blames_ok _
    · exact blames_error rfl
  · split
    · exact blames_ok _
    · exact blames_error rfl
  · exact blames_error rfl
  · exact blames_error rfl

theorem blames_timeClaim (claims : Claims) (name : String) : Blames Fault.isOfReading (timeClaim claims name) := by
  unfold timeClaim
  split
  · exact blames_ok _
  · rename_i v _
    exact (blames_wholeNumber v).bind fun n => blames_ok (some n)

/-! ## Time claims -/

/-- A value that is no number, no numeral and no other text: there is no rule for it. -/
def isShapeless : Json → Bool
  | .null | .array _ | .object _ | .tornObject _ | .real (.infinite _) => true
  | _ => false

theorem wholeNumber_shapeless {v : Json} (h : isShapeless v = true) :
    ∃ fault, wholeNumber v = .error fault ∧ fault.isVerdict = false := by
  cases v with
  | null => exact ⟨.claimShape, rfl, rfl⟩
  | array => exact ⟨.claimShape, rfl, rfl⟩
  | object => exact ⟨.claimShape, rfl, rfl⟩
  | tornObject => exact ⟨.claimShape, rfl, rfl⟩
  | real x =>
    cases x with
    | infinite => exact ⟨.claimInfinite, rfl, rfl⟩
    | finite => cases h
    | nan => cases h
  | _ => cases h

theorem wholeNumber_shaped {v : Json} (h : isShapeless v = false) :
    (∃ n, wholeNumber v = .ok n) ∨ wholeNumber v = .error .invalid := by
  cases v with
  | integer n => exact .inl ⟨n, rfl⟩
  | bool b => exact .inl ⟨_, rfl⟩
  | real x =>
    cases x with
    | nan => exact .inr rfl
    | finite => exact .inl ⟨_, rfl⟩
    | infinite => cases h
  | text s =>
    cases hn : Numeral.integer 10 s with
    | ok n => exact .inl ⟨n, by simp only [wholeNumber, hn]⟩
    | error => exact .inr (by simp only [wholeNumber, hn])
  | torn => exact .inr rfl
  | _ => cases h

section
variable {claims : Claims} {name : String}

theorem timeClaim_shapeless {v : Json} (hv : Json.find? claims name = some v)
    (h : isShapeless v = true) : ∃ fault, timeClaim claims name = .error fault ∧ fault.isVerdict = false := by
  obtain ⟨fault, hf, hverdict⟩ := wholeNumber_shapeless h
  refine ⟨fault, ?_, hverdict⟩
  simp only [timeClaim, hv, hf]
  rfl

theorem timeClaim_cases (claims : Claims) (name : String) :
    (∃ v, Json.find? claims name = some v ∧ isShapeless v = true) ∨
      (∃ t, timeClaim claims name = .ok t) ∨ timeClaim claims name = .error .invalid := by
  cases hv : Json.find? claims name with
  | none => exact .inr (.inl ⟨none, by simp only [timeClaim, hv]⟩)
  | some v =>
    cases hs : isShapeless v with
    | true => exact .inl ⟨v, rfl, hs⟩
    | false =>
      rcases wholeNumber_shaped hs with ⟨n, hn⟩ | hn
      · exact .inr (.inl ⟨some n, by simp only [timeClaim, hv, hn]; rfl⟩)
      · exact .inr (.inr (by simp only [timeClaim, hv, hn]; rfl))

end

def IsPast (claims : Claims) (name : String) (now : Int) : Prop :=
  ∃ t, timeClaim claims name = .ok t ∧ ∀ n ∈ t, n ≤ now

def IsAhead (claims : Claims) (name : String) (now : Int) : Prop :=
  ∃ t, timeClaim claims name = .ok t ∧ ∀ n ∈ t, now ≤ n

section
variable {claims : Claims} {name : String} {now later : Int}

theorem IsPast.mono (h : IsPast claims name now) (hlater : now ≤ later) : IsPast claims name later := by
  obtain ⟨t, ht, hpast⟩ := h
  exact ⟨t, ht, fun n hn => Int.le_trans (hpast n hn) hlater⟩

theorem IsAhead.mono (h : IsAhead claims name later) (hlater : now ≤ later) : IsAhead claims name now := by
  obtain ⟨t, ht, hahead⟩ := h
  exact ⟨t, ht, fun n hn => Int.le_trans hlater (hahead n hn)⟩

end

/-! ## All claims -/

structure Hold (issuer : String) (now : Int) (claims : Claims) : Prop where
  issued : ∃ t, timeClaim claims "iat" = .ok t
  begun : IsPast claims "nbf" now
  unexpired : IsAhead claims "exp" now
  audience : isAbsent claims "aud" = true
  issuer : Json.find? claims "iss" = some (.text issuer)
  subject : isTextOrAbsent claims "sub" = true
  identifier : isTextOrAbsent claims "jti" = true
  hash : isAbsent claims "at_hash" = true

/-- Claims that hold at two seconds hold between them. -/
theorem Hold.between {issuer : String} {first now last : Int} {claims : Claims}
    (hfirst : Hold issuer first claims) (hlast : Hold issuer last claims) (hbegun : first ≤ now)
    (hahead : now ≤ last) : Hold issuer now claims :=
  { hfirst with
    begun := hfirst.begun.mono hbegun
    unexpired := hlast.unexpired.mono hahead }

/-- The claims of a token that is over: it has begun, and its last second is past. -/
structure Overdue (now : Int) (claims : Claims) : Prop where
  issued : ∃ t, timeClaim claims "iat" = .ok t
  begun : IsPast claims "nbf" now
  expired : ∃ n < now, timeClaim claims "exp" = .ok (some n)

theorem Overdue.mono {now later : Int} {claims : Claims} (h : Overdue now claims) (hlater : now ≤ later) :
    Overdue later claims := by
  obtain ⟨hissued, hbegun, n, hn, hexp⟩ := h
  exact ⟨hissued, hbegun.mono hlater, n, Int.lt_of_lt_of_le hn hlater, hexp⟩

/-- The claims on which the checks break off: a time claim without a rule, reached because the claims
checked before it are in order. -/
inductive Derail (now : Int) (claims : Claims) : Prop
  | issued {v : Json} : Json.find? claims "iat" = some v → isShapeless v = true → Derail now claims
  | begun {t : Option Int} {v : Json} : timeClaim claims "iat" = .ok t →
      Json.find? claims "nbf" = some v → isShapeless v = true → Derail now claims
  | expiry {t : Option Int} {v : Json} : timeClaim claims "iat" = .ok t → IsPast claims "nbf" now →
      Json.find? claims "exp" = some v → isShapeless v = true → Derail now claims

/-! ## Checking -/

theorem require_cases (condition : Bool) {more : Except Fault Unit} {P : Prop}
    (h : more = .ok () ∧ P ∨ more = .error .invalid) :
    ((require condition .invalid).bind fun _ => more) = .ok () ∧ condition = true ∧ P ∨
      ((require condition .invalid).bind fun _ => more) = .error .invalid := by
  cases condition with
  | false => exact .inr rfl
  | true =>
    rcases h with ⟨hm, hp⟩ | hm
    · exact .inl ⟨hm, rfl, hp⟩
    · exact .inr hm

section
variable {issuer : String} {now : Int} {claims : Claims}

theorem time_cases (claims : Claims) (name : String) (bound : Option Int → Bool) (fault : Fault)
    (hv : fault.isVerdict = true) (more : Except Fault Unit) :
    let checked := (timeClaim claims name).bind fun t => (require (bound t) fault).bind fun _ => more
    (∃ v, Json.find? claims name = some v ∧ isShapeless v = true) ∧
        (∃ f, checked = .error f ∧ f.isVerdict = false) ∨
      (∃ t, timeClaim claims name = .ok t ∧ bound t = true) ∧ checked = more ∨
      ∃ f, checked = .error f ∧ f.isVerdict = true := by
  rcases timeClaim_cases claims name with ⟨v, hf, hs⟩ | ⟨t, ht⟩ | ht
  · obtain ⟨f, hc, hn⟩ := timeClaim_shapeless hf hs
    exact .inl ⟨⟨v, hf, hs⟩, f, by rw [hc]; rfl, hn⟩
  · rw [ht]
    cases hb : bound t with
    | true => exact .inr (.inl ⟨⟨t, rfl, hb⟩, by simp only [Except.bind, hb]; rfl⟩)
    | false => exact .inr (.inr ⟨fault, by simp only [Except.bind, hb]; rfl, hv⟩)
  · exact .inr (.inr ⟨.invalid, by rw [ht]; rfl, rfl⟩)

def checkParties (issuer : String) (claims : Claims) : Except Fault Unit := do
  require (isAbsent claims "aud") .invalid
  require (match Json.find? claims "iss" with | some (.text s) => s == issuer | _ => false) .invalid
  require (isTextOrAbsent claims "sub") .invalid
  require (isTextOrAbsent claims "jti") .invalid
  require (isAbsent claims "at_hash") .invalid

theorem checkParties_cases (issuer : String) (claims : Claims) :
    checkParties issuer claims = .ok () ∧ isAbsent claims "aud" = true ∧
        (match Json.find? claims "iss" with | some (.text s) => s == issuer | _ => false) = true ∧
        isTextOrAbsent claims "sub" = true ∧ isTextOrAbsent claims "jti" = true ∧
        isAbsent claims "at_hash" = true ∨
      checkParties issuer claims = .error .invalid := by
  refine require_cases _ (require_cases _ (require_cases _ (require_cases _ ?_)))
  cases isAbsent claims "at_hash"
  · exact .inr rfl
  · exact .inl ⟨rfl, rfl⟩

theorem issuer_of_match (h : (match Json.find? claims "iss" with
    | some (.text s) => s == issuer | _ => false) = true) : Json.find? claims "iss" = some (.text issuer) := by
  split at h
  · rename_i s hs
    rw [hs, beq_iff_eq.mp h]
  · cases h

def isPast (now : Int) : Option Int → Bool
  | some t => t ≤ now
  | none => true

def isAhead (now : Int) : Option Int → Bool
  | some t => now ≤ t
  | none => true

theorem isPast_iff {t : Option Int} : isPast now t = true ↔ ∀ n ∈ t, n ≤ now := by
  cases t <;> simp [isPast]

theorem isAhead_iff {t : Option Int} : isAhead now t = true ↔ ∀ n ∈ t, now ≤ n := by
  cases t <;> simp [isAhead]

theorem checkClaims_eq (issuer : String) (now : Int) (claims : Claims) :
    checkClaims issuer now claims =
      (timeClaim claims "iat").bind fun _ => (require true .invalid).bind fun _ =>
        (timeClaim claims "nbf").bind fun t => (require (isPast now t) .invalid).bind fun _ =>
          (timeClaim claims "exp").bind fun t => (require (isAhead now t) .expired).bind fun _ =>
            checkParties issuer claims := rfl

/-- Claims hold, or the checks break off, or the verdict is against the token. -/
theorem checkClaims_cases (issuer : String) (now : Int) (claims : Claims) :
    checkClaims issuer now claims = .ok () ∧ Hold issuer now claims ∨
      (∃ fault, checkClaims issuer now claims = .error fault ∧ fault.isVerdict = false) ∧
        Derail now claims ∨
      ∃ fault, checkClaims issuer now claims = .error fault ∧ fault.isVerdict = true := by
  -- in the order of the checks: each time claim is reached only if those before it are in order
  rw [checkClaims_eq]
  rcases time_cases claims "iat" (fun _ => true) .invalid rfl _ with
    ⟨⟨v, hv, hs⟩, hr⟩ | ⟨⟨t, ht, -⟩, hr⟩ | hr
  · exact .inr (.inl ⟨hr, .issued hv hs⟩)
  · rw [hr]
    rcases time_cases claims "nbf" (isPast now) .invalid rfl _ with
      ⟨⟨v, hv, hs⟩, hr⟩ | ⟨⟨begun, hb, hpast⟩, hr⟩ | hr
    · exact .inr (.inl ⟨hr, .begun ht hv hs⟩)
    · rw [hr]
      have hbegun : IsPast claims "nbf" now := ⟨begun, hb, isPast_iff.mp hpast⟩
      rcases time_cases claims "exp" (isAhead now) .expired rfl _ with
        ⟨⟨v, hv, hs⟩, hr⟩ | ⟨⟨expiry, he, hahead⟩, hr⟩ | hr
      · exact .inr (.inl ⟨hr, .expiry ht hbegun hv hs⟩)
      · rw [hr]
        rcases checkParties_cases issuer claims with ⟨hp, ha, hi, hsub, hj, hh⟩ | hp
        · exact .inl ⟨hp, ⟨t, ht⟩, hbegun, ⟨expiry, he, isAhead_iff.mp hahead⟩, ha,
            issuer_of_match hi, hsub, hj, hh⟩
        · exact .inr (.inr ⟨.invalid, hp, rfl⟩)
      · exact .inr (.inr hr)
    · exact .inr (.inr hr)
  · exact .inr (.inr hr)

theorem checkClaims_hold (h : Hold issuer now claims) : checkClaims issuer now claims = .ok () := by
  obtain ⟨⟨issued, hi⟩, ⟨begun, hb, hpast⟩, ⟨expiry, he, hahead⟩, ha, his, hs, hj, hh⟩ := h
  rw [checkClaims_eq, hi, hb, he]
  simp only [Except.bind, require, isPast_iff.mpr hpast, isAhead_iff.mpr hahead, checkParties, ha, his, hs,
    hj, hh, beq_self_eq_true, if_true, bind]

theorem blames_checkParties (issuer : String) (claims : Claims) :
    Blames Fault.isOfReading (checkParties issuer claims) := by
  rcases checkParties_cases issuer claims with ⟨h, -⟩ | h
  · rw [h]
    exact blames_ok ()
  · rw [h]
    exact blames_error rfl

theorem blames_checkClaims (issuer : String) (now : Int) (claims : Claims) :
    Blames Fault.isOfPayload (checkClaims issuer now claims) := by
  have htime : ∀ name, Blames Fault.isOfPayload (timeClaim claims name) :=
    fun name => (blames_timeClaim claims name).mono Fault.isOfPayload_of_isOfReading
  rw [checkClaims_eq]
  exact (htime "iat").bind fun _ => (blames_require _ rfl).bind fun _ =>
    (htime "nbf").bind fun _ => (blames_require _ rfl).bind fun _ =>
      (htime "exp").bind fun _ => (blames_require _ rfl).bind fun _ =>
        (blames_checkParties issuer claims).mono Fault.isOfPayload_of_isOfReading

theorem checkClaims_eq_ok_iff : checkClaims issuer now claims = .ok () ↔ Hold issuer now claims := by
  refine ⟨fun h => ?_, checkClaims_hold⟩
  rcases checkClaims_cases issuer now claims with ⟨-, hh⟩ | ⟨⟨fault, hc, -⟩, -⟩ | ⟨fault, hc, -⟩
  · exact hh
  · rw [hc] at h
    cases h
  · rw [hc] at h
    cases h

/-- Only the check of the expiry says that a token has expired, and only if all before it went well. -/
theorem checkClaims_eq_expired_iff : checkClaims issuer now claims = .error .expired ↔ Overdue now claims := by
  have hinvalid : ∀ condition, Blames Fault.isOfReading (require condition .invalid) :=
    fun condition => blames_require condition rfl
  rw [checkClaims_eq]
  constructor
  · intro h
    obtain ⟨issued, hi, h⟩ := ((blames_timeClaim claims "iat").bind_eq_error rfl).mp h
    obtain ⟨_, -, h⟩ := ((hinvalid _).bind_eq_error rfl).mp h
    obtain ⟨begun, hb, h⟩ := ((blames_timeClaim claims "nbf").bind_eq_error rfl).mp h
    obtain ⟨_, hpast, h⟩ := ((hinvalid _).bind_eq_error rfl).mp h
    obtain ⟨expiry, he, h⟩ := ((blames_timeClaim claims "exp").bind_eq_error rfl).mp h
    refine ⟨⟨issued, hi⟩, ⟨begun, hb, isPast_iff.mp (require_eq_ok hpast)⟩, ?_⟩
    cases expiry with
    | none => exact absurd (blames_checkParties issuer claims _ h) (by decide)
    | some n =>
      refine ⟨n, ?_, he⟩
      refine Int.not_le.mp fun hn => ?_
      have hahead : isAhead now (some n) = true := decide_eq_true hn
      rw [hahead] at h
      exact absurd (blames_checkParties issuer claims _ h) (by decide)
  · rintro ⟨⟨issued, hi⟩, ⟨begun, hb, hpast⟩, n, hn, he⟩
    have hahead : isAhead now (some n) = false := decide_eq_false (Int.not_le.mpr hn)
    rw [hi, hb, he]
    simp only [Except.bind, require, isPast_iff.mpr hpast, hahead, if_true]
    rfl

theorem checkClaims_derail (issuer : String) (h : Derail now claims) :
    ∃ fault, checkClaims issuer now claims = .error fault ∧ fault.isVerdict = false := by
  rw [checkClaims_eq]
  cases h with
  | issued hv hs =>
    obtain ⟨fault, hf, hn⟩ := timeClaim_shapeless hv hs
    exact ⟨fault, by rw [hf]; rfl, hn⟩
  | begun hi hv hs =>
    obtain ⟨fault, hf, hn⟩ := timeClaim_shapeless hv hs
    exact ⟨fault, by rw [hi, hf]; rfl, hn⟩
  | expiry hi hb hv hs =>
    obtain ⟨begun, hb, hpast⟩ := hb
    obtain ⟨fault, hf, hn⟩ := timeClaim_shapeless hv hs
    refine ⟨fault, ?_, hn⟩
    rw [hi, hb, hf]
    simp only [Except.bind, require, isPast_iff.mpr hpast, if_true]

end

end Gatehouse.Token
