import Gatehouse.Proofs.Http.Reach
import Gatehouse.Proofs.Service.BestEffort

/-!
# The logout clears the cookies

A logout ends the session of its caller if it can, and clears both cookies. Neither the cache nor a token
that does not hold is in its way; only a token on which the gate itself fails is.
-/

namespace Gatehouse

open Run Service

/-! ## Who logs out -/

section
variable {s : Service} {codec : Token.Codec} {token : String}

theorem Gate.exec_recognize_settles (hsettled : s.IsSettled) (hworks : s.fault? .userById = none)
    (hraw : Token.IsRaw codec.secret) (h : ¬ Upsets codec s.now token) :
    ∃ answer, (recognize codec token).exec s = (.ok answer, s) := by
  by_cases hempty : token = ""
  · subst hempty
    exact ⟨_, rfl⟩
  · rcases subject_cases hraw s.now token with ⟨user, hnames⟩ | hupsets | hinvalid
    · exact ⟨_, exec_recognize_names hsettled hworks hraw hnames⟩
    · exact absurd hupsets h
    · exact ⟨_, exec_recognize_invalid hsettled hworks hempty hinvalid⟩

theorem Gate.not_upsets_of_verify (hraw : Token.IsRaw codec.secret) {now : Instant} {user : Uuid}
    (h : codec.verify now token = .ok (.text user.text)) : ¬ Upsets codec now token := by
  intro hupsets
  obtain ⟨failure, hsubject⟩ := subject_upsets hraw hupsets
  unfold subject at hsubject
  rw [h] at hsubject
  simp only [Uuid.read_text] at hsubject
  cases hsubject

end

namespace Http

section
variable {settings : Settings} {r : Request} {s t : Service}

def clearing (settings : Settings) (r : Request) (found : Option Caller) : Run Response := do
  match found with
  | some caller => TokenData.logout caller.id.text ((r.cookie? Cookie.sealedName).getD "")
  | none => pure ()
  withCookies (Cookie.cleared? settings.cookies) (.message "Logout successful")

theorem logout_eq (settings : Settings) (r : Request) :
    logout settings r = caller? settings r >>= clearing settings r := by
  unfold logout clearing
  rfl

/-- Whatever becomes of the cached session, the cookies are cleared wherever they could be set. -/
theorem exec_clearing (settings : Settings) (r : Request) (found : Option Caller) (s : Service) :
    ∃ t, (clearing settings r found).exec s =
      (withCookies (Cookie.cleared? settings.cookies) (.message "Logout successful")).exec t := by
  cases found with
  | none => exact ⟨s, rfl⟩
  | some caller =>
    obtain ⟨t, hended, -⟩ :=
      TokenData.logout_foregone caller.id.text ((r.cookie? Cookie.sealedName).getD "") s
    exact ⟨t, exec_bind_ok hended _⟩

theorem exec_caller?_settles (hsettled : s.IsSettled) (hworks : s.fault? .userById = none)
    (hraw : Token.IsRaw settings.codec.secret)
    (h : ∀ token, r.token? = some token → ¬ Gate.Upsets settings.codec s.now token) :
    ∃ found, (caller? settings r).exec s = (.ok found, s) := by
  unfold Http.caller?
  cases htoken : r.token? with
  | none => exact ⟨none, rfl⟩
  | some token =>
    obtain ⟨answer, hknown⟩ := Gate.exec_recognize_settles hsettled hworks hraw (h token htoken)
    exact ⟨answer.toOption, exec_bind_ok hknown _⟩

theorem exec_caller?_fails {token : String} {failure : Failure} (htoken : r.token? = some token)
    (h : (Gate.recognize settings.codec token).exec s = (.error failure, t)) :
    (caller? settings r).exec s = (.error failure, t) := by
  unfold Http.caller?
  rw [htoken]
  exact exec_bind_error h _

theorem handle_logout (hroute : resolve r = .found .logout) :
    handle settings r = caller? settings r >>= clearing settings r := by
  rw [handle_found hroute]
  exact logout_eq settings r

theorem serve_logout_crashes (hroute : resolve r = .found .logout) {token : String} {failure : Failure}
    (htoken : r.token? = some token)
    (h : (Gate.recognize settings.codec token).exec s = (.error failure, t)) :
    serve settings r s = ((.crashed, some failure), t) := by
  rw [serve_eq (preflight?_of_found hroute _), handle_logout hroute,
    exec_bind_error (exec_caller?_fails htoken h)]

end

/-- **When a logout succeeds.** Both cookies are cleared if the domain they are cleared for can be sent and
no token upsets the gate, and only then. The cache may do what it likes. -/
theorem logout_succeeds_iff {settings : Settings} {r : Request} {s : Service} (hsettled : s.IsSettled)
    (hworks : s.fault? .userById = none) (hraw : Token.IsRaw settings.codec.secret)
    (hroute : resolve r = .found .logout) :
    (∃ t, serve settings r s = ((settings.cors.answer r (loggedOut settings), none), t)) ↔
      (∀ d, settings.cookies.domain = some d → Cookie.isSendable ("Domain=" ++ d) = true) ∧
        ∀ token, r.token? = some token → ¬ Gate.Upsets settings.codec s.now token := by
  simp only [serve_eq_ok_iff (preflight?_of_found hroute _), handle_logout hroute]
  constructor
  · rintro ⟨t, response, hdone, -⟩
    obtain ⟨found, u, hfound, hcleared⟩ := exec_bind_eq_ok.mp hdone
    obtain ⟨v, hclearing⟩ := exec_clearing settings r found u
    obtain ⟨headers, hheaders, -⟩ := withCookies_eq_ok (hclearing.symm.trans hcleared)
    refine ⟨(Cookie.cleared?_eq_some_iff.mp hheaders).2, fun token htoken hupsets => ?_⟩
    obtain ⟨failure, hfails⟩ := Gate.exec_recognize_upsets hsettled hworks hraw hupsets
    cases (exec_caller?_fails htoken hfails).symm.trans hfound
  · rintro ⟨hdomain, hcalm⟩
    obtain ⟨found, hfound⟩ := exec_caller?_settles hsettled hworks hraw hcalm
    obtain ⟨t, hclearing⟩ := exec_clearing settings r found s
    refine ⟨t, loggedOut settings, ?_, rfl⟩
    rw [exec_bind_ok hfound, hclearing, Cookie.cleared?_eq_some_iff.mpr ⟨rfl, hdomain⟩]
    rfl

/-- The cache is away: the visitor logs out all the same. -/
theorem visitor_logs_out : ∃ r : Request, resolve r = .found .logout ∧
    r.cookie? Cookie.sealedName = some "s" ∧
    ∃ t, serve Login.minute r (neighbours.arm .cacheDelete (.breaks .connection)) =
      ((Login.minute.cors.answer r (loggedOut Login.minute), none), t) := by
  obtain ⟨token, hissue⟩ : ∃ token, Login.minute.codec.issue 0 Gate.visitor.id.text none = .ok token :=
    ⟨_, Token.issue_sealed _ (by decide) (by decide +kernel)⟩
  have hraw : Token.IsRaw Login.minute.codec.secret := by decide +kernel
  let r : Request := .returning "POST" "/auth/logout"
    (sessionCookies Login.minute ⟨token, "s", ⟨"", "", "", "", none, none, none, []⟩⟩)
  have hbare : Cookie.IsBareword "s" := by
    intro c hc
    cases List.mem_singleton.mp hc
    decide
  obtain ⟨haccess, hsealed⟩ := Request.cookie?_of_brings (r := r) (Cookie.isBareword_issued hissue) hbare
    (Request.brings_returning "POST" "/auth/logout" _)
  have hverify : Login.minute.codec.verify 0 token = .ok (.text Gate.visitor.id.text) :=
    Token.verify_issued hraw (by decide) hissue Gate.visitor.id.text_ne_empty (by decide) (by decide)
  have hsome : token ≠ "" := by
    rintro rfl
    cases hverify
  have htoken : r.token? = some token := Request.token?_of_cookie haccess hsome
  have hcalm : ∀ given, r.token? = some given → ¬ Gate.Upsets Login.minute.codec 0 given := by
    intro given hgiven
    cases htoken.symm.trans hgiven
    exact Gate.not_upsets_of_verify hraw hverify
  have hsettled : (neighbours.arm .cacheDelete (.breaks .connection)).IsSettled := rfl
  refine ⟨r, rfl, hsealed, (logout_succeeds_iff hsettled rfl hraw rfl).mpr ⟨?_, hcalm⟩⟩
  intro d hd
  cases hd

/-- A bearer token correctly signed for `{"exp": null}`: the logout crashes, and no cookie is cleared. -/
theorem logout_crashes_on_null_expiry :
    let token := "eyJhbGciOiJIUzI1NiIsInR5cCI6IkpXVCJ9.eyJleHAiOm51bGx9." ++
      "xeZcVBqtZt1I-AFUNceQEpHdBEMmC5QisrJNukawhbs"
    let r : Request := ⟨"POST", "/auth/logout", [("authorization", "Bearer " ++ token)], ""⟩
    let s := Service.start 1700000000000000
    Token.IsRaw Login.minute.codec.secret ∧ s.IsSettled ∧ s.fault? .userById = none ∧
      Login.minute.cookies.domain = none ∧ resolve r = .found .logout ∧
      (serve Login.minute r s).1.1.status = 500 ∧ (serve Login.minute r s).1.1.setCookies = [] ∧
      (serve Login.minute r s).1.2 = some (.token .claimShape) := by
  intro token r s
  have hfails : ((Gate.recognize Login.minute.codec token).exec s).1 = .error (.token .claimShape) := by
    decide +kernel
  have hroute : resolve r = .found .logout := by decide +kernel
  have htoken : r.token? = some token := by decide +kernel
  rcases hgate : (Gate.recognize Login.minute.codec token).exec s with ⟨answer, t⟩
  rw [hgate] at hfails
  obtain rfl : answer = .error (.token .claimShape) := hfails
  have hcrashes := serve_logout_crashes hroute htoken hgate
  refine ⟨by decide +kernel, rfl, rfl, rfl, hroute, ?_, ?_, ?_⟩
  · rw [hcrashes]
    rfl
  · rw [hcrashes]
    rfl
  · rw [hcrashes]

end Http

end Gatehouse
