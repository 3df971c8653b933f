import Gatehouse.Proofs.Account.Refused
import Gatehouse.Proofs.Http.Logout
import Gatehouse.Proofs.Http.Session

/-!
# Refused logins look alike

Who has no account, who had one and who cannot open the one that is there all get the same response, and
the same line is logged for them. Nothing else happens that would tell them apart. What the response says to
pages of other origins depends on the origin that was named, and on nothing that was found.
-/

namespace Gatehouse.Http

open Run Service

variable {settings : Settings} {s t : Service} {r : Request}

/-! ## The refusal -/

def unproven : Response :=
  .ofJson 401 (Response.errorJson "INVALID_CREDENTIALS" "Invalid email or password")

def unprovenLine : LogLine :=
  ⟨.warning, "Client error: \x7b'code': 'INVALID_CREDENTIALS', 'message': 'Invalid email or password'\x7d"⟩

theorem exec_refused_unproven (s : Service) :
    (refused .invalidCredentials).exec s = (.ok unproven, { s with logs := s.logs ++ [unprovenLine] }) := by
  have hcode : Quoted.quoted "INVALID_CREDENTIALS" = "'INVALID_CREDENTIALS'" := by decide +kernel
  have hmessage : Quoted.quoted "Invalid email or password" = "'Invalid email or password'" := by
    decide +kernel
  have hline : "Client error: \x7b'code': " ++ Quoted.quoted Refusal.invalidCredentials.code ++
      ", 'message': " ++ Quoted.quoted Refusal.invalidCredentials.message ++ "\x7d" = unprovenLine.message := by
    rw [Refusal.code, Refusal.message, hcode, hmessage]
    decide
  rw [refused, hline]
  rfl

theorem exec_login_refused {content : Content} {request : Login.Request} {refusal : Refusal}
    (hparse : parse r = .ok content) (hread : readBody login.fields content = .ok request)
    (hrun : (Login.run settings request true).exec s = (.ok (.error refusal), t)) :
    (login settings r).exec s = (refused refusal).exec t := by
  unfold login withBody
  rw [hparse]
  simp only [withFields, hread]
  rw [exec_bind_ok hrun, respond]

/-! ## Two logins -/

/-- A well-formed login whose credentials prove nothing, at a service that can look its user up. -/
structure ProvesNothing (s : Service) (r : Request) : Prop where
  settled : s.IsSettled
  byEmail : s.fault? .userByEmail = none
  provider : s.fault? .providerOf = none
  route : resolve r = .found .login
  login : ∃ content request, parse r = .ok content ∧ readBody login.fields content = .ok request ∧
    Login.Unproven s.store request

theorem ProvesNothing.serve (h : ProvesNothing s r) (settings : Settings) : serve settings r s =
    ((settings.cors.answer r unproven, none), { s with logs := s.logs ++ [unprovenLine] }) := by
  obtain ⟨content, request, hparse, hread, hunproven⟩ := h.login
  have hrun := Login.exec_run_decided h.settled h.byEmail h.provider
    (Login.decided_invalid_iff.mpr hunproven) settings true
  refine (serve_eq_ok_iff (preflight?_of_found h.route _)).mpr ⟨unproven, ?_, rfl⟩
  rw [handle_found h.route, perform, exec_login_refused hparse hread hrun]
  exact exec_refused_unproven s

/-- Two responses that differ in no more than what they say to pages of other origins. -/
structure Response.Alike (a b : Response) : Prop where
  status : a.status = b.status
  body : a.body = b.body
  setCookies : a.setCookies = b.setCookies
  headers : ∀ name, name ∉ Cors.markNames → a.headers.lookup name = b.headers.lookup name

theorem Cors.answers_alike (c₁ c₂ : Cors) (r₁ r₂ : Request) (response : Response) :
    (c₁.answer r₁ response).Alike (c₂.answer r₂ response) where
  status := by rw [status_answer, status_answer]
  body := by rw [body_answer, body_answer]
  setCookies := by rw [setCookies_answer, setCookies_answer]
  headers name h := by rw [lookup_answer h, lookup_answer h]

/-- **Refused logins look alike.** Whichever reason two logins have for proving nothing, they get one response,
and one line is logged and nothing else changed for both. The responses are the same in all their headers
if the requests name the same origin, and if they do not, in all that are not meant for pages of other origins. -/
theorem refused_logins_alike {s₁ s₂ : Service} {r₁ r₂ : Request} (h₁ : ProvesNothing s₁ r₁)
    (h₂ : ProvesNothing s₂ r₂) (settings₁ settings₂ : Settings) :
    (settings₁.cors = settings₂.cors → settings₁.cors.Alike r₁ r₂ →
      (serve settings₁ r₁ s₁).1 = (serve settings₂ r₂ s₂).1) ∧
    (serve settings₁ r₁ s₁).1.1.Alike (serve settings₂ r₂ s₂).1.1 ∧
    (serve settings₁ r₁ s₁).1 = (settings₁.cors.answer r₁ unproven, none) ∧
    (serve settings₂ r₂ s₂).1 = (settings₂.cors.answer r₂ unproven, none) ∧
    ∃ lines, (serve settings₁ r₁ s₁).2 = { s₁ with logs := s₁.logs ++ lines } ∧
      (serve settings₂ r₂ s₂).2 = { s₂ with logs := s₂.logs ++ lines } := by
  rw [h₁.serve settings₁, h₂.serve settings₂]
  refine ⟨fun hcors halike => ?_, Cors.answers_alike _ _ _ _ unproven, rfl, rfl, [unprovenLine], rfl, rfl⟩
  rw [halike.answer unproven, hcors]

/-- The visitor is there, with a hash that is none. -/
def garbled : Service :=
  let rows := { Store.empty with
    users := [Gate.visitor]
    providers := [⟨.counted 2, Gate.visitor.id, .localPassword, "ann@example.com", none, none,
      some "$2b$10$garbled", true, none, none⟩] }
  { Service.start 0 with store := rows, transaction := ⟨rows, false⟩ }

def annLoginFrom (origin : String) : Request :=
  { annLogin with headers := annLogin.headers ++ [("origin", origin)] }

theorem parse_congr {r₁ r₂ : Request} (hbody : r₁.body = r₂.body)
    (htype : r₁.header? "content-type" = r₂.header? "content-type") : parse r₁ = parse r₂ := by
  unfold parse
  rw [hbody, htype]

theorem resolve_congr {r₁ r₂ : Request} (hmethod : r₁.method = r₂.method) (hpath : r₁.path = r₂.path) :
    resolve r₁ = resolve r₂ := by
  unfold resolve
  rw [hmethod, hpath]

theorem parse_annLoginFrom (origin : String) : parse (annLoginFrom origin) = .ok (.json annBody) := by
  have htype : (annLoginFrom origin).header? "content-type" = annLogin.header? "content-type" := by
    simp [Request.header?, annLoginFrom, annLogin]
  have hbody : (annLoginFrom origin).body = annLogin.body := rfl
  rw [parse_congr hbody htype]
  exact parse_annLogin

theorem resolve_annLoginFrom (origin : String) : resolve (annLoginFrom origin) = .found .login := by
  have hmethod : (annLoginFrom origin).method = annLogin.method := rfl
  have hpath : (annLoginFrom origin).path = annLogin.path := rfl
  rw [resolve_congr hmethod hpath]
  exact resolve_annLogin

theorem annLogin_proves_nothing {s : Service} (hsettled : s.IsSettled) (hunarmed : s.faults = [])
    (h : Login.Unproven s.store ⟨"ann@example.com", .whole "Passw0rd!"⟩) (origin : String) :
    ProvesNothing s annLogin ∧ ProvesNothing s (annLoginFrom origin) := by
  have hquiet : ∀ call, s.fault? call = none := by
    intro call
    rw [fault?, hunarmed]
    rfl
  exact ⟨⟨hsettled, hquiet _, hquiet _, resolve_annLogin, _, _, parse_annLogin, read_annBody, h⟩,
    ⟨hsettled, hquiet _, hquiet _, resolve_annLoginFrom origin, _, _, parse_annLoginFrom origin, read_annBody, h⟩⟩

theorem garbled_unproven : Login.Unproven garbled.store ⟨"ann@example.com", .whole "Passw0rd!"⟩ := by
  have hwrong : ∀ plain, RawText.whole "Passw0rd!" = .whole plain →
      Password.verify plain "$2b$10$garbled" = false := by
    intro plain hplain
    cases hplain
    decide +kernel
  exact .mismatched rfl rfl rfl rfl hwrong

/-- Nobody has an account here, and the hash of the only account is garbled there. A page that is let in cannot
tell one from the other, and no more can who names no origin. -/
theorem unknown_garbled_alike :
    let page := "https://app.example.com"
    let settings : Settings := { Login.minute with cors := ⟨[page], true⟩ }
    ProvesNothing (Service.start 0) annLogin ∧ ProvesNothing garbled annLogin ∧
      (serve settings annLogin (Service.start 0)).1 = (serve settings annLogin garbled).1 ∧
      (serve settings (annLoginFrom page) (Service.start 0)).1 = (serve settings (annLoginFrom page) garbled).1 ∧
      (settings.cors.answer (annLoginFrom page) unproven).headers.lookup "access-control-allow-origin" =
        some page := by
  intro page settings
  obtain ⟨hunknown, hunknown'⟩ := annLogin_proves_nothing (s := .start 0) rfl rfl (.unknown rfl) page
  obtain ⟨hgarbled, hgarbled'⟩ := annLogin_proves_nothing (s := garbled) rfl rfl garbled_unproven page
  exact ⟨hunknown, hgarbled,
    (refused_logins_alike hunknown hgarbled settings settings).1 rfl ⟨rfl, fun _ => rfl⟩,
    (refused_logins_alike hunknown' hgarbled' settings settings).1 rfl ⟨rfl, fun _ => rfl⟩, by decide +kernel⟩

/-- Of two refused logins one comes from a page and the other names no origin: by default, only the first response
says that pages may send cookies along. -/
theorem named_origin_shows :
    let page := annLoginFrom "https://app.example.com"
    let named := (serve Login.minute page (Service.start 0)).1.1
    let unnamed := (serve Login.minute annLogin garbled).1.1
    ProvesNothing (Service.start 0) page ∧ ProvesNothing garbled annLogin ∧
      named.headers.lookup "access-control-allow-credentials" = some "true" ∧
      unnamed.headers.lookup "access-control-allow-credentials" = none ∧ named ≠ unnamed := by
  intro page named unnamed
  have hpage : ProvesNothing (Service.start 0) page :=
    (annLogin_proves_nothing (s := .start 0) rfl rfl (.unknown rfl) "https://app.example.com").2
  have hnone : ProvesNothing garbled annLogin :=
    (annLogin_proves_nothing (s := garbled) rfl rfl garbled_unproven "https://app.example.com").1
  have hshown : named = Login.minute.cors.answer page unproven := by
    simp only [named, hpage.serve]
  have hplain : unnamed = Login.minute.cors.answer annLogin unproven := by
    simp only [unnamed, hnone.serve]
  have hnamed : named.headers.lookup "access-control-allow-credentials" = some "true" := by
    rw [hshown]
    decide +kernel
  have hunnamed : unnamed.headers.lookup "access-control-allow-credentials" = none := by
    rw [hplain]
    decide +kernel
  refine ⟨hpage, hnone, hnamed, hunnamed, fun heq => ?_⟩
  rw [heq, hunnamed] at hnamed
  cases hnamed

end Gatehouse.Http
