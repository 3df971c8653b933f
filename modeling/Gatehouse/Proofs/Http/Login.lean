import Gatehouse.Http.Server
import Gatehouse.Proofs.Account.Session
import Gatehouse.Proofs.Envelope
import Gatehouse.Proofs.Http.Cookie
import Gatehouse.Proofs.Token.RoundTrip

/-!
# What a login sets

A login that is answered with success has run to its end, shows the user it has identified, and sets a
token and its seal as cookies. Neither holds a character that a cookie could change.
-/

namespace Gatehouse

open Run

/-! ## Barewords -/

namespace Cookie

theorem isBare_digit : ∀ v < 64, isBare (Base64.digit v) = true ∧ Blank.isBlank (Base64.digit v) = false := by
  decide

theorem IsBareword.append {front back : String} (h : IsBareword front) (k : IsBareword back) :
    IsBareword (front ++ back) := by
  intro c hc
  rw [String.toList_append, List.mem_append] at hc
  rcases hc with hc | hc
  · exact h c hc
  · exact k c hc

theorem isBareword_encodeBare (bytes : List UInt8) : IsBareword (Base64.encodeBare bytes) := by
  intro c hc
  rw [Base64.encodeBare, String.toList_ofList] at hc
  obtain ⟨v, hv, rfl⟩ := Base64.exists_of_mem_encode hc
  exact isBare_digit v hv

theorem isBareword_encodePadded (bytes : List UInt8) : IsBareword (Base64.encodePadded bytes) := by
  intro c hc
  rw [Base64.encodePadded, String.toList_ofList, Base64.encode_padded, List.mem_append] at hc
  rcases hc with hc | hc
  · obtain ⟨v, hv, rfl⟩ := Base64.exists_of_mem_encode hc
    exact isBare_digit v hv
  · rw [(List.mem_replicate.mp hc).2]
    decide

theorem isBareword_issued {codec : Token.Codec} {now : Instant} {user token : String}
    {ttl : Option Duration.Span} (h : codec.issue now user ttl = .ok token) : IsBareword token := by
  have hdot : IsBareword "." := by
    intro c hc
    cases List.mem_singleton.mp hc
    decide
  obtain ⟨-, -, rfl⟩ := Token.issue_eq_ok h
  exact (((isBareword_encodeBare _).append hdot).append (isBareword_encodeBare _)).append hdot
    |>.append (isBareword_encodeBare _)

theorem isBareword_wrapped {key : Envelope.Key} {nonce : List UInt8} {token sealed : String}
    (h : Envelope.wrap key nonce token = .ok sealed) : IsBareword sealed := by
  rw [Envelope.wrap_eq_ok h]
  exact isBareword_encodePadded _

end Cookie

/-! ## Answers with success -/

namespace Http

variable {α : Type} {settings : Settings} {s t : Service} {r : Request} {response : Response}

theorem refused_status {refusal : Refusal} (h : (refused refusal).exec s = (.ok response, t)) :
    response.status ≠ 200 := by
  cases refusal <;> cases h <;> decide

theorem withBody_succeeds {next : Content → Run Response} (h : (withBody r next).exec s = (.ok response, t))
    (hstatus : response.status = 200) :
    ∃ content, parse r = .ok content ∧ (next content).exec s = (.ok response, t) := by
  unfold withBody at h
  split at h
  · rename_i content hparse
    exact ⟨content, hparse, h⟩
  · cases h
    cases hstatus
  · cases h
    cases hstatus

theorem withFields_succeeds {read : Shape.Fields → Shape.Checked α} {content : Content}
    {next : α → Run Response} (h : (withFields read content next).exec s = (.ok response, t))
    (hstatus : response.status = 200) :
    ∃ a, readBody read content = .ok a ∧ (next a).exec s = (.ok response, t) := by
  unfold withFields at h
  split at h
  · rename_i a hread
    exact ⟨a, hread, h⟩
  · simp only [report] at h
    split at h
    · cases h
    · split at h
      · cases h
      · cases h
        cases hstatus

theorem respond_succeeds {answer : Answer α} {f : α → Run Response}
    (h : (respond answer f).exec s = (.ok response, t)) (hstatus : response.status = 200) :
    ∃ a, answer = .ok a ∧ (f a).exec s = (.ok response, t) := by
  cases answer with
  | ok a => exact ⟨a, rfl, h⟩
  | error refusal => exact absurd hstatus (refused_status h)

theorem withCookies_eq_ok {cookies : Option (List String)} {first : Response}
    (h : (withCookies cookies first).exec s = (.ok response, t)) :
    ∃ headers, cookies = some headers ∧ response = { first with setCookies := headers } ∧ s = t := by
  cases cookies with
  | none => cases h
  | some headers =>
    cases h
    exact ⟨headers, rfl, rfl, rfl⟩

/-! ## The login -/

def sessionCookies (settings : Settings) (session : Login.Response) : List String :=
  let maxAge := Duration.seconds settings.codec.ttl
  [Cookie.header settings.cookies Cookie.accessName session.accessToken maxAge,
    Cookie.header settings.cookies Cookie.sealedName session.sealedToken maxAge]

theorem login_succeeds (h : (login settings r).exec s = (.ok response, t)) (hstatus : response.status = 200) :
    ∃ content request session, parse r = .ok content ∧ readBody login.fields content = .ok request ∧
      (Login.run settings request true).exec s = (.ok (.ok session), t) ∧
      response.body = .json (.object [("message", .text "Login successful"), ("user", session.user.toJson)]) ∧
      response.setCookies = sessionCookies settings session ∧ response.setCookies.all Cookie.isSendable := by
  obtain ⟨content, hparse, h⟩ := withBody_succeeds h hstatus
  obtain ⟨request, hread, h⟩ := withFields_succeeds h hstatus
  obtain ⟨answer, u, hrun, h⟩ := exec_bind_eq_ok.mp h
  obtain ⟨session, rfl, h⟩ := respond_succeeds h hstatus
  obtain ⟨headers, hheaders, rfl, rfl⟩ := withCookies_eq_ok h
  obtain ⟨hset, hsent⟩ := Cookie.session?_eq_some.mp hheaders
  exact ⟨content, request, session, hparse, hread, hrun, rfl, hset, hsent⟩

theorem exec_login {content : Content} {request : Login.Request} {session : Login.Response}
    (hparse : parse r = .ok content) (hread : readBody login.fields content = .ok request)
    (hrun : (Login.run settings request true).exec s = (.ok (.ok session), t))
    (hsent : (sessionCookies settings session).all Cookie.isSendable = true) :
    (login settings r).exec s = (.ok
      { Response.ofJson 200 (.object [("message", .text "Login successful"), ("user", session.user.toJson)]) with
        setCookies := sessionCookies settings session }, t) := by
  have hcookies : Cookie.session? settings.cookies session.accessToken session.sealedToken
      (Duration.seconds settings.codec.ttl) = some (sessionCookies settings session) :=
    Cookie.session?_eq_some.mpr ⟨rfl, hsent⟩
  unfold login withBody
  rw [hparse]
  simp only [withFields, hread]
  rw [exec_bind_ok hrun, respond, hcookies]
  rfl

/-- A session that was handed out can be set wherever the domain can. -/
theorem isSendable_sessionCookies {session : Login.Response} (haccess : Cookie.IsBareword session.accessToken)
    (hsealed : Cookie.IsBareword session.sealedToken)
    (hage : Cookie.isSendable ("Max-Age=" ++ toString (Duration.seconds settings.codec.ttl)) = true)
    (hdomain : ∀ d, settings.cookies.domain = some d → Cookie.isSendable ("Domain=" ++ d) = true) :
    (sessionCookies settings session).all Cookie.isSendable = true := by
  have haccessName : Cookie.isSendable Cookie.accessName = true := by decide
  have hsealedName : Cookie.isSendable Cookie.sealedName = true := by decide
  have hfirst := Cookie.isSendable_header (Cookie.isSendable_pair haccessName haccess) hage hdomain
  have hsecond := Cookie.isSendable_header (Cookie.isSendable_pair hsealedName hsealed) hage hdomain
  simp only [sessionCookies, List.all_cons, List.all_nil, hfirst, hsecond]
  rfl

end Http

end Gatehouse
