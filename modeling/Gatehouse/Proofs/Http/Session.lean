import Gatehouse.Proofs.Account.Passwords
import Gatehouse.Proofs.Account.Presence
import Gatehouse.Proofs.Http.Login
import Gatehouse.Proofs.Session.Gate

/-!
# Sessions over HTTP

A client that sends back the cookies of a login is known as the user who has logged in, on every protected
route and for as long as the token holds, and a logout with them ends exactly the session that the login
has cached.
-/

namespace Gatehouse

open Run Service

/-! ## Issued tokens at the gate -/

theorem Store.Has.admission {s : Store} {caller : Caller} (h : s.Has caller) (hactive : caller.status = .active) :
    Gate.admission (s.userById? caller.id) = .ok caller := by
  obtain ⟨user, hfound, rfl⟩ := has_iff.mp h
  have huser : user.status = .active := hactive
  rw [hfound, Gate.admission, if_pos huser]

/-- A token of a caller who is there and active, at a moment at which it holds. -/
structure Token.Live (codec : Codec) (issued : Instant) (token : String) (caller : Caller) (s : Service) :
    Prop where
  calendar : Instant.first ≤ issued ∧ issued ≤ Instant.last
  issue : codec.issue issued caller.id.text none = .ok token
  begun : issued ≤ s.now
  unexpired : s.now.wholeSeconds ≤ Instant.wholeSeconds (issued + codec.ttl)
  present : s.store.Has caller
  active : caller.status = .active

theorem Token.Live.verify {s : Service} {codec : Codec} {issued : Instant} {token : String} {caller : Caller}
    (h : Live codec issued token caller s) (hraw : IsRaw codec.secret) :
    codec.verify s.now token = .ok (.text caller.id.text) :=
  verify_issued hraw h.calendar h.issue caller.id.text_ne_empty (Instant.wholeSeconds_mono h.begun) h.unexpired

theorem Gate.exec_recognize_live {s : Service} {codec : Token.Codec} {issued : Instant} {token : String}
    {caller : Caller} (h : Token.Live codec issued token caller s) (hraw : Token.IsRaw codec.secret)
    (hsettled : s.IsSettled) (hworks : s.fault? .userById = none) :
    token ≠ "" ∧ (recognize codec token).exec s = (.ok (.ok caller), s) := by
  have hverify := h.verify hraw
  have hsome : token ≠ "" := by
    rintro rfl
    cases hverify
  refine ⟨hsome, ?_⟩
  have hsubject : subject codec s.now token = .ok (.ok caller.id) := by
    unfold subject
    rw [hverify]
    simp only [Uuid.read_text]
  rw [exec_recognize hsettled hworks hsome, hsubject]
  simp only [h.present.admission h.active]

/-! ## Ending a session -/

theorem TokenData.exec_logout {s : Service} (user : String) {token : String} (h : token ≠ "") :
    ∃ t, (TokenData.logout user token).exec s = (.ok (), t) ∧ (SessionCache.Heeds s .cacheDelete →
      t.cache = s.cache.erase (SessionCache.key user token)) := by
  have hsome : token.isEmpty = false := by simpa using h
  unfold logout
  rw [hsome]
  simp only [Bool.false_eq_true, if_false]
  rw [exec_tryCatch]
  rcases hdelete : (SessionCache.delete user token).exec s with ⟨failure | _, t⟩
  · refine ⟨_, rfl, fun hheeds => ?_⟩
    cases hdelete.symm.trans (SessionCache.exec_delete hheeds user token)
  · refine ⟨t, rfl, fun hheeds => ?_⟩
    cases hdelete.symm.trans (SessionCache.exec_delete hheeds user token)
    rfl

namespace Http

variable {settings : Settings} {s t : Service} {r : Request} {caller : Caller}

/-! ## Known callers -/

def Admits (settings : Settings) (r : Request) (s : Service) (caller : Caller) : Prop :=
  ∃ token, r.token? = some token ∧ (Gate.recognize settings.codec token).exec s = (.ok (.ok caller), s)

theorem Admits.exec_withCaller (h : Admits settings r s caller) (next : Caller → Run Response) :
    (withCaller settings r next).exec s = (next caller).exec s := by
  obtain ⟨token, htoken, hknown⟩ := h
  unfold withCaller
  rw [htoken]
  exact exec_bind_ok hknown _

theorem Admits.exec_caller? (h : Admits settings r s caller) :
    (caller? settings r).exec s = (.ok (some caller), s) := by
  obtain ⟨token, htoken, hknown⟩ := h
  unfold Http.caller?
  rw [htoken]
  exact exec_bind_ok hknown _

/-! ## Protected routes -/

def work? (r : Request) (caller : Caller) : Route → Option (Run Response)
  | .showUser => some (showUser caller)
  | .showProfile => some (showProfile caller)
  | .removeUser => some (removeUser caller)
  | .changePassword => some (withBody r fun body => changePassword body caller)
  | .revokeSessions => some (revokeSessions caller)
  | .createWorkspace => some (withBody r fun body =>
    if caller.isSuperAdmin then createWorkspace body caller else refused .workspaceCreateForbidden)
  | _ => none

theorem exec_withBody {f g : Content → Run Response} (h : ∀ content, (f content).exec s = (g content).exec s) :
    (withBody r f).exec s = (withBody r g).exec s := by
  unfold withBody
  split
  · exact h _
  · rfl
  · rfl

theorem Admits.exec_perform (h : Admits settings r s caller) {route : Route} {work : Run Response}
    (hwork : work? r caller route = some work) : (perform settings r route).exec s = work.exec s := by
  cases route with
  | health | signup | login | logout => cases hwork
  | showUser =>
    cases hwork
    exact h.exec_withCaller showUser
  | showProfile =>
    cases hwork
    exact h.exec_withCaller showProfile
  | removeUser =>
    cases hwork
    exact h.exec_withCaller removeUser
  | changePassword =>
    cases hwork
    exact exec_withBody fun body => h.exec_withCaller (changePassword body)
  | revokeSessions =>
    cases hwork
    exact h.exec_withCaller revokeSessions
  | createWorkspace =>
    cases hwork
    exact exec_withBody fun body => h.exec_withCaller _

/-! ## The logout -/

def loggedOut (settings : Settings) : Response :=
  { Response.message "Logout successful" with
    setCookies := [Cookie.header settings.cookies Cookie.accessName "" (-1),
      Cookie.header settings.cookies Cookie.sealedName "" (-1)] }

theorem Admits.exec_logout (h : Admits settings r s caller) {token : String} (hsome : token ≠ "")
    (hcookie : r.cookie? Cookie.sealedName = some token)
    (hcleared : Cookie.cleared? settings.cookies = some (loggedOut settings).setCookies) :
    ∃ t, (logout settings r).exec s = (.ok (loggedOut settings), t) ∧ (SessionCache.Heeds s .cacheDelete →
      t.cache = s.cache.erase (SessionCache.key caller.id.text token)) := by
  obtain ⟨t, hended, hcache⟩ := TokenData.exec_logout (s := s) caller.id.text hsome
  refine ⟨t, ?_, hcache⟩
  unfold logout
  rw [exec_bind_ok h.exec_caller?]
  simp only [hcookie, Option.getD_some]
  rw [exec_bind_ok hended, hcleared]
  rfl

/-! ## Cookies at work -/

/-- What the cookies of a session are good for: they let in its caller, and end nothing but the session. -/
structure Works (settings : Settings) (caller : Caller) (sealed : String) (cookies : List String)
    (s : Service) : Prop where
  serves : ∀ r : Request, r.Brings cookies → ∀ route work, resolve r = .found route →
    work? r caller route = some work → (handle settings r).exec s = work.exec s
  ends : ∀ r : Request, r.Brings cookies → resolve r = .found .logout →
    ∃ t, (handle settings r).exec s = (.ok (loggedOut settings), t) ∧ (SessionCache.Heeds s .cacheDelete →
      t.cache = s.cache.erase (SessionCache.key caller.id.text sealed))

theorem sessionCookies_work {issued : Instant} {session : Login.Response}
    (hlive : Token.Live settings.codec issued session.accessToken caller s)
    (hraw : Token.IsRaw settings.codec.secret) (hsettled : s.IsSettled) (hworks : s.fault? .userById = none)
    (hsealed : ∃ nonce, Envelope.wrap settings.sealKey nonce session.accessToken = .ok session.sealedToken)
    (hsent : (sessionCookies settings session).all Cookie.isSendable = true) :
    Works settings caller session.sealedToken (sessionCookies settings session) s := by
  obtain ⟨hsome, hknown⟩ := Gate.exec_recognize_live hlive hraw hsettled hworks
  obtain ⟨nonce, hwrap⟩ := hsealed
  have hcookies : ∀ {r : Request}, r.Brings (sessionCookies settings session) →
      r.cookie? Cookie.accessName = some session.accessToken ∧
        r.cookie? Cookie.sealedName = some session.sealedToken :=
    Request.cookie?_of_brings (Cookie.isBareword_issued hlive.issue) (Cookie.isBareword_wrapped hwrap)
  have hadmits : ∀ {r : Request}, r.Brings (sessionCookies settings session) → Admits settings r s caller := by
    intro r hbrings
    exact ⟨session.accessToken, Request.token?_of_cookie (hcookies hbrings).1 hsome, hknown⟩
  constructor
  · intro r hbrings route work hroute hwork
    rw [handle, hroute]
    exact (hadmits hbrings).exec_perform hwork
  · intro r hbrings hroute
    rw [handle, hroute]
    apply (hadmits hbrings).exec_logout (Envelope.wrap_ne_empty hwrap) (hcookies hbrings).2
    exact Cookie.cleared?_of_session? (Cookie.session?_eq_some.mpr ⟨rfl, hsent⟩)

/-! ## From the login on -/

/-- **The cookies of a login work.** They let in the user who has logged in after every history that spares
the user and does not outlast the token, and a logout with them ends the session that this login cached. -/
theorem login_cookies_work (hraw : Token.IsRaw settings.codec.secret) (hready : s.IsReady)
    (hids : (s.store.users.map (·.id)).Nodup) (hcalendar : Instant.first ≤ s.now ∧ s.now ≤ Instant.last)
    (hroute : resolve r = .found .login) {response : Response}
    (hlogin : (handle settings r).exec s = (.ok response, t)) (hstatus : response.status = 200) :
    ∃ content request user session, parse r = .ok content ∧ readBody login.fields content = .ok request ∧
      Login.Identified s request user.id user ∧
      response.body = .json (.object [("message", .text "Login successful"), ("user", session.user.toJson)]) ∧
      session.user.id = user.id.text ∧ response.setCookies = sessionCookies settings session ∧
      (SessionCache.Heeds s .cacheSet → ∃ payload,
        t.cache = s.cache.put (SessionCache.key user.id.text session.sealedToken) payload
          (some (s.now.wholeSeconds + Login.keptFor settings))) ∧
      ∀ moves : List Move, (∀ move ∈ moves, move.IsHonest) → Spares user.id t moves →
        (t.after moves).now.wholeSeconds ≤ Instant.wholeSeconds (s.now + settings.codec.ttl) →
        (t.after moves).fault? .userById = none →
        Works settings (.of user) session.sealedToken response.setCookies (t.after moves) := by
  rw [handle, hroute] at hlogin
  obtain ⟨content, request, _, hparse, hread, hrun, hbody, hset, hsent⟩ := login_succeeds hlogin hstatus
  obtain ⟨session, rfl, ⟨user, huser⟩, hhanded, hcached⟩ := Login.run_hands hready.settled hrun
  obtain ⟨found, active, hid⟩ := huser
  rw [← hid] at hcached
  have hissue := hhanded.token
  have hshown := hhanded.shown
  rw [← hid] at hissue hshown
  refine ⟨content, request, user, session.response, hparse, hread, ⟨found, active, rfl⟩, hbody, hshown, hset,
    fun hheeds => ⟨_, hcached hheeds⟩, fun moves hmoves hspares hahead hworks => ?_⟩
  have hstep := Login.run_steps hready.settled settings request true
  rw [Gives, hrun] at hstep
  have hlogged : (Operation.logIn settings request true).Writes s t.store := hstep.done _ rfl
  have hhas : t.store.Has (.of user) := by
    have hthere : user.status ≠ .deleted := by
      rw [active]
      decide
    refine hlogged.has (Store.has_of_mem hids (List.mem_of_find?_eq_some found) hthere) fun heq => ?_
    cases heq
  obtain ⟨hlast, hstays, hlater⟩ := (hstep.ready hready).stays hmoves hspares hhas
  rw [hset] at hsent ⊢
  rw [hstep.now] at hlater
  have hlive : Token.Live settings.codec s.now session.response.accessToken (.of user) (t.after moves) :=
    ⟨hcalendar, hissue, hlater, hahead, hstays, active⟩
  exact sessionCookies_work hlive hraw hlast.settled hworks hhanded.sealed hsent

/-! ## A visitor who logs in -/

def annLogin : Request :=
  ⟨"POST", "/auth/login", [("content-type", "application/json")],
    "\x7b\"email\":\"ann@example.com\",\"password\":\"Passw0rd!\"\x7d"⟩

def annBody : Json := .object [("email", .text "ann@example.com"), ("password", .text "Passw0rd!")]

theorem resolve_annLogin : resolve annLogin = .found .login := by decide +kernel

theorem parse_annLogin : parse annLogin = .ok (.json annBody) := by
  have hwritten : annLogin.body = annBody.write Json.compactAscii := by decide +kernel
  have hplain : Json.IsPlain Json.lenient Json.lenient.depth annBody := by
    refine .object _ (by decide) fun f hf => ?_
    simp only [List.mem_cons, List.not_mem_nil, or_false] at hf
    rcases hf with rfl | rfl <;> exact .text _
  have hread : Json.read Json.lenient annLogin.body = .ok annBody := by
    rw [hwritten]
    exact Json.read_write Json.compactAscii_lawful rfl hplain
  have hempty : annLogin.body.isEmpty = false := by decide +kernel
  have htype : isJsonType ((annLogin.header? "content-type").getD defaultType) = true := by decide +kernel
  have hdecode : Json.Encoding.decode? (Utf8.encode annLogin.body) = some annLogin.body := by decide +kernel
  unfold parse
  simp only [hempty, htype, hdecode, hread]
  rfl

theorem read_annBody : readBody login.fields (.json annBody) = .ok ⟨"ann@example.com", .whole "Passw0rd!"⟩ := by
  decide +kernel

def enrolled : Service := (Service.start 0).move (.perform (.signUp Login.ann true))

theorem ready_enrolled : enrolled.IsReady := (ready_start 0).move (by exact trivial)

/-- The visitor can log in, whatever memberships she has, if her roles can be read. -/
theorem exec_annLogin {s : Service} (hready : s.IsReady) (hunarmed : s.faults = []) (hnow : s.now = 0)
    (hknown : ∃ user provider, Login.Known s "ann@example.com" user provider ∧
      provider.passwordHash = some (Secret.nextHash (Service.start 0) "Passw0rd!"))
    (hreadable : ∀ user, ∀ m ∈ s.store.membershipsOf user, m.IsReadable s.now) :
    ∃ response t, (handle Login.minute annLogin).exec s = (.ok response, t) ∧
      response.status = 200 ∧ t.now = 0 ∧ t.fault? .userById = none := by
  obtain ⟨user, provider, hknown, hhash⟩ := hknown
  have hverify : Password.verify "Passw0rd!" (Secret.nextHash (Service.start 0) "Passw0rd!") = true :=
    Password.verify_hash (Password.length_countedSalt 1) rfl
  have hright := (Secret.opens_iff hhash).mpr ⟨"Passw0rd!", rfl, hverify⟩
  have hissue : Login.minute.codec.issue s.now user.id.text none = .ok _ :=
    Token.issue_sealed _ (by rw [hnow]; decide) (by decide +kernel)
  have hquiet : ∀ call, s.fault? call = none := by
    intro call
    rw [fault?, hunarmed]
    rfl
  obtain ⟨_, t, hrun⟩ := Login.exec_run_right (r := ⟨"ann@example.com", .whole "Passw0rd!"⟩)
    hready ⟨hquiet _, hquiet _, hquiet _⟩ hknown hright (hreadable _) rfl hissue true
  obtain ⟨session, rfl, -, hhanded, -⟩ := Login.run_hands hready.settled hrun
  obtain ⟨nonce, hwrap⟩ := hhanded.sealed
  have hage : Cookie.isSendable ("Max-Age=" ++ toString (Duration.seconds Login.minute.codec.ttl)) = true := by
    decide
  have hsent := isSendable_sessionCookies (Cookie.isBareword_issued hhanded.token)
    (Cookie.isBareword_wrapped hwrap) hage fun _ hd => by cases hd
  have hstep := (Login.run_steps hready.settled Login.minute
    ⟨"ann@example.com", .whole "Passw0rd!"⟩ true).ended hrun
  have hfaults : t.faults = [] := List.eq_nil_of_subset_nil (hunarmed ▸ hstep.faults)
  have hlogin := exec_login parse_annLogin read_annBody hrun hsent
  have hhandle : handle Login.minute annLogin = login Login.minute annLogin := by
    rw [handle, resolve_annLogin]
    rfl
  rw [← hhandle] at hlogin
  refine ⟨_, t, hlogin, rfl, hstep.now.trans hnow, ?_⟩
  rw [fault?, hfaults]
  rfl

theorem ann_login_cookies_work :
    ∃ (response : Response) (t : Service) (user : User) (session : Login.Response),
      (handle Login.minute annLogin).exec enrolled = (.ok response, t) ∧ response.status = 200 ∧
      (∃ payload, t.cache = [(SessionCache.key user.id.text session.sealedToken, ⟨payload, some 60⟩)]) ∧
      let w := t.wait 60000000
      Works Login.minute (.of user) session.sealedToken response.setCookies w ∧
        (handle Login.minute (.returning "GET" "/users/me" response.setCookies)).exec w =
          (showUser (.of user)).exec w := by
  obtain ⟨response, t, hlogin, hstatus, hnow, hworks⟩ := exec_annLogin ready_enrolled rfl rfl
    ⟨_, _, ⟨rfl, rfl, rfl⟩, rfl⟩ fun user => Store.readable_unshared rfl user _
  have hraw : Token.IsRaw Login.minute.codec.secret := by decide +kernel
  have hids : enrolled.store.users.map (·.id) = [.counted 1] := rfl
  obtain ⟨_, _, user, session, -, -, -, -, -, -, hcached, hlater⟩ := login_cookies_work hraw ready_enrolled
    (by rw [hids]; exact List.nodup_singleton _) (by decide) resolve_annLogin hlogin hstatus
  have hmoves : ∀ move ∈ [Move.wait 60000000], move.IsHonest := by
    simp [Move.IsHonest]
  have hspares : Spares user.id t [.wait 60000000] := ⟨fun heq => (by cases heq), trivial⟩
  have hahead : (t.after [.wait 60000000]).now.wholeSeconds ≤
      Instant.wholeSeconds (enrolled.now + Login.minute.codec.ttl) := by
    have hlast : (t.after [.wait 60000000]).now = 60000000 := by
      show t.now + 60000000 = 60000000
      rw [hnow]
      rfl
    rw [hlast]
    decide
  have h := hlater _ hmoves hspares hahead hworks
  refine ⟨response, t, user, session, hlogin, hstatus, ?_, h, ?_⟩
  · exact hcached fun how => ⟨List.not_mem_nil, List.not_mem_nil⟩
  · exact h.serves _ (Request.brings_returning _ _ _) .showUser _ rfl rfl

end Http

end Gatehouse
