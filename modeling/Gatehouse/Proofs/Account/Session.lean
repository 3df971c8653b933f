import Gatehouse.Proofs.Envelope
import Gatehouse.Proofs.Service.Step
import Gatehouse.Proofs.Session.Cache
import Gatehouse.Proofs.Session.Views

/-!
# What a login hands out

A login that succeeds hands out a token for the user it has identified, the seal of that token and a view
of the user, and the session it caches is kept under just that user and that seal.
-/

namespace Gatehouse

open Run Service

namespace Login

variable {settings : Settings} {s t : Service} {r : Request}

/-! ## Tokens -/

/-- What a session is made of. Its two views of the user come from the same rows, in which at most the time
of the login has changed. -/
structure Handed (settings : Settings) (s : Service) (session : Session) : Prop where
  token : settings.codec.issue s.now session.user.text none = .ok session.response.accessToken
  sealed : ∃ nonce, Envelope.wrap settings.sealKey nonce session.response.accessToken =
    .ok session.response.sealedToken
  opens : Envelope.unwrap settings.sealKey session.response.sealedToken = .ok session.response.accessToken
  shown : session.response.user.id = session.user.text
  views : ∃ rows user, Stamped s session.user rows ∧ rows.userById? session.user = some user ∧
    Snapshot.ofUser s.now (rows.load user) = .ok session.snapshot ∧
    UserInfo.of s.now user (rows.profileOf? user.id) ((rows.membershipsOf user.id).filter (·.isActive)) =
      .ok session.response.user

theorem sealToken_eq_ok {key : Envelope.Key} {token sealed : String}
    (h : (sealToken key token).exec s = (.ok (.ok sealed), t)) :
    t = { s with seals := s.seals + 1 } ∧
      Envelope.wrap key (Envelope.countedNonce (s.seals + 1)) token = .ok sealed := by
  unfold sealToken at h
  cases hkey : Envelope.checkKey key with
  | error fault =>
    rw [hkey] at h
    cases h
  | ok raw =>
    rw [hkey] at h
    exact ⟨(congrArg Prod.snd h).symm, Except.ok.inj (congrArg Prod.fst h)⟩

theorem loaded_of {user : Uuid} {loaded : LoadedUser}
    (h : (Directory.userWithWorkspaces user).exec s = (.ok (some loaded), t)) :
    ∃ found, s.transaction.rows.userById? user = some found ∧ found.id = user ∧
      loaded = s.transaction.rows.load found := by
  have hlook : (s.transaction.rows.userById? user).map s.transaction.rows.load = some loaded :=
    exec_lookup_some h
  obtain ⟨found, hfound, rfl⟩ := Option.map_eq_some_iff.mp hlook
  have hid := List.find?_some hfound
  rw [Bool.and_eq_true, beq_iff_eq] at hid
  exact ⟨found, hfound, hid.1, rfl⟩

/-- A session is made of the token, of its seal under the next nonce and of the rows of the transaction. -/
theorem openSession_eq_ok {user : Uuid} {now : Instant} {token : String} {session : Session}
    (h : (openSession settings user now token).exec s = (.ok (.ok session), t)) :
    session.user = user ∧ session.response.accessToken = token ∧ t.seals = s.seals + 1 ∧
      Envelope.wrap settings.sealKey (Envelope.countedNonce (s.seals + 1)) token =
        .ok session.response.sealedToken ∧
      ∃ found, s.transaction.rows.userById? user = some found ∧ found.id = user ∧
        Snapshot.ofUser now (s.transaction.rows.load found) = .ok session.snapshot ∧
        UserInfo.of now found (s.transaction.rows.profileOf? found.id)
          ((s.transaction.rows.membershipsOf found.id).filter (·.isActive)) = .ok session.response.user := by
  obtain ⟨answer, u, hseal, h⟩ := exec_bind_eq_ok.mp h
  cases answer with
  | error fault => cases h
  | ok sealed =>
    obtain ⟨found, v, hload, h⟩ := exec_bind_eq_ok.mp h
    cases found with
    | none => cases h
    | some loaded =>
      obtain ⟨snapshot, w, hsnapshot, h⟩ := exec_bind_eq_ok.mp h
      obtain ⟨info, x, hinfo, h⟩ := exec_bind_eq_ok.mp h
      cases h
      obtain ⟨rfl, hwrap⟩ := sealToken_eq_ok hseal
      have hlooked : Looked { s with seals := s.seals + 1 } v :=
        ((lookup_gives .userWithWorkspaces fun s => (s.userById? user).map s.load).ended hload).1
      obtain ⟨found, hfound, hid, rfl⟩ := loaded_of hload
      obtain ⟨hview, rfl⟩ := exec_ofChecked_eq_ok.mp hsnapshot
      obtain ⟨hshown, rfl⟩ := exec_ofChecked_eq_ok.mp hinfo
      obtain ⟨faults, -, rfl⟩ := hlooked
      exact ⟨rfl, rfl, rfl, hwrap, found, hfound, hid, hview, hshown⟩

theorem begin_eq_ok {session : Session} (h : (begin settings r).exec s = (.ok (.ok session), t)) :
    ∃ user u v token, (identify r).exec s = (.ok (.ok user), u) ∧ (touch user).exec u = (.ok (), v) ∧
      settings.codec.issue v.now user.text none = .ok token ∧
      (openSession settings user v.now token).exec v = (.ok (.ok session), t) := by
  obtain ⟨answer, u, hidentify, h⟩ := exec_bind_eq_ok.mp h
  cases answer with
  | error refusal => cases h
  | ok user =>
    obtain ⟨_, v, htouch, h⟩ := exec_bind_eq_ok.mp h
    rw [exec_bind_ok exec_get] at h
    obtain ⟨token, _, hissued, h⟩ := exec_bind_eq_ok.mp h
    obtain ⟨htoken, rfl⟩ := exec_ofExcept_eq_ok.mp hissued
    exact ⟨user, u, v, token, hidentify, htouch, htoken, h⟩

theorem begin_hands (hsettled : s.IsSettled) {session : Session}
    (h : (begin settings r).exec s = (.ok (.ok session), t)) : Handed settings s session := by
  obtain ⟨user, u, v, token, hidentify, htouch, htoken, h⟩ := begin_eq_ok h
  have hlooked : Looked s u := ((identify_gives hsettled r).ended hidentify).1
  have hattempted : Attempted u user v :=
    ((touch_attempts (hlooked.settled hsettled) user).ended htouch).2
  have hnow : v.now = s.now := hattempted.outside.now.trans hlooked.untouched.now
  obtain ⟨rows, hrows, hstamped⟩ := hattempted.rows
  obtain ⟨rfl, rfl, -, hwrap, found, hfound, hid, hsnapshot, hinfo⟩ := openSession_eq_ok h
  rw [hrows] at hfound hsnapshot hinfo
  rw [hnow] at htoken hsnapshot hinfo
  refine ⟨htoken, ⟨_, hwrap⟩, ?_, ?_, rows, found, ?_, hfound, hsnapshot, hinfo⟩
  · exact Envelope.unwrap_wrapped rfl hwrap
  · rw [(UserInfo.of_eq_ok hinfo).1, hid]
  · rw [Stamped, hlooked.untouched.store, hlooked.untouched.now] at hstamped
    exact hstamped

/-- A session is sealed under the next nonce. -/
theorem begin_seals {session : Session} (h : (begin settings r).exec s = (.ok (.ok session), t)) :
    t.seals = s.seals + 1 ∧
      Envelope.wrap settings.sealKey (Envelope.countedNonce (s.seals + 1)) session.response.accessToken =
        .ok session.response.sealedToken ∧
      session.response.user.id = session.user.text := by
  obtain ⟨user, u, v, token, hidentify, htouch, -, h⟩ := begin_eq_ok h
  have hidentified := keeps_identify (R := Unsealed) r s
  have htouched := keeps_touch user u
  rw [hidentify] at hidentified
  rw [htouch] at htouched
  have hseals : v.seals = s.seals := htouched.seals.trans hidentified.seals
  obtain ⟨rfl, rfl, hdrawn, hwrap, found, -, hid, -, hinfo⟩ := openSession_eq_ok h
  rw [hseals] at hdrawn hwrap
  exact ⟨hdrawn, hwrap, by rw [(UserInfo.of_eq_ok hinfo).1, hid]⟩

/-! ## The session -/

def keptFor (settings : Settings) : Int :=
  max 1 (Duration.seconds (TokenData.lifetime settings.sessionTtl (some settings.codec.ttl)))

def emitted (notify : Bool) (user : Uuid) : List Event :=
  if notify then [⟨topic, .object [("userId", .text user.text)]⟩] else []

/-- What a login still does once its transaction is over: the session goes into the cache, unless the cache
skips it, and the event goes out. -/
structure Posted (settings : Settings) (session : Session) (notify : Bool) (s t : Service) : Prop where
  now : t.now = s.now
  seals : t.seals = s.seals
  store : t.store = s.store
  events : t.events = s.events ++ emitted notify session.user
  cache : t.cache = if SessionCache.isSkipped s .cacheSet then s.cache
    else s.cache.put (SessionCache.key session.user.text session.response.sealedToken)
      session.snapshot.text (some (s.now.wholeSeconds + keptFor settings))

theorem exec_cache (s : Service) (settings : Settings) (warning : String) (session : Session) :
    ∃ t, (bestEffort warning (TokenData.store settings.sessionTtl session.user.text
        session.response.sealedToken session.snapshot (some settings.codec.ttl))).exec s = (.ok (), t) ∧
      Posted settings session false s t := by
  have hstore := SessionCache.exec_store_eq s session.user.text session.response.sealedToken
    session.snapshot.text (Duration.seconds (TokenData.lifetime settings.sessionTtl (some settings.codec.ttl)))
  have hsilent : s.events = s.events ++ emitted false session.user := (List.append_nil _).symm
  rw [bestEffort, exec_tryCatch, TokenData.store, hstore]
  cases SessionCache.breakdown? s .cacheSet with
  | none => exact ⟨_, rfl, rfl, rfl, rfl, hsilent, rfl⟩
  | some how => exact ⟨_, rfl, rfl, rfl, rfl, hsilent, rfl⟩

/-- Once the transaction is over, a login ends well with what it has, whatever happens to the cache. -/
theorem exec_run_begun {session : Session} {u : Service}
    (h : (inTransaction (begin settings r)).exec s = (.ok (.ok session), u)) (notify : Bool) :
    ∃ v, (run settings r notify).exec s = (.ok (.ok session.response), v) ∧
      Posted settings session notify u v := by
  obtain ⟨v, hv, hposted⟩ := exec_cache u settings
    ("Failed to cache token data for user " ++ session.user.text) session
  rw [run, exec_bind_ok h]
  dsimp only
  rw [exec_bind_ok hv]
  cases notify with
  | false => exact ⟨v, rfl, hposted⟩
  | true =>
    have hevents : v.events = u.events := hposted.events.trans (List.append_nil _)
    exact ⟨_, rfl, hposted.now, hposted.seals, hposted.store, by rw [← hevents]; rfl, hposted.cache⟩

theorem exec_run_unbegun {answer : Except Failure (Answer Session)} {u : Service}
    (h : (inTransaction (begin settings r)).exec s = (answer, u)) (hnone : ∀ session, answer ≠ .ok (.ok session))
    (notify : Bool) :
    ∃ refused, (run settings r notify).exec s = (refused, u) ∧ ∀ response, refused ≠ .ok (.ok response) := by
  rw [run]
  cases answer with
  | error e => exact ⟨_, exec_bind_error h _, fun _ heq => by cases heq⟩
  | ok answer =>
    cases answer with
    | error refusal => exact ⟨.ok (.error refusal), exec_bind_ok h _, fun _ heq => by cases heq⟩
    | ok session => exact absurd rfl (hnone session)

/-- A login that ends well has identified a user, and hands out and caches a session of just that user. -/
theorem run_hands (hsettled : s.IsSettled) {response : Response} {notify : Bool}
    (h : (run settings r notify).exec s = (.ok (.ok response), t)) :
    ∃ session, session.response = response ∧ (∃ user, Identified s r session.user user) ∧
      Handed settings s session ∧ (SessionCache.Heeds s .cacheSet →
        t.cache = s.cache.put (SessionCache.key session.user.text response.sealedToken)
          session.snapshot.text (some (s.now.wholeSeconds + keptFor settings))) := by
  rcases hopened : (begin settings r).exec s with ⟨answer, u⟩
  have hclosed : (inTransaction (begin settings r)).exec s = (answer, u.rolledBack) := by
    rw [exec_inTransaction, hopened]
  by_cases hsession : ∃ session, answer = .ok (.ok session)
  · obtain ⟨session, rfl⟩ := hsession
    obtain ⟨v, hrun, hposted⟩ := exec_run_begun hclosed notify
    cases hrun.symm.trans h
    have hbegun : Begun s r (.ok (.ok session)) u := (begin_gives hsettled settings r).ended hopened
    refine ⟨session, rfl, hbegun.session session rfl, begin_hands hsettled hopened, fun hheeds => ?_⟩
    have hheeded : SessionCache.Heeds u.rolledBack .cacheSet := hheeds.mono hbegun.outside.faults
    have hput := hposted.cache
    rw [hheeded.not_skipped, if_neg Bool.false_ne_true] at hput
    have hnow : u.rolledBack.now = s.now := hbegun.outside.now
    have hbefore : u.rolledBack.cache = s.cache := hbegun.outside.cache
    rw [hput, hnow, hbefore]
  · obtain ⟨refused, hrun, hrefused⟩ :=
      exec_run_unbegun hclosed (fun session heq => hsession ⟨session, heq⟩) notify
    cases hrun.symm.trans h
    exact absurd rfl (hrefused response)

end Login

end Gatehouse
