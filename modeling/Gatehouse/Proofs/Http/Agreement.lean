import Gatehouse.Proofs.Calendar.Duration
import Gatehouse.Proofs.Http.Session
import Gatehouse.Proofs.Session.Snapshot
import Gatehouse.Proofs.Session.Views

/-!
# Everything a login hands out agrees

The token, its seal, the cached session, the answer and the cookies of a login come from different places.
They stand for the same user with the same memberships, and all last for the same number of seconds.
-/

namespace Gatehouse

open Run Service

/-! ## One lifetime -/

section
variable {settings : Settings} {n : Nat} (httl : settings.codec.ttl = n * Duration.second)
include httl

theorem Instant.wholeSeconds_later (t : Instant) :
    Instant.wholeSeconds (t + settings.codec.ttl) = t.wholeSeconds + n := by
  have hsecond : Duration.second = 1000000 := rfl
  rw [Instant.wholeSeconds_eq, Instant.wholeSeconds_eq, httl, hsecond]
  omega

/-- The lifetime of a token that was issued is counted exactly. -/
theorem Duration.seconds_lifetime {now : Instant} {user token : String} (hfirst : Instant.first ≤ now)
    (hissue : settings.codec.issue now user none = .ok token) : Duration.seconds settings.codec.ttl = n := by
  have hlast := (Token.issue_eq_ok hissue).1.2
  rw [Option.getD_none, httl] at hlast
  rw [httl]
  exact seconds_within (Int.natCast_nonneg n) hfirst hlast

theorem Login.keptFor_lifetime (hn : 0 < n) (hexact : Duration.seconds settings.codec.ttl = n) :
    keptFor settings = n := by
  have hlater : (0 : Int) < settings.codec.ttl := by
    have hsecond : Duration.second = 1000000 := rfl
    rw [httl, hsecond]
    omega
  have hgiven : TokenData.positive? (some settings.codec.ttl) = some settings.codec.ttl :=
    if_pos (decide_eq_true hlater)
  have hlifetime : TokenData.lifetime settings.sessionTtl (some settings.codec.ttl) = settings.codec.ttl := by
    rw [TokenData.lifetime, hgiven]
    rfl
  rw [keptFor, hlifetime, hexact]
  omega

end

/-! ## One user -/

namespace Login

variable {s : Service} {rows : Store} {user : Uuid}

/-- What can be written of a login changes no membership, no workspace and no role. -/
theorem Stamped.tables (h : Stamped s user rows) : rows.memberships = s.store.memberships ∧
    rows.workspaces = s.store.workspaces ∧ rows.roles = s.store.roles := by
  rcases h with rfl | rfl <;> exact ⟨rfl, rfl, rfl⟩

theorem Stamped.has {id : Uuid} {caller : Caller} (h : Stamped s id rows) :
    rows.Has caller ↔ s.store.Has caller := by
  rcases h with rfl | rfl
  · rfl
  · have hsame : Caller.of ∘ User.loggedIn s.now id = Caller.of := by
      funext u
      unfold User.loggedIn
      simp only [Function.comp]
      split <;> rfl
    rw [Store.Has, Store.Has, Store.userById?_setLastLogin, Option.map_map, hsame]

end Login

/-! ## The agreement -/

namespace Http

/-- What a login has handed out to a user and cached agrees, for as many seconds. -/
structure Agrees (settings : Settings) (s t : Service) (user : User) (session : Login.Response)
    (cookies : List String) (n : Nat) : Prop where
  verifies : ∀ now : Instant, s.now.wholeSeconds ≤ now.wholeSeconds →
    now.wholeSeconds ≤ s.now.wholeSeconds + n →
      settings.codec.verify now session.accessToken = .ok (.text user.id.text)
  opens : Envelope.unwrap settings.sealKey session.sealedToken = .ok session.accessToken
  remembers : ∃ payload snapshot, ∃ shown : List (SnapshotItem × MembershipInfo),
    t.cache.held? (SessionCache.key user.id.text session.sealedToken) =
      some ⟨payload, some (s.now.wholeSeconds + n)⟩ ∧
    Snapshot.ofText payload = .ok snapshot ∧ snapshot.globalRole = Vocabulary.word user.globalRole ∧
    snapshot.memberships = shown.map (·.1) ∧ session.user.memberships = shown.map (·.2) ∧
    List.Forall₂ (fun m v => m.Shows s.store v.1 v.2) (s.store.activeOf user.id) shown
  claims : ∃ claims issued, Token.peekClaims session.accessToken = .ok claims ∧
    Json.find? claims "iat" = some (.integer issued) ∧ Json.find? claims "exp" = some (.integer (issued + n))
  ages : cookies.map (Cookie.find? · "Max-Age") = [some (toString n), some (toString n)]

variable {settings : Settings} {s t : Service}

theorem views_remembered {user : User} {session : Login.Session}
    (hhanded : Login.Handed settings s session) (hhas : s.store.Has (.of user)) (hid : user.id = session.user)
    (hlinked : s.store.IsLinked) :
    session.snapshot.globalRole = Vocabulary.word user.globalRole ∧
    ∃ shown : List (SnapshotItem × MembershipInfo), session.snapshot.memberships = shown.map (·.1) ∧
      session.response.user.memberships = shown.map (·.2) ∧
      List.Forall₂ (fun m v => m.Shows s.store v.1 v.2) (s.store.activeOf user.id) shown := by
  obtain ⟨rows, found, hstamped, hfound, hsnapshot, hinfo⟩ := hhanded.views
  obtain ⟨hmemberships, hworkspaces, hroles⟩ := hstamped.tables
  obtain ⟨other, hother, hsame⟩ := Store.has_iff.mp (hstamped.has.mpr hhas)
  have huser : found = other := by
    rw [← hid] at hfound
    exact Option.some.inj (hfound.symm.trans hother)
  rw [← huser] at hsame
  have hfoundId : found.id = user.id := congrArg Caller.id hsame
  have hfoundRole : found.globalRole = user.globalRole := congrArg Caller.globalRole hsame
  have hload : (rows.load found).memberships =
      (s.store.memberships.filter (·.userId == user.id)).map s.store.loadMembership := by
    have hmember : rows.loadMembership = s.store.loadMembership := by
      funext m
      rw [Store.loadMembership, Store.loadMembership, hworkspaces, hroles]
    rw [Store.load, Store.membershipsOf_eq, hmember, hmemberships, hfoundId]
  obtain ⟨hrole, hitems⟩ := Snapshot.ofUser_eq_ok hsnapshot
  have hinfos := (UserInfo.of_eq_ok hinfo).2
  rw [hload] at hitems
  have hloaded : rows.membershipsOf found.id = (rows.load found).memberships := rfl
  rw [hloaded, hload] at hinfos
  refine ⟨?_, views_agree (fun m hm => hlinked m (List.mem_of_mem_filter hm)) hitems hinfos⟩
  rw [hrole, ← hfoundRole]
  rfl

/-- **Everything a login hands out agrees.** The token is for the user, the seal opens to the token, the
cache has a session of the user under the seal, and the session and the answer have the same memberships.
Token, session and cookies last for the same number of seconds. -/
theorem login_agrees (hraw : Token.IsRaw settings.codec.secret) {n : Nat} (hn : 0 < n)
    (httl : settings.codec.ttl = n * Duration.second) (hsettled : s.IsSettled)
    (hids : (s.store.users.map (·.id)).Nodup) (hlinked : s.store.IsLinked)
    (hcalendar : Instant.first ≤ s.now ∧ s.now ≤ Instant.last) (hheeds : SessionCache.Heeds s .cacheSet)
    {r : Request} (hroute : resolve r = .found .login) {response : Response}
    (hlogin : (handle settings r).exec s = (.ok response, t)) (hstatus : response.status = 200) :
    ∃ content request user session, parse r = .ok content ∧ readBody login.fields content = .ok request ∧
      Login.Identified s request user.id user ∧
      response.body = .json (.object [("message", .text "Login successful"), ("user", session.user.toJson)]) ∧
      response.setCookies = sessionCookies settings session ∧
      Agrees settings s t user session response.setCookies n := by
  rw [handle, hroute] at hlogin
  obtain ⟨content, request, _, hparse, hread, hrun, hbody, hset, -⟩ := login_succeeds hlogin hstatus
  obtain ⟨session, rfl, ⟨user, hfound, hactive, hid⟩, hhanded, hcached⟩ := Login.run_hands hsettled hrun
  refine ⟨content, request, user, session.response, hparse, hread, ⟨hfound, hactive, rfl⟩, hbody, hset, ?_⟩
  have hissue := hhanded.token
  rw [← hid] at hissue
  have hhas : s.store.Has (.of user) :=
    Store.has_of_mem hids (List.mem_of_find?_eq_some hfound) (by rw [hactive]; decide)
  obtain ⟨hrole, shown, hitems, hinfos, hall⟩ := views_remembered hhanded hhas hid hlinked
  have hexact := Duration.seconds_lifetime httl hcalendar.1 hissue
  have hheld : t.cache.held? (SessionCache.key user.id.text session.response.sealedToken) =
      some ⟨session.snapshot.text, some (s.now.wholeSeconds + n)⟩ := by
    rw [hcached hheeds, hid, Login.keptFor_lifetime httl hn hexact, Cache.held?_put, if_pos rfl]
  constructor
  · intro now hbegun hahead
    apply Token.verify_issued hraw hcalendar hissue user.id.text_ne_empty hbegun
    rw [Option.getD_none, Instant.wholeSeconds_later httl]
    exact hahead
  · exact hhanded.opens
  · exact ⟨_, session.snapshot, shown, hheld, Snapshot.ofText_text _, hrole, hitems, hinfos, hall⟩
  · refine ⟨_, s.now.wholeSeconds, Token.peekClaims_issued hcalendar hissue, rfl, ?_⟩
    rw [Option.getD_none, Instant.wholeSeconds_later httl]
    rfl
  · rw [hset, sessionCookies, hexact]
    simp only [List.map_cons, List.map_nil, Cookie.find?_age]

/-! ## A visitor with a role -/

def shop : Workspace := ⟨.counted 10, "Shop", "shop", none, none, .counted 11, none, .active, none, none⟩

/-- A role with a permission that is stored twice. -/
def clerk : Role :=
  ⟨.counted 12, .counted 10, "Clerk", none,
    .object [("permissions", .array [.text "sell", .text "count", .text "sell"])], .active, none, none⟩

def employed : Service :=
  let rows := { enrolled.store with
    workspaces := [shop]
    roles := [clerk]
    memberships :=
      [⟨.counted 13, .counted 1, .counted 10, .counted 12, .suspended, none, none, none, none⟩,
        ⟨.counted 14, .counted 1, .counted 10, .counted 12, .active, none, none, none, none⟩] }
  { enrolled with store := rows, transaction := ⟨rows, false⟩ }

theorem ann_login_agrees : ∃ response t user session,
    (handle Login.minute annLogin).exec employed = (.ok response, t) ∧ response.status = 200 ∧
      Agrees Login.minute employed t user session response.setCookies 60 ∧
      session.user.memberships.map (·.permissions) = [["sell", "count", "sell"]] := by
  have hready : employed.IsReady := ⟨rfl, fun _ _ _ => List.not_mem_nil⟩
  have hroles : ∀ role ∈ employed.store.roles,
      ∃ set, PermissionSet.read employed.now role.permissions = .ok set := by
    intro role hrole
    rw [List.mem_singleton.mp hrole]
    exact ⟨_, rfl⟩
  obtain ⟨response, t, hlogin, hstatus, -, -⟩ := exec_annLogin hready rfl rfl ⟨_, _, ⟨rfl, rfl, rfl⟩, rfl⟩
    (Store.readable_of_roles hroles)
  have hids : employed.store.users.map (·.id) = [.counted 1] := rfl
  have hlinked : employed.store.IsLinked := by
    unfold Store.IsLinked
    decide
  obtain ⟨_, _, user, session, -, -, ⟨hfound, -, -⟩, -, -, h⟩ := login_agrees (by decide +kernel) (by decide) rfl
    hready.settled (by rw [hids]; exact List.nodup_singleton _) hlinked (by decide)
    (fun how => ⟨List.not_mem_nil, List.not_mem_nil⟩) resolve_annLogin hlogin hstatus
  refine ⟨response, t, user, session, hlogin, hstatus, h, ?_⟩
  have huser : user.id = .counted 1 :=
    List.mem_singleton.mp (hids ▸ List.mem_map_of_mem (List.mem_of_find?_eq_some hfound))
  obtain ⟨_, _, shown, -, -, -, -, hinfos, hall⟩ := h.remembers
  rw [huser] at hall
  obtain ⟨v, rfl, hshows⟩ : ∃ v, shown = [v] ∧ Membership.Shows employed.store
      ⟨.counted 14, .counted 1, .counted 10, .counted 12, .active, none, none, none, none⟩ v.1 v.2 := by
    cases hall with
    | cons hshows hrest =>
      cases hrest
      exact ⟨_, rfl, hshows⟩
  obtain ⟨role, hrole, -, hlists⟩ := hshows.role
  cases hrole
  have htexts : ["sell", "count", "sell"].map Json.text = v.1.permissions.map .text := Json.array.inj hlists
  rw [hinfos, List.map_cons, List.map_cons, hshows.permissionsShown,
    ← List.map_injective_iff.mpr (fun _ _ h => Json.text.inj h) htexts]
  rfl

end Http

end Gatehouse
