import Gatehouse.Proofs.Account.Login
import Gatehouse.Proofs.Directory.Update
import Gatehouse.Proofs.Envelope
import Gatehouse.Proofs.Service.History
import Gatehouse.Proofs.Session.Views

/-!
# Logins decided by credentials

As long as the store can be read, a login of a user who is there depends on the password alone: the right
one gets a session, and any other is refused with nothing changed. Neither the time of the login nor the
cache has to be written for that.
-/

namespace Gatehouse

open Run Service

theorem Secret.opens_iff {password : RawText} {provider : Provider} {hash : String}
    (hhash : provider.passwordHash = some hash) : opens password (some provider) = true ↔
      ∃ plain, password = .whole plain ∧ Password.verify plain hash = true := by
  cases password with
  | whole plain => simp [opens, RawText.whole?, hhash]
  | torn codes => simp [opens, RawText.whole?]

namespace Login

variable {s : Service} {r : Request} {user : User} {provider : Provider}

structure CanLook (s : Service) : Prop where
  byEmail : s.fault? .userByEmail = none
  provider : s.fault? .providerOf = none
  loaded : s.fault? .userWithWorkspaces = none

structure Known (s : Service) (email : String) (user : User) (provider : Provider) : Prop where
  byEmail : s.store.userByEmail? email = some user
  active : user.status = .active
  provider : s.store.providerOf? user.id .localPassword = some provider

/-! ## The decision -/

def decided (rows : Store) (r : Request) : Answer Uuid :=
  match rows.userByEmail? r.email with
  | none => .error .invalidCredentials
  | some user =>
    if user.status ≠ .active then .error .userInactive
    else if Secret.opens r.password (rows.providerOf? user.id .localPassword) then .ok user.id
    else .error .invalidCredentials

theorem exec_identify (hsettled : s.IsSettled) (hemail : s.fault? .userByEmail = none)
    (hprovider : s.fault? .providerOf = none) (r : Request) :
    (identify r).exec s = (.ok (decided s.store r), s) := by
  rw [identify, exec_bind_ok (Directory.exec_userByEmail hsettled hemail r.email), decided]
  cases s.store.userByEmail? r.email with
  | none => rfl
  | some user =>
    by_cases hactive : user.status = .active
    · simp only [hactive, bne_self_eq_false, Bool.false_eq_true, if_false, ne_eq, not_true_eq_false]
      rw [exec_bind_ok (Directory.exec_providerOf hsettled hprovider user.id .localPassword)]
      split <;> rfl
    · simp only [bne_iff_ne.mpr hactive, ne_eq, hactive, not_false_eq_true, if_true]
      rfl

theorem decided_known (hknown : Known s r.email user provider) : decided s.store r =
    if Secret.opens r.password (some provider) then .ok user.id else .error .invalidCredentials := by
  rw [decided, hknown.byEmail]
  simp only [hknown.active, ne_eq, not_true_eq_false, if_false, hknown.provider]

theorem exec_run_decided (hsettled : s.IsSettled) (hemail : s.fault? .userByEmail = none)
    (hprovider : s.fault? .providerOf = none) {refusal : Refusal} (h : decided s.store r = .error refusal)
    (settings : Settings) (notify : Bool) : (run settings r notify).exec s = (.ok (.error refusal), s) := by
  have hidentify := exec_identify hsettled hemail hprovider r
  rw [h] at hidentify
  apply exec_refused hsettled
  · rw [begin, exec_bind_ok hidentify]
    rfl
  · exact fun _ => rfl

/-! ## The time of the login -/

theorem touch_settles (hs : s.IsHonest) (id : Uuid) :
    Gives (touch id) s fun answer t => answer = .ok () ∧ t.IsSettled := by
  apply Gives.tryCatch (P := fun answer t => answer = .ok () → t.IsSettled)
  · apply (Directory.updateLastLogin_gives id).bind
    · intro _ t ht
      exact commit_settles (ht.1.honest hs)
    · intro e t _ h
      cases h
  · intro _ t ht
    exact ⟨rfl, ht rfl⟩
  · intro e t _
    exact ⟨rfl, settled_rolledBack _⟩

theorem exec_touch (hready : s.IsReady) (id : Uuid) :
    ∃ t, (touch id).exec s = (.ok (), t) ∧ t.IsSettled ∧ Outside s t ∧ Touched s t.store := by
  have htouch := touch_gives hready.settled id
  obtain ⟨hok, hsettled⟩ := touch_settles hready.honest id
  exact ⟨_, Prod.ext hok rfl, hsettled, htouch⟩

theorem Touched.membershipsOf {rows : Store} (h : Touched s rows) (id : Uuid) :
    rows.membershipsOf id = s.store.membershipsOf id := by
  rcases h with rfl | ⟨_, rfl⟩ <;> rfl

/-- A user who is there is still there when the time of a login is written. -/
theorem Touched.userById? {rows : Store} (h : Touched s rows) (hmem : user ∈ s.store.users)
    (hlive : user.status ≠ .deleted) : ∃ found, rows.userById? user.id = some found := by
  have hexists : ∃ u ∈ rows.users, u.id = user.id ∧ u.status = user.status := by
    rcases h with rfl | ⟨id, rfl⟩
    · exact ⟨user, hmem, rfl, rfl⟩
    · refine ⟨User.loggedIn s.now id user, ?_, (User.keeps_loggedIn s.now id).id user,
        User.status_loggedIn s.now id user⟩
      rw [Store.users_setLastLogin]
      exact List.mem_map_of_mem hmem
  obtain ⟨u, hu, hid, hstatus⟩ := hexists
  rw [Store.userById?, ← Option.isSome_iff_exists, List.find?_isSome]
  refine ⟨u, hu, ?_⟩
  simp [hid, Store.isDeleted, hstatus, hlive]

/-! ## The session -/

theorem exec_sealToken {key : Envelope.Key} (hkey : key.raw.length = Envelope.keySize) (token : String) :
    ∃ sealed, (sealToken key token).exec s = (.ok (.ok sealed), { s with seals := s.seals + 1 }) := by
  obtain ⟨sealed, hsealed⟩ : ∃ sealed,
      Envelope.wrap key (Envelope.countedNonce (s.seals + 1)) token = .ok sealed :=
    ⟨_, Envelope.wrap_usable hkey _ token⟩
  refine ⟨sealed, ?_⟩
  rw [sealToken, Envelope.checkKey_usable hkey, ← hsealed]
  rfl

theorem exec_begin (hready : s.IsReady) (hlook : CanLook s) (hknown : Known s r.email user provider)
    (hopens : Secret.opens r.password (some provider) = true)
    (hreadable : ∀ m ∈ s.store.membershipsOf user.id, m.IsReadable s.now)
    {settings : Settings} (hkey : settings.sealKey.raw.length = Envelope.keySize) {token : String}
    (hissue : settings.codec.issue s.now user.id.text none = .ok token) :
    ∃ session t, (begin settings r).exec s = (.ok (.ok session), t) := by
  have hidentify := exec_identify hready.settled hlook.byEmail hlook.provider r
  rw [decided_known hknown, hopens] at hidentify
  obtain ⟨t, htouch, hsettled, houtside, htouched⟩ := exec_touch hready user.id
  obtain ⟨sealed, hseal⟩ := exec_sealToken (s := t) hkey token
  have hmem := List.mem_of_find?_eq_some hknown.byEmail
  obtain ⟨found, hfound⟩ := htouched.userById? hmem (by rw [hknown.active]; decide)
  -- drawing the nonce has changed neither the rows nor the faults
  have hloaded : (Directory.userWithWorkspaces user.id).exec { t with seals := t.seals + 1 } =
      (.ok (some (t.store.load found)), { t with seals := t.seals + 1 }) := by
    have h := Directory.exec_userWithWorkspaces (s := { t with seals := t.seals + 1 }) hsettled
      (houtside.unarmed hlook.loaded) user.id
    rw [h, hfound]
    rfl
  have hid : found.id = user.id := by
    have h := List.find?_some hfound
    rw [Bool.and_eq_true, beq_iff_eq] at h
    exact h.1
  have hloadedReadable : ∀ m ∈ (t.store.load found).memberships, m.IsReadable t.now := by
    rw [Store.load, hid, htouched.membershipsOf, houtside.now]
    exact hreadable
  obtain ⟨snapshot, info, hsnapshot, hinfo⟩ := LoadedUser.exists_views hloadedReadable
  refine ⟨⟨user.id, ⟨token, sealed, info⟩, snapshot⟩, { t with seals := t.seals + 1 }, ?_⟩
  rw [begin, exec_bind_ok hidentify]
  simp only [if_true]
  rw [exec_bind_ok htouch, exec_bind_ok exec_get, houtside.now, hissue, exec_bind_ok (exec_ofExcept_ok _ _),
    openSession, exec_bind_ok hseal]
  simp only
  rw [exec_bind_ok hloaded]
  simp only [← houtside.now, hsnapshot, hinfo]
  rfl

theorem exec_run_right (hready : s.IsReady) (hlook : CanLook s) (hknown : Known s r.email user provider)
    (hopens : Secret.opens r.password (some provider) = true)
    (hreadable : ∀ m ∈ s.store.membershipsOf user.id, m.IsReadable s.now)
    {settings : Settings} (hkey : settings.sealKey.raw.length = Envelope.keySize) {token : String}
    (hissue : settings.codec.issue s.now user.id.text none = .ok token) (notify : Bool) :
    ∃ response t, (run settings r notify).exec s = (.ok (.ok response), t) := by
  obtain ⟨session, t, hbegin⟩ := exec_begin hready hlook hknown hopens hreadable hkey hissue
  have hclosed : (inTransaction (begin settings r)).exec s = (.ok (.ok session), t.rolledBack) := by
    rw [exec_inTransaction, hbegin]
  obtain ⟨u, hstore, -⟩ := exec_bestEffort (R := Posts session.user.text)
    (fun level message => (keeps_log level message).mono fun h => h.quiet.posts _)
    (SessionCache.keeps_store _ session.response.sealedToken session.snapshot.text _)
    ("Failed to cache token data for user " ++ session.user.text) t.rolledBack
  refine ⟨session.response, ?_⟩
  rw [run, exec_bind_ok hclosed]
  simp only [TokenData.store]
  rw [exec_bind_ok hstore]
  cases notify with
  | false => exact ⟨u, rfl⟩
  | true => exact ⟨_, rfl⟩

end Login

end Gatehouse
