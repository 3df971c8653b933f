import Gatehouse.Proofs.Directory.Belongings
import Gatehouse.Proofs.Directory.Permissions
import Gatehouse.Proofs.Http.Cors
import Gatehouse.Proofs.Http.Session

/-!
# How far a caller reaches

A request without a token that validates leaves rows, cache and events as they are. With one, whatever
cookies and body come along, it leaves everything that belongs to other users as it is.
-/

namespace Gatehouse

open Run Service

/-! ## Sessions of others -/

def Cache.sessionsOf (cache : Cache) (user : Uuid) : Cache :=
  cache.filter fun e => (SessionCache.stem user.text).toList.isPrefixOf e.1.toList

theorem SessionCache.key_of_prefix {user : Uuid} {entry : String}
    (h : (stem user.text).toList <+: entry.toList) : ∃ cacheKey, entry = key user.text cacheKey := by
  obtain ⟨rest, hrest⟩ := h
  refine ⟨String.ofList rest, String.toList_injective ?_⟩
  rw [toList_key, String.toList_ofList, hrest]

theorem Cache.sessionsOf_filter (cache : Cache) (keep : String → Bool) {user : Uuid}
    (h : ∀ cacheKey, keep (SessionCache.key user.text cacheKey) = true) :
    sessionsOf (cache.filter fun e => keep e.1) user = cache.sessionsOf user := by
  unfold sessionsOf
  rw [List.filter_filter]
  apply List.filter_congr
  intro e _
  by_cases hp : (SessionCache.stem user.text).toList.isPrefixOf e.1.toList = true
  · obtain ⟨cacheKey, hkey⟩ := SessionCache.key_of_prefix (List.isPrefixOf_iff_prefix.mp hp)
    rw [hkey, h cacheKey, Bool.and_true]
  · simp [hp]

structure Service.Respects (user : Uuid) (s t : Service) : Prop where
  rows : t.store.belongings user = s.store.belongings user
  sessions : t.cache.sessionsOf user = s.cache.sessionsOf user

instance (user : Uuid) : CommandFrame (Respects user) where
  refl _ := ⟨rfl, rfl⟩
  trans h k := ⟨k.rows.trans h.rows, k.sessions.trans h.sessions⟩
  disarm _ _ := ⟨rfl, rfl⟩
  command _ _ := ⟨rfl, rfl⟩

variable {s t : Service} {user other : Uuid}

theorem Service.Unseen.respects (h : Unseen s t) : Respects user s t := by
  constructor
  · rw [h.store]
  · rw [h.cache]

theorem keeps_report (level : Level) (message : String) : Keeps (Respects user) (log level message) :=
  (keeps_log level message).mono fun h => h.toUnseen.respects

theorem keeps_bestEffort_respects (warning : String) {body : Run Unit} (h : Keeps (Respects user) body) :
    Keeps (Respects user) (bestEffort warning body) :=
  h.tryCatch fun _ => keeps_report _ _

namespace SessionCache

theorem delete_respects (h : other ≠ user) (cacheKey : String) :
    Keeps (Respects user) (delete other.text cacheKey) := by
  apply keeps_wrap
  apply keeps_issue
  intro s
  refine ⟨rfl, Cache.sessionsOf_filter s.cache (· != key other.text cacheKey) ?_⟩
  intro k
  have : key user.text k ≠ key other.text cacheKey := fun e => h (user_of_key e).symm
  simp [this]

/-- A scan for the sessions of one user finds none of another. -/
theorem scan_other (h : other ≠ user) {now : Int} {cache : Cache} (cacheKey : String) :
    key user.text cacheKey ∉ cache.scan now (key other.text "*") := by
  intro hmem
  have hmatch := (Cache.mem_scan.mp hmem).2
  rw [toList_key other.text] at hmatch
  obtain ⟨found, hfound⟩ := key_of_prefix ((Cache.isMatch_star not_wild_stem _).mp hmatch)
  exact h (user_of_key hfound).symm

theorem invalidateAll_respects (h : other ≠ user) : Keeps (Respects user) (invalidateAll other.text) := by
  apply keeps_wrap
  intro s
  -- what is erased is what the scan has found, so the scan has to be remembered
  have hscan : Gives (issue .cacheScan (.scan (key other.text "*")) fun s =>
      (s, s.cache.scan s.now.wholeSeconds (key other.text "*"))) s fun r t =>
        Respects user s t ∧ ∀ keys, r = .ok keys → ∀ cacheKey, key user.text cacheKey ∉ keys := by
    apply issue_gives
    · intro how _
      exact ⟨⟨rfl, rfl⟩, fun _ h => by cases h⟩
    · intro how _
      exact ⟨⟨rfl, rfl⟩, fun _ h => by cases h⟩
    · refine ⟨⟨rfl, rfl⟩, ?_⟩
      intro keys hkeys
      cases hkeys
      exact scan_other h
  refine hscan.bind (R := fun _ t => Respects user s t) (fun keys t ht => ?_) fun e t ht => ht.1
  split
  · exact ht.1
  · have herase : ∀ u, Respects user u
        { u with cache := (eraseAll u.now.wholeSeconds u.cache keys).1 } := by
      intro u
      refine ⟨rfl, ?_⟩
      simp only [eraseAll_eq]
      apply Cache.sessionsOf_filter u.cache fun k => !keys.contains k
      intro cacheKey
      have := ht.2 keys rfl cacheKey
      simp [this]
    exact Frame.trans ht.1 (keeps_issue _ _ _ herase t)

end SessionCache

/-! ## Operations for others -/

theorem TokenData.logout_respects (h : other ≠ user) (sealed : String) :
    Keeps (Respects user) (logout other.text sealed) := by
  unfold logout
  split
  · exact keeps_pure ()
  · exact (SessionCache.delete_respects h _).tryCatch fun _ => keeps_report _ _

theorem Revocation.run_respects (h : other ≠ user) : Keeps (Respects user) (run other) := by
  refine (SessionCache.invalidateAll_respects h).attempt.bind fun outcome => ?_
  cases outcome with
  | ok count => exact (keeps_report _ _).bind fun _ => keeps_pure _
  | error failure =>
    by_cases hcache : failure.isSessionCache = true
    · simp only [hcache, if_true]
      exact (keeps_report _ _).bind fun _ => keeps_pure _
    · simp only [hcache]
      exact keeps_throw _

/-- An operation whose transaction writes nothing of a user, and which respects the user afterwards. -/
theorem inTransaction_respects {α β : Type} {body : Run (Answer α)} {f : Answer α → Run β}
    {written : α → Store → Prop} (h : Gives body s (Settles s written))
    (hwritten : ∀ a rows, written a rows → rows.belongings user = s.store.belongings user)
    (hf : ∀ answer, Keeps (Respects user) (f answer)) :
    Gives (inTransaction body >>= f) s fun _ t => Respects user s t := by
  have hclosed : Gives (inTransaction body) s fun _ t => Respects user s t := by
    obtain ⟨ho, hstore⟩ := h
    have hrows : (body.exec s).2.store.belongings user = s.store.belongings user := by
      split at hstore
      · exact hwritten _ _ hstore
      · rcases hstore with hsame | ⟨-, a, hw⟩
        · rw [hsame]
        · exact hwritten a _ hw
    exact ⟨hrows, congrArg (Cache.sessionsOf · user) ho.cache⟩
  refine hclosed.bind (fun answer t ht => ?_) fun e t ht => ht
  exact Frame.trans ht (hf answer t)

section
variable (hs : s.IsReady)
include hs

theorem PasswordChange.run_respects (hkeys : (s.store.providers.map (·.id)).Nodup) {r : Request}
    (h : r.user ≠ user) : Gives (run r) s fun _ t => Respects user s t := by
  refine inTransaction_respects (replace_grants hs.honest hs.settled r) ?_ fun answer => ?_
  · rintro _ rows ⟨_, provider, plain, -, hfound, -, -, -, rfl⟩
    apply Store.belongings_setPasswordHash
    intro p hp hid
    -- the provider with this identifier is the one that was found
    have hsame : p = provider :=
      List.inj_on_of_nodup_map hkeys hp (List.mem_of_find?_eq_some hfound) hid
    have hown := List.find?_some hfound
    simp only [Bool.and_eq_true, beq_iff_eq] at hown
    rw [hsame, hown.1]
    exact h
  · cases answer with
    | error refusal => exact keeps_pure _
    | ok _ =>
      refine (keeps_bestEffort_respects _ ?_).bind fun _ => keeps_pure _
      exact (SessionCache.invalidateAll_respects h).bind fun _ => keeps_pure ()

theorem Removal.run_respects (h : other ≠ user) : Gives (run other) s fun _ t => Respects user s t := by
  refine inTransaction_respects (mark_settles hs.honest hs.settled other) ?_ fun answer => ?_
  · rintro _ rows ⟨-, rfl⟩
    exact Store.belongings_softDelete s.now h
  · cases answer with
    | error refusal => exact keeps_pure _
    | ok _ =>
      refine (keeps_bestEffort_respects _ ?_).bind fun _ => keeps_pure _
      exact (SessionCache.invalidateAll_respects h).bind fun _ => keeps_report _ _

theorem Provision.run_respects {r : Request} (h : r.actingUser ≠ user) (notify : Bool) :
    Gives (run r notify) s fun _ t => Respects user s t := by
  refine inTransaction_respects (provision_founds hs.honest hs.settled r) ?_ fun answer => ?_
  · rintro response rows ⟨_, id, role, membership, slug, -, -, rfl, hrows⟩
    exact Store.belongings_addTenancy? hrows h rfl h
  · cases answer with
    | error refusal => exact keeps_pure _
    | ok response =>
      cases notify with
      | false => exact keeps_pure _
      | true => exact Keeps.bind (fun _ => ⟨rfl, rfl⟩) fun _ => keeps_pure _

end

/-! ## Requests -/

theorem Service.Looked.ready (h : Looked s t) (hs : s.IsReady) : t.IsReady := by
  obtain ⟨faults, hsub, rfl⟩ := h
  exact ⟨hs.settled, fun call value hw hm => hs.honest call value hw (hsub hm)⟩

namespace Http

variable {settings : Settings} {r : Request} {caller : Caller} {α : Type}

def Validates (settings : Settings) (r : Request) (s : Service) (caller : Caller) : Prop :=
  ∃ token, r.token? = some token ∧ ((Gate.recognize settings.codec token).exec s).1 = .ok (.ok caller)

theorem keeps_refused (refusal : Refusal) : Keeps Untouched (refused refusal) := by
  unfold refused
  split <;> exact (keeps_log _ _).bind fun _ => keeps_pure _

section
variable {R : Service → Service → Prop} [Frame R]

theorem keeps_withCookies (cookies : Option (List String)) (response : Response) :
    Keeps R (withCookies cookies response) := by
  cases cookies with
  | none => exact keeps_throw _
  | some headers => exact keeps_pure _

/-- What goes on with a body, if there is one that can be read, stays within a relation. -/
theorem withBody_stays {next : Content → Run Response} (h : ∀ content, R s ((next content).exec s).2) :
    R s ((withBody r next).exec s).2 := by
  unfold withBody
  split
  · exact h _
  · exact Frame.refl s
  · exact Frame.refl s

theorem withFields_stays {read : Shape.Fields → Shape.Checked α} {content : Content} {next : α → Run Response}
    (h : ∀ a, readBody read content = .ok a → R s ((next a).exec s).2) :
    R s ((withFields read content next).exec s).2 := by
  unfold withFields
  split
  · exact h _ ‹_›
  · unfold report
    simp only
    split
    · exact Frame.refl s
    · split <;> exact Frame.refl s

end

/-! ## Without a caller -/

section
variable (hs : s.IsSettled) (h : ∀ caller, ¬ Validates settings r s caller)
include hs h

theorem withCaller_untouched (next : Caller → Run Response) :
    Untouched s ((withCaller settings r next).exec s).2 := by
  unfold withCaller
  cases htoken : r.token? with
  | none => exact keeps_refused _ s
  | some token =>
    have hlooks := (Gate.recognize_looks hs settings.codec token).untouched
    simp only
    rw [exec_bind]
    rcases hgate : (Gate.recognize settings.codec token).exec s with ⟨e | answer, t⟩
    · rw [hgate] at hlooks
      exact hlooks
    · rw [hgate] at hlooks
      cases answer with
      | ok caller => exact absurd ⟨token, htoken, by rw [hgate]⟩ (h caller)
      | error refusal => exact Frame.trans hlooks (keeps_refused _ t)

theorem logout_untouched : Untouched s ((logout settings r).exec s).2 := by
  have hcleared : Keeps Untouched (withCookies (Cookie.cleared? settings.cookies)
      (.message "Logout successful")) := keeps_withCookies _ _
  unfold logout caller?
  cases htoken : r.token? with
  | none => exact hcleared s
  | some token =>
    have hlooks := (Gate.recognize_looks hs settings.codec token).untouched
    simp only [bind_assoc]
    rw [exec_bind]
    rcases hgate : (Gate.recognize settings.codec token).exec s with ⟨e | answer, t⟩
    · rw [hgate] at hlooks
      exact hlooks
    · rw [hgate] at hlooks
      cases answer with
      | ok caller => exact absurd ⟨token, htoken, by rw [hgate]⟩ (h caller)
      | error refusal => exact Frame.trans hlooks (hcleared t)

end

/-! ## With a caller -/

theorem Validates.gate (h : Validates settings r s caller) (hs : s.IsSettled) :
    ∃ token t, r.token? = some token ∧ Looked s t ∧
      (Gate.recognize settings.codec token).exec s = (.ok (.ok caller), t) := by
  obtain ⟨token, htoken, hgate⟩ := h
  exact ⟨token, _, htoken, Gate.recognize_looks hs settings.codec token, Prod.ext hgate rfl⟩

theorem withCaller_respects (hs : s.IsReady) (h : Validates settings r s caller)
    {next : Caller → Run Response}
    (hnext : ∀ t, Looked s t → Respects user t ((next caller).exec t).2) :
    Respects user s ((withCaller settings r next).exec s).2 := by
  obtain ⟨token, t, htoken, hlooks, hgate⟩ := h.gate hs.settled
  unfold withCaller
  rw [htoken]
  simp only
  rw [exec_bind_ok hgate]
  exact Frame.trans hlooks.untouched.toUnseen.respects (hnext t hlooks)

theorem logout_respects (hs : s.IsReady) (h : Validates settings r s caller) (hother : caller.id ≠ user) :
    Respects user s ((logout settings r).exec s).2 := by
  obtain ⟨token, t, htoken, hlooks, hgate⟩ := h.gate hs.settled
  unfold logout caller?
  rw [htoken]
  simp only [bind_assoc]
  rw [exec_bind_ok hgate]
  refine Frame.trans hlooks.untouched.toUnseen.respects ?_
  exact ((TokenData.logout_respects hother _).bind fun _ => keeps_withCookies _ _) t

theorem respond_respects {m : Run (Answer α)} {f : α → Run Response}
    (h : Gives m s fun _ t => Respects user s t) (hf : ∀ a, Keeps (Respects user) (f a)) :
    Respects user s ((m >>= fun answer => respond answer f).exec s).2 := by
  refine h.bind (R := fun _ t => Respects user s t) (fun answer t ht => ?_) fun e t ht => ht
  refine Frame.trans ht ?_
  cases answer with
  | ok a => exact hf a t
  | error refusal => exact (keeps_refused refusal t).toUnseen.respects

theorem readBody_eq_ok {read : Shape.Fields → Shape.Checked α} {content : Content} {a : α}
    (h : readBody read content = .ok a) : ∃ fields, read fields = .ok a := by
  unfold readBody at h
  split at h
  · cases h
  · cases h
  · split at h
    · cases h
    · rename_i fields _
      refine ⟨fields, ?_⟩
      cases hread : read fields with
      | ok b =>
        rw [hread] at h
        exact h
      | error details =>
        rw [hread] at h
        cases h

section
variable (hs : s.IsReady) (hother : caller.id ≠ user)
include hs hother

theorem changePassword_respects (hkeys : (s.store.providers.map (·.id)).Nodup) (content : Content) :
    Respects user s ((changePassword content caller).exec s).2 := by
  apply withFields_stays
  intro request hread
  obtain ⟨fields, hfields⟩ := readBody_eq_ok hread
  obtain ⟨current, new, -, -, rfl⟩ := Shape.both_eq_ok hfields
  exact respond_respects (PasswordChange.run_respects hs hkeys hother) fun _ => keeps_pure _

theorem createWorkspace_respects (content : Content) :
    Respects user s ((createWorkspace content caller).exec s).2 := by
  apply withFields_stays
  intro request hread
  obtain ⟨fields, hfields⟩ := readBody_eq_ok hread
  obtain ⟨name, description, -, -, rfl⟩ := Shape.both_eq_ok hfields
  exact respond_respects (Provision.run_respects hs hother true) fun _ => keeps_pure _

theorem removeUser_respects : Respects user s ((removeUser caller).exec s).2 :=
  respond_respects (Removal.run_respects hs hother) fun _ => keeps_pure _

omit hs in
theorem revokeSessions_respects : Respects user s ((revokeSessions caller).exec s).2 :=
  respond_respects (Revocation.run_respects hother s) fun _ => keeps_pure _

omit hother in
theorem showUser_respects : Respects user s ((showUser caller).exec s).2 :=
  respond_respects (Reading.user_looks hs.settled caller.id).untouched.toUnseen.respects
    fun _ => keeps_pure _

omit hother in
theorem showProfile_respects : Respects user s ((showProfile caller).exec s).2 :=
  respond_respects (Reading.profile_looks hs.settled caller.id).untouched.toUnseen.respects
    fun _ => keeps_pure _

end

/-! ## All routes -/

theorem handle_untouched (hs : s.IsSettled) (h : ∀ caller, ¬ Validates settings r s caller)
    (hroute : resolve r ≠ .found .signup ∧ resolve r ≠ .found .login) :
    Untouched s ((handle settings r).exec s).2 := by
  have hcaller := fun next => withCaller_untouched hs h next
  unfold handle
  split
  · rename_i route hfound
    cases route with
    | health => exact Frame.refl s
    | signup => exact absurd hfound hroute.1
    | login => exact absurd hfound hroute.2
    | logout => exact logout_untouched hs h
    | showUser | showProfile | removeUser | revokeSessions => exact hcaller _
    | changePassword | createWorkspace => exact withBody_stays fun _ => hcaller _
  · exact Frame.refl s
  · exact Frame.refl s
  · exact Frame.refl s

theorem handle_respects (hs : s.IsReady) (hkeys : (s.store.providers.map (·.id)).Nodup)
    (h : Validates settings r s caller) (hother : caller.id ≠ user)
    (hroute : resolve r ≠ .found .signup ∧ resolve r ≠ .found .login) :
    Respects user s ((handle settings r).exec s).2 := by
  unfold handle
  split
  · rename_i route hfound
    cases route with
    | health => exact Frame.refl s
    | signup => exact absurd hfound hroute.1
    | login => exact absurd hfound hroute.2
    | logout => exact logout_respects hs h hother
    | showUser => exact withCaller_respects hs h fun t ht => showUser_respects (ht.ready hs)
    | showProfile => exact withCaller_respects hs h fun t ht => showProfile_respects (ht.ready hs)
    | removeUser => exact withCaller_respects hs h fun t ht => removeUser_respects (ht.ready hs) hother
    | revokeSessions =>
      exact withCaller_respects hs h fun t ht => revokeSessions_respects hother
    | changePassword =>
      apply withBody_stays
      intro content
      apply withCaller_respects hs h
      intro t ht
      have hstore := ht.untouched.store
      exact changePassword_respects (ht.ready hs) hother (by rw [hstore]; exact hkeys) content
    | createWorkspace =>
      apply withBody_stays
      intro content
      apply withCaller_respects hs h
      intro t ht
      by_cases hadmin : caller.isSuperAdmin = true
      · simp only [hadmin, if_true]
        exact createWorkspace_respects (ht.ready hs) hother content
      · simp only [hadmin, Bool.false_eq_true, if_false]
        exact (keeps_refused _ t).toUnseen.respects
  · exact Frame.refl s
  · exact Frame.refl s
  · exact Frame.refl s

/-- **A caller reaches only what is its own.** Every request but a signup or a login leaves all rows, the
cache and the events as they are if its token does not validate; and if it does, all that belongs to others. -/
theorem caller_reaches_itself (hs : s.IsReady) (hkeys : (s.store.providers.map (·.id)).Nodup)
    (hroute : resolve r ≠ .found .signup ∧ resolve r ≠ .found .login) :
    let t := (serve settings r s).2
    ((∀ caller, ¬ Validates settings r s caller) →
      t.store = s.store ∧ t.cache = s.cache ∧ t.events = s.events) ∧
    ∀ caller, Validates settings r s caller → ∀ user, user ≠ caller.id →
      t.store.belongings user = s.store.belongings user ∧ t.cache.sessionsOf user = s.cache.sessionsOf user := by
  intro t
  have hstate : t = ((handle settings r).exec s).2 := serve_state settings r s
  rw [hstate]
  constructor
  · intro h
    have hsame := handle_untouched hs.settled h hroute
    exact ⟨hsame.store, hsame.cache, hsame.events⟩
  · intro caller h user hother
    have hrespects := handle_respects hs hkeys h (Ne.symm hother) hroute
    exact ⟨hrespects.rows, hrespects.sessions⟩

/-! ## A neighbour -/

def bob : User := { Gate.visitor with id := .counted 2, email := "bob@example.com" }

def neighbours : Service :=
  let rows := { Store.empty with users := [Gate.visitor, bob] }
  { Service.start 0 with
    store := rows
    transaction := ⟨rows, false⟩
    cache := [(SessionCache.key bob.id.text "s", ⟨"\x7b\x7d", none⟩)] }

/-- The visitor removes herself and brings the cache key of her neighbour. -/
theorem visitor_reaches_herself :
    ∃ r : Request, Validates Login.minute r neighbours (.of Gate.visitor) ∧
      r.cookie? Cookie.sealedName = some "s" ∧ resolve r = .found .removeUser ∧
      let t := (serve Login.minute r neighbours).2
      t.store.belongings bob.id = neighbours.store.belongings bob.id ∧
        t.cache.sessionsOf bob.id = neighbours.cache.sessionsOf bob.id := by
  obtain ⟨token, hissue⟩ : ∃ token, Login.minute.codec.issue 0 Gate.visitor.id.text none = .ok token :=
    ⟨_, Token.issue_sealed _ (by decide) (by decide +kernel)⟩
  have hlive : Token.Live Login.minute.codec 0 token (.of Gate.visitor) neighbours :=
    ⟨by decide, hissue, Int.le_refl 0, by decide, rfl, rfl⟩
  obtain ⟨hsome, hknown⟩ := Gate.exec_recognize_live hlive (by decide +kernel) rfl rfl
  let info : UserInfo := ⟨"", "", "", "", none, none, none, []⟩
  let cookies := sessionCookies Login.minute ⟨token, "s", info⟩
  let r : Request := .returning "DELETE" "/users/me" cookies
  have hbare : Cookie.IsBareword "s" := by
    intro c hc
    cases List.mem_singleton.mp hc
    decide
  obtain ⟨haccess, hsealed⟩ := Request.cookie?_of_brings (r := r) (Cookie.isBareword_issued hissue) hbare
    (Request.brings_returning "DELETE" "/users/me" cookies)
  have hvalid : Validates Login.minute r neighbours (.of Gate.visitor) := by
    refine ⟨_, ?_, by rw [hknown]⟩
    rw [Request.token?, haccess, Cookie.chooseToken, String.isEmpty_eq_false_iff.mpr hsome]
    rfl
  have hroute : resolve r = .found .removeUser := rfl
  have hready : neighbours.IsReady := ⟨rfl, fun _ _ _ => List.not_mem_nil⟩
  have hreach := @caller_reaches_itself _ Login.minute r hready List.nodup_nil
    ⟨by rw [hroute]; decide, by rw [hroute]; decide⟩
  exact ⟨r, hvalid, hsealed, hroute, hreach.2 _ hvalid bob.id (by decide)⟩

end Http

end Gatehouse
