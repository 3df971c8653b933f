import Gatehouse.Proofs.Account.Absent
import Gatehouse.Proofs.Directory.Update
import Gatehouse.Proofs.Service.Step
import Gatehouse.Proofs.Session.Cache
import Mathlib.Data.List.Nodup

/-!
# Removal is final

Once a user is removed, no operation and no failure of a call brings the user back: the row stays, and
stays deleted, the email stays taken, and a cache that has dropped the sessions gets no new ones.
-/

namespace Gatehouse

open Run Service

/-! ## Deleted rows -/

structure Store.Buries (s : Store) (id : Uuid) (email : String) : Prop where
  row : ∃ user ∈ s.users, user.id = id ∧ user.email = email
  byId : ∀ user ∈ s.users, user.id = id → user.status = .deleted
  byEmail : ∀ user ∈ s.users, user.email = email → user.status = .deleted

namespace Store.Buries

variable {s t : Store} {id : Uuid} {email : String}

theorem map (h : s.Buries id email) {f : User → User} (hf : User.Keeps f)
    (husers : t.users = s.users.map f) : t.Buries id email := by
  obtain ⟨user, hmem, hid, hemail⟩ := h.row
  refine ⟨⟨f user, ?_, (hf.id user).trans hid, (hf.email user).trans hemail⟩, ?_, ?_⟩
  · rw [husers]
    exact List.mem_map_of_mem hmem
  · intro u hu hid
    rw [husers, List.mem_map] at hu
    obtain ⟨v, hv, rfl⟩ := hu
    exact hf.deleted v (h.byId v hv ((hf.id v).symm.trans hid))
  · intro u hu hemail
    rw [husers, List.mem_map] at hu
    obtain ⟨v, hv, rfl⟩ := hu
    exact hf.deleted v (h.byEmail v hv ((hf.email v).symm.trans hemail))

theorem of_users_eq (h : s.Buries id email) (husers : t.users = s.users) : t.Buries id email := by
  refine ⟨?_, ?_, ?_⟩ <;> rw [husers]
  · exact h.row
  · exact h.byId
  · exact h.byEmail

theorem append (h : s.Buries id email) {u : User} (hid : u.id ≠ id) (hemail : u.email ≠ email)
    (husers : t.users = s.users ++ [u]) : t.Buries id email := by
  obtain ⟨user, hmem, hrow⟩ := h.row
  refine ⟨⟨user, ?_, hrow⟩, ?_, ?_⟩
  · rw [husers]
    exact List.mem_append_left _ hmem
  · intro v hv hvid
    rw [husers, List.mem_append, List.mem_singleton] at hv
    rcases hv with hv | rfl
    · exact h.byId v hv hvid
    · exact absurd hvid hid
  · intro v hv hvemail
    rw [husers, List.mem_append, List.mem_singleton] at hv
    rcases hv with hv | rfl
    · exact h.byEmail v hv hvemail
    · exact absurd hvemail hemail

theorem userById? (h : s.Buries id email) : s.userById? id = none := by
  rw [Store.userById?, List.find?_eq_none]
  intro user hmem
  by_cases hid : user.id = id
  · simp [isDeleted, h.byId user hmem hid]
  · simp [hid]

theorem userByEmail? (h : s.Buries id email) : s.userByEmail? email = none := by
  rw [Store.userByEmail?, List.find?_eq_none]
  intro user hmem
  by_cases hemail : user.email = email
  · simp [isDeleted, h.byEmail user hmem hemail]
  · simp [hemail]

end Store.Buries

theorem Operation.Writes.buries {s : Service} {op : Operation} {rows : Store} {id : Uuid} {email : String}
    (hw : op.Writes s rows) (h : s.store.Buries id email) : rows.Buries id email := by
  cases op with
  | signUp r notify =>
    obtain ⟨_, -, account, ⟨plain, -, haccount, hrows⟩, -⟩ := hw
    obtain ⟨s₁, huser, -⟩ := Store.addAccount?_eq_some_iff.mp hrows
    obtain ⟨user, hmem, rfl, rfl⟩ := h.row
    have hfree := Store.addUser?_fresh huser user hmem
    refine h.append (Ne.symm hfree.1) (Ne.symm hfree.2) (u := Store.storedUser account.1) ?_
    rw [Store.addAccount?_eq_some hrows]
    rfl
  | logIn settings r notify =>
    rcases hw with rfl | ⟨user, rfl⟩
    · exact h
    · exact h.map (User.keeps_loggedIn s.now user) rfl
  | changePassword r =>
    obtain ⟨_, provider, plain, -, -, -, -, -, rfl⟩ := hw
    exact h.of_users_eq rfl
  | remove user =>
    rw [hw.2]
    exact h.map (User.keeps_removed s.now user) rfl
  | provision r notify =>
    obtain ⟨_, _, _, _, _, _, -, -, -, hrows⟩ := hw
    rw [Store.addTenancy?_eq_some hrows]
    exact h.of_users_eq rfl
  | _ =>
    rw [show rows = s.store from hw]
    exact h

theorem Removal.Marked.buries {s : Service} {user : Uuid} {rows : Store}
    (hmarked : Removal.Marked s user () rows) (hemails : (s.store.users.map (·.email)).Nodup) {row : User}
    (hrow : row ∈ s.store.users) (hid : row.id = user) : rows.Buries user row.email := by
  have hkeeps := User.keeps_removed s.now user
  rw [hmarked.2]
  -- whoever has the identifier is deleted by the removal or was before
  have hdeleted : ∀ u : User, u.id = user → (User.removed s.now user u).status = .deleted := by
    rintro u rfl
    exact User.status_removed s.now u
  refine ⟨⟨_, List.mem_map_of_mem hrow, (hkeeps.id row).trans hid, hkeeps.email row⟩, ?_, ?_⟩
  · intro u hu huid
    obtain ⟨v, hv, rfl⟩ := List.mem_map.mp hu
    exact hdeleted v ((hkeeps.id v).symm.trans huid)
  · intro u hu huemail
    obtain ⟨v, hv, rfl⟩ := List.mem_map.mp hu
    have hsame : v = row := List.inj_on_of_nodup_map hemails hv hrow ((hkeeps.email v).symm.trans huemail)
    exact hdeleted v (by rw [hsame, hid])

/-! ## Sessions of removed users -/

namespace SessionCache.IsClear

variable {s t : Service} {user : Uuid}

theorem wait (h : IsClear s user) (time : Nat) : IsClear (s.wait time) user := by
  intro entry he hlive
  apply h entry he
  apply Cache.isLive_of_later _ hlive
  exact Instant.wholeSeconds_mono (Int.le_add_of_nonneg_right (Int.natCast_nonneg time))

/-- A step brings only sessions of users who are there. -/
theorem step {α : Type} {written : Store → Prop} {answer : Except Failure (Answer α)} {email : String}
    (h : IsClear s user) (hburied : s.store.Buries user email) (k : Step s written answer t) :
    IsClear t user := by
  intro entry he hlive cacheKey hkey
  rw [k.now] at hlive
  rcases k.cache entry he with hold | ⟨other, hmem, hother, otherKey, hentry⟩
  · exact h entry hold hlive cacheKey hkey
  · have hsame : other.id = user := user_of_key (hentry.symm.trans hkey)
    exact hother (hburied.byId other hmem hsame)

end SessionCache.IsClear

namespace Removal

variable {s t : Service} {user : Uuid}

theorem isClear_run (hsettled : s.IsSettled) (hs : s.IsHonest) (hreaches : SessionCache.Reaches s)
    (hremoved : (run user).exec s = (.ok (.ok ()), t)) : SessionCache.IsClear t user := by
  have hmark : Gives (inTransaction (mark user)) s fun _ u => Outside s u :=
    (Gives.mono (mark_settles hs hsettled user) fun _ _ h => h.1.rolledBack :)
  have hrun : Gives (run user) s fun answer u => answer = .ok (.ok ()) → SessionCache.IsClear u user := by
    apply hmark.bind
    · intro answer u hu
      cases answer with
      | error refusal => exact Gives.pure fun h => by cases h
      | ok done =>
        obtain ⟨hscan, hpipeline⟩ := (hreaches.mono hu.faults).heeds
        obtain ⟨v, hdropped, hnow, -, hcache⟩ := SessionCache.exec_invalidateAll hscan hpipeline user.text
        obtain ⟨count, hdrop⟩ : ∃ count, (SessionCache.invalidateAll user.text).exec u = (.ok count, v) :=
          ⟨_, hdropped⟩
        have hclear := SessionCache.isClear_of_dropped hnow hcache
        have hbody : (bestEffort ("Failed to invalidate sessions of deleted user " ++ user.text) do
            let dropped ← SessionCache.invalidateAll user.text
            log .info ("Deleted user " ++ user.text ++ ", dropped " ++ toString dropped ++
              " cached sessions")).exec u = (.ok (), { v with logs := v.logs ++ [⟨.info, "Deleted user " ++
                user.text ++ ", dropped " ++ toString count ++ " cached sessions"⟩] }) := by
          rw [bestEffort, exec_tryCatch, exec_bind_ok hdrop]
          rfl
        exact Gives.step hbody (Gives.pure fun _ => hclear)
    · intro e u _ h
      cases h
  exact hrun.ended hremoved rfl

end Removal

/-! ## Callers -/

def Gate.Present (s : Service) (answer : Except Failure (Answer Caller)) : Prop :=
  ∀ caller, answer = .ok (.ok caller) → s.store.userById? caller.id ≠ none

theorem Gate.caller_gives {s : Service} (hsettled : s.IsSettled) (id : Uuid) :
    Gives (caller id) s fun answer _ => Present s answer := by
  apply Gives.inTransaction (P := Present s)
  apply (Directory.userById_gives id).bind
  · intro found t ht
    obtain ⟨-, hfound⟩ := ht
    cases found with
    | none => exact Gives.pure fun _ h => by cases h
    | some user =>
      obtain ⟨hrow, hid⟩ := hfound user rfl
      rw [hsettled] at hrow
      simp only
      split
      · exact Gives.pure fun _ h => by cases h
      · refine Gives.pure fun caller h => ?_
        cases h
        have hcaller : (Caller.of user).id = id := hid
        rw [hcaller, hrow]
        exact nofun
  · intro e t _ _ h
    cases h

theorem Gate.recognize_gives {s : Service} (hsettled : s.IsSettled) (codec : Token.Codec) (token : String) :
    Gives (recognize codec token) s fun answer _ => Present s answer := by
  unfold recognize
  split
  · exact Gives.pure fun _ h => by cases h
  apply Gives.step exec_get
  cases subject codec s.now token with
  | error failure => exact Gives.throw fun _ h => by cases h
  | ok answer =>
    apply Gives.step (exec_ofExcept_ok _ _)
    cases answer with
    | error refusal => exact Gives.pure fun _ h => by cases h
    | ok id => exact caller_gives hsettled id

namespace Removal

structure IsFinal (s : Service) (user : Uuid) (email : String) : Prop where
  row : ∃ row ∈ s.store.users, row.id = user ∧ row.email = email
  deleted : ∀ row ∈ s.store.users, row.id = user → row.status = .deleted
  token : ∀ codec token found t, (Gate.recognize codec token).exec s = (.ok (.ok found), t) →
    found.id ≠ user
  login : s.fault? .userByEmail = none → ∀ settings password notify,
    (Login.run settings ⟨email, password⟩ notify).exec s = (.ok (.error .invalidCredentials), s)
  signup : ∀ r notify response t, r.email = email →
    (Signup.run r notify).exec s ≠ (.ok (.ok response), t)
  passwordChange : s.fault? .userById = none → ∀ current new,
    (PasswordChange.run ⟨user, current, new⟩).exec s = (.ok (.error .userNotFound), s)
  loadUser : s.fault? .userWithWorkspaces = none →
    (Reading.user user).exec s = (.ok (.error .userNotFound), s)
  loadProfile : s.fault? .userWithProfile = none →
    (Reading.profile user).exec s = (.ok (.error .userNotFound), s)
  provision : s.fault? .userById = none → ∀ name description notify,
    (Provision.run ⟨user, name, description⟩ notify).exec s = (.ok (.error .userNotFound), s)
  removal : s.fault? .softDelete = none → (run user).exec s = (.ok (.error .userNotFound), s)

theorem isFinal_of_buries {s : Service} (h : s.IsReady) {user : Uuid} {email : String}
    (hburied : s.store.Buries user email) : IsFinal s user email where
  row := hburied.row
  deleted := hburied.byId
  token := by
    rintro codec token found t hexec rfl
    exact (Gate.recognize_gives h.settled codec token).ended hexec found rfl hburied.userById?
  login hworks settings password notify :=
    Login.exec_run_unknown h.settled hworks hburied.userByEmail? settings notify
  signup := by
    rintro r notify response t rfl hexec
    have hstep := (Signup.run_steps h.settled h.honest r notify).ended hexec
    obtain ⟨_, -, account, ⟨_, -, haccount, hrows⟩, -⟩ := hstep.done response rfl
    obtain ⟨s₁, huser, -⟩ := Store.addAccount?_eq_some_iff.mp hrows
    obtain ⟨row, hmem, -, hemail⟩ := hburied.row
    -- the row of the removed user has the email that the new one would have
    refine (Store.addUser?_fresh huser row hmem).2 ?_
    rw [haccount, hemail]
    rfl
  passwordChange hworks current new :=
    PasswordChange.exec_run_unknown h.settled hburied.userById? hworks current new
  loadUser hworks := Reading.exec_user_unknown h.settled hburied.userById? hworks
  loadProfile hworks := Reading.exec_profile_unknown h.settled hburied.userById? hworks
  provision hworks name description notify :=
    Provision.exec_run_unknown h.settled hburied.userById? hworks name description notify
  removal hworks := exec_run_unknown h.settled hburied.userById? hworks

/-- **Removal is final.** After every history the removed user is as gone as at its beginning. -/
theorem removed_for_ever {s t : Service} (hready : s.IsReady)
    (hemails : (s.store.users.map (·.email)).Nodup) {user : Uuid} {row : User}
    (hrow : row ∈ s.store.users) (hid : row.id = user)
    (hremoved : (run user).exec s = (.ok (.ok ()), t)) {moves : List Move}
    (hmoves : ∀ move ∈ moves, move.IsHonest) :
    IsFinal (t.after moves) user row.email ∧ (SessionCache.Reaches s → ∀ cacheKey,
      (t.after moves).cache.get? (t.after moves).now.wholeSeconds (SessionCache.key user.text cacheKey) =
        none) := by
  have hstep := run_steps hready.settled hready.honest user
  rw [Gives, hremoved] at hstep
  have hburied : t.store.Buries user row.email := (hstep.done () rfl).buries hemails hrow hid
  have hafter := IsReady.after
    (P := fun u => u.store.Buries user row.email ∧
      (SessionCache.Reaches s → SessionCache.IsClear u user))
    (fun _ time h => ⟨h.1, fun hr => (h.2 hr).wait time⟩) (fun _ _ _ h => h)
    (fun u op answer v _ h k => ⟨?_, fun hr => (h.2 hr).step h.1 k⟩) hmoves (hstep.ready hready)
    ⟨hburied, fun hr => isClear_run hready.settled hready.honest hr hremoved⟩
  · exact ⟨isFinal_of_buries hafter.1 hafter.2.1, fun hr => (hafter.2.2 hr).get?_eq_none⟩
  · rcases k.store with hsame | hw
    · rw [hsame]
      exact h.1
    · exact Operation.Writes.buries hw h.1

/-! ## A user with a session -/

def ann : User :=
  ⟨.counted 1, "ann@example.com", none, none, none, .customer, .active, none, none, none⟩

def signedIn : Service :=
  let rows := { Store.empty with users := [ann] }
  { Service.start 0 with
    store := rows
    transaction := ⟨rows, false⟩
    cache := [(SessionCache.key ann.id.text "sealed", ⟨"{}", some 259200⟩)] }

theorem ann_removed_for_ever :
    let moves : List Move := [.perform (.signUp ⟨ann.email, .whole "Passw0rd!", "Ann", "Lee"⟩ true),
      .wait 1000000, .arm .commit (.breaksAfter .runtime), .perform (.remove ann.id),
      .perform (.loadUser ann.id)]
    ∃ t, (run ann.id).exec signedIn = (.ok (.ok ()), t) ∧ IsFinal (t.after moves) ann.id ann.email ∧
      ∀ cacheKey, (t.after moves).cache.get? (t.after moves).now.wholeSeconds
        (SessionCache.key ann.id.text cacheKey) = none := by
  intro moves
  have hready : signedIn.IsReady := ⟨rfl, fun _ _ _ => List.not_mem_nil⟩
  have hmark : (inTransaction (mark ann.id)).exec signedIn =
      (.ok (.ok ()), ((inTransaction (mark ann.id)).exec signedIn).2) := rfl
  have hquiet : Keeps Quiet (do
      let dropped ← SessionCache.invalidateAll ann.id.text
      log .info ("Deleted user " ++ ann.id.text ++ ", dropped " ++ toString dropped ++ " cached sessions")) :=
    (SessionCache.keeps_invalidateAll _).bind fun _ => keeps_note _ _
  obtain ⟨t, hdrop, -⟩ := exec_bestEffort keeps_note hquiet
    ("Failed to invalidate sessions of deleted user " ++ ann.id.text)
    ((inTransaction (mark ann.id)).exec signedIn).2
  have hremoved : (run ann.id).exec signedIn = (.ok (.ok ()), t) :=
    (exec_bind_ok hmark _).trans (exec_bind_ok hdrop _)
  have hmoves : ∀ move ∈ moves, move.IsHonest := by
    simp [moves, Move.IsHonest]
  have h := removed_for_ever hready (by decide) (List.mem_singleton_self ann) rfl hremoved hmoves
  exact ⟨t, hremoved, h.1, h.2 fun _ _ _ => ⟨List.not_mem_nil, List.not_mem_nil⟩⟩

end Removal

end Gatehouse
