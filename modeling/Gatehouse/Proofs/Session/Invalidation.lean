import Gatehouse.Proofs.Account.Removal
import Gatehouse.Proofs.Service.Apart
import Gatehouse.Proofs.Service.BestEffort
import Gatehouse.Proofs.Session.Book

/-!
# Bulk invalidation

Who is removed, changes the password or revokes the sessions has no session left, and nobody else loses one.
If the cache fails on the way, no session is lost at all: the removal and the change of the password stand,
and the revocation reports the failure.
-/

namespace Gatehouse

open Run Service SessionCache

/-! ## The sessions of one user -/

/-- The sessions of one user are gone, and those of all others are there with what they had left to live. -/
structure Drops (s t : Service) (user : Uuid) : Prop where
  now : t.now = s.now
  gone : ∀ cacheKey, t.cache.live? t.now.wholeSeconds (key user.text cacheKey) = none
  missed : Heeds s .cacheGet → ∀ cacheKey,
    ((TokenData.fetch user.text cacheKey).exec t).1 = .error (.cacheMiss (key user.text cacheKey))
  kept : ∀ other, other ≠ user → ∀ cacheKey,
    t.cache.held? (key other.text cacheKey) = s.cache.held? (key other.text cacheKey)
  rest : ∀ entry, (∀ cacheKey, entry ≠ key user.text cacheKey) → t.cache.held? entry = s.cache.held? entry

structure Swept (s t : Service) (user : Uuid) : Prop where
  now : t.now = s.now
  faults : t.faults ⊆ s.faults
  cache : t.cache = s.cache.filter fun e =>
    !(s.cache.scan s.now.wholeSeconds (key user.text "*")).contains e.1

def Service.sessionKeys (s : Service) (user : Uuid) : Set String :=
  {cacheKey | (s.cache.live? s.now.wholeSeconds (key user.text cacheKey)).isSome}

section
variable {s t u v : Service} {user : Uuid}

theorem SessionCache.IsClear.live?_eq_none (h : IsClear s user) (cacheKey : String) :
    s.cache.live? s.now.wholeSeconds (key user.text cacheKey) = none := by
  rw [Option.eq_none_iff_forall_ne_some]
  intro e he
  obtain ⟨hheld, hlive⟩ := Option.filter_eq_some_iff.mp he
  have hget := Cache.get?_of_held? hheld hlive
  rw [h.get?_eq_none] at hget
  cases hget

theorem SessionCache.IsClear.fetch_misses (h : IsClear s user) (hget : Heeds s .cacheGet) (cacheKey : String) :
    ((TokenData.fetch user.text cacheKey).exec s).1 = .error (.cacheMiss (key user.text cacheKey)) := by
  have hfetch := exec_fetch hget user.text cacheKey
  rw [h.get?_eq_none] at hfetch
  rw [TokenData.fetch, exec_bind_error hfetch]

theorem Swept.drops (h : Swept s t user) (hdistinct : (s.cache.map (·.1)).Nodup) : Drops s t user := by
  have hclear : IsClear t user := isClear_of_dropped h.now h.cache
  have hrest : ∀ entry, (∀ cacheKey, entry ≠ key user.text cacheKey) →
      t.cache.held? entry = s.cache.held? entry := by
    intro entry hother
    have hspared : entry ∉ s.cache.scan s.now.wholeSeconds (key user.text "*") := by
      intro hfound
      obtain ⟨cacheKey, -, hkey⟩ := (mem_scan_user hdistinct).mp hfound
      exact hother cacheKey hkey.symm
    rw [h.cache, Cache.held?_filter s.cache
      (fun k => !(s.cache.scan s.now.wholeSeconds (key user.text "*")).contains k), if_pos (by simpa using hspared)]
  refine ⟨h.now, hclear.live?_eq_none, fun hget => hclear.fetch_misses (hget.mono h.faults), ?_, hrest⟩
  exact fun other hother cacheKey => hrest _ fun _ hkey => hother (user_of_key hkey)

theorem Swept.between (hbefore : Apart s t) (h : Swept t u user) (hafter : Apart u v) : Swept s v user := by
  refine ⟨hafter.now.trans (h.now.trans hbefore.now), ?_, ?_⟩
  · exact fun _ hf => hbefore.faults (h.faults (hafter.faults hf))
  · rw [hafter.cache, h.cache, hbefore.cache, hbefore.now]

theorem Service.Apart.breakdown? (h : Apart s t) {call : Call} (hcall : call.isCached = true) :
    breakdown? t call = breakdown? s call := by
  rw [SessionCache.breakdown?, SessionCache.breakdown?, h.fault call hcall]

theorem Service.Apart.obstacle? (h : Apart s t) (user : String) : obstacle? t user = obstacle? s user := by
  rw [SessionCache.obstacle?, SessionCache.obstacle?, h.breakdown? rfl, h.breakdown? rfl, h.cache, h.now]

theorem Service.Apart.isSpared (h : Apart s t) (user : String) : isSpared t user = isSpared s user := by
  rw [SessionCache.isSpared, SessionCache.isSpared, h.breakdown? rfl, isSkipped, isSkipped,
    h.fault .cachePipeline rfl, h.cache, h.now]

theorem found_of_session (hdistinct : (s.cache.map (·.1)).Nodup) {cacheKey : String}
    (h : cacheKey ∈ s.sessionKeys user) :
    (s.cache.scan s.now.wholeSeconds (key user.text "*")).isEmpty = false := by
  have hfound : key user.text cacheKey ∈ s.cache.scan s.now.wholeSeconds (key user.text "*") :=
    (mem_scan_user hdistinct).mpr ⟨cacheKey, h, rfl⟩
  exact List.isEmpty_eq_false_iff_exists_mem.mpr ⟨_, hfound⟩

theorem obstacle?_of_session (hdistinct : (s.cache.map (·.1)).Nodup) {cacheKey : String}
    (h : cacheKey ∈ s.sessionKeys user) (hscan : breakdown? s .cacheScan = none) :
    obstacle? s user.text = breakdown? s .cachePipeline := by
  rw [obstacle?, hscan, found_of_session hdistinct h]
  rfl

theorem isSpared_of_session (hdistinct : (s.cache.map (·.1)).Nodup) {cacheKey : String}
    (h : cacheKey ∈ s.sessionKeys user) (hscan : breakdown? s .cacheScan = none) :
    isSpared s user.text = isSkipped s .cachePipeline := by
  rw [isSpared, hscan, found_of_session hdistinct h]
  rfl

theorem exec_invalidateAll_swept (hdistinct : (s.cache.map (·.1)).Nodup) (h : isSpared s user.text = false) :
    ∃ t, (invalidateAll user.text).exec s =
        (told (reported .invalidate user.text) (obstacle? s user.text) (s.sessionKeys user).ncard, t) ∧
      Swept s t user := by
  obtain ⟨t, hnow, hfaults, hends, hcache⟩ := exec_invalidateAll_eq s user.text
  rw [eraseAll_scan_user hdistinct] at hends
  rw [h, if_neg Bool.false_ne_true] at hcache
  exact ⟨t, hends, hnow, hfaults, hcache⟩

theorem exec_invalidateAll_spared (h : isSpared s user.text = true) :
    ∃ how t, (invalidateAll user.text).exec s = (.error (reported .invalidate user.text how), t) ∧
      obstacle? s user.text = some how ∧ t.cache = s.cache := by
  obtain ⟨t, -, -, hends, hcache⟩ := exec_invalidateAll_eq s user.text
  rw [h, if_pos rfl] at hcache
  cases hobstacle : obstacle? s user.text with
  | none => exact absurd h (by simp [not_spared_of_obstacle? hobstacle])
  | some how =>
    rw [hobstacle] at hends
    exact ⟨how, t, hends, rfl, hcache⟩

end

/-! ## Operations that end sessions -/

/-- An operation that ends all sessions of a user if it succeeds and the cache lets it, and else ends none. -/
structure Invalidates {α : Type} (m : Run (Answer α)) (s : Service) (user : Uuid) : Prop where
  drops : isSpared s user.text = false → ∀ a t, m.exec s = (.ok (.ok a), t) → Drops s t user
  spares : ∀ answer t, m.exec s = (answer, t) →
    isSpared s user.text = true ∨ (∀ a, answer ≠ .ok (.ok a)) → t.cache = s.cache

/-- An operation that succeeds with the same rows whether the cache works or not. -/
def Stands {α : Type} (m : Run (Answer α)) (s : Service) (written : α → Store → Prop) : Prop :=
  ∀ a t, m.exec (s.healed Call.isCached) = (.ok (.ok a), t) →
    ∃ u, m.exec s = (.ok (.ok a), u) ∧ u.store = t.store ∧ written a u.store

section
variable {s u : Service} {user : Uuid}

theorem bestEffort_sweeps (hdistinct : (u.cache.map (·.1)).Nodup) (h : isSpared u user.text = false)
    (warning : String) {after : Nat → Run Unit} (hafter : ∀ n, Keeps Apart (after n)) :
    ∃ t, (bestEffort warning (invalidateAll user.text >>= after)).exec u = (.ok (), t) ∧ Swept u t user := by
  obtain ⟨v, hrun, hswept⟩ := exec_invalidateAll_swept hdistinct h
  rw [bestEffort, exec_tryCatch]
  cases hobstacle : obstacle? u user.text with
  | none =>
    rw [hobstacle] at hrun
    have hrest := hafter (u.sessionKeys user).ncard v
    rw [exec_bind_ok hrun]
    rcases hended : (after (u.sessionKeys user).ncard).exec v with ⟨_ | _, w⟩
    · rw [hended] at hrest
      exact ⟨_, rfl, hswept.between (.refl u) (hrest.trans (apart_log .warning warning w))⟩
    · rw [hended] at hrest
      exact ⟨_, rfl, hswept.between (.refl u) hrest⟩
  | some how =>
    -- only the reply was lost: the sessions are gone, and the log tells of a failure
    rw [hobstacle] at hrun
    rw [exec_bind_error hrun]
    exact ⟨_, rfl, hswept.between (.refl u) (apart_log .warning warning v)⟩

theorem bestEffort_spares (h : isSpared u user.text = true) (warning : String) (after : Nat → Run Unit) :
    ∃ t, (bestEffort warning (invalidateAll user.text >>= after)).exec u = (.ok (), t) ∧ t.cache = u.cache := by
  obtain ⟨how, v, hrun, -, hcache⟩ := exec_invalidateAll_spared h
  rw [bestEffort, exec_tryCatch, exec_bind_error hrun]
  exact ⟨_, rfl, hcache⟩

theorem Invalidates.of_drops {α : Type} {m : Run (Answer α)} {a : α} {t : Service}
    (hm : m.exec s = (.ok (.ok a), t)) (hdropped : isSpared s user.text = false) (h : Drops s t user) :
    Invalidates m s user := by
  refine ⟨fun _ b v hv => ?_, fun answer v hv hfailed => ?_⟩
  · rw [hm] at hv
    cases hv
    exact h
  · rw [hm] at hv
    cases hv
    rcases hfailed with hspared | hrefused
    · rw [hdropped] at hspared
      cases hspared
    · exact absurd rfl (hrefused a)

theorem Invalidates.of_spared {α : Type} {m : Run (Answer α)} {answer : Except Failure (Answer α)} {t : Service}
    (hm : m.exec s = (answer, t)) (hfailed : isSpared s user.text = true ∨ ∀ a, answer ≠ .ok (.ok a))
    (h : t.cache = s.cache) : Invalidates m s user := by
  refine ⟨fun hdropped b v hv => ?_, fun _ v hv _ => ?_⟩
  · rw [hm] at hv
    cases hv
    rcases hfailed with hspared | hrefused
    · rw [hdropped] at hspared
      cases hspared
    · exact absurd rfl (hrefused b)
  · rw [hm] at hv
    cases hv
    exact h

/-- What a transaction has decided is followed by the end of the sessions, as far as the cache works. -/
theorem invalidates_of_transaction (hdistinct : (s.cache.map (·.1)).Nodup) {body : Run (Answer Unit)}
    (hbody : Keeps Apart body) (warning : String) {after : Nat → Run Unit} (hafter : ∀ n, Keeps Apart (after n)) :
    Invalidates (do
      match ← inTransaction body with
      | .error refusal => return .error refusal
      | .ok _ =>
        bestEffort warning (invalidateAll user.text >>= after)
        return .ok ()) s user := by
  have hfirst := hbody.inTransaction_apart s
  rcases hended : (inTransaction body).exec s with ⟨failure | refusal | _, u⟩
  case error =>
    rw [hended] at hfirst
    exact .of_spared (exec_bind_error hended _) (.inr nofun) hfirst.cache
  case ok.error =>
    rw [hended] at hfirst
    exact .of_spared (exec_bind_ok hended _) (.inr nofun) hfirst.cache
  case ok.ok =>
    rw [hended] at hfirst
    -- the transaction has made no call to the cache, so the same faults are still in the way
    have hsame := hfirst.isSpared user.text
    cases hspared : isSpared s user.text with
    | false =>
      have hdistinct' : (u.cache.map (·.1)).Nodup := hfirst.cache ▸ hdistinct
      obtain ⟨t, htried, hswept⟩ := bestEffort_sweeps hdistinct' (hsame.trans hspared) warning hafter
      have hswept : Swept s t user := hswept.between hfirst (.refl t)
      exact .of_drops ((exec_bind_ok hended _).trans (exec_bind_ok htried _)) hspared (hswept.drops hdistinct)
    | true =>
      obtain ⟨t, htried, hcache⟩ := bestEffort_spares (hsame.trans hspared) warning after
      exact .of_spared ((exec_bind_ok hended _).trans (exec_bind_ok htried _)) (.inl hspared)
        (hcache.trans hfirst.cache)

theorem Removal.run_invalidates (hdistinct : (s.cache.map (·.1)).Nodup) : Invalidates (run user) s user :=
  invalidates_of_transaction hdistinct (mark_apart user) _ fun _ => apart_log _ _

theorem PasswordChange.run_invalidates (hdistinct : (s.cache.map (·.1)).Nodup) (current new : RawText) :
    Invalidates (run ⟨user, current, new⟩) s user :=
  invalidates_of_transaction hdistinct (replace_apart _) _ fun _ => apart_pure ()

def Revocation.verdict (user : Uuid) (broken : Option Breakdown) (count : Nat) : Except Failure (Answer Response) :=
  match broken with
  | some how => report how
  | none => .ok (.ok ⟨user, count⟩)

theorem Revocation.exec_run_swept (hdistinct : (s.cache.map (·.1)).Nodup)
    (h : isSpared s user.text = false) : ∃ t, (run user).exec s =
      (verdict user (obstacle? s user.text) (s.sessionKeys user).ncard, t) ∧ Swept s t user := by
  obtain ⟨t, hrun, hswept⟩ := exec_invalidateAll_swept hdistinct h
  have hattempt := exec_attempt (s := s) (SessionCache.invalidateAll user.text)
  rw [hrun] at hattempt
  rw [run, exec_bind_ok hattempt]
  cases obstacle? s user.text with
  | none => exact ⟨_, rfl, hswept.between (.refl s) (apart_log .info _ t)⟩
  | some how =>
    have hlogged := hswept.between (.refl s)
      (apart_log .error ("Failed to revoke sessions for user " ++ user.text) t)
    cases how with
    | connection | sessionCache => exact ⟨_, rfl, hlogged⟩
    | _ => exact ⟨t, rfl, hswept⟩

theorem Revocation.exec_run_spared (h : isSpared s user.text = true) :
    ∃ t, (run user).exec s =
      (verdict user (obstacle? s user.text) (s.sessionKeys user).ncard, t) ∧ t.cache = s.cache := by
  obtain ⟨how, t, hrun, hobstacle, hcache⟩ := exec_invalidateAll_spared h
  have hattempt := exec_attempt (s := s) (SessionCache.invalidateAll user.text)
  rw [hrun] at hattempt
  rw [run, exec_bind_ok hattempt, hobstacle]
  cases how <;> exact ⟨_, rfl, hcache⟩

theorem stands_of_concurs {α : Type} {m : Run (Answer α)} {written : α → Store → Prop} {sent : α → List Event}
    (hconcurs : Concurs m s (s.healed Call.isCached)) (hgives : Gives m s (AllOrNothing s written sent)) :
    Stands m s written := by
  intro a t hhealed
  obtain ⟨hverdict, hstore⟩ := hconcurs
  rw [hhealed] at hverdict hstore
  have hm : m.exec s = (.ok (.ok a), (m.exec s).2) := Prod.ext hverdict rfl
  exact ⟨_, hm, hstore, (hgives.ended hm).1⟩

end

/-! ## All sessions of a user -/

structure Service.EndsSessions (s : Service) (user : Uuid) : Prop where
  removal : Invalidates (Removal.run user) s user
  removalStands : Stands (Removal.run user) s (Removal.Marked s user)
  passwordChange : ∀ current new, Invalidates (PasswordChange.run ⟨user, current, new⟩) s user
  passwordChangeStands : ∀ current new,
    Stands (PasswordChange.run ⟨user, current, new⟩) s (PasswordChange.Granted s ⟨user, current, new⟩)
  /-- With a working cache nothing is spared. -/
  works : obstacle? s user.text = none → isSpared s user.text = false
  revoked : isSpared s user.text = false → Drops s ((Revocation.run user).exec s).2 user
  /-- A revocation tells how many sessions the user had. -/
  counted : obstacle? s user.text = none →
    ((Revocation.run user).exec s).1 = .ok (.ok ⟨user, (s.sessionKeys user).ncard⟩)
  spared : isSpared s user.text = true → ((Revocation.run user).exec s).2.cache = s.cache
  refused : ∀ how, obstacle? s user.text = some how → how = .connection ∨ how = .sessionCache →
    ((Revocation.run user).exec s).1 = .ok (.error .sessionRevocationFailed)

/-- **Bulk invalidation is complete and contained.** With a working cache no session of the user is left, and
every other one is. With a failing one all are left, unless no more than the reply to the batch is lost, which
leaves what a working cache leaves; and only a revocation shows that it has failed. -/
theorem sessions_end_exactly {s : Service} (hsettled : s.IsSettled) (hs : s.IsHonest)
    (hdistinct : (s.cache.map (·.1)).Nodup) (user : Uuid) : s.EndsSessions user where
  removal := Removal.run_invalidates hdistinct
  removalStands :=
    stands_of_concurs (Removal.run_concurs (twin_healed s) user) (Removal.run_gives hs hsettled user)
  passwordChange := PasswordChange.run_invalidates hdistinct
  passwordChangeStands current new :=
    stands_of_concurs (PasswordChange.run_concurs (twin_healed s) _) (PasswordChange.run_grants hs hsettled _)
  works := not_spared_of_obstacle?
  revoked h := by
    obtain ⟨t, hrun, hswept⟩ := Revocation.exec_run_swept hdistinct h
    rw [hrun]
    exact hswept.drops hdistinct
  counted h := by
    obtain ⟨t, hrun, -⟩ := Revocation.exec_run_swept hdistinct (not_spared_of_obstacle? h)
    rw [hrun, h]
    rfl
  spared h := by
    obtain ⟨t, hrun, hcache⟩ := Revocation.exec_run_spared h
    rw [hrun]
    exact hcache
  refused how h hserver := by
    have hverdict : ((Revocation.run user).exec s).1 =
        Revocation.verdict user (obstacle? s user.text) (s.sessionKeys user).ncard := by
      cases hspared : isSpared s user.text with
      | true =>
        obtain ⟨t, hrun, -⟩ := Revocation.exec_run_spared hspared
        rw [hrun]
      | false =>
        obtain ⟨t, hrun, -⟩ := Revocation.exec_run_swept hdistinct hspared
        rw [hrun]
    rw [hverdict, h]
    rcases hserver with rfl | rfl <;> rfl

/-- Ann has a session and ben another one. She is removed, or her sessions are revoked; and both are tried
while the server of the cache goes away between the scan and the batch, or just before it answers to the batch. -/
theorem ann_ends_her_session :
    let ann := Removal.ann.id
    let ben := Uuid.counted 2
    let s : Service := { Removal.signedIn with
      cache := (key ben.text "sealed", ⟨"{}", some 60⟩) :: Removal.signedIn.cache }
    let broken := s.arm .cachePipeline (.breaks .connection)
    let lost := s.arm .cachePipeline (.breaksAfter .connection)
    (∃ t, (Removal.run ann).exec s = (.ok (.ok ()), t) ∧ Drops s t ann ∧
      t.cache.held? (key ben.text "sealed") = some ⟨"{}", some 60⟩) ∧
    ((Revocation.run ann).exec s).1 = .ok (.ok ⟨ann, 1⟩) ∧
    (∃ t, (Removal.run ann).exec broken = (.ok (.ok ()), t) ∧ Removal.Marked broken ann () t.store ∧
      t.cache = s.cache) ∧
    ((Revocation.run ann).exec broken).1 = .ok (.error .sessionRevocationFailed) ∧
    ((Revocation.run ann).exec lost).1 = .ok (.error .sessionRevocationFailed) ∧
    Drops lost ((Revocation.run ann).exec lost).2 ann := by
  intro ann ben s broken lost
  have hdistinct : (s.cache.map (·.1)).Nodup := by decide +kernel
  have hready : s.IsReady := ⟨rfl, fun _ _ _ => List.not_mem_nil⟩
  have hends := sessions_end_exactly hready.settled hready.honest hdistinct ann
  have hworks : obstacle? s ann.text = none := (heeds_unarmed rfl).obstacle? (heeds_unarmed rfl) _
  have hbroken : broken.IsReady := hready.arm (by exact trivial)
  have hfails := sessions_end_exactly hbroken.settled hbroken.honest hdistinct ann
  have hlost : lost.IsReady := hready.arm (by exact trivial)
  have hloses := sessions_end_exactly hlost.settled hlost.honest hdistinct ann
  have hsession : "sealed" ∈ s.sessionKeys ann := by
    rw [Service.sessionKeys, Set.mem_ofPred_eq]
    decide +kernel
  have hcount : (s.sessionKeys ann).ncard = 1 := by
    have hkeys : s.sessionKeys ann = {"sealed"} := by
      ext k
      rw [Service.sessionKeys, Set.mem_ofPred_eq, Set.mem_singleton_iff]
      by_cases hk : k = "sealed"
      · subst hk
        exact iff_of_true hsession rfl
      · have hother : ¬ key Removal.ann.id.text "sealed" = key ann.text k := fun h => hk (key_inj.mp h).2.symm
        have hben : ¬ key ben.text "sealed" = key ann.text k := fun h => absurd (key_inj.mp h).1 (by decide)
        have hnone : s.cache.held? (key ann.text k) = none := by
          simp [Cache.held?, s, Removal.signedIn, hother, hben]
        simp [Cache.live?, hnone, hk]
    rw [hkeys, Set.ncard_singleton]
  have hblocked : obstacle? broken ann.text = some .connection :=
    obstacle?_of_session (s := broken) hdistinct hsession rfl
  have hunheard : obstacle? lost ann.text = some .connection :=
    obstacle?_of_session (s := lost) hdistinct hsession rfl
  have hspared : isSpared broken ann.text = true := isSpared_of_session (s := broken) hdistinct hsession rfl
  have hdropped : isSpared lost ann.text = false := isSpared_of_session (s := lost) hdistinct hsession rfl
  have hmark : (inTransaction (Removal.mark ann)).exec s =
      (.ok (.ok ()), ((inTransaction (Removal.mark ann)).exec s).2) := rfl
  obtain ⟨t, hdrop, -⟩ := foregone_bestEffort ((SessionCache.keeps_invalidateAll ann.text).bind fun dropped =>
      (keeps_log .info ("Deleted user " ++ ann.text ++ ", dropped " ++ toString dropped ++
        " cached sessions")).mono Untouched.stored)
    ("Failed to invalidate sessions of deleted user " ++ ann.text) ((inTransaction (Removal.mark ann)).exec s).2
  have hremoved : (Removal.run ann).exec s = (.ok (.ok ()), t) :=
    (exec_bind_ok hmark _).trans (exec_bind_ok hdrop _)
  have hdrops := hends.removal.drops (not_spared_of_obstacle? hworks) () t hremoved
  have hhealed : broken.healed Call.isCached = s := (healed_arm rfl s _).trans (healed_unarmed rfl)
  have hcured : (Removal.run ann).exec (broken.healed Call.isCached) = (.ok (.ok ()), t) := by
    rw [hhealed]
    exact hremoved
  obtain ⟨u, hstands, -, hmarked⟩ := hfails.removalStands () t hcured
  refine ⟨⟨t, hremoved, hdrops, ?_⟩, ?_, ⟨u, hstands, hmarked, ?_⟩, hfails.refused .connection hblocked (.inl rfl),
    hloses.refused .connection hunheard (.inl rfl), hloses.revoked hdropped⟩
  · rw [hdrops.kept ben (by decide)]
    simp [Cache.held?, s]
  · rw [hends.counted hworks, hcount]
  · exact hfails.removal.spares _ u hstands (.inl hspared)

/-- The server of the cache drops the session of ann and goes away before it says so: the revocation reports a
failure, and nothing is left of the session. -/
theorem lost_reply_ends_session :
    let ann := Removal.ann.id
    let s := Removal.signedIn.arm .cachePipeline (.breaksAfter .connection)
    let t := ((Revocation.run ann).exec s).2
    obstacle? s ann.text = some .connection ∧
      ((Revocation.run ann).exec s).1 = .ok (.error .sessionRevocationFailed) ∧
      (s.cache.live? s.now.wholeSeconds (key ann.text "sealed")).isSome ∧
      t.cache.live? t.now.wholeSeconds (key ann.text "sealed") = none := by
  intro ann s t
  have hdistinct : (s.cache.map (·.1)).Nodup := by decide +kernel
  have hsession : "sealed" ∈ s.sessionKeys ann := by
    rw [Service.sessionKeys, Set.mem_ofPred_eq]
    decide +kernel
  have hobstacle : obstacle? s ann.text = some .connection := obstacle?_of_session hdistinct hsession rfl
  obtain ⟨u, hrun, hswept⟩ := Revocation.exec_run_swept hdistinct (isSpared_of_session hdistinct hsession rfl)
  have ht : t = u := congrArg Prod.snd hrun
  refine ⟨hobstacle, ?_, hsession, ?_⟩
  · rw [hrun, hobstacle]
    rfl
  · rw [ht]
    exact (hswept.drops hdistinct).gone "sealed"

end Gatehouse
