import Gatehouse.Account.Login
import Gatehouse.Proofs.Service.Twin
import Gatehouse.Proofs.Service.Writes

/-!
# What a login leaves

A login opens a session only for an active user with the email that was given. The time of the login is
all it writes to the store, and the cache gets nothing but a session of that user.
-/

namespace Gatehouse.Directory

open Run Service

variable {s : Service}

theorem userByEmail_gives (email : String) : Gives (userByEmail email) s fun r t =>
    Looked s t ∧ ∀ found, r = .ok (some found) → s.transaction.rows.userByEmail? email = some found :=
  lookup_gives .userByEmail (·.userByEmail? email)

theorem exec_stamp (user : Uuid) :
    (rows >>= fun before => get >>= fun u => stage (before.setLastLogin u.now user)).exec s =
      if s.transaction.failed then (.error .staleTransaction, s)
      else (.ok (), { s with transaction := ⟨s.transaction.rows.setLastLogin s.now user, false⟩ }) := by
  rw [exec_bind, exec_rows]
  cases s.transaction.failed <;> rfl

theorem keeps_updateLastLogin (user : Uuid) : Keeps Unseen (updateLastLogin user) := by
  apply Keeps.guarded
  · intro v
    exact keeps_pure ()
  · exact keeps_rows.bind fun _ => keeps_get.bind fun _ => keeps_stage _

/-- An answer that comes without the work leaves the rows as they are. -/
theorem updateLastLogin_gives (user : Uuid) : Gives (updateLastLogin user) s fun r t =>
    Unseen s t ∧ ∀ a, r = .ok a → t.transaction = s.transaction ∨
      t.transaction = ⟨s.transaction.rows.setLastLogin s.now user, false⟩ := by
  apply Gives.of_exec
  intro r t h
  constructor
  · have hkeeps := keeps_updateLastLogin user s
    rwa [h] at hkeeps
  · rintro a rfl
    rcases exec_guarded_ok h with hwork | ⟨value, -, hvalue⟩
    · have hstamp := (exec_stamp user).symm.trans hwork
      split at hstamp
      · cases hstamp
      · cases hstamp
        exact .inr rfl
    · cases hvalue
      exact .inl rfl

end Gatehouse.Directory

namespace Gatehouse.Login

open Run Service

variable {s : Service}

structure Identified (s : Service) (r : Request) (id : Uuid) (user : User) : Prop where
  found : s.store.userByEmail? r.email = some user
  active : user.status = .active
  id : user.id = id

theorem identify_gives (hsettled : s.IsSettled) (r : Request) : Gives (identify r) s fun answer t =>
    Looked s t ∧ ∀ id, answer = .ok (.ok id) → ∃ user, Identified s r id user := by
  apply (Directory.userByEmail_gives r.email).bind
  · intro found t ht
    obtain ⟨ht, hfound⟩ := ht
    cases found with
    | none => exact Gives.pure ⟨ht, fun _ h => by cases h⟩
    | some user =>
      have hrow := hfound user rfl
      rw [hsettled] at hrow
      by_cases hactive : user.status = .active
      · simp only [hactive, bne_self_eq_false, Bool.false_eq_true, if_false]
        apply (keeps_lookup (R := Looked) .providerOf (·.providerOf? user.id .localPassword)).gives ht
        · intro provider u hu
          split
          · refine Gives.pure ⟨hu, fun id h => ⟨user, hrow, hactive, ?_⟩⟩
            cases h
            rfl
          · exact Gives.pure ⟨hu, fun _ h => by cases h⟩
        · intro e u hu
          exact ⟨hu, fun _ h => by cases h⟩
      · simp only [bne_iff_ne.mpr hactive, if_true]
        exact Gives.pure ⟨ht, fun _ h => by cases h⟩
  · intro e t ht
    exact ⟨ht.1, fun _ h => by cases h⟩

theorem keeps_identify {R : Service → Service → Prop} [Frame R] (r : Request) : Keeps R (identify r) := by
  refine (keeps_lookup .userByEmail (·.userByEmail? r.email)).bind fun found => ?_
  cases found with
  | none => exact keeps_pure _
  | some user =>
    dsimp only
    split
    · exact keeps_pure _
    · refine (keeps_lookup .providerOf (·.providerOf? user.id .localPassword)).bind fun provider => ?_
      split <;> exact keeps_pure _

def Touched (s : Service) (rows : Store) : Prop :=
  rows = s.store ∨ ∃ user, rows = s.store.setLastLogin s.now user

/-- The rows that the attempt to note the time of a login can leave, whichever of its calls fail. -/
def Stamped (s : Service) (user : Uuid) (rows : Store) : Prop :=
  rows = s.store ∨ rows = s.store.setLastLogin s.now user

def isSpare (call : Call) : Bool := call == .updateLastLogin || call == .commit || call.isCached

/-- What the attempt leaves: a transaction that goes on, and nothing changed but the time of the login. -/
structure Attempted (s : Service) (user : Uuid) (t : Service) : Prop where
  outside : Outside s t
  beside : Beside isSpare s t
  store : Stamped s user t.store
  rows : ∃ rows, t.transaction = ⟨rows, false⟩ ∧ Stamped s user rows

theorem Attempted.of_unseen {user : Uuid} {t u : Service} (ht : Attempted s user t) (hu : Unseen t u)
    (hbeside : Beside isSpare t u) (hrows : ∃ rows, u.transaction = ⟨rows, false⟩ ∧ Stamped s user rows) :
    Attempted s user u :=
  ⟨ht.outside.trans hu.toOutside, ht.beside.trans hbeside, by rw [hu.store]; exact ht.store, hrows⟩

theorem Attempted.disarm {user : Uuid} {t : Service} (ht : Attempted s user t) {call : Call}
    (h : isSpare call = true) : Attempted s user (t.disarm call) :=
  ht.of_unseen (Frame.disarm t call) (beside_disarm t h) ht.rows

theorem updateLastLogin_attempts (hsettled : s.IsSettled) (user : Uuid) :
    Gives (Directory.updateLastLogin user) s fun _ t => Attempted s user t := by
  have hstart : Attempted s user s := ⟨.refl s, .refl s, .inl rfl, s.store, hsettled, .inl rfl⟩
  have hwork : ∀ u : Service, Attempted s user u → u.transaction = s.transaction →
      Gives (rows >>= fun before => get >>= fun v => stage (before.setLastLogin v.now user)) u
        fun _ t => Attempted s user t := by
    intro u hu hsame
    unfold Gives
    rw [Directory.exec_stamp, hsame, hsettled]
    refine hu.of_unseen ⟨⟨rfl, rfl, rfl, rfl, rfl, fun _ h => h⟩, rfl⟩
      ⟨rfl, rfl, rfl, rfl, rfl, rfl, fun _ _ => rfl⟩ ?_
    exact ⟨_, rfl, .inr (by rw [hu.outside.now])⟩
  have hdisarmed : Attempted s user (s.disarm .updateLastLogin) := hstart.disarm rfl
  apply Gives.guarded
  · intro _
    exact hwork s hstart rfl
  · intro how _
    exact hdisarmed
  · intro how _
    exact (hwork _ hdisarmed rfl).bind (fun _ t ht => ht) fun _ t ht => ht
  · intro value _
    exact hdisarmed
  · intro _
    exact hwork _ hdisarmed rfl

theorem commit_attempts {user : Uuid} {t : Service} (ht : Attempted s user t) :
    Gives commit t fun _ u => Attempted s user u := by
  have hwork : ∀ u : Service, Attempted s user u →
      Gives (Run.rows >>= fun committed => modify fun s => { s with store := committed }) u
        fun _ v => Attempted s user v := by
    intro u hu
    obtain ⟨rows, hopen, hrows⟩ := hu.rows
    unfold Gives
    rw [exec_store, hopen]
    exact ⟨⟨hu.outside.now, hu.outside.references, hu.outside.cache, hu.outside.commands, hu.outside.events,
        hu.outside.faults⟩,
      ⟨hu.beside.now, hu.beside.references, hu.beside.ids, hu.beside.hashes, hu.beside.seals, hu.beside.events,
        hu.beside.fault⟩, hrows, rows, rfl, hrows⟩
  have hdisarmed : Attempted s user (t.disarm .commit) := ht.disarm rfl
  apply Gives.guarded
  · intro _
    exact hwork t ht
  · intro how _
    exact hdisarmed
  · intro how _
    exact (hwork _ hdisarmed).bind (fun _ u hu => hu) fun _ u hu => hu
  · intro value _
    exact hdisarmed
  · intro _
    exact hwork _ hdisarmed

/-- The attempt always comes back, and the transaction goes on, with the time of the login or without. -/
theorem touch_attempts (hsettled : s.IsSettled) (user : Uuid) :
    Gives (touch user) s fun answer t => answer = .ok () ∧ Attempted s user t := by
  apply Gives.tryCatch (P := fun _ t => Attempted s user t)
  · apply (updateLastLogin_attempts hsettled user).bind
    · intro _ t ht
      exact commit_attempts ht
    · intro e t ht
      exact ht
  · intro _ t ht
    exact ⟨rfl, ht⟩
  · intro e t ht
    exact ⟨rfl, ht.of_unseen ⟨⟨rfl, rfl, rfl, rfl, rfl, fun _ h => h⟩, rfl⟩
      ⟨rfl, rfl, rfl, rfl, rfl, rfl, fun _ _ => rfl⟩ ⟨t.store, rfl, ht.store⟩⟩

theorem touch_gives (hsettled : s.IsSettled) (user : Uuid) :
    Gives (touch user) s fun _ t => Outside s t ∧ Touched s t.store := by
  apply (touch_attempts hsettled user).mono
  intro _ t ht
  exact ⟨ht.2.outside, ht.2.store.imp_right fun h => ⟨user, h⟩⟩

theorem keeps_touch (user : Uuid) : Keeps Unsealed (touch user) := by
  have hbooks : ∀ (s : Service) store transaction logs,
      Unsealed s { s with store := store, transaction := transaction, logs := logs } :=
    fun _ _ _ _ => ⟨⟨rfl, rfl, rfl, rfl, rfl, fun _ h => h⟩, rfl⟩
  have hstage : ∀ rows, Keeps Unsealed (stage rows) := fun _ s => hbooks s _ _ _
  have hstore : ∀ committed, Keeps Unsealed (modify fun s => { s with store := committed }) :=
    fun _ s => hbooks s _ _ _
  have hlog : ∀ level message, Keeps Unsealed (log level message) := fun _ _ s => hbooks s _ _ _
  have hrollback : Keeps Unsealed rollback := fun s => hbooks s _ _ _
  refine Keeps.tryCatch (Keeps.bind ?_ fun _ => ?_) fun _ => (hlog _ _).bind fun _ => hrollback
  · exact Keeps.guarded (fun _ => keeps_pure ()) (keeps_rows.bind fun _ => keeps_get.bind fun _ => hstage _)
  · exact Keeps.guarded (fun _ => keeps_pure ()) (keeps_rows.bind fun _ => hstore _)

theorem keeps_sealToken (key : Envelope.Key) (token : String) : Keeps Untouched (sealToken key token) := by
  unfold sealToken
  split
  · exact keeps_pure _
  · exact keeps_drawSeal.bind fun _ => keeps_pure _

/-- Only the answer is made here, and it is for the user. -/
theorem openSession_gives {u : Service} (settings : Settings) (user : Uuid) (now : Instant) (token : String) :
    Gives (openSession settings user now token) u fun answer t =>
      Untouched u t ∧ ∀ session, answer = .ok (.ok session) → session.user = user := by
  have hfail : ∀ (e : Failure) t, Untouched u t → Untouched u t ∧
      ∀ session, (.error e : Except Failure (Answer Session)) = .ok (.ok session) → session.user = user :=
    fun e t ht => ⟨ht, fun _ h => by cases h⟩
  refine (keeps_sealToken settings.sealKey token).gives (Frame.refl u) (fun answer t ht => ?_) hfail
  cases answer with
  | error fault =>
    refine (keeps_log _ _).gives ht (fun _ v hv => ?_) hfail
    exact Gives.pure ⟨hv, fun _ h => by cases h⟩
  | ok sealed =>
    refine (keeps_lookup .userWithWorkspaces fun s => (s.userById? user).map s.load).gives ht
      (fun found v hv => ?_) hfail
    cases found with
    | none => exact Gives.pure ⟨hv, fun _ h => by cases h⟩
    | some loaded =>
      refine (keeps_ofChecked _).gives hv (fun snapshot w hw => ?_) hfail
      refine (keeps_ofChecked _).gives hw (fun info x hx => Gives.pure ⟨hx, fun _ h => ?_⟩) hfail
      cases h
      rfl

theorem keeps_begin (settings : Settings) (r : Request) : Keeps Outside (begin settings r) := by
  refine (keeps_identify r).bind fun answer => ?_
  cases answer with
  | error refusal => exact keeps_pure _
  | ok user =>
    have hopen : ∀ now token, Keeps Outside (openSession settings user now token) :=
      fun now token s => (openSession_gives settings user now token (u := s)).1.toOutside
    exact ((keeps_touch user).mono fun h => h.toOutside).bind fun _ => keeps_get.bind fun s =>
      (keeps_ofExcept _ _).bind fun token => hopen s.now token

structure Begun (s : Service) (r : Request) (answer : Except Failure (Answer Session)) (t : Service) :
    Prop where
  outside : Outside s t
  store : Touched s t.store
  session : ∀ session, answer = .ok (.ok session) → ∃ user, Identified s r session.user user

theorem begin_gives (hsettled : s.IsSettled) (settings : Settings) (r : Request) :
    Gives (begin settings r) s (Begun s r) := by
  apply (identify_gives hsettled r).bind
  · intro answer t ht
    obtain ⟨ht, hid⟩ := ht
    have hlooked := ht.untouched
    cases answer with
    | error refusal => exact Gives.pure ⟨hlooked.toOutside, .inl hlooked.store, fun _ h => by cases h⟩
    | ok id =>
      obtain ⟨user, huser⟩ := hid id rfl
      have htsettled : t.IsSettled := by
        rw [IsSettled, hlooked.transaction, hlooked.store, hsettled]
      have htouched : ∀ {u}, Touched t u → Touched s u := by
        intro u h
        rwa [Touched, hlooked.store, hlooked.now] at h
      apply (touch_gives htsettled id).bind
      · intro _ u hu
        have hsu : Outside s u := hlooked.toOutside.trans hu.1
        apply Gives.step exec_get
        refine (keeps_ofExcept (R := Untouched) _ _).gives (Frame.refl u) (fun token v hv => ?_) fun e v hv => ?_
        · refine Gives.mono (openSession_gives settings id u.now token) fun answer w hw => ?_
          have huw : Untouched u w := Frame.trans hv hw.1
          refine ⟨hsu.trans huw.toOutside, ?_, fun session h => ⟨user, ?_⟩⟩
          · rw [huw.store]
            exact htouched hu.2
          · rw [hw.2 session h]
            exact huser
        · refine ⟨hsu.trans hv.toOutside, ?_, fun _ h => by cases h⟩
          rw [hv.store]
          exact htouched hu.2
      · intro e u hu
        exact ⟨hlooked.toOutside.trans hu.1, htouched hu.2, fun _ h => by cases h⟩
  · intro e t ht
    exact ⟨ht.1.untouched.toOutside, .inl ht.1.untouched.store, fun _ h => by cases h⟩

end Gatehouse.Login
