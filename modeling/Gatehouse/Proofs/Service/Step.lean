import Gatehouse.Proofs.Account.Login
import Gatehouse.Proofs.Account.Writes
import Gatehouse.Proofs.Service.History
import Gatehouse.Proofs.Tenancy.Writes

/-!
# Steps

What one operation can do to the state, whatever it is asked and whichever calls fail. It leaves the
rows alone or writes those of its kind, and new sessions in the cache are those of users who are there.
What every step preserves holds after every history.
-/

namespace Gatehouse

open Run Service

def Operation.Writes (s : Service) (rows : Store) : Operation → Prop
  | signUp r _ => ∃ response, Signup.Admitted s r response rows
  | logIn _ _ _ => Login.Touched s rows
  | changePassword r => PasswordChange.Granted s r () rows
  | remove user => Removal.Marked s user () rows
  | provision r _ => ∃ response, Provision.Founded s r response rows
  | _ => rows = s.store

/-- What an operation leaves behind that may write such rows. -/
structure Step (s : Service) (written : Store → Prop) {α : Type} (answer : Except Failure (Answer α))
    (t : Service) : Prop where
  settled : t.IsSettled
  now : t.now = s.now
  references : t.references = s.references
  faults : t.faults ⊆ s.faults
  store : t.store = s.store ∨ written t.store
  done : ∀ a, answer = .ok (.ok a) → written t.store
  cache : ∀ entry ∈ t.cache, entry ∈ s.cache ∨ ∃ user ∈ s.store.users, user.status ≠ .deleted ∧
    ∃ cacheKey, entry.1 = SessionCache.key user.id.text cacheKey

section
variable {α β : Type} {s t u : Service} {written : Store → Prop} {answer : Except Failure (Answer α)}
  {reply : Except Failure (Answer β)}

/-! ## Putting steps together -/

theorem Service.Posts.step {id : Uuid} (k : Posts id.text t u) (h : Step s written answer t)
    (huser : ∃ user ∈ s.store.users, user.status ≠ .deleted ∧ user.id = id)
    (hreply : ∀ b, reply = .ok (.ok b) → ∃ a, answer = .ok (.ok a)) : Step s written reply u := by
  refine ⟨?_, k.now.trans h.now, k.references.trans h.references, fun _ hf => h.faults (k.faults hf),
    ?_, ?_, ?_⟩
  · rw [IsSettled, k.transaction, k.store, h.settled]
  · rw [k.store]
    exact h.store
  · intro b hb
    obtain ⟨a, ha⟩ := hreply b hb
    rw [k.store]
    exact h.done a ha
  · intro entry he
    rcases k.cache entry he with he | hkey
    · exact h.cache entry he
    · obtain ⟨user, hmem, hlive, rfl⟩ := huser
      exact .inr ⟨user, hmem, hlive, hkey⟩

theorem Step.quiet (h : Step s written answer t) (k : Quiet t u)
    (hreply : ∀ b, reply = .ok (.ok b) → ∃ a, answer = .ok (.ok a)) : Step s written reply u := by
  refine ⟨?_, k.now.trans h.now, k.references.trans h.references, fun _ hf => h.faults (k.faults hf),
    ?_, ?_, fun entry he => h.cache entry (k.cache he)⟩
  · rw [IsSettled, k.transaction, k.store, h.settled]
  · rw [k.store]
    exact h.store
  · intro b hb
    obtain ⟨a, ha⟩ := hreply b hb
    rw [k.store]
    exact h.done a ha

theorem Service.Quiet.step (hsettled : s.IsSettled) (h : Quiet s t) :
    Step s (· = s.store) answer t := by
  refine ⟨?_, h.now, h.references, h.faults, .inl h.store, fun _ _ => h.store,
    fun _ he => .inl (h.cache he)⟩
  rw [IsSettled, h.transaction, h.store, hsettled]

theorem Run.Settles.step {written : α → Store → Prop} (h : Settles s written answer t) :
    Step s (fun rows => ∃ a, written a rows) answer t.rolledBack := by
  obtain ⟨ho, h⟩ := h
  have hcache : ∀ entry ∈ t.cache, entry ∈ s.cache := fun _ he => ho.cache ▸ he
  refine ⟨settled_rolledBack t, ho.now, ho.references, ho.faults, ?_, ?_,
    fun entry he => .inl (hcache entry he)⟩
  · match answer, h with
    | .ok (.ok a), hw => exact .inr ⟨a, hw⟩
    | .ok (.error _), hstore => exact hstore.imp_right fun ⟨_, hw⟩ => hw
    | .error _, hstore => exact hstore.imp_right fun ⟨_, hw⟩ => hw
  · rintro a rfl
    exact ⟨a, h⟩

theorem silent_steps {m : Run (Answer α)} (h : Gives m s (Step s written)) :
    Gives (silent m) s (Step s written) := by
  apply h.bind
  · intro answer t ht
    refine Gives.pure (ht.quiet (Frame.refl t) fun b hb => ?_)
    cases answer with
    | ok a => exact ⟨a, rfl⟩
    | error refusal => cases hb
  · intro e t ht
    exact ht.quiet (Frame.refl t) fun _ h => by cases h

/-- An operation that does nothing to the rows after its transaction. -/
theorem inTransaction_steps {body : Run (Answer α)} {f : Answer α → Run (Answer β)}
    {written : α → Store → Prop} (h : Gives body s (Settles s written))
    (hrefused : ∀ refusal, f (.error refusal) = pure (.error refusal))
    (hquiet : ∀ a, Keeps Quiet (f (.ok a))) :
    Gives (inTransaction body >>= f) s (Step s fun rows => ∃ a, written a rows) := by
  have hclosed : Gives (inTransaction body) s (Step s fun rows => ∃ a, written a rows) :=
    Settles.step h
  apply hclosed.bind
  · intro answer t ht
    cases answer with
    | error refusal =>
      rw [hrefused]
      exact Gives.pure (ht.quiet (Frame.refl t) fun _ h => by cases h)
    | ok a =>
      exact Gives.mono (P := fun _ u => Quiet t u) (hquiet a t) fun _ u hu =>
        ht.quiet hu fun _ _ => ⟨a, rfl⟩
  · intro e t ht
    exact ht.quiet (Frame.refl t) fun _ h => by cases h

theorem quiet_steps {m : Run (Answer α)} (hsettled : s.IsSettled) (h : Keeps Quiet m) :
    Gives m s (Step s (· = s.store)) := by
  unfold Gives
  exact Quiet.step hsettled (h s)

/-! ## Looking -/

section
variable {R : Service → Service → Prop} [Frame R]

theorem Directory.keeps_userById (id : Uuid) : Keeps R (userById id) :=
  keeps_lookup .userById (·.userById? id)

theorem Directory.keeps_userWithProfile (id : Uuid) : Keeps R (userWithProfile id) :=
  Keeps.guarded keeps_strayRow (keeps_rows.bind fun _ => keeps_pure _)

theorem Directory.keeps_userWithWorkspaces (id : Uuid) : Keeps R (userWithWorkspaces id) :=
  keeps_lookup .userWithWorkspaces fun s => (s.userById? id).map s.load

end

theorem Service.Looked.settled (h : Looked s t) (hs : s.IsSettled) : t.IsSettled := by
  obtain ⟨faults, -, rfl⟩ := h
  exact hs

theorem look_inTransaction {m : Run α} (hs : s.IsSettled) (h : Keeps Looked m) :
    Looked s ((inTransaction m).exec s).2 := by
  have hm := h s
  rw [exec_inTransaction, IsSettled.rolledBack (hm.settled hs)]
  exact hm

theorem looking_steps {m : Run (Answer α)} (hs : s.IsSettled) (h : Looked s (m.exec s).2) :
    Gives m s (Step s (· = s.store)) := by
  unfold Gives
  exact Quiet.step hs h.untouched.quiet

theorem Reading.user_looks (hs : s.IsSettled) (id : Uuid) : Looked s ((user id).exec s).2 := by
  apply look_inTransaction hs
  refine (Directory.keeps_userWithWorkspaces id).bind fun found => ?_
  cases found with
  | none => exact keeps_pure _
  | some loaded => exact keeps_get.bind fun _ => (keeps_ofChecked _).bind fun _ => keeps_pure _

theorem Reading.profile_looks (hs : s.IsSettled) (id : Uuid) : Looked s ((profile id).exec s).2 := by
  apply look_inTransaction hs
  refine (Directory.keeps_userWithProfile id).bind fun found => ?_
  split <;> exact keeps_pure _

theorem Gate.recognize_looks (hs : s.IsSettled) (codec : Token.Codec) (token : String) :
    Looked s ((recognize codec token).exec s).2 := by
  unfold recognize
  split
  · exact Frame.refl s
  rw [exec_bind_ok exec_get]
  cases subject codec s.now token with
  | error failure => exact Frame.refl s
  | ok answer =>
    rw [exec_bind_ok (exec_ofExcept_ok _ _)]
    cases answer with
    | error refusal => exact Frame.refl s
    | ok user =>
      apply look_inTransaction hs
      refine (Directory.keeps_userById user).bind fun found => ?_
      cases found with
      | none => exact keeps_pure _
      | some found => simp only; split <;> exact keeps_pure _

/-! ## The cache alone -/

theorem keeps_note (level : Level) (message : String) : Keeps Quiet (log level message) :=
  (keeps_log level message).mono Untouched.quiet

theorem keeps_emit (topic : String) (payload : List (String × Json)) : Keeps Quiet (emit topic payload) :=
  fun _ => ⟨⟨rfl, rfl, rfl, rfl, fun _ h => h⟩, fun _ h => h⟩

theorem keeps_bestEffort (warning : String) {body : Run Unit} (h : Keeps Quiet body) :
    Keeps Quiet (bestEffort warning body) :=
  h.tryCatch fun _ => keeps_note _ _

theorem TokenData.keeps_logout (user sealed : String) : Keeps Quiet (logout user sealed) := by
  unfold logout
  split
  · exact keeps_pure ()
  · exact (SessionCache.keeps_delete _ _).tryCatch fun _ => keeps_note _ _

theorem Revocation.keeps_run (user : Uuid) : Keeps Quiet (run user) := by
  refine (SessionCache.keeps_invalidateAll _).attempt.bind fun outcome => ?_
  cases outcome with
  | ok count => exact (keeps_note _ _).bind fun _ => keeps_pure _
  | error failure =>
    simp only
    split
    · exact (keeps_note _ _).bind fun _ => keeps_pure _
    · exact keeps_throw _

/-! ## Writing -/

section
variable (hsettled : s.IsSettled) (hs : s.IsHonest)
include hsettled hs

theorem Signup.run_steps (r : Request) (notify : Bool) :
    Gives (run r notify) s (Step s fun rows => ∃ response, Admitted s r response rows) := by
  unfold run
  split
  · exact Gives.pure ⟨hsettled, rfl, rfl, fun _ h => h, .inl rfl, (fun _ h => by cases h),
      fun _ he => .inl he⟩
  · rename_i hgood
    have henrol : Gives (register r) s (Settles s fun account rows =>
        Admitted s r ⟨infoOf account⟩ rows) :=
      (register_enrolls hs hsettled r).mono fun _ _ => Settles.mono fun account rows h =>
        ⟨hgood, account, h, rfl⟩
    refine Gives.mono (inTransaction_steps henrol (fun _ => rfl) ?_) fun answer t ht => ?_
    · intro account
      have hanswer : Keeps Quiet (do
          let info ← ofChecked (UserInfo.of (← get).now account.1 (some account.2) [])
          return .ok ⟨info⟩ : Run (Answer Response)) :=
        keeps_get.bind fun _ => (keeps_ofChecked _).bind fun _ => keeps_pure _
      cases notify with
      | false => exact hanswer
      | true => exact (keeps_emit _ _).bind fun _ => hanswer
    · exact { ht with
        store := ht.store.imp_right fun ⟨account, h⟩ => ⟨_, h⟩
        done := fun a ha => have ⟨account, h⟩ := ht.done a ha; ⟨_, h⟩ }

theorem PasswordChange.run_steps (r : Request) :
    Gives (run r) s (Step s (Granted s r ())) := by
  refine Gives.mono (inTransaction_steps (replace_grants hs hsettled r) (fun _ => rfl) ?_) fun _ _ ht => ?_
  · intro done
    exact (keeps_bestEffort _ ((SessionCache.keeps_invalidateAll (R := Quiet) _).bind fun _ => keeps_pure ())).bind
      fun _ => keeps_pure _
  · exact { ht with
      store := ht.store.imp_right fun ⟨_, h⟩ => h
      done := fun a ha => have ⟨_, h⟩ := ht.done a ha; h }

theorem Removal.run_steps (user : Uuid) : Gives (run user) s (Step s (Marked s user ())) := by
  refine Gives.mono (inTransaction_steps (mark_settles hs hsettled user) (fun _ => rfl) ?_) fun _ _ ht => ?_
  · intro done
    exact (keeps_bestEffort _ ((SessionCache.keeps_invalidateAll _).bind fun _ => keeps_note _ _)).bind
      fun _ => keeps_pure _
  · exact { ht with
      store := ht.store.imp_right fun ⟨_, h⟩ => h
      done := fun a ha => have ⟨_, h⟩ := ht.done a ha; h }

theorem Provision.run_steps (r : Request) (notify : Bool) :
    Gives (run r notify) s (Step s fun rows => ∃ response, Founded s r response rows) := by
  refine inTransaction_steps (provision_founds hs hsettled r) (fun _ => rfl) fun response => ?_
  cases notify with
  | false => exact keeps_pure _
  | true => exact (keeps_emit _ _).bind fun _ => keeps_pure _

omit hs in
theorem Login.run_steps (settings : Settings) (r : Request) (notify : Bool) :
    Gives (run settings r notify) s (Step s (Touched s)) := by
  have hbegin : Gives (inTransaction (begin settings r)) s fun answer t =>
      Step s (Touched s) answer t ∧ ∀ session, answer = .ok (.ok session) →
        ∃ user, Identified s r session.user user := by
    refine Gives.mono (P := fun answer t => ∃ u, t = u.rolledBack ∧ Begun s r answer u)
      ⟨_, rfl, begin_gives hsettled settings r⟩ ?_
    rintro answer - ⟨u, rfl, hu⟩
    have ho := hu.outside
    exact ⟨⟨settled_rolledBack u, ho.now, ho.references, ho.faults, .inr hu.store, fun _ _ => hu.store,
      fun _ he => .inl (ho.cache ▸ he)⟩, hu.session⟩
  apply hbegin.bind
  · intro answer t ht
    obtain ⟨ht, hsession⟩ := ht
    cases answer with
    | error refusal => exact Gives.pure (ht.quiet (Frame.refl t) fun _ h => by cases h)
    | ok session =>
      obtain ⟨user, huser⟩ := hsession session rfl
      have hmem : ∃ user ∈ s.store.users, user.status ≠ .deleted ∧ user.id = session.user := by
        refine ⟨user, List.mem_of_find?_eq_some huser.found, ?_, huser.id⟩
        rw [huser.active]
        decide
      obtain ⟨u, hstore, hu⟩ := exec_bestEffort (R := Posts session.user.text)
        (fun level message => (keeps_note level message).mono fun h => h.posts _)
        (SessionCache.keeps_store _ session.response.sealedToken session.snapshot.text _)
        ("Failed to cache token data for user " ++ session.user.text) t
      apply Gives.step hstore
      have hquiet : Keeps Quiet (do
          if notify then emit topic [("userId", .text session.user.text)]
          return .ok session.response : Run (Answer Response)) := by
        cases notify with
        | false => exact keeps_pure _
        | true => exact (keeps_emit _ _).bind fun _ => keeps_pure _
      have hposted : Step s (Touched s) (.ok (.ok session) : Except Failure (Answer Session)) u :=
        hu.step ht hmem fun _ _ => ⟨session, rfl⟩
      exact Gives.mono (P := fun _ v => Quiet u v) (hquiet u) fun _ v hv =>
        hposted.quiet hv fun _ _ => ⟨session, rfl⟩
  · intro e t ht
    exact ht.1.quiet (Frame.refl t) fun _ h => by cases h

end

end

/-! ## Operations and histories -/

variable {s t : Service}

theorem Operation.run_steps (h : s.IsReady) (op : Operation) :
    Gives op.run s (Step s fun rows => op.Writes s rows) := by
  cases op with
  | signUp r notify => exact silent_steps (Signup.run_steps h.settled h.honest r notify)
  | logIn settings r notify => exact silent_steps (Login.run_steps h.settled settings r notify)
  | logOut user sealed =>
    exact quiet_steps h.settled ((TokenData.keeps_logout user sealed).bind fun _ => keeps_pure _)
  | recognize codec token =>
    exact silent_steps (looking_steps h.settled (Gate.recognize_looks h.settled codec token))
  | loadUser user => exact silent_steps (looking_steps h.settled (Reading.user_looks h.settled user))
  | loadProfile user => exact silent_steps (looking_steps h.settled (Reading.profile_looks h.settled user))
  | changePassword r => exact PasswordChange.run_steps h.settled h.honest r
  | remove user => exact Removal.run_steps h.settled h.honest user
  | revoke user => exact silent_steps (quiet_steps h.settled (Revocation.keeps_run user))
  | provision r notify => exact silent_steps (Provision.run_steps h.settled h.honest r notify)

theorem Step.ready {α : Type} {written : Store → Prop} {answer : Except Failure (Answer α)}
    (k : Step s written answer t) (h : s.IsReady) : t.IsReady :=
  ⟨k.settled, fun call value hw hm => h.honest call value hw (k.faults hm)⟩

theorem Service.IsReady.move (h : s.IsReady) {move : Move} (hmove : move.IsHonest) :
    (s.move move).IsReady := by
  cases move with
  | wait time => exact h.wait time
  | arm call fault => exact h.arm hmove
  | perform op => exact (op.run_steps h).ready h

/-- What every move preserves, together with what is noted down, holds after every history. -/
theorem Service.IsReady.noted {G : Type} {note : G → Service → Move → G} {P : G → Service → Prop}
    (hkeep : ∀ g s move, s.IsReady → move.IsHonest → P g s → P (note g s move) (s.move move)) :
    ∀ {moves : List Move} {s : Service} {g : G}, (∀ move ∈ moves, move.IsHonest) → s.IsReady → P g s →
      (s.after moves).IsReady ∧ P (Service.noted note g s moves) (s.after moves) := by
  intro moves
  induction moves with
  | nil => exact fun _ hr hp => ⟨hr, hp⟩
  | cons move moves ih =>
    intro s g hmoves hr hp
    rw [after_cons, Service.noted]
    have hmove : move.IsHonest := hmoves move List.mem_cons_self
    have hrest : ∀ move ∈ moves, move.IsHonest := fun m hm => hmoves m (List.mem_cons_of_mem _ hm)
    exact ih hrest (hr.move hmove) (hkeep g s move hr hmove hp)

/-- What waiting, arming and every step preserve holds after every history. -/
theorem Service.IsReady.after {P : Service → Prop} (hwait : ∀ s time, P s → P (s.wait time))
    (harm : ∀ s call fault, P s → P (s.arm call fault))
    (hstep : ∀ s op (answer : Except Failure (Answer Unit)) t, s.IsReady → P s →
      Step s (fun rows => Operation.Writes s rows op) answer t → P t)
    {moves : List Move} (hmoves : ∀ move ∈ moves, move.IsHonest) (hr : s.IsReady) (hp : P s) :
    (s.after moves).IsReady ∧ P (s.after moves) := by
  refine @IsReady.noted Unit (fun _ _ _ => ()) (fun _ => P) (fun _ u move hr _ hp => ?_) moves s () hmoves hr hp
  cases move with
  | wait time => exact hwait u time hp
  | arm call fault => exact harm u call fault hp
  | perform op => exact hstep u op _ _ hr hp (op.run_steps hr)

end Gatehouse
