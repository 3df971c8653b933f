import Gatehouse.Account.PasswordChange
import Gatehouse.Account.Removal
import Gatehouse.Account.Signup
import Gatehouse.Proofs.Service.Writes

/-!
# What account operations write

Signup leaves the three rows of one account, a password change one hash, and a removal one status, or
they leave nothing.
-/

namespace Gatehouse

open Run Service

variable {s : Service}

/-! ## Hashes -/

namespace Secret

def IsHash (password : RawText) (hash : String) : Prop :=
  ∃ n plain, password = .whole plain ∧ hash = Password.hash (Password.countedSalt n) plain

def nextHash (s : Service) (plain : String) : String :=
  Password.hash (Password.countedSalt (s.hashes + 1)) plain

theorem isHash_nextHash (s : Service) (plain : String) : IsHash (.whole plain) (nextHash s plain) :=
  ⟨_, plain, rfl, rfl⟩

theorem exec_hash_whole (s : Service) (plain : String) :
    (hash (.whole plain)).exec s = (.ok (nextHash s plain), { s with hashes := s.hashes + 1 }) := rfl

/-- A torn password has no hash, so whatever needs one fails. -/
theorem torn_settles {α : Type} {written : α → Store → Prop} {u : Service} (hu : Unseen s u)
    (codes : List Nat) (f : String → Run (Answer α)) :
    Gives (hash (.torn codes) >>= f) u (Settles s written) := by
  have hfails : (hash (.torn codes)).exec u = (.error .unencodable, u) := rfl
  rw [Gives, exec_bind_error hfails]
  exact Settles.failed hu _

end Secret

/-! ## Signup -/

namespace Signup

def Registered (s : Service) (r : Request) (account : User × Profile) (rows : Store) : Prop :=
  ∃ id provider hash, account = (newUser s.now id r, newProfile s.now id r) ∧
    Secret.IsHash r.password hash ∧
    rows = s.store.withAccount (newUser s.now id r) (newProfile s.now id r)
      (newProvider s.now provider id hash r)

def nextUser (s : Service) : Uuid := .counted (s.ids + 1)

def Enrolled (s : Service) (r : Request) (account : User × Profile) (rows : Store) : Prop :=
  ∃ plain, r.password = .whole plain ∧
    account = (newUser s.now (nextUser s) r, newProfile s.now (nextUser s) r) ∧
    s.store.addAccount? s.references account.1 account.2
      (newProvider s.now (.counted (s.ids + 2)) (nextUser s) (Secret.nextHash s plain) r) = some rows

theorem Enrolled.registered {r : Request} {account : User × Profile} {rows : Store}
    (h : Enrolled s r account rows) : Registered s r account rows := by
  obtain ⟨plain, hp, rfl, hrows⟩ := h
  refine ⟨_, _, Secret.nextHash s plain, rfl, ?_, Store.addAccount?_eq_some hrows⟩
  rw [hp]
  exact Secret.isHash_nextHash s plain

theorem insertAndCommit_lands {u : Service} (hs : s.IsHonest) (hu : Untouched s u)
    (hsettled : s.IsSettled) (user : User) (profile : Profile) (provider : Provider) :
    Gives (insertAndCommit user profile provider) u (Lands s fun inserted rows =>
      inserted = true ∧ s.store.addAccount? s.references user profile provider = some rows) := by
  have hrows : u.transaction.rows = s.store := by
    rw [hu.transaction, hsettled]
  refine (Directory.createUser_gives (hu.honest hs) user profile provider).bind
    (fun inserted t ht => ?_) fun e t ht => ?_
  · obtain ⟨hut, hok⟩ := ht
    obtain ⟨rfl, after, hafter, htransaction⟩ := hok inserted rfl
    rw [hrows, hu.references] at hafter
    refine commit_lands hs (Frame.trans hu.toUnseen hut) ⟨rfl, ?_⟩
    rw [htransaction]
    exact hafter
  · exact Lands.failed (Frame.trans hu.toUnseen ht.1) e

theorem register_enrolls (hs : s.IsHonest) (hsettled : s.IsSettled) (r : Request) :
    Gives (register r) s (Settles s (Enrolled s r)) := by
  refine Gives.bind (P := fun _ t => Looked s t) (Directory.keeps_holds _ s) (fun isTaken t ht => ?_)
    fun e t ht => Settles.failed ht.untouched.toUnseen e
  split
  · exact Gives.pure (Settles.refused ht.untouched.toUnseen _)
  cases hp : r.password with
  | torn codes => exact Secret.torn_settles ht.untouched.toUnseen codes _
  | whole plain =>
    -- the check has drawn nothing, so what is drawn from here on is known
    obtain ⟨faults, hf, rfl⟩ := ht
    refine Gives.step (Secret.exec_hash_whole _ plain) (Gives.step exec_get ?_)
    refine Gives.step (exec_drawId _) (Gives.step (exec_drawId _) ?_)
    have hw : Untouched s
        { s with faults := faults, hashes := s.hashes + 1, ids := s.ids + 1 + 1 } :=
      ⟨⟨⟨rfl, rfl, rfl, rfl, rfl, hf⟩, rfl⟩, rfl⟩
    refine Gives.attempt (insertAndCommit_lands hs hw hsettled _ _ _) fun outcome t ht => ?_
    cases outcome with
    | ok inserted =>
      obtain ⟨ho, rfl, hrows⟩ := ht
      exact Gives.pure ⟨ho, plain, hp, rfl, hrows⟩
    | error e =>
      -- the rows are there all the same if the commit failed late
      have hstore := ht.2.imp_right fun ⟨hlate, _, _, hrows⟩ =>
        (⟨hlate, _, plain, hp, rfl, hrows⟩ :
          s.CommitsLate ∧ ∃ account, Enrolled s r account t.store)
      simp only
      split
      · refine Gives.step rfl (Gives.step rfl (Gives.pure ?_))
        exact Settles.undone ht.1 hstore (Frame.trans (keeps_log _ _ t).toUnseen (keeps_rollback _))
          fun _ h => by cases h
      · exact Gives.throw (Settles.undone ht.1 hstore (Frame.refl t) fun _ h => by cases h)

def Recorded (s : Service) (r : Request) (response : Response) (rows : Store) : Prop :=
  ∃ account, Registered s r account rows ∧ response.user.id = account.1.id.text ∧
    response.user.email = account.1.email

def sent (notify : Bool) (response : Response) : List Event :=
  if notify then
    [⟨topic, .object [("userId", .text response.user.id), ("email", .text response.user.email)]⟩]
  else []

def infoOf (account : User × Profile) : UserInfo :=
  ⟨account.1.id.text, account.1.email, Vocabulary.word account.1.globalRole,
    Vocabulary.word account.1.status, account.1.lastLoginAt, account.1.createdAt,
    some (.of account.2), []⟩

def Admitted (s : Service) (r : Request) (response : Response) (rows : Store) : Prop :=
  Password.weakness r.password = none ∧
    ∃ account, Enrolled s r account rows ∧ response = ⟨infoOf account⟩

theorem run_admits (hs : s.IsHonest) (hsettled : s.IsSettled) (r : Request) (notify : Bool) :
    Gives (run r notify) s (AllOrNothing s (Admitted s r) (sent notify)) := by
  unfold run
  split
  · exact Gives.pure ⟨rfl, rfl, rfl, .inl rfl⟩
  · rename_i hgood
    refine inTransaction_gives (register_enrolls hs hsettled r) (fun account t ht hrows => ?_)
      (fun _ => rfl) fun account rows h => ⟨⟨infoOf account⟩, hgood, account, h, rfl⟩
    have hadmitted : Admitted s r ⟨infoOf account⟩ t.store := ⟨hgood, account, hrows, rfl⟩
    cases notify with
    | false => exact ⟨hadmitted, ht.events.trans (List.append_nil _).symm⟩
    | true =>
      refine ⟨hadmitted, ?_⟩
      show t.events ++ _ = s.events ++ _
      rw [ht.events]
      rfl

theorem run_gives (hs : s.IsHonest) (hsettled : s.IsSettled) (r : Request) (notify : Bool) :
    Gives (run r notify) s (AllOrNothing s (Recorded s r) (sent notify)) := by
  refine (run_admits hs hsettled r notify).mono fun _ _ => AllOrNothing.mono fun response rows h => ?_
  obtain ⟨-, account, haccount, rfl⟩ := h
  exact ⟨account, haccount.registered, rfl, rfl⟩

end Signup

/-! ## Changes of passwords -/

namespace PasswordChange

def Rehashed (s : Service) (r : Request) (_ : Unit) (rows : Store) : Prop :=
  ∃ provider hash, s.store.providerOf? r.user .localPassword = some provider ∧
    Secret.IsHash r.new hash ∧ rows = s.store.setPasswordHash s.now provider.id hash

def Granted (s : Service) (r : Request) (_ : Unit) (rows : Store) : Prop :=
  ∃ user provider plain, s.store.userById? r.user = some user ∧
    s.store.providerOf? r.user .localPassword = some provider ∧
    Secret.opens r.current (some provider) = true ∧ r.new = .whole plain ∧
    Password.weakness r.new = none ∧
    rows = s.store.setPasswordHash s.now provider.id (Secret.nextHash s plain)

theorem Granted.rehashed {r : Request} {done : Unit} {rows : Store} (h : Granted s r done rows) :
    Rehashed s r done rows := by
  obtain ⟨_, provider, plain, -, hprovider, -, hp, -, rfl⟩ := h
  refine ⟨provider, _, hprovider, ?_, rfl⟩
  rw [hp]
  exact Secret.isHash_nextHash s plain

theorem replace_grants (hs : s.IsHonest) (hsettled : s.IsSettled) (r : Request) :
    Gives (replace r) s (Settles s (Granted s r)) := by
  have hrows : s.transaction.rows = s.store := by rw [hsettled]
  refine (Directory.userById_gives r.user).bind (fun found t ht => ?_)
    fun e t ht => Settles.failed ht.1.untouched.toUnseen e
  obtain ⟨ht, hfound⟩ := ht
  cases found with
  | none => exact Gives.pure (Settles.refused ht.untouched.toUnseen _)
  | some user =>
    obtain ⟨huser, hid⟩ := hfound user rfl
    rw [hrows] at huser
    refine (Directory.providerOf_gives user.id .localPassword).bind (fun found u hu => ?_)
      fun e u hu => Settles.failed (Frame.trans ht.untouched hu.1.untouched).toUnseen e
    obtain ⟨hu, hprovider⟩ := hu
    have hsu : Looked s u := Frame.trans ht hu
    cases found with
    | none => exact Gives.pure (Settles.refused hsu.untouched.toUnseen _)
    | some provider =>
      have hprovider := hprovider provider rfl
      rw [ht.untouched.transaction, hrows, hid] at hprovider
      simp only
      split
      · exact Gives.pure (Settles.refused hsu.untouched.toUnseen _)
      rename_i hopens
      split
      · exact Gives.pure (Settles.refused hsu.untouched.toUnseen _)
      rename_i hgood
      cases hp : r.new with
      | torn codes => exact Secret.torn_settles hsu.untouched.toUnseen codes _
      | whole plain =>
        obtain ⟨faults, hf, rfl⟩ := hsu
        refine Gives.step (Secret.exec_hash_whole _ plain) ?_
        have hv : Untouched s { s with faults := faults, hashes := s.hashes + 1 } :=
          ⟨⟨⟨rfl, rfl, rfl, rfl, rfl, hf⟩, rfl⟩, rfl⟩
        refine (Directory.updateProvider_gives provider.id _).bind (fun _ w hw => ?_)
          fun e w hw => Settles.failed (Frame.trans hv.toUnseen hw.1) e
        refine Gives.mono (commit_lands hs (Frame.trans hv.toUnseen hw.1) ?_) fun _ _ => Lands.settles
        refine ⟨(), rfl, user, provider, plain, huser, hprovider, by simpa using hopens, hp, hgood, ?_⟩
        rw [hw.2 _ rfl]
        show s.transaction.rows.setPasswordHash _ _ _ = _
        rw [hrows]
        rfl

theorem run_grants (hs : s.IsHonest) (hsettled : s.IsSettled) (r : Request) :
    Gives (run r) s (AllOrNothing s (Granted s r) fun _ => []) := by
  refine inTransaction_gives (replace_grants hs hsettled r) (fun done t ht hrows => ?_)
    (fun _ => rfl) fun done rows h => ⟨done, h⟩
  exact bestEffort_gives ((SessionCache.keeps_invalidateAll _).bind fun _ => keeps_pure ()) _ ht hrows rfl

theorem run_gives (hs : s.IsHonest) (hsettled : s.IsSettled) (r : Request) :
    Gives (run r) s (AllOrNothing s (Rehashed s r) fun _ => []) :=
  (run_grants hs hsettled r).mono fun _ _ => AllOrNothing.mono fun _ _ => Granted.rehashed

end PasswordChange

/-! ## Removals -/

namespace Removal

def Marked (s : Service) (user : Uuid) (_ : Unit) (rows : Store) : Prop :=
  (s.store.softDelete s.now user).2 = true ∧ rows = (s.store.softDelete s.now user).1

theorem mark_settles (hs : s.IsHonest) (hsettled : s.IsSettled) (user : Uuid) :
    Gives (mark user) s (Settles s (Marked s user)) := by
  refine (Directory.softDelete_gives hs user).bind (fun found t ht => ?_)
    fun e t ht => Settles.failed ht.1 e
  obtain ⟨ht, hok⟩ := ht
  obtain ⟨rfl, htransaction⟩ := hok found rfl
  rw [hsettled]
  split
  · rename_i hfound
    refine Gives.mono (commit_lands hs ht ?_) fun _ _ => Lands.settles
    refine ⟨(), rfl, hfound, ?_⟩
    rw [htransaction, hsettled]
  · exact Gives.pure (Settles.refused ht _)

theorem run_gives (hs : s.IsHonest) (hsettled : s.IsSettled) (user : Uuid) :
    Gives (run user) s (AllOrNothing s (Marked s user) fun _ => []) := by
  refine inTransaction_gives (mark_settles hs hsettled user) (fun done t ht hrows => ?_)
    (fun _ => rfl) fun done rows h => ⟨done, h⟩
  exact bestEffort_gives ((SessionCache.keeps_invalidateAll _).bind fun _ =>
    (keeps_log _ _).mono Untouched.stored) _ ht hrows rfl

end Removal

end Gatehouse
