import Gatehouse.Proofs.Service.Step
import Gatehouse.Proofs.Tenancy.Failure

/-!
# Operations publish nothing

An operation leaves its events in the queue and sends none of them itself, whichever of its calls fail.
Identifiers are drawn one after the other, and none is taken back.
-/

namespace Gatehouse

def Command.isPublication : Command → Bool
  | .publish _ _ => true
  | _ => false

namespace Service

def publications (s : Service) : List Command := s.commands.filter Command.isPublication

structure Mute (s t : Service) : Prop where
  ids : s.ids ≤ t.ids
  publications : t.publications = s.publications

theorem Mute.of_commands {s t : Service} (hids : s.ids ≤ t.ids) (h : t.commands = s.commands) : Mute s t :=
  ⟨hids, by rw [Service.publications, h, Service.publications]⟩

theorem Mute.record (s : Service) {command : Command} (h : command.isPublication = false) :
    Mute s { s with commands := s.commands ++ [command] } := by
  refine ⟨Nat.le_refl _, ?_⟩
  rw [Service.publications, List.filter_append, List.filter_cons_of_neg (by simp [h]), List.filter_nil,
    List.append_nil]
  rfl

instance : Frame Mute where
  refl _ := ⟨Nat.le_refl _, rfl⟩
  trans h k := ⟨Nat.le_trans h.ids k.ids, k.publications.trans h.publications⟩
  disarm _ _ := ⟨Nat.le_refl _, rfl⟩

end Service

open Run Service

/-! ## Steps -/

namespace Run

theorem mute_modify {f : Service → Service} (hids : ∀ s, s.ids ≤ (f s).ids)
    (h : ∀ s, (f s).commands = s.commands) : Keeps Mute (modify f) :=
  keeps_modify fun s => .of_commands (hids s) (h s)

theorem mute_log (level : Level) (message : String) : Keeps Mute (log level message) :=
  mute_modify (fun _ => Nat.le_refl _) fun _ => rfl

theorem mute_emit (topic : String) (payload : List (String × Json)) : Keeps Mute (emit topic payload) :=
  mute_modify (fun _ => Nat.le_refl _) fun _ => rfl

theorem mute_stage (rows : Store) : Keeps Mute (stage rows) :=
  mute_modify (fun _ => Nat.le_refl _) fun _ => rfl

theorem mute_rollback : Keeps Mute rollback :=
  mute_modify (fun _ => Nat.le_refl _) fun _ => rfl

theorem mute_drawId : Keeps Mute drawId := fun _ => .of_commands (Nat.le_succ _) rfl

theorem mute_drawHash : Keeps Mute drawHash := fun _ => .of_commands (Nat.le_refl _) rfl

theorem mute_drawSeal : Keeps Mute drawSeal := fun _ => .of_commands (Nat.le_refl _) rfl

theorem mute_commit : Keeps Mute commit :=
  Keeps.guarded (fun _ => keeps_pure ()) (keeps_rows.bind fun _ =>
    mute_modify (fun _ => Nat.le_refl _) fun _ => rfl)

theorem mute_insert (write : Store.References → Store → Option Store) : Keeps Mute (insert write) := by
  refine keeps_rows.bind fun before => keeps_get.bind fun s => ?_
  cases write s.references before with
  | some after => exact mute_stage after
  | none =>
    refine Keeps.bind (mute_modify (fun _ => ?_) fun _ => ?_) fun _ => keeps_throw _
    · exact Nat.le_refl _
    · rfl

theorem Keeps.inTransaction_mute {α : Type} {m : Run α} (h : Keeps Mute m) : Keeps Mute (inTransaction m) :=
  fun s => ⟨(h s).ids, (h s).publications⟩

theorem Keeps.bestEffort_mute {body : Run Unit} (h : Keeps Mute body) (warning : String) :
    Keeps Mute (bestEffort warning body) :=
  h.tryCatch fun _ => mute_log _ _

theorem Keeps.silent {α : Type} {R : Service → Service → Prop} [Frame R] {m : Run (Answer α)} (h : Keeps R m) :
    Keeps R (silent m) :=
  h.bind fun _ => keeps_pure _

end Run

/-! ## The session cache -/

namespace SessionCache

variable {α : Type}

theorem mute_issue (call : Call) {command : Command} (hcommand : command.isPublication = false)
    {work : Service → Service × α} (hids : ∀ s, s.ids ≤ (work s).1.ids)
    (hwork : ∀ s, (work s).1.commands = s.commands) : Keeps Mute (issue call command work) := by
  have hdone : Keeps Mute (modifyGet fun s => ((work s).2, (work s).1) : Run α) :=
    fun s => .of_commands (hids s) (hwork s)
  exact (keeps_modify fun s => .record s hcommand).bind fun _ => Keeps.guarded (fun _ => hdone) hdone

theorem store_mute (user cacheKey payload : String) (lifetime : Int) :
    Keeps Mute (store user cacheKey payload lifetime) :=
  keeps_wrap _ _ (mute_issue _ rfl (fun _ => Nat.le_refl _) fun _ => rfl)

theorem delete_mute (user cacheKey : String) : Keeps Mute (delete user cacheKey) :=
  keeps_wrap _ _ (mute_issue _ rfl (fun _ => Nat.le_refl _) fun _ => rfl)

theorem invalidateAll_mute (user : String) : Keeps Mute (invalidateAll user) := by
  refine keeps_wrap _ _ ((mute_issue _ rfl (fun _ => Nat.le_refl _) fun _ => rfl).bind fun keys => ?_)
  split
  · exact keeps_pure _
  · exact mute_issue _ rfl (fun _ => Nat.le_refl _) fun _ => rfl

theorem verifyConnection_mute : Keeps Mute verifyConnection := by
  refine (keeps_modify fun s => .record s rfl).bind fun _ => (keeps_takeFault _).bind fun fault => ?_
  split
  · exact keeps_pure _
  · exact keeps_pure _
  · exact keeps_throw _
  · split <;> exact keeps_throw _
  · split <;> exact keeps_throw _

end SessionCache

/-! ## Signup -/

theorem Secret.hash_mute (password : RawText) : Keeps Mute (hash password) := by
  unfold hash
  split
  · exact mute_drawHash.bind fun _ => keeps_pure _
  · exact keeps_throw _

namespace Signup

theorem insertAndCommit_mute (user : User) (profile : Profile) (provider : Provider) :
    Keeps Mute (insertAndCommit user profile provider) := by
  have hcreate : Keeps Mute (Directory.createUser user profile provider) :=
    Keeps.guarded (fun _ => keeps_pure _) ((mute_insert _).bind fun _ => keeps_pure _)
  exact hcreate.bind fun _ => mute_commit.bind fun _ => keeps_pure _

theorem register_mute (r : Request) : Keeps Mute (register r) := by
  refine (Directory.keeps_holds (.email r.email)).bind fun taken => ?_
  cases taken with
  | true => exact keeps_pure _
  | false =>
    refine (Secret.hash_mute r.password).bind fun hash => keeps_get.bind fun s => ?_
    refine mute_drawId.bind fun id => mute_drawId.bind fun provider => ?_
    refine (insertAndCommit_mute _ _ _).attempt.bind fun outcome => ?_
    split
    · exact keeps_pure _
    · exact keeps_throw _
    · split
      · exact (mute_log _ _).bind fun _ => mute_rollback.bind fun _ => keeps_pure _
      · exact keeps_throw _

theorem run_mute (r : Request) (notify : Bool) : Keeps Mute (run r notify) := by
  unfold run
  split
  · exact keeps_pure _
  · refine (register_mute r).inTransaction_mute.bind fun answer => ?_
    cases answer with
    | error refusal => exact keeps_pure _
    | ok account =>
      have hanswer : Keeps Mute (do
          let info ← ofChecked (UserInfo.of (← get).now account.1 (some account.2) [])
          return .ok ⟨info⟩ : Run (Answer Response)) :=
        keeps_get.bind fun _ => (keeps_ofChecked _).bind fun _ => keeps_pure _
      cases notify with
      | false => exact hanswer
      | true => exact (mute_emit _ _).bind fun _ => hanswer

end Signup

/-! ## Login and logout -/

namespace Login

theorem touch_mute (user : Uuid) : Keeps Mute (touch user) := by
  have hwrite : Keeps Mute (Directory.updateLastLogin user) :=
    Keeps.guarded (fun _ => keeps_pure ()) (keeps_rows.bind fun _ => keeps_get.bind fun _ => mute_stage _)
  exact (hwrite.bind fun _ => mute_commit).tryCatch fun _ => (mute_log _ _).bind fun _ => mute_rollback

theorem sealToken_mute (key : Envelope.Key) (token : String) : Keeps Mute (sealToken key token) := by
  unfold sealToken
  split
  · exact keeps_pure _
  · exact mute_drawSeal.bind fun _ => keeps_pure _

theorem openSession_mute (settings : Settings) (user : Uuid) (now : Instant) (token : String) :
    Keeps Mute (openSession settings user now token) := by
  refine (sealToken_mute settings.sealKey token).bind fun answer => ?_
  cases answer with
  | error fault => exact (mute_log _ _).bind fun _ => keeps_pure _
  | ok sealed =>
    refine (Directory.keeps_userWithWorkspaces user).bind fun found => ?_
    cases found with
    | none => exact keeps_pure _
    | some loaded => exact (keeps_ofChecked _).bind fun _ => (keeps_ofChecked _).bind fun _ => keeps_pure _

theorem begin_mute (settings : Settings) (r : Request) : Keeps Mute (begin settings r) := by
  refine (keeps_identify r).bind fun answer => ?_
  cases answer with
  | error refusal => exact keeps_pure _
  | ok user =>
    exact (touch_mute user).bind fun _ => keeps_get.bind fun s => (keeps_ofExcept _ _).bind fun token =>
      openSession_mute settings user s.now token

theorem run_mute (settings : Settings) (r : Request) (notify : Bool) : Keeps Mute (run settings r notify) := by
  refine (begin_mute settings r).inTransaction_mute.bind fun answer => ?_
  cases answer with
  | error refusal => exact keeps_pure _
  | ok session =>
    refine ((SessionCache.store_mute _ _ _ _).bestEffort_mute _).bind fun _ => ?_
    cases notify with
    | false => exact keeps_pure _
    | true => exact (mute_emit _ _).bind fun _ => keeps_pure _

end Login

theorem TokenData.logout_mute (user sealed : String) : Keeps Mute (logout user sealed) := by
  unfold logout
  split
  · exact keeps_pure ()
  · exact (SessionCache.delete_mute _ _).tryCatch fun _ => mute_log _ _

theorem Revocation.run_mute (user : Uuid) : Keeps Mute (run user) := by
  refine (SessionCache.invalidateAll_mute _).attempt.bind fun outcome => ?_
  cases outcome with
  | ok count => exact (mute_log _ _).bind fun _ => keeps_pure _
  | error failure =>
    simp only
    split
    · exact (mute_log _ _).bind fun _ => keeps_pure _
    · exact keeps_throw _

/-! ## The gate and the readings -/

theorem Gate.recognize_mute (codec : Token.Codec) (token : String) : Keeps Mute (recognize codec token) := by
  have hcaller : ∀ user, Keeps Mute (caller user) := by
    intro user
    refine Keeps.inTransaction_mute ((Directory.keeps_userById user).bind fun found => ?_)
    cases found with
    | none => exact keeps_pure _
    | some found => simp only; split <;> exact keeps_pure _
  unfold recognize
  split
  · exact keeps_pure _
  · refine keeps_get.bind fun s => (keeps_ofExcept _ _).bind fun answer => ?_
    cases answer with
    | error refusal => exact keeps_pure _
    | ok user => exact hcaller user

theorem Reading.user_mute (id : Uuid) : Keeps Mute (user id) := by
  refine Keeps.inTransaction_mute ((Directory.keeps_userWithWorkspaces id).bind fun found => ?_)
  cases found with
  | none => exact keeps_pure _
  | some loaded => exact keeps_get.bind fun _ => (keeps_ofChecked _).bind fun _ => keeps_pure _

theorem Reading.profile_mute (id : Uuid) : Keeps Mute (profile id) := by
  refine Keeps.inTransaction_mute ((Directory.keeps_userWithProfile id).bind fun found => ?_)
  split <;> exact keeps_pure _

/-! ## Removal and password change -/

theorem Removal.run_mute (user : Uuid) : Keeps Mute (run user) := by
  have hdelete : Keeps Mute (Directory.softDelete user) :=
    Keeps.guarded (fun _ => keeps_pure _) (keeps_rows.bind fun _ => keeps_get.bind fun _ =>
      (mute_stage _).bind fun _ => keeps_pure _)
  have hmark : Keeps Mute (mark user) := by
    refine hdelete.bind fun found => ?_
    cases found with
    | false => exact keeps_pure _
    | true => exact mute_commit.bind fun _ => keeps_pure _
  refine hmark.inTransaction_mute.bind fun answer => ?_
  cases answer with
  | error refusal => exact keeps_pure _
  | ok done =>
    refine Keeps.bind (Keeps.bestEffort_mute ?_ _) fun _ => keeps_pure _
    exact (SessionCache.invalidateAll_mute _).bind fun _ => mute_log _ _

namespace PasswordChange

theorem replace_mute (r : Request) : Keeps Mute (replace r) := by
  have hupdate : ∀ provider hash, Keeps Mute (Directory.updateProvider provider hash) := fun _ _ =>
    keeps_rows.bind fun _ => keeps_get.bind fun _ => (mute_stage _).bind fun _ =>
      Keeps.guarded (fun _ => keeps_pure ()) (keeps_pure ())
  refine (Directory.keeps_userById r.user).bind fun found => ?_
  cases found with
  | none => exact keeps_pure _
  | some user =>
    refine (keeps_lookup .providerOf (·.providerOf? user.id .localPassword)).bind fun found => ?_
    cases found with
    | none => exact keeps_pure _
    | some provider =>
      simp only
      split
      · exact keeps_pure _
      · split
        · exact keeps_pure _
        · exact (Secret.hash_mute r.new).bind fun _ => (hupdate _ _).bind fun _ => mute_commit.bind fun _ =>
            keeps_pure _

theorem run_mute (r : Request) : Keeps Mute (run r) := by
  refine (replace_mute r).inTransaction_mute.bind fun answer => ?_
  cases answer with
  | error refusal => exact keeps_pure _
  | ok done =>
    refine Keeps.bind (Keeps.bestEffort_mute ?_ _) fun _ => keeps_pure _
    exact (SessionCache.invalidateAll_mute _).bind fun _ => keeps_pure ()

end PasswordChange

/-! ## Provision -/

namespace Provision

theorem authorize_mute (user : Uuid) : Keeps Mute (authorize user) := by
  refine (Directory.keeps_userById user).bind fun found => ?_
  cases found with
  | none => exact keeps_pure _
  | some found =>
    simp only
    split
    · exact keeps_pure _
    · split <;> exact keeps_pure _

theorem write_mute (owner : Uuid) (slug : String) (r : Request) : Keeps Mute (write owner slug r) := by
  have hworkspace : ∀ w isStorable, Keeps Mute (Directory.createWorkspace w isStorable) :=
    fun _ _ => Keeps.guarded (fun _ => keeps_throw _) (mute_insert _)
  have hrole : ∀ role, Keeps Mute (Directory.createRole role) :=
    fun _ => Keeps.guarded (fun _ => keeps_throw _) (mute_insert _)
  have hmembership : ∀ m, Keeps Mute (Directory.createMembership m) :=
    fun _ => Keeps.guarded (fun _ => keeps_pure _) ((mute_insert _).bind fun _ => keeps_pure _)
  refine keeps_get.bind fun s => mute_drawId.bind fun id => (hworkspace _ _).bind fun _ => ?_
  refine mute_drawId.bind fun role => (hrole _).bind fun _ => mute_drawId.bind fun membership => ?_
  exact (hmembership _).bind fun _ => mute_commit.bind fun _ => keeps_pure _

theorem giveUp_mute (owner : Uuid) (name : String) : Keeps Mute (giveUp owner name) := by
  refine keeps_get.bind fun s => ?_
  split
  · exact keeps_throw _
  · exact (mute_log _ _).bind fun _ => mute_rollback.bind fun _ => keeps_pure _

theorem provision_mute (r : Request) : Keeps Mute (provision r) := by
  refine (authorize_mute r.actingUser).bind fun answer => ?_
  cases answer with
  | error refusal => exact keeps_pure _
  | ok owner =>
    refine (keeps_search r.name).bind fun search => ?_
    split
    · refine (write_mute owner.id _ r).attempt.bind fun outcome => ?_
      split
      · exact keeps_pure _
      · exact keeps_throw _
      · exact giveUp_mute owner.id r.name
    · exact (mute_log _ _).bind fun _ => keeps_pure _

theorem run_mute (r : Request) (notify : Bool) : Keeps Mute (run r notify) := by
  refine (provision_mute r).inTransaction_mute.bind fun answer => ?_
  cases answer with
  | error refusal => exact keeps_pure _
  | ok response =>
    cases notify with
    | false => exact keeps_pure _
    | true => exact (mute_emit _ _).bind fun _ => keeps_pure _

end Provision

/-! ## Operations -/

theorem Operation.run_mute (op : Operation) : Keeps Mute op.run := by
  cases op with
  | signUp r notify => exact (Signup.run_mute r notify).silent
  | logIn settings r notify => exact (Login.run_mute settings r notify).silent
  | logOut user sealed => exact (TokenData.logout_mute user sealed).bind fun _ => keeps_pure _
  | recognize codec token => exact (Gate.recognize_mute codec token).silent
  | loadUser user => exact (Reading.user_mute user).silent
  | loadProfile user => exact (Reading.profile_mute user).silent
  | changePassword r => exact PasswordChange.run_mute r
  | remove user => exact Removal.run_mute user
  | revoke user => exact (Revocation.run_mute user).silent
  | provision r notify => exact (Provision.run_mute r notify).silent

theorem Service.move_mute (s : Service) (move : Move) : Mute s (s.move move) := by
  cases move with
  | wait time => exact .of_commands (Nat.le_refl _) rfl
  | arm call fault => exact .of_commands (Nat.le_refl _) rfl
  | perform op => exact op.run_mute s

end Gatehouse
