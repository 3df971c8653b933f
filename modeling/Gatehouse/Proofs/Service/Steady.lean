import Gatehouse.Proofs.Service.History
import Gatehouse.Proofs.Service.Twin

/-!
# Transactions without the cache

Nothing that is decided within a transaction has to do with the session cache: each of them comes to the
same end with the same rows, whether or not the next calls to the cache are going to fail.
-/

namespace Gatehouse

open Run Service

/-! ## Calls to the store -/

namespace Directory

variable {free : Call → Bool} {call : Call}

theorem steady_answered {α : Type} (h : free call = false) (answer : α) {work : Run α} (hwork : Steady free work) :
    Steady free (guarded call (fun _ => pure answer) work) :=
  Steady.guarded h (fun _ => steady_pure answer) hwork

theorem steady_holds (c : Check) (h : free c.call = false) : Steady free (holds c) := by
  have hanswer : Steady free (answer c) :=
    Steady.guarded h (fun v => steady_pure v) (steady_rows.bind fun _ => steady_pure _)
  exact hanswer.bind fun _ => steady_pure _

theorem steady_insertion {α : Type} (h : free call = false) {reading : Json → Run α}
    (hreading : ∀ v, Steady free (reading v)) (write : Store.References → Store → Option Store) (a : α) :
    Steady free (guarded call reading do insert write; return a) :=
  Steady.guarded h hreading ((steady_insert write).bind fun _ => steady_pure a)

end Directory

/-! ## Signup -/

theorem Secret.hash_steady {free : Call → Bool} (password : RawText) : Steady free (hash password) := by
  unfold hash
  split
  · exact Steady.bind matched_drawHash fun _ => steady_pure _
  · exact matched_throw _

theorem Signup.insertAndCommit_steady (user : User) (profile : Profile) (provider : Provider) :
    Steady Call.isCached (insertAndCommit user profile provider) := by
  apply (Directory.steady_insertion rfl (fun _ => steady_pure false) _ true).bind
  intro inserted
  exact (steady_commit rfl).bind fun _ => steady_pure inserted

theorem Signup.register_steady (r : Request) : Steady Call.isCached (register r) := by
  apply (Directory.steady_holds (.email r.email) rfl).bind
  intro taken
  cases taken with
  | true => exact steady_pure _
  | false =>
    apply (Secret.hash_steady r.password).bind
    intro hash
    refine steady_get (fun hr => by simp only [hr.now]) fun s => ?_
    apply steady_drawId.bind
    intro id
    apply steady_drawId.bind
    intro provider
    apply (insertAndCommit_steady _ _ _).attempt.bind
    intro outcome
    cases outcome with
    | ok inserted =>
      cases inserted with
      | true => exact steady_pure _
      | false => exact matched_throw _
    | error failure =>
      by_cases hlost : failure.isIntegrity = true
      · simp only [hlost, if_true]
        exact (steady_log _ _).bind fun _ => steady_rollback.bind fun _ => steady_pure _
      · simp only [hlost]
        exact matched_throw _

theorem Signup.run_steady (r : Request) (notify : Bool) : Steady Call.isCached (run r notify) := by
  unfold run
  split
  · exact steady_pure _
  · apply (register_steady r).inTransaction.bind
    intro answer
    cases answer with
    | error refusal => exact steady_pure _
    | ok account =>
      have hanswer : Steady Call.isCached (do
          let info ← ofChecked (UserInfo.of (← get).now account.1 (some account.2) [])
          return .ok ⟨info⟩ : Run (Answer Response)) :=
        steady_get (fun hr => by simp only [hr.now]) fun _ => (steady_ofChecked _).bind fun _ => steady_pure _
      cases notify with
      | false => exact hanswer
      | true => exact (steady_emit _ _).bind fun _ => hanswer

/-! ## Login -/

namespace Login

theorem identify_steady {free : Call → Bool} (hemail : free .userByEmail = false)
    (hprovider : free .providerOf = false) (r : Request) : Steady free (identify r) := by
  apply (steady_lookup hemail (·.userByEmail? r.email)).bind
  intro found
  cases found with
  | none => exact steady_pure _
  | some user =>
    by_cases hactive : (user.status != .active) = true
    · simp only [hactive, if_true]
      exact steady_pure _
    · simp only [hactive]
      apply (steady_lookup hprovider (·.providerOf? user.id .localPassword)).bind
      intro provider
      split
      · exact steady_pure _
      · exact steady_pure _

theorem matched_sealToken {free : Call → Bool} {Q : Books → Books → Prop} (key : Envelope.Key) (token : String) :
    Matched (Alike free Q) Eq (sealToken key token) (sealToken key token) := by
  unfold sealToken
  split
  · exact matched_pure rfl
  · apply matched_drawSeal.bind
    rintro nonce _ rfl
    exact matched_pure rfl

theorem touch_steady (user : Uuid) : Steady Call.isCached (touch user) := by
  have hwrite : Steady Call.isCached (Directory.updateLastLogin user) := by
    apply Directory.steady_answered rfl ()
    apply steady_rows.bind
    intro before
    exact steady_get (fun hr => by simp only [hr.now]) fun _ => steady_stage _
  apply Steady.tryCatch
  · exact hwrite.bind fun _ => steady_commit rfl
  · intro _
    exact (steady_log _ _).bind fun _ => steady_rollback

theorem openSession_steady (settings : Settings) (user : Uuid) (now : Instant) (token : String) :
    Steady Call.isCached (openSession settings user now token) := by
  apply Steady.bind (matched_sealToken settings.sealKey token)
  intro answer
  cases answer with
  | error fault => exact (steady_log _ _).bind fun _ => steady_pure _
  | ok sealed =>
    apply (steady_lookup rfl fun s => (s.userById? user).map s.load).bind
    intro found
    cases found with
    | none => exact steady_pure _
    | some loaded =>
      apply (steady_ofChecked _).bind
      intro snapshot
      exact (steady_ofChecked _).bind fun _ => steady_pure _

theorem begin_steady (settings : Settings) (r : Request) : Steady Call.isCached (begin settings r) := by
  apply (identify_steady rfl rfl r).bind
  intro answer
  cases answer with
  | error refusal => exact steady_pure _
  | ok user =>
    apply (touch_steady user).bind
    intro _
    refine steady_get (fun hr => by simp only [hr.now]) fun s => ?_
    exact (steady_ofExcept _ _).bind fun token => openSession_steady settings user s.now token

end Login

/-! ## The gate and the readings -/

theorem Gate.recognize_steady (codec : Token.Codec) (token : String) :
    Steady Call.isCached (recognize codec token) := by
  unfold recognize
  split
  · exact steady_pure _
  · refine steady_get (fun hr => by simp only [hr.now]) fun s => ?_
    apply (steady_ofExcept _ _).bind
    intro answer
    cases answer with
    | error refusal => exact steady_pure _
    | ok user =>
      apply Steady.inTransaction
      apply (steady_lookup rfl (·.userById? user)).bind
      intro found
      cases found with
      | none => exact steady_pure _
      | some found => simp only; split <;> exact steady_pure _

theorem Reading.user_steady (id : Uuid) : Steady Call.isCached (user id) := by
  apply Steady.inTransaction
  apply (steady_lookup rfl fun s => (s.userById? id).map s.load).bind
  intro found
  cases found with
  | none => exact steady_pure _
  | some loaded =>
    exact steady_get (fun hr => by simp only [hr.now]) fun _ =>
      (steady_ofChecked _).bind fun _ => steady_pure _

theorem Reading.profile_steady (id : Uuid) : Steady Call.isCached (profile id) := by
  apply Steady.inTransaction
  apply (steady_lookup rfl fun s => (s.userById? id).map fun u => (u, s.profileOf? u.id)).bind
  intro found
  split <;> exact steady_pure _

/-! ## Removal and password change -/

theorem Removal.mark_steady (user : Uuid) : Steady Call.isCached (mark user) := by
  have hdelete : Steady Call.isCached (Directory.softDelete user) := by
    apply Steady.guarded rfl
    · intro v
      exact steady_pure _
    · apply steady_rows.bind
      intro before
      refine steady_get (fun hr => by simp only [hr.now]) fun s => ?_
      exact (steady_stage _).bind fun _ => steady_pure _
  apply hdelete.bind
  intro found
  cases found with
  | false => exact steady_pure _
  | true => exact (steady_commit rfl).bind fun _ => steady_pure _

theorem Directory.updateProvider_steady (provider : Uuid) (hash : String) :
    Steady Call.isCached (updateProvider provider hash) := by
  apply steady_rows.bind
  intro before
  refine steady_get (fun hr => by simp only [hr.now]) fun s => ?_
  apply (steady_stage _).bind
  intro _
  exact Steady.guarded rfl (fun _ => steady_pure ()) (steady_pure ())

theorem PasswordChange.replace_steady (r : Request) : Steady Call.isCached (replace r) := by
  apply (steady_lookup rfl (·.userById? r.user)).bind
  intro found
  cases found with
  | none => exact steady_pure _
  | some user =>
    apply (steady_lookup rfl (·.providerOf? user.id .localPassword)).bind
    intro found
    cases found with
    | none => exact steady_pure _
    | some provider =>
      by_cases hopens : (!Secret.opens r.current (some provider)) = true
      · simp only [hopens, if_true]
        exact steady_pure _
      · simp only [hopens]
        cases Password.weakness r.new with
        | some weakness => exact steady_pure _
        | none =>
          apply (Secret.hash_steady r.new).bind
          intro hash
          apply (Directory.updateProvider_steady provider.id hash).bind
          intro _
          exact (steady_commit rfl).bind fun _ => steady_pure _

/-! ## Provision -/

theorem Slug.searchFrom_steady {free : Call → Bool} {taken : String → Run (Option Bool)}
    (h : ∀ slug, Steady free (taken slug)) (base : String) : ∀ left i, Steady free (searchFrom taken base left i)
  | 0, _ => steady_pure _
  | left + 1, i => by
    apply (h _).bind
    intro found
    cases found with
    | none => exact steady_pure _
    | some isTaken =>
      cases isTaken with
      | true => exact searchFrom_steady h base left (i + 1)
      | false => exact steady_pure _

namespace Provision

theorem authorize_steady (user : Uuid) : Steady Call.isCached (authorize user) := by
  apply (steady_lookup rfl (·.userById? user)).bind
  intro found
  cases found with
  | none => exact steady_pure _
  | some found =>
    simp only
    split
    · exact steady_pure _
    · split <;> exact steady_pure _

theorem write_steady (owner : Uuid) (slug : String) (r : Request) : Steady Call.isCached (write owner slug r) := by
  refine steady_get (fun hr => by simp only [hr.now]) fun s => ?_
  apply steady_drawId.bind
  intro id
  have hworkspace : ∀ w isStorable, Steady Call.isCached (Directory.createWorkspace w isStorable) :=
    fun w isStorable => Steady.guarded rfl (fun _ => matched_throw _) (steady_insert _)
  have hrole : ∀ role, Steady Call.isCached (Directory.createRole role) :=
    fun role => Steady.guarded rfl (fun _ => matched_throw _) (steady_insert _)
  apply (hworkspace _ _).bind
  intro _
  apply steady_drawId.bind
  intro role
  apply (hrole _).bind
  intro _
  apply steady_drawId.bind
  intro membership
  apply (Directory.steady_insertion rfl (fun _ => steady_pure false) _ true).bind
  intro isMember
  exact (steady_commit rfl).bind fun _ => steady_pure _

theorem giveUp_steady (owner : Uuid) (name : String) : Steady Call.isCached (giveUp owner name) := by
  refine steady_get (fun hr => ?_) fun s => ?_
  · simp only [hr.transaction]
  · split
    · exact matched_throw _
    · exact (steady_log _ _).bind fun _ => steady_rollback.bind fun _ => steady_pure _

theorem provision_steady (r : Request) : Steady Call.isCached (provision r) := by
  apply (authorize_steady r.actingUser).bind
  intro answer
  cases answer with
  | error refusal => exact steady_pure _
  | ok owner =>
    have hprobe : ∀ slug, Steady Call.isCached (probe slug) :=
      fun slug => (Directory.steady_holds (.slug slug) rfl).attempt.bind fun _ => steady_pure _
    apply (Slug.searchFrom_steady hprobe _ _ 0).bind
    intro search
    cases search with
    | found slug =>
      apply (write_steady owner.id slug r).attempt.bind
      intro outcome
      cases outcome with
      | ok response =>
        cases response with
        | some response => exact steady_pure _
        | none => exact matched_throw _
      | error failure => exact giveUp_steady owner.id r.name
    | checkFailed => exact (steady_log _ _).bind fun _ => steady_pure _
    | exhausted => exact (steady_log _ _).bind fun _ => steady_pure _

theorem run_steady (r : Request) (notify : Bool) : Steady Call.isCached (run r notify) := by
  apply (provision_steady r).inTransaction.bind
  intro answer
  cases answer with
  | error refusal => exact steady_pure _
  | ok response =>
    cases notify with
    | false => exact steady_pure _
    | true => exact (steady_emit _ _).bind fun _ => steady_pure _

end Provision

end Gatehouse
