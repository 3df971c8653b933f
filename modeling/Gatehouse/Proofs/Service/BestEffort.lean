import Gatehouse.Proofs.Account.Passwords
import Gatehouse.Proofs.Account.Unstamped
import Gatehouse.Proofs.Event.Dispatcher
import Gatehouse.Proofs.Service.Steady
import Gatehouse.Proofs.Session.Cache

/-!
# Best-effort steps decide nothing

The time of a login, the session cache and the queue of events may fail in any combination: who logs in or
out, removes an account or changes a password gets the same verdict with the same rows behind it. Only a
revocation of sessions reports that the cache has failed.
-/

namespace Gatehouse

open Run Service

/-! ## What is tried afterwards -/

section
variable {s t : Service}

/-- Whatever the cache does, nothing is left of a failing body but a warning. -/
theorem foregone_bestEffort {body : Run Unit} (h : Keeps Stored body) (warning : String) :
    Foregone Stored (bestEffort warning body) () :=
  exec_bestEffort (fun level message => (keeps_log level message).mono fun h => h.stored) h warning

theorem Removal.run_concurs (htwin : Twin Call.isCached s t) (user : Uuid) : Concurs (run user) s t := by
  apply concurs_of_transaction (mark_steady user) ?_ htwin
  intro answer
  cases answer with
  | error refusal => exact ⟨_, foregone_pure _⟩
  | ok _ =>
    refine ⟨_, (foregone_bestEffort ?_ _).bind (foregone_pure (Except.ok ()))⟩
    exact (SessionCache.keeps_invalidateAll user.text).bind fun _ => (keeps_log _ _).mono fun h => h.stored

theorem PasswordChange.run_concurs (htwin : Twin Call.isCached s t) (r : Request) : Concurs (run r) s t := by
  apply concurs_of_transaction (replace_steady r) ?_ htwin
  intro answer
  cases answer with
  | error refusal => exact ⟨_, foregone_pure _⟩
  | ok _ =>
    refine ⟨_, (foregone_bestEffort ?_ _).bind (foregone_pure (Except.ok ()))⟩
    exact (SessionCache.keeps_invalidateAll r.user.text).bind fun _ => keeps_pure _

theorem TokenData.logout_foregone (user sealed : String) : Foregone Stored (logout user sealed) () := by
  unfold logout
  split
  · exact foregone_pure ()
  · exact foregone_bestEffort (SessionCache.keeps_delete user sealed) _

end

/-! ## Revocation -/

namespace Revocation

def report : Breakdown → Except Failure (Answer Response)
  | .connection | .sessionCache => .ok (.error .sessionRevocationFailed)
  | how => .error (.broken how)

theorem run_reports (s : Service) (user : Uuid) : ∃ count, ((run user).exec s).1 =
    match SessionCache.obstacle? s user.text with
    | some how => report how
    | none => .ok (.ok ⟨user, count⟩) := by
  obtain ⟨t, -, -, hends, -⟩ := SessionCache.exec_invalidateAll_eq s user.text
  have hattempt := exec_attempt (s := s) (SessionCache.invalidateAll user.text)
  rw [hends] at hattempt
  refine ⟨(SessionCache.eraseAll s.now.wholeSeconds s.cache
    (s.cache.scan s.now.wholeSeconds (SessionCache.key user.text "*"))).2, ?_⟩
  rw [run, exec_bind_ok hattempt]
  cases SessionCache.obstacle? s user.text with
  | none => rfl
  | some how => cases how <;> rfl

end Revocation

/-! ## All operations -/

section
variable {α : Type} {free : Call → Bool} {s t : Service}

theorem Run.Concurs.silent {m : Run (Answer α)} (h : Concurs m s t) : Concurs (silent m) s t := by
  rw [Concurs, exec_silent, exec_silent, h.1]
  exact ⟨rfl, h.2⟩

theorem Run.Steady.concurs {m : Run α} (h : Steady free m) (htwin : Twin free s t) : Concurs m s t := by
  cases h s t htwin with
  | ok hm hn hv hr =>
    cases hv
    rw [Concurs, hm, hn]
    exact ⟨rfl, hr.store.symm⟩
  | error hm hn hr =>
    rw [Concurs, hm, hn]
    exact ⟨rfl, hr.store.symm⟩

theorem Run.Foregone.concurs {m : Run α} {a : α} (h : Foregone Stored m a) (htwin : Twin free s t) :
    Concurs m s t := by
  obtain ⟨u, hu, hsu⟩ := h s
  obtain ⟨v, hv, htv⟩ := h t
  rw [Concurs, hu, hv]
  exact ⟨rfl, hsu.store.trans (htwin.store.symm.trans htv.store.symm)⟩

variable (htwin : Twin Call.isCached s t)
include htwin

theorem Login.run_concurs_cached (settings : Settings) (r : Request) (notify : Bool) :
    Run.Concurs (run settings r notify) s t := by
  cases (begin_steady settings r).inTransaction s t htwin with
  | error hs ht hr =>
    rw [Run.Concurs, run, exec_bind_error hs, exec_bind_error ht]
    exact ⟨rfl, hr.store.symm⟩
  | @ok answer _ u v hs ht hv hr =>
    cases hv
    cases answer with
    | error refusal =>
      rw [Run.Concurs, run, exec_bind_ok hs, exec_bind_ok ht]
      exact ⟨rfl, hr.store.symm⟩
    | ok session =>
      obtain ⟨x, hx, hxposted⟩ := exec_run_begun hs notify
      obtain ⟨y, hy, hyposted⟩ := exec_run_begun ht notify
      rw [Run.Concurs, hx, hy]
      exact ⟨rfl, hxposted.store.trans (hr.store.symm.trans hyposted.store.symm)⟩

theorem Operation.run_concurs {op : Operation} (h : ∀ user, op ≠ .revoke user) : Concurs op.run s t := by
  cases op with
  | signUp r notify => exact ((Signup.run_steady r notify).concurs htwin).silent
  | logIn settings r notify => exact (Login.run_concurs_cached htwin settings r notify).silent
  | logOut user sealed =>
    exact ((TokenData.logout_foregone user sealed).bind (foregone_pure (Except.ok ()))).concurs htwin
  | recognize codec token => exact ((Gate.recognize_steady codec token).concurs htwin).silent
  | loadUser user => exact ((Reading.user_steady user).concurs htwin).silent
  | loadProfile user => exact ((Reading.profile_steady user).concurs htwin).silent
  | changePassword r => exact PasswordChange.run_concurs htwin r
  | remove user => exact Removal.run_concurs htwin user
  | revoke user => exact absurd rfl (h user)
  | provision r notify => exact ((Provision.run_steady r notify).concurs htwin).silent

end

/-! ## The queue -/

namespace Dispatcher

def deliver (d : Dispatcher) : List Event → Option Dispatcher
  | [] => some d
  | event :: rest => (d.step (.dispatch event.topic event.payload)).bind fun (d, _) => d.deliver rest

/-- No offer fails, whether the dispatcher runs or not and however full it is. -/
theorem exists_deliver (d : Dispatcher) (events : List Event) : ∃ e, d.deliver events = some e := by
  induction events generalizing d with
  | nil => exact ⟨d, rfl⟩
  | cons event rest ih =>
    by_cases h : d.Refuses
    · obtain ⟨line, hstep⟩ := step_dispatch_refused h event.topic event.payload
      rw [deliver, hstep]
      exact ih d
    · rw [deliver, step_dispatch_accepted h]
      exact ih _

end Dispatcher

/-- A login whose events are offered to a dispatcher; there is no verdict if an offer fails. -/
def Login.runInto (queue : Dispatcher) (settings : Settings) (r : Request) (notify : Bool) (s : Service) :
    Option (Except Failure (Answer Response) × Service) :=
  let ended := (run settings r notify).exec s
  (queue.deliver (ended.2.events.drop s.events.length)).map fun _ => ended

theorem Login.runInto_eq (queue : Dispatcher) (settings : Settings) (r : Request) (notify : Bool) (s : Service) :
    runInto queue settings r notify s = some ((run settings r notify).exec s) := by
  obtain ⟨_, hqueue⟩ := queue.exists_deliver
    (((run settings r notify).exec s).2.events.drop s.events.length)
  simp only [runInto, hqueue, Option.map_some]

/-! ## What failures decide -/

/-- What the failures of spare calls and a queue that refuses can do to the next operation. -/
structure Service.Withstands (s : Service) : Prop where
  /-- A login decides the same as without them, and differs in its time at most. -/
  login : ∀ settings r notify queue other, ∃ x y t u,
    Login.runInto queue settings r notify s = some (x, t) ∧
      Login.runInto other settings r notify (s.healed Login.isSpare) = some (y, u) ∧
      x.map (Except.map Login.Response.unstamped) = y.map (Except.map Login.Response.unstamped) ∧
      t.store.unstamped (Login.whom s r) = u.store.unstamped (Login.whom s r)
  /-- No operation but a revocation shows what happens to the cache. -/
  others : ∀ op : Operation, (∀ user, op ≠ .revoke user) → Concurs op.run s (s.healed Call.isCached)
  revocation : ∀ user, ∃ count t, (Revocation.run user).exec s =
    (match SessionCache.obstacle? s user.text with
      | some how => Revocation.report how
      | none => .ok (.ok ⟨user, count⟩), t) ∧ t.store = s.store

/-- Only a revocation reports that a spare call has failed. -/
theorem best_effort_decides_nothing {s : Service} (hsettled : s.IsSettled) : s.Withstands := by
  constructor
  case login =>
    intro settings r notify queue other
    have h := Login.run_concurs hsettled (twin_healed s) settings r notify
    exact ⟨_, _, _, _, Login.runInto_eq queue settings r notify s, Login.runInto_eq other settings r notify _,
      h.verdict, h.rows⟩
  case others =>
    intro op hop
    exact Operation.run_concurs (twin_healed s) hop
  case revocation =>
    intro user
    obtain ⟨count, hcount⟩ := Revocation.run_reports s user
    exact ⟨count, _, Prod.ext hcount rfl, (Revocation.keeps_run user s).store⟩

/-- The time cannot be written, the cache is away and nobody takes events: ann gets her tokens. -/
theorem ann_gets_her_tokens :
    let s := ((Service.start 0).move (.perform (.signUp Login.ann true))).arm .updateLastLogin (.breaks .os)
      |>.arm .cacheSet (.breaks .connection)
    ∃ response t other u,
      Login.runInto (Dispatcher.create 1 1) Login.minute ⟨Login.ann.email, Login.ann.password⟩ true s =
        some (.ok (.ok response), t) ∧
      Login.runInto (Dispatcher.create 1 1).hire Login.minute ⟨Login.ann.email, Login.ann.password⟩ true
        (s.healed Login.isSpare) = some (.ok (.ok other), u) ∧
      response.accessToken = other.accessToken ∧ response.sealedToken = other.sealedToken := by
  intro s
  have hready : s.IsReady :=
    IsReady.arm (IsReady.arm ((ready_start 0).move (by exact trivial)) (by exact trivial)) (by exact trivial)
  obtain ⟨user, provider, hknown, hhash⟩ : ∃ user provider, Login.Known s Login.ann.email user provider ∧
      provider.passwordHash = some (Secret.nextHash (Service.start 0) "Passw0rd!") :=
    ⟨_, _, ⟨rfl, rfl, rfl⟩, rfl⟩
  have hverify : Password.verify "Passw0rd!" (Secret.nextHash (Service.start 0) "Passw0rd!") = true :=
    Password.verify_hash (Password.length_countedSalt 1) rfl
  have hright := (Secret.opens_iff hhash).mpr ⟨"Passw0rd!", rfl, hverify⟩
  have hissue : Login.minute.codec.issue 0 user.id.text none = .ok _ :=
    Token.issue_sealed _ (by decide) (by decide +kernel)
  obtain ⟨response, v, hrun⟩ := Login.exec_run_right (r := ⟨Login.ann.email, Login.ann.password⟩) hready
    ⟨rfl, rfl, rfl⟩ hknown hright (Store.readable_unshared rfl _ _) rfl hissue true
  obtain ⟨x, y, t, u, hs, ht, hsame, -⟩ := (best_effort_decides_nothing hready.settled).login Login.minute
    ⟨Login.ann.email, Login.ann.password⟩ true (Dispatcher.create 1 1) (Dispatcher.create 1 1).hire
  have hended := hs
  rw [Login.runInto_eq, hrun] at hended
  cases hended
  match y, hsame with
  | .ok (.ok other), hsame =>
    have hresponses : response.unstamped = other.unstamped := Except.ok.inj (Except.ok.inj hsame)
    exact ⟨response, v, other, u, hs, ht, congrArg (·.accessToken) hresponses, congrArg (·.sealedToken) hresponses⟩

end Gatehouse
