import Gatehouse.Proofs.Account.Session
import Gatehouse.Proofs.Service.Steady

/-!
# Logins without their time

Whether the time of a login can be written decides nothing but that time: the verdict, the tokens, the
memberships that are shown, the session and all other rows are the same.
-/

namespace Gatehouse

open Run Service

/-! ## Without the time -/

def Store.unstamped (who : Option Uuid) (s : Store) : Store :=
  { s with users := s.users.map fun u =>
      if some u.id = who then { u with lastLoginAt := none, updatedAt := none } else u }

def LoadedUser.unstamped (u : LoadedUser) : LoadedUser :=
  { u with user := { u.user with lastLoginAt := none, updatedAt := none } }

def UserInfo.unstamped (i : UserInfo) : UserInfo := { i with lastLoginAt := none }

def Login.Response.unstamped (r : Response) : Response := { r with user := r.user.unstamped }

def Login.Session.unstamped (s : Session) : Session := { s with response := s.response.unstamped }

theorem Snapshot.ofUser_unstamped (now : Instant) (u : LoadedUser) : ofUser now u = ofUser now u.unstamped := rfl

theorem UserInfo.of_unstamped (now : Instant) (u : LoadedUser) (ms : List LoadedMembership) :
    (of now u.user u.profile ms).map unstamped =
      (of now u.unstamped.user u.unstamped.profile ms).map unstamped := by
  unfold of
  cases MembershipInfo.ofList now ms <;> rfl

namespace Login

variable {s t : Service} {user : Uuid} {rows : Store}

theorem Stamped.unstamped (h : Stamped s user rows) :
    rows.unstamped (some user) = s.store.unstamped (some user) := by
  rcases h with rfl | rfl
  · rfl
  · have hsame : (fun u : User => if some u.id = some user then
        { u with lastLoginAt := none, updatedAt := none } else u) ∘ User.loggedIn s.now user =
        fun u => if some u.id = some user then { u with lastLoginAt := none, updatedAt := none } else u := by
      funext u
      by_cases hid : u.id = user <;> simp [User.loggedIn, hid]
    rw [Store.unstamped, Store.users_setLastLogin, List.map_map, hsame]
    rfl

theorem Stamped.loaded (h : Stamped s user rows) (id : Uuid) :
    ((rows.userById? id).map rows.load).map LoadedUser.unstamped =
      ((s.store.userById? id).map s.store.load).map LoadedUser.unstamped := by
  rcases h with rfl | rfl
  · rfl
  · have hsame : LoadedUser.unstamped ∘ (s.store.setLastLogin s.now user).load ∘ User.loggedIn s.now user =
        LoadedUser.unstamped ∘ s.store.load := by
      funext u
      have hload : ∀ v : User, (s.store.setLastLogin s.now user).load v = s.store.load v := fun _ => rfl
      rw [Function.comp, Function.comp, Function.comp, hload]
      by_cases hid : u.id = user <;> simp [User.loggedIn, hid, LoadedUser.unstamped, Store.load]
    rw [Store.userById?_setLastLogin, Option.map_map, Option.map_map, Option.map_map, ← hsame]
    rfl

/-! ## The session -/

def Entered (s : Service) (user : Uuid) (b c : Books) : Prop :=
  (Stamped s user b.1 ∧ ∃ rows, b.2 = ⟨rows, false⟩ ∧ Stamped s user rows) ∧
    Stamped s user c.1 ∧ ∃ rows, c.2 = ⟨rows, false⟩ ∧ Stamped s user rows

theorem matched_userWithWorkspaces (s : Service) (user id : Uuid) :
    Matched (Alike isSpare (Entered s user)) (fun a b => a.map LoadedUser.unstamped = b.map LoadedUser.unstamped)
      (Directory.userWithWorkspaces id) (Directory.userWithWorkspaces id) := by
  refine matched_lookup (V := fun a b => a.map LoadedUser.unstamped = b.map LoadedUser.unstamped) rfl rfl ?_
  rintro b c ⟨⟨-, before, hb, hbefore⟩, -, after, hc, hafter⟩
  rw [hb, hc]
  exact ⟨rfl, (hbefore.loaded id).trans (hafter.loaded id).symm⟩

/-- Two sessions that differ at most in the time that is shown. -/
def SameSession (x y : Answer Session) : Prop := x.map Session.unstamped = y.map Session.unstamped

theorem matched_openSession (s : Service) (settings : Settings) (user : Uuid) (now : Instant) (token : String) :
    Matched (Alike isSpare (Entered s user)) SameSession (openSession settings user now token)
      (openSession settings user now token) := by
  apply (matched_sealToken settings.sealKey token).bind
  rintro answer _ rfl
  cases answer with
  | error fault =>
    exact (matched_log _ _).bind fun _ _ _ => matched_pure rfl
  | ok sealed =>
    apply (matched_userWithWorkspaces s user user).bind
    intro a b hview
    cases a with
    | none =>
      cases b with
      | none => exact matched_pure rfl
      | some _ => cases hview
    | some a =>
      cases b with
      | none => cases hview
      | some b =>
        have hsame : a.unstamped = b.unstamped := Option.some.inj hview
        have hmemberships : a.memberships = b.memberships := by
          show a.unstamped.memberships = b.unstamped.memberships
          rw [hsame]
        have hsnapshot : Snapshot.ofUser now a = Snapshot.ofUser now b := by
          rw [Snapshot.ofUser_unstamped, hsame, ← Snapshot.ofUser_unstamped]
        have hinfo : (UserInfo.of now a.user a.profile (a.memberships.filter (·.isActive))).map UserInfo.unstamped =
            (UserInfo.of now b.user b.profile (b.memberships.filter (·.isActive))).map UserInfo.unstamped := by
          rw [UserInfo.of_unstamped, UserInfo.of_unstamped now b, hsame, hmemberships]
        apply (matched_ofChecked (congrArg (Except.map id) hsnapshot)).bind
        intro snapshot other hsnapshots
        apply (matched_ofChecked hinfo).bind
        intro info shown hinfos
        apply matched_pure
        have hsnapshots : snapshot = other := hsnapshots
        simp only [SameSession, Except.map, Session.unstamped, Response.unstamped, hinfos, hsnapshots]

def whom (s : Service) (r : Request) : Option Uuid := (s.store.userByEmail? r.email).map (·.id)

def SameBooks (who : Option Uuid) (b c : Books) : Prop := b.1.unstamped who = c.1.unstamped who

theorem touch_pairs (hsettled : s.IsSettled) (htwin : Twin isSpare s t) (id : Uuid) :
    Paired (Alike isSpare (Entered s id)) Eq (touch id) (touch id) s t := by
  have hother : t.IsSettled := by
    rw [IsSettled, htwin.transaction, htwin.store, hsettled]
  obtain ⟨hs, hleft⟩ := touch_attempts hsettled id
  obtain ⟨ht, hright⟩ := touch_attempts hother id
  have hstamped : ∀ {rows}, Stamped t id rows → Stamped s id rows := by
    intro rows h
    rwa [Stamped, htwin.store, htwin.now] at h
  obtain ⟨rows, hrows, hstampedRows⟩ := hright.rows
  refine .ok (Prod.ext hs rfl) (Prod.ext ht rfl) rfl
    ⟨(hleft.beside.symm.trans htwin.toBeside).trans hright.beside, ?_⟩
  exact ⟨⟨hleft.store, hleft.rows⟩, hstamped hright.store, rows, hrows, hstamped hstampedRows⟩

theorem begin_pairs (hsettled : s.IsSettled) (htwin : Twin isSpare s t) (settings : Settings) (r : Request) :
    Paired (Alike isSpare (SameBooks (whom s r))) SameSession (begin settings r) (begin settings r) s t := by
  have hsame : ∀ {u v : Service}, Twin isSpare u v → Alike isSpare (SameBooks (whom s r)) u v := by
    intro u v h
    refine ⟨h.toBeside, ?_⟩
    rw [SameBooks, h.books]
  refine (identify_steady rfl rfl r s t htwin).bind ?_ hsame
  rintro answer _ u v hu - rfl htwins
  have hgives := (identify_gives hsettled r).ended hu
  have hlooked : Looked s u := hgives.1
  cases answer with
  | error refusal => exact .ok rfl rfl rfl (hsame htwins)
  | ok id =>
    obtain ⟨user, huser⟩ := hgives.2 id rfl
    have hwho : whom s r = some id := by
      rw [whom, huser.found, Option.map_some, huser.id]
    have hentered : ∀ {x y : Service}, Alike isSpare (Entered u id) x y →
        Alike isSpare (SameBooks (whom s r)) x y := by
      rintro x y ⟨hbeside, ⟨hx, -⟩, hy, -⟩
      refine ⟨hbeside, ?_⟩
      rw [SameBooks, hwho]
      exact hx.unstamped.trans hy.unstamped.symm
    have htouched : Paired (Alike isSpare (Entered u id)) Eq (touch id) (touch id) u v :=
      touch_pairs (hlooked.settled hsettled) htwins id
    refine (htouched.bind ?_ fun h => h).mono hentered
    intro _ _ x y _ _ _ htouched
    have hclocks : Paired (Alike isSpare (Entered u id)) (fun x y => x.now = y.now) get get x y :=
      .ok rfl rfl htouched.now.symm htouched
    refine hclocks.bind ?_ fun h => h
    intro before after x y _ _ hnow hclocks
    rw [hnow]
    apply ((matched_ofExcept _ _).bind ?_) _ _ hclocks
    rintro token _ rfl
    exact matched_openSession u settings id after.now token

/-! ## The whole login -/

/-- From two states that differ in the faults of spare calls alone, a login comes to the same verdict. -/
structure Concurs (settings : Settings) (r : Request) (notify : Bool) (s t : Service) : Prop where
  verdict : ((run settings r notify).exec s).1.map (Except.map Response.unstamped) =
    ((run settings r notify).exec t).1.map (Except.map Response.unstamped)
  rows : ((run settings r notify).exec s).2.store.unstamped (whom s r) =
    ((run settings r notify).exec t).2.store.unstamped (whom s r)
  events : ((run settings r notify).exec s).2.events = ((run settings r notify).exec t).2.events

theorem Concurs.of_exec {settings : Settings} {r : Request} {notify : Bool} {u v : Service}
    {x y : Except Failure (Answer Response)} (hs : (run settings r notify).exec s = (x, u))
    (ht : (run settings r notify).exec t = (y, v))
    (hverdict : x.map (Except.map Response.unstamped) = y.map (Except.map Response.unstamped))
    (hrows : u.store.unstamped (whom s r) = v.store.unstamped (whom s r)) (hevents : u.events = v.events) :
    Concurs settings r notify s t := by
  constructor <;> rw [hs, ht]
  · exact hverdict
  · exact hrows
  · exact hevents

theorem run_concurs (hsettled : s.IsSettled) (htwin : Twin isSpare s t) (settings : Settings) (r : Request)
    (notify : Bool) : Concurs settings r notify s t := by
  have hends : ∀ {u v : Service}, Alike isSpare (SameBooks (whom s r)) u v →
      Alike isSpare (SameBooks (whom s r)) u.rolledBack v.rolledBack := by
    intro u v hr
    exact hr.rewritten (b := (u.store, ⟨u.store, false⟩)) (c := (v.store, ⟨v.store, false⟩)) hr.books
  cases (begin_pairs hsettled htwin settings r).inTransaction hends with
  | error hs ht hr => exact .of_exec (exec_bind_error hs _) (exec_bind_error ht _) rfl hr.books hr.events.symm
  | @ok answer other u v hs ht hsame hr =>
    cases answer with
    | error refusal =>
      cases other with
      | ok _ => cases hsame
      | error _ =>
        cases hsame
        exact .of_exec (exec_bind_ok hs _) (exec_bind_ok ht _) rfl hr.books hr.events.symm
    | ok session =>
      cases other with
      | error _ => cases hsame
      | ok other =>
        obtain ⟨x, hx, hxposted⟩ := exec_run_begun hs notify
        obtain ⟨y, hy, hyposted⟩ := exec_run_begun ht notify
        have hsession : session.unstamped = other.unstamped := Except.ok.inj hsame
        have huser : session.user = other.user := by
          show session.unstamped.user = other.unstamped.user
          rw [hsession]
        have hresponse : session.response.unstamped = other.response.unstamped := by
          show session.unstamped.response = other.unstamped.response
          rw [hsession]
        refine .of_exec hx hy ?_ ?_ ?_
        · simp only [Except.map, hresponse]
        · rw [hxposted.store, hyposted.store]
          exact hr.books
        · rw [hxposted.events, hyposted.events, hr.events, huser]

end Login

end Gatehouse
