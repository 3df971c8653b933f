import Gatehouse.Proofs.Service.Frame
import Gatehouse.Service.Settings

/-!
# Between operations

Between two operations the transaction sees what is committed. Operations start there and end there,
and look-ups with no fault in their way then answer from the store.
-/

namespace Gatehouse

def Service.IsSettled (s : Service) : Prop := s.transaction = ⟨s.store, false⟩

namespace Service

theorem settled_start (now : Instant) : (start now).IsSettled := rfl

theorem settled_rolledBack (s : Service) : s.rolledBack.IsSettled := rfl

theorem IsSettled.rolledBack {s : Service} (h : s.IsSettled) : s.rolledBack = s := by
  rw [Service.rolledBack, ← h]

theorem IsSettled.exec_rows {s : Service} (h : s.IsSettled) : Run.rows.exec s = (.ok s.store, s) := by
  rw [Run.exec_rows, h]
  rfl

end Service

namespace Directory

open Run

theorem exec_lookup {α : Type} {s : Service} {seen : Store} (hopen : s.transaction = ⟨seen, false⟩)
    {call : Call} (hworks : s.fault? call = none) (look : Store → Option α) :
    (guarded call strayRow do return look (← rows)).exec s = (.ok (look seen), s) := by
  have hrows : rows.exec s = (.ok seen, s) := by
    rw [exec_rows, hopen]
    rfl
  rw [exec_guarded, hworks]
  exact exec_bind_ok hrows _

section
variable {s : Service} (h : s.IsSettled)
include h

theorem exec_userByEmail (hworks : s.fault? .userByEmail = none) (email : String) :
    (userByEmail email).exec s = (.ok (s.store.userByEmail? email), s) :=
  exec_lookup h hworks (·.userByEmail? email)

theorem exec_userById (hworks : s.fault? .userById = none) (user : Uuid) :
    (userById user).exec s = (.ok (s.store.userById? user), s) :=
  exec_lookup h hworks (·.userById? user)

theorem exec_providerOf (hworks : s.fault? .providerOf = none) (user : Uuid) (kind : ProviderKind) :
    (providerOf user kind).exec s = (.ok (s.store.providerOf? user kind), s) :=
  exec_lookup h hworks (·.providerOf? user kind)

theorem exec_userWithProfile (hworks : s.fault? .userWithProfile = none) (user : Uuid) :
    (userWithProfile user).exec s =
      (.ok ((s.store.userById? user).map fun u => (u, s.store.profileOf? u.id)), s) := by
  rw [userWithProfile, exec_guarded, hworks]
  exact exec_bind_ok h.exec_rows _

theorem exec_userWithWorkspaces (hworks : s.fault? .userWithWorkspaces = none) (user : Uuid) :
    (userWithWorkspaces user).exec s = (.ok ((s.store.userById? user).map s.store.load), s) :=
  exec_lookup h hworks fun rows => (rows.userById? user).map rows.load

end

/-! ## Checks -/

/-- What a check answers, if it does not break. -/
def Check.heard? (s : Service) (c : Check) : Option Json :=
  match s.fault? c.call with
  | none | some .hangs => some (.bool (c.holds s.store))
  | some (.answers value) => some value
  | some (.breaks _) | some (.breaksAfter _) => none

/-- A check that is heard uses up the fault in its way. -/
theorem exec_holds_heard {s : Service} (h : s.IsSettled) {c : Check} {value : Json}
    (hheard : c.heard? s = some value) : (holds c).exec s = (.ok value.isTruthy, s.disarm c.call) := by
  have hrows : ∀ t : Service, t.transaction = s.transaction →
      (do return Json.bool (c.holds (← rows)) : Run Json).exec t = (.ok (.bool (c.holds s.store)), t) := by
    intro t ht
    have hseen : rows.exec t = (.ok s.store, t) := by
      rw [exec_rows, ht, h]
      rfl
    exact exec_bind_ok hseen _
  have hanswer : (answer c).exec s = (.ok value, s.disarm c.call) := by
    rw [answer, exec_guarded]
    unfold Check.heard? at hheard
    cases hfault : s.fault? c.call with
    | none =>
      rw [hfault] at hheard
      cases hheard
      rw [Service.disarm_unarmed hfault]
      exact hrows s rfl
    | some fault =>
      rw [hfault] at hheard
      cases fault with
      | breaks how => cases hheard
      | breaksAfter how => cases hheard
      | answers given =>
        cases hheard
        rfl
      | hangs =>
        cases hheard
        exact hrows _ rfl
  rw [holds, exec_bind_ok hanswer]
  rfl

theorem exec_holds {s : Service} (h : s.IsSettled) {c : Check} (hworks : s.fault? c.call = none) :
    (holds c).exec s = (.ok (c.holds s.store), s) := by
  have hheard : c.heard? s = some (.bool (c.holds s.store)) := by
    rw [Check.heard?, hworks]
  rw [exec_holds_heard h hheard, Service.disarm_unarmed hworks]
  rfl

/-! ## Writes -/

/-- A write that no constraint forbids. -/
theorem exec_insertion {s : Service} {write : Store.References → Store → Option Store} {rows : Store}
    (hopen : s.transaction.failed = false) (h : write s.references s.transaction.rows = some rows) :
    (insert write).exec s = (.ok (), { s with transaction := ⟨rows, false⟩ }) := by
  rw [exec_insert hopen, h]

theorem exec_commit {s : Service} (hopen : s.transaction.failed = false) (hworks : s.fault? .commit = none) :
    commit.exec s = (.ok (), { s with store := s.transaction.rows }) := by
  rw [commit, exec_guarded, hworks]
  simp only
  have hrows : rows.exec s = (.ok s.transaction.rows, s) := by
    rw [exec_rows, hopen]
    rfl
  rw [exec_bind_ok hrows]
  rfl

end Directory

namespace Run

/-- A refusal that has changed nothing ends the operation with nothing changed. -/
theorem exec_refused {α β : Type} {s : Service} (h : s.IsSettled) {body : Run (Answer α)}
    {f : Answer α → Run (Answer β)} {refusal : Refusal}
    (hbody : body.exec s = (.ok (.error refusal), s))
    (hrefused : ∀ refusal, f (.error refusal) = pure (.error refusal)) :
    (inTransaction body >>= f).exec s = (.ok (.error refusal), s) := by
  have hclosed : (inTransaction body).exec s = (.ok (.error refusal), s) := by
    rw [exec_inTransaction, hbody, h.rolledBack]
  rw [exec_bind_ok hclosed, hrefused, exec_pure]

end Run

end Gatehouse
