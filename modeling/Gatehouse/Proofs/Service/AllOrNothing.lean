import Gatehouse.Proofs.Account.Writes
import Gatehouse.Proofs.Tenancy.Writes

/-!
# All or nothing

The operations that write in several steps commit all their rows or none, whichever call fails on the
way, and say so by their events. A commit that fails after its work is done is the one failure that
they cannot take back.
-/

namespace Gatehouse

open Run

/-- **All or nothing.** Signup, change of password, removal and provision. -/
theorem writes_all_or_nothing {s : Service} (hsettled : s.IsSettled) (hhonest : s.IsHonest) :
    (∀ r notify, Gives (Signup.run r notify) s
      (AllOrNothing s (Signup.Recorded s r) (Signup.sent notify))) ∧
    (∀ r, Gives (PasswordChange.run r) s
      (AllOrNothing s (PasswordChange.Rehashed s r) fun _ => [])) ∧
    (∀ user, Gives (Removal.run user) s (AllOrNothing s (Removal.Marked s user) fun _ => [])) ∧
    ∀ r notify, Gives (Provision.run r notify) s
      (AllOrNothing s (Provision.Recorded s r) (Provision.sent notify)) :=
  ⟨Signup.run_gives hhonest hsettled, PasswordChange.run_gives hhonest hsettled,
    Removal.run_gives hhonest hsettled, Provision.run_gives hhonest hsettled⟩

namespace Removal

def beforeCommit (fault : Fault) : Service :=
  let rows := { Store.empty with
    users := [⟨.counted 1, "ann@example.com", none, none, none, .customer, .active, none, none, none⟩] }
  { Service.start 0 with store := rows, transaction := ⟨rows, false⟩, faults := [(.commit, fault)] }

theorem store_unchanged_by_broken_commit :
    ((run (.counted 1)).exec (beforeCommit (.breaks .runtime))).2.store =
      (beforeCommit (.breaks .runtime)).store := by
  have hhonest : (beforeCommit (.breaks .runtime)).IsHonest := by
    intro call value _ hm
    cases List.mem_singleton.mp hm
  have h := (writes_all_or_nothing (s := beforeCommit (.breaks .runtime)) rfl hhonest).2.2.1 (.counted 1)
  have hfails : ((run (.counted 1)).exec (beforeCommit (.breaks .runtime))).1 =
      .error (.broken .runtime) := rfl
  rw [Gives, hfails] at h
  obtain ⟨-, -, -, hstore | ⟨⟨how, hm⟩, -⟩⟩ := h
  · exact hstore
  · cases List.mem_singleton.mp hm

/-- A commit that breaks after its work: the removal fails, and the user is deleted all the same. -/
theorem late_commit_deletes_and_fails :
    (beforeCommit (.breaksAfter .runtime)).IsSettled ∧ (beforeCommit (.breaksAfter .runtime)).IsHonest ∧
      ((run (.counted 1)).exec (beforeCommit (.breaksAfter .runtime))).1 = .error (.broken .runtime) ∧
      (beforeCommit (.breaksAfter .runtime)).store.users.map (·.status) = [.active] ∧
      ((run (.counted 1)).exec (beforeCommit (.breaksAfter .runtime))).2.store.users.map (·.status) =
        [.deleted] := by
  refine ⟨rfl, ?_, rfl, rfl, rfl⟩
  intro call value _ hm
  cases List.mem_singleton.mp hm

end Removal

end Gatehouse
