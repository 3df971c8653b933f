import Gatehouse.Account.PasswordChange
import Gatehouse.Account.Reading
import Gatehouse.Account.Removal
import Gatehouse.Proofs.Service.Writes
import Gatehouse.Tenancy.Provision

/-!
# Users who are not there

To an operation a deleted user is the same as one who never was: it is refused, and the state stays what
it was.
-/

namespace Gatehouse

open Run

variable {s : Service} (hsettled : s.IsSettled)
include hsettled

theorem Login.exec_run_unknown (hworks : s.fault? .userByEmail = none) {r : Login.Request}
    (hnone : s.store.userByEmail? r.email = none) (settings : Settings) (notify : Bool) :
    (Login.run settings r notify).exec s = (.ok (.error .invalidCredentials), s) := by
  have hidentify : (identify r).exec s = (.ok (.error .invalidCredentials), s) := by
    rw [identify, exec_bind_ok (Directory.exec_userByEmail hsettled hworks r.email), hnone, exec_pure]
  apply exec_refused hsettled
  · rw [begin, exec_bind_ok hidentify, exec_pure]
  · exact fun _ => rfl

section
variable {user : Uuid} (hnone : s.store.userById? user = none)
include hnone

theorem PasswordChange.exec_run_unknown (hworks : s.fault? .userById = none) (current new : RawText) :
    (PasswordChange.run ⟨user, current, new⟩).exec s = (.ok (.error .userNotFound), s) := by
  apply exec_refused hsettled
  · rw [replace, exec_bind_ok (Directory.exec_userById hsettled hworks user), hnone, exec_pure]
  · exact fun _ => rfl

theorem Provision.exec_run_unknown (hworks : s.fault? .userById = none) (name : String)
    (description : Option RawText) (notify : Bool) :
    (Provision.run ⟨user, name, description⟩ notify).exec s = (.ok (.error .userNotFound), s) := by
  have hauth : (authorize user).exec s = (.ok (.error .userNotFound), s) := by
    rw [authorize, exec_bind_ok (Directory.exec_userById hsettled hworks user), hnone, exec_pure]
  apply exec_refused hsettled
  · rw [provision, exec_bind_ok hauth, exec_pure]
  · exact fun _ => rfl

theorem Reading.exec_user_unknown (hworks : s.fault? .userWithWorkspaces = none) :
    (Reading.user user).exec s = (.ok (.error .userNotFound), s) := by
  rw [Reading.user, exec_inTransaction,
    exec_bind_ok (Directory.exec_userWithWorkspaces hsettled hworks user), hnone]
  simp [hsettled.rolledBack]

theorem Reading.exec_profile_unknown (hworks : s.fault? .userWithProfile = none) :
    (Reading.profile user).exec s = (.ok (.error .userNotFound), s) := by
  rw [Reading.profile, exec_inTransaction,
    exec_bind_ok (Directory.exec_userWithProfile hsettled hworks user), hnone]
  simp [hsettled.rolledBack]

omit hsettled in
theorem Store.softDelete_unknown (now : Instant) : s.store.softDelete now user = (s.store, false) := by
  have hmissing : ∀ u ∈ s.store.users, (u.id == user && !isDeleted u) = false := by
    intro u hu
    rw [userById?, List.find?_eq_none] at hnone
    simpa using hnone u hu
  have hsame : s.store.users.map (fun u => if (u.id == user && !isDeleted u) = true then
      { u with status := .deleted, updatedAt := some (Stamp.ofInstant now).naive } else u) =
        s.store.users := by
    apply (List.map_congr_left fun u hu => ?_).trans (List.map_id _)
    rw [hmissing u hu]
    rfl
  have hany : (s.store.users.any fun u => u.id == user && !isDeleted u) = false := by
    rw [List.any_eq_false]
    intro u hu
    rw [hmissing u hu]
    decide
  rw [softDelete, updateUsers]
  simp only [hsame, hany]

theorem Removal.exec_run_unknown (hworks : s.fault? .softDelete = none) :
    (Removal.run user).exec s = (.ok (.error .userNotFound), s) := by
  have hdelete : (Directory.softDelete user).exec s = (.ok false, s) := by
    have h := Directory.exec_restage (s := s) fun u before => before.softDelete u.now user
    rw [Directory.softDelete, exec_guarded, hworks]
    refine h.trans ?_
    rw [hsettled, Store.softDelete_unknown hnone]
    simp only [Bool.false_eq_true, if_false]
    rw [← hsettled]
  apply exec_refused hsettled
  · rw [mark, exec_bind_ok hdelete]
    rfl
  · exact fun _ => rfl

end

end Gatehouse
