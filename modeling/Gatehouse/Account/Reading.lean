import Gatehouse.Directory.View
import Gatehouse.Service.Directory
import Gatehouse.Service.Settings

/-!
# Reading users

The user with profile and memberships of every status, or the profile alone.
-/

namespace Gatehouse.Reading

def user (id : Uuid) : Run (Answer UserInfo) :=
  Run.inTransaction do
    match ← Directory.userWithWorkspaces id with
    | none => return .error .userNotFound
    | some loaded =>
      let now := (← get).now
      let info ← Run.ofChecked (UserInfo.of now loaded.user loaded.profile loaded.memberships)
      return .ok info

def profile (id : Uuid) : Run (Answer ProfileInfo) :=
  Run.inTransaction do
    match ← Directory.userWithProfile id with
    | some (_, some profile) => return .ok (.of profile)
    | _ => return .error .userNotFound

end Gatehouse.Reading
