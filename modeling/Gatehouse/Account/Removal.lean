import Gatehouse.Service.Directory
import Gatehouse.Service.Settings
import Gatehouse.Session.Cache

/-!
# Removal of users

A removed user keeps all rows and only changes status, so that tokens and passwords stop working.
-/

namespace Gatehouse.Removal

def mark (user : Uuid) : Run (Answer Unit) := do
  if ← Directory.softDelete user then
    Run.commit
    return .ok ()
  else return .error .userNotFound

def run (user : Uuid) : Run (Answer Unit) := do
  match ← Run.inTransaction (mark user) with
  | .error refusal => return .error refusal
  | .ok _ =>
    Run.bestEffort ("Failed to invalidate sessions of deleted user " ++ user.text) do
      let dropped ← SessionCache.invalidateAll user.text
      Run.log .info ("Deleted user " ++ user.text ++ ", dropped " ++ toString dropped ++
        " cached sessions")
    return .ok ()

end Gatehouse.Removal
