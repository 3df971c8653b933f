import Gatehouse.Service.Settings
import Gatehouse.Service.Transaction
import Gatehouse.Session.Cache

/-!
# Revocation of sessions

Drops all cached sessions of a user. A cache that cannot be reached is reported; signed tokens stay
valid until they expire.
-/

namespace Gatehouse.Revocation

structure Response where
  user : Uuid
  count : Nat
  deriving DecidableEq, Repr

def Response.toJson (r : Response) : Json :=
  .object [("user_id", .text r.user.text), ("revoked_count", .integer r.count)]

def run (user : Uuid) : Run (Answer Response) := do
  match ← Run.attempt (SessionCache.invalidateAll user.text) with
  | .ok count =>
    Run.log .info ("Revoked " ++ toString count ++ " sessions for user " ++ user.text)
    return .ok ⟨user, count⟩
  | .error failure =>
    if failure.isSessionCache then
      Run.log .error ("Failed to revoke sessions for user " ++ user.text)
      return .error .sessionRevocationFailed
    else throw failure

end Gatehouse.Revocation
