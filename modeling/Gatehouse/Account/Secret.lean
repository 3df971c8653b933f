import Gatehouse.Directory.Entity
import Gatehouse.Password
import Gatehouse.Service.State

/-!
# Passwords in requests

Passwords as they arrive. A torn password has no bytes, so it opens nothing and cannot be hashed.
-/

namespace Gatehouse.Secret

def opens (password : RawText) (provider : Option Provider) : Bool :=
  match password.whole?, provider.bind (·.passwordHash) with
  | some s, some hash => Password.verify s hash
  | _, _ => false

/-- The hash of a new password, with a salt of its own. -/
def hash (password : RawText) : Run String :=
  match password.whole? with
  | some s => do return Password.hash (Password.countedSalt (← Run.drawHash)) s
  | none => throw .unencodable

end Gatehouse.Secret
