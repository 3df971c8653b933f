import Gatehouse.Account.Login

/-!
# Password change

The current password has to be known and the new one strong enough. All cached sessions of the user
are dropped afterwards, if the cache can be reached.
-/

namespace Gatehouse.PasswordChange

structure Request where
  user : Uuid
  current : RawText
  new : RawText
  deriving DecidableEq, Repr

def read (v : Json) : Shape.Checked Request :=
  match Shape.object .modelType v with
  | .error e => .error e
  | .ok fields =>
    Shape.also (Shape.also (Shape.also (.ok Request.mk)
      (Shape.required fields "user_id" Uuid.ofJson))
      (Shape.required fields "current_password" Shape.rawText))
      (Shape.required fields "new_password" Shape.rawText)

def replace (r : Request) : Run (Answer Unit) := do
  match ← Directory.userById r.user with
  | none => return .error .userNotFound
  | some user =>
    match ← Directory.providerOf user.id .localPassword with
    | none => return .error .invalidCredentials
    | some provider =>
      if !Secret.opens r.current (some provider) then return .error .invalidCredentials
      else
        match Password.weakness r.new with
        | some weakness => return .error weakness
        | none =>
          Directory.updateProvider provider.id (← Secret.hash r.new)
          Run.commit
          return .ok ()

def run (r : Request) : Run (Answer Unit) := do
  match ← Run.inTransaction (replace r) with
  | .error refusal => return .error refusal
  | .ok _ =>
    let user := r.user.text
    Run.bestEffort ("Failed to invalidate sessions after password change for user " ++ user)
      (discard (SessionCache.invalidateAll user))
    return .ok ()

end Gatehouse.PasswordChange
