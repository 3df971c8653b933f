import Gatehouse.Directory.View
import Gatehouse.Service.Directory
import Gatehouse.Service.Settings

/-!
# The gate

Decides from a token who is asking. The token has to hold, and its user has to be there and active;
the session cache has no say.
-/

namespace Gatehouse.Gate

def subject (codec : Token.Codec) (now : Instant) (token : String) :
    Except Failure (Answer Uuid) :=
  match codec.verify now token with
  | .ok (.text s) =>
    match Uuid.read s with
    | .ok user => .ok (.ok user)
    | .error _ => .ok (.error .tokenInvalid)
  | .ok (.torn _) => .ok (.error .tokenInvalid)
  | .ok _ => .error .missingAttribute
  | .error fault =>
    if fault.isVerdict then .ok (.error .tokenInvalid) else .error (.token fault)

def caller (user : Uuid) : Run (Answer Caller) :=
  Run.inTransaction do
    match ← Directory.userById user with
    | none => return .error .userNotFound
    | some found =>
      if found.status != .active then return .error .userInactive else return .ok (.of found)

def recognize (codec : Token.Codec) (token : String) : Run (Answer Caller) := do
  if token.isEmpty then return .error .tokenRequired
  else
    match ← Run.ofExcept id (subject codec (← get).now token) with
    | .error refusal => return .error refusal
    | .ok user => caller user

end Gatehouse.Gate
