import Gatehouse.Account.Secret
import Gatehouse.Directory.View
import Gatehouse.Service.Directory
import Gatehouse.Service.Settings
import Gatehouse.Session.TokenData

/-!
# Login

Checks a password and hands out a signed token with its sealed twin. Unknown emails and wrong
passwords get the same answer. The time of the login and the cached session are only attempted.
-/

namespace Gatehouse.Login

structure Request where
  email : String
  password : RawText
  deriving DecidableEq, Repr

structure Response where
  accessToken : String
  sealedToken : String
  user : UserInfo
  deriving DecidableEq, Repr

def read (v : Json) : Shape.Checked Request :=
  match Shape.object .modelType v with
  | .error e => .error e
  | .ok fields =>
    Shape.also (Shape.also (.ok Request.mk)
      (Shape.required fields "email" Shape.text))
      (Shape.required fields "password" Shape.rawText)

def Response.toJson (r : Response) : Json :=
  .object [("access_token", .text r.accessToken), ("encrypted_token", .text r.sealedToken),
    ("user", r.user.toJson)]

def topic : String := "user.login"

/-! ## Credentials -/

def identify (r : Request) : Run (Answer Uuid) := do
  match ← Directory.userByEmail r.email with
  | none => return .error .invalidCredentials
  | some user =>
    if user.status != .active then return .error .userInactive
    else
      let provider ← Directory.providerOf user.id .localPassword
      if Secret.opens r.password provider then return .ok user.id
      else return .error .invalidCredentials

def touch (user : Uuid) : Run Unit :=
  tryCatch (do Directory.updateLastLogin user; Run.commit) fun _ => do
    Run.log .warning ("Failed to update last login time for user " ++ user.text)
    Run.rollback

/-! ## Tokens -/

/-- Seals a token; a nonce is drawn only for a usable key. -/
def sealToken (key : Envelope.Key) (token : String) : Run (Except Envelope.Fault String) := do
  match Envelope.checkKey key with
  | .error fault => return .error fault
  | .ok _ => return Envelope.wrap key (Envelope.countedNonce (← Run.drawSeal)) token

/-! ## The operation -/

structure Session where
  user : Uuid
  response : Response
  snapshot : Snapshot

/-- The sealed twin of a token and the two views of its user. -/
def openSession (settings : Settings) (user : Uuid) (now : Instant) (token : String) :
    Run (Answer Session) := do
  match ← sealToken settings.sealKey token with
  | .error _ =>
    Run.log .error ("Failed to encrypt token for user " ++ user.text)
    return .error .authenticationFailed
  | .ok sealed =>
    match ← Directory.userWithWorkspaces user with
    | none => return .error .userNotFound
    | some loaded =>
      let snapshot ← Run.ofChecked (Snapshot.ofUser now loaded)
      let active := loaded.memberships.filter (·.isActive)
      let info ← Run.ofChecked (UserInfo.of now loaded.user loaded.profile active)
      return .ok ⟨user, ⟨token, sealed, info⟩, snapshot⟩

def begin (settings : Settings) (r : Request) : Run (Answer Session) := do
  match ← identify r with
  | .error refusal => return .error refusal
  | .ok user =>
    touch user
    let now := (← get).now
    openSession settings user now (← Run.ofExcept .token (settings.codec.issue now user.text none))

def run (settings : Settings) (r : Request) (notify : Bool) : Run (Answer Response) := do
  match ← Run.inTransaction (begin settings r) with
  | .error refusal => return .error refusal
  | .ok session =>
    let user := session.user.text
    Run.bestEffort ("Failed to cache token data for user " ++ user)
      (TokenData.store settings.sessionTtl user session.response.sealedToken session.snapshot
        (some settings.codec.ttl))
    if notify then Run.emit topic [("userId", .text user)]
    return .ok session.response

end Gatehouse.Login
