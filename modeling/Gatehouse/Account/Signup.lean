import Gatehouse.Account.Secret
import Gatehouse.Directory.View
import Gatehouse.Service.Directory
import Gatehouse.Service.Settings

/-!
# Signup

A new account is an active customer with a profile and a local password. The three rows are
committed together; when the email turns out to be taken on the way, that is the answer.
-/

namespace Gatehouse.Signup

structure Request where
  email : String
  password : RawText
  firstName : String
  lastName : String
  deriving DecidableEq, Repr

structure Response where
  user : UserInfo
  deriving DecidableEq, Repr

def read (v : Json) : Shape.Checked Request :=
  match Shape.object .modelType v with
  | .error e => .error e
  | .ok fields =>
    Shape.also (Shape.also (Shape.also (Shape.also (.ok Request.mk)
      (Shape.required fields "email" Shape.text))
      (Shape.required fields "password" Shape.rawText))
      (Shape.required fields "first_name" Shape.text))
      (Shape.required fields "last_name" Shape.text)

def Response.toJson (r : Response) : Json :=
  .object [("message", .text "Signup successful"), ("user", r.user.toJson)]

def topic : String := "user.created"

/-! ## Rows -/

def newUser (now : Instant) (id : Uuid) (r : Request) : User where
  id := id
  email := r.email
  phone := none
  emailVerifiedAt := none
  phoneVerifiedAt := none
  globalRole := .customer
  status := .active
  lastLoginAt := none
  createdAt := some (.ofInstant now)
  updatedAt := some (.ofInstant now)

def newProfile (now : Instant) (user : Uuid) (r : Request) : Profile where
  userId := user
  firstName := r.firstName
  lastName := r.lastName
  displayName := none
  avatarUrl := none
  dateOfBirth := none
  addressLine1 := none
  addressLine2 := none
  city := none
  state := none
  postalCode := none
  country := none
  timezone := "UTC"
  locale := "en"
  bio := none
  createdAt := some (.ofInstant now)
  updatedAt := some (.ofInstant now)

def newProvider (now : Instant) (id user : Uuid) (hash : String) (r : Request) : Provider where
  id := id
  userId := user
  kind := .localPassword
  providerUserId := r.email
  providerEmail := some r.email
  providerData := some (.object [])
  passwordHash := some hash
  isPrimary := true
  createdAt := some (.ofInstant now)
  updatedAt := some (.ofInstant now)

/-! ## The operation -/

/-- Whether the rows went in before the commit. -/
def insertAndCommit (user : User) (profile : Profile) (provider : Provider) : Run Bool := do
  let inserted ← Directory.createUser user profile provider
  Run.commit
  return inserted

def register (r : Request) : Run (Answer (User × Profile)) := do
  if ← Directory.holds (.email r.email) then return .error .emailAlreadyExists
  else
    let hash ← Secret.hash r.password
    let now := (← get).now
    let id ← Run.drawId
    let user := newUser now id r
    let profile := newProfile now id r
    let provider := newProvider now (← Run.drawId) id hash r
    match ← Run.attempt (insertAndCommit user profile provider) with
    | .ok true => return .ok (user, profile)
    | .ok false => throw .missingAttribute
    | .error failure =>
      if failure.isIntegrity then
        Run.log .warning ("Signup lost email uniqueness race for " ++ r.email)
        Run.rollback
        return .error .emailAlreadyExists
      else throw failure

def run (r : Request) (notify : Bool) : Run (Answer Response) :=
  match Password.weakness r.password with
  | some weakness => return .error weakness
  | none => do
    match ← Run.inTransaction (register r) with
    | .error refusal => return .error refusal
    | .ok (user, profile) =>
      if notify then
        Run.emit topic [("userId", .text user.id.text), ("email", .text user.email)]
      let info ← Run.ofChecked (UserInfo.of (← get).now user (some profile) [])
      return .ok ⟨info⟩

end Gatehouse.Signup
