import Gatehouse.Account.Login
import Gatehouse.Account.PasswordChange
import Gatehouse.Account.Reading
import Gatehouse.Account.Removal
import Gatehouse.Account.Signup
import Gatehouse.Http.Body
import Gatehouse.Http.Route
import Gatehouse.Session.Gate
import Gatehouse.Session.Revocation
import Gatehouse.Tenancy.Provision

/-!
# Server

Answers a request: first the body is taken apart, then the caller is asked for a token, then the
fields of the body are checked, and only then the operation runs.
-/

namespace Gatehouse.Http

/-! ## Steps before an operation -/

/-- Goes on with the content of the body, if it is what its type says. -/
def withBody (r : Request) (next : Content → Run Response) : Run Response :=
  match parse r with
  | .ok content => next content
  | .error .notJson => return .misfit [⟨["body"], .jsonInvalid⟩]
  | .error .unreadable => return .unparsable

def withFields {α : Type} (read : Shape.Fields → Shape.Checked α) (content : Content)
    (next : α → Run Response) : Run Response :=
  match readBody read content with
  | .ok a => next a
  | .error details => report content details

/-- Goes on with a caller whose token holds. Why a token does not hold is not told. -/
def withCaller (settings : Settings) (r : Request) (next : Caller → Run Response) :
    Run Response :=
  match r.token? with
  | none => refused .tokenRequired
  | some token => do
    match ← Gate.recognize settings.codec token with
    | .ok caller => next caller
    | .error _ => refused .tokenInvalid

def withSuperAdmin (settings : Settings) (r : Request) (next : Caller → Run Response) :
    Run Response :=
  withCaller settings r fun caller =>
    if caller.isSuperAdmin then next caller else refused .workspaceCreateForbidden

def caller? (settings : Settings) (r : Request) : Run (Option Caller) :=
  match r.token? with
  | none => return none
  | some token => return (← Gate.recognize settings.codec token).toOption

def respond {α : Type} (answer : Answer α) (f : α → Run Response) : Run Response :=
  match answer with
  | .ok a => f a
  | .error refusal => refused refusal

def withCookies (cookies : Option (List String)) (response : Response) : Run Response :=
  match cookies with
  | some l => return { response with setCookies := l }
  | none => throw .unencodable

/-! ## Operations -/

def health : Response :=
  .ofJson 200 (.object [("status", .text "ok"), ("service", .text "iam_service")])

def signup (r : Request) : Run Response :=
  withBody r fun body =>
    withFields fields body fun request => do
      respond (← Signup.run request true) fun made => return .ofJson 201 made.toJson
where
  fields (l : Shape.Fields) : Shape.Checked Signup.Request :=
    Shape.also (Shape.also (Shape.also (Shape.also (.ok Signup.Request.mk)
      (Shape.required l "email" Email.read))
      (Shape.required l "password" Shape.rawText))
      (Shape.required l "first_name" (Shape.sizedText 1 100)))
      (Shape.required l "last_name" (Shape.sizedText 1 100))

def login (settings : Settings) (r : Request) : Run Response :=
  withBody r fun body =>
    withFields fields body fun request => do
      respond (← Login.run settings request true) fun session =>
        let body := Json.object [("message", .text "Login successful"),
          ("user", session.user.toJson)]
        withCookies (Cookie.session? settings.cookies session.accessToken session.sealedToken
          (Duration.seconds settings.codec.ttl)) (.ofJson 200 body)
where
  fields (l : Shape.Fields) : Shape.Checked Login.Request :=
    Shape.also (Shape.also (.ok Login.Request.mk)
      (Shape.required l "email" Email.read))
      (Shape.required l "password" Shape.rawText)

/-- Clears the cookies whoever asks, and ends the cached session of a caller. -/
def logout (settings : Settings) (r : Request) : Run Response := do
  match ← caller? settings r with
  | some caller => TokenData.logout caller.id.text ((r.cookie? Cookie.sealedName).getD "")
  | none => pure ()
  withCookies (Cookie.cleared? settings.cookies) (.message "Logout successful")

/-! ## Operations of a caller -/

def showUser (caller : Caller) : Run Response := do
  respond (← Reading.user caller.id) fun info => return .ofJson 200 info.toJson

def showProfile (caller : Caller) : Run Response := do
  respond (← Reading.profile caller.id) fun info => return .ofJson 200 info.toJson

def removeUser (caller : Caller) : Run Response := do
  respond (← Removal.run caller.id) fun _ => return .message "User deleted"

def changePassword (body : Content) (caller : Caller) : Run Response :=
  withFields (fields caller.id) body fun request => do
    respond (← PasswordChange.run request) fun _ => return .message "Password changed"
where
  fields (user : Uuid) (l : Shape.Fields) : Shape.Checked PasswordChange.Request :=
    Shape.both (PasswordChange.Request.mk user)
      (Shape.required l "current_password" Shape.rawText)
      (Shape.required l "new_password" Shape.rawText)

def revokeSessions (caller : Caller) : Run Response := do
  respond (← Revocation.run caller.id) fun done => return .ofJson 200 done.toJson

def createWorkspace (body : Content) (caller : Caller) : Run Response :=
  withFields (fields caller.id) body fun request => do
    respond (← Provision.run request true) fun made => return .ofJson 201 made.toJson
where
  fields (user : Uuid) (l : Shape.Fields) : Shape.Checked Provision.Request :=
    Shape.both (Provision.Request.mk user)
      (Shape.required l "name" (Shape.sizedText 1 255))
      (Shape.defaulted l "description" none Shape.optionalRawText)

/-! ## Serving -/

def perform (settings : Settings) (r : Request) : Route → Run Response
  | .health => return health
  | .signup => signup r
  | .login => login settings r
  | .logout => logout settings r
  | .showUser => withCaller settings r showUser
  | .showProfile => withCaller settings r showProfile
  | .removeUser => withCaller settings r removeUser
  | .changePassword => withBody r fun body => withCaller settings r (changePassword body)
  | .revokeSessions => withCaller settings r revokeSessions
  | .createWorkspace => withBody r fun body => withSuperAdmin settings r (createWorkspace body)

def handle (settings : Settings) (r : Request) : Run Response :=
  match resolve r with
  | .found route => perform settings r route
  | .wrongMethod allowed => return .wrongMethod allowed
  | .redirect => return .redirect
  | .unknown => return .notFound

/-- Every request gets a response. A failure that escapes is shown beside it, and leaves nothing for pages of
other origins. -/
def serve (settings : Settings) (r : Request) (s : Service) :
    (Response × Option Failure) × Service :=
  match settings.cors.preflight? r with
  | some response => ((response, none), s)
  | none =>
    match (handle settings r).run.run s with
    | (.ok response, s) => ((settings.cors.answer r response, none), s)
    | (.error failure, s) => ((.crashed, some failure), s)

end Gatehouse.Http
