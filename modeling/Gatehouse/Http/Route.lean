import Gatehouse.Http.Message

/-!
# Routes

The operations that are served, each with its method and path. A path that only differs by slashes at
its end is redirected.
-/

namespace Gatehouse.Http

inductive Route where
  | health
  | signup
  | login
  | logout
  | showUser
  | showProfile
  | removeUser
  | changePassword
  | revokeSessions
  | createWorkspace
  deriving DecidableEq, Repr

namespace Route

def all : List Route :=
  [health, signup, login, logout, showUser, showProfile, removeUser, changePassword, revokeSessions,
    createWorkspace]

def path : Route → String
  | health => "/health"
  | signup => "/auth/signup"
  | login => "/auth/login"
  | logout => "/auth/logout"
  | showUser | removeUser => "/users/me"
  | showProfile => "/users/me/profile"
  | changePassword => "/users/me/password"
  | revokeSessions => "/sessions/revoke-all"
  | createWorkspace => "/admin/workspaces"

def method : Route → String
  | health | showUser | showProfile => "GET"
  | removeUser => "DELETE"
  | _ => "POST"

end Route

/-- Whether a path leads to a route; one line break at its end does not matter. -/
def Route.isAt (path : String) (route : Route) : Bool :=
  path == route.path || path == route.path ++ "\n"

inductive Resolution where
  | found (r : Route)
  | wrongMethod (allowed : String)
  | redirect
  | unknown
  deriving DecidableEq, Repr

def isPath (s : String) : Bool := Route.all.any (·.isAt s)

/-- The other spelling of a path: without the slashes at its end, or with one. -/
def respelled (s : String) : String :=
  let cs := s.toList
  if cs.getLast? = some '/' then String.ofList (cs.reverse.dropWhile (· == '/')).reverse
  else s ++ "/"

def resolve (r : Request) : Resolution :=
  match Route.all.find? fun route => route.isAt r.path && route.method == r.method with
  | some route => .found route
  | none =>
    match Route.all.find? (·.isAt r.path) with
    | some route => .wrongMethod route.method
    | none => if isPath (respelled r.path) then .redirect else .unknown

end Gatehouse.Http
