import Gatehouse.Http.Cookie
import Gatehouse.Json.Reader
import Gatehouse.Json.Writer
import Gatehouse.Refusal
import Gatehouse.Service.State

/-!
# Messages

Requests as the service looks at them and its responses. A refusal is told to the caller only if it
lies with the caller.
-/

namespace Gatehouse.Http

structure Request where
  method : String
  path : String
  /-- Names in lower case, in the order of their sending. -/
  headers : List (String × String)
  body : String

inductive Body where
  | json (v : Json)
  | text (s : String)
  | misfits (details : List Shape.Detail)

structure Response where
  status : Nat
  body : Body
  /-- Those that set cookies are kept apart, and the place a redirect leads to and the length of a report are left
  out. Names are in lower case. -/
  headers : List (String × String)
  setCookies : List String

namespace Request

def header? (r : Request) (name : String) : Option String := (r.headers.find? (·.1 == name)).map (·.2)

/-- A cookie of all cookie headers together; the last of several counts. -/
def cookie? (r : Request) (name : String) : Option String :=
  r.headers.reverse.findSome? fun (header, value) =>
    if header == "cookie" then Cookie.find? value name else none

/-- The token of a request: the access cookie, else the bearer authorization. -/
def token? (r : Request) : Option String :=
  Cookie.chooseToken (r.cookie? Cookie.accessName) ((r.header? "authorization").bind Cookie.bearer?)

end Request

namespace Response

/-- The headers of a written body. -/
def written (type body : String) : List (String × String) :=
  [("content-length", toString body.utf8ByteSize), ("content-type", type)]

def ofJson (status : Nat) (v : Json) : Response :=
  ⟨status, .json v, written "application/json" (v.write Json.compact), []⟩

def ofText (status : Nat) (words : String) : Response :=
  ⟨status, .text words, written "text/plain; charset=utf-8" words, []⟩

def detail (status : Nat) (words : String) : Response :=
  ofJson status (.object [("detail", .text words)])

def message (words : String) : Response := ofJson 200 (.object [("message", .text words)])

def notFound : Response := detail 404 "Not Found"

/-- Names the method of the first route at a path. -/
def wrongMethod (allowed : String) : Response :=
  let response := detail 405 "Method Not Allowed"
  { response with headers := ("allow", allowed) :: response.headers }

def redirect : Response := ⟨307, .text "", [("content-length", "0")], []⟩

def unparsable : Response := detail 400 "There was an error parsing the body"

def misfit (details : List Shape.Detail) : Response :=
  ⟨422, .misfits details, [("content-type", "application/json")], []⟩

def crashed : Response := ofText 500 "Internal Server Error"

def errorJson (code message : String) : Json :=
  .object [("error", .object [("code", .text code), ("message", .text message)])]

end Response

def refused (r : Refusal) : Run Response := do
  if r.kind.isClient then
    Run.log .warning ("Client error: \x7b'code': " ++ Quoted.quoted r.code ++ ", 'message': " ++
      Quoted.quoted r.message ++ "\x7d")
    return .ofJson r.kind.status (Response.errorJson r.code r.message)
  else
    Run.log .error ("Server error: " ++ r.code)
    return .ofJson 500 (Response.errorJson r.code "Internal server error")

end Gatehouse.Http
