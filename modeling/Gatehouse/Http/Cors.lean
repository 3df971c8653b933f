import Gatehouse.Http.Message

/-!
# Pages of other origins

A browser names the origin of the page that sends a request. The answers tell it whether that page may read
them, and a browser may ask before it sends the request itself.
-/

namespace Gatehouse.Http

/-! ## Headers -/

/-- Puts a header in the place of all of its name, or behind the others. -/
def setHeader (name value : String) : List (String × String) → List (String × String)
  | [] => [(name, value)]
  | h :: rest =>
    if h.1 == name then (name, value) :: rest.filter (·.1 != name) else h :: setHeader name value rest

/-- Adds to the headers of a request that the response depends on. -/
def addVary (name : String) (headers : List (String × String)) : List (String × String) :=
  match headers.lookup "vary" with
  | some names => setHeader "vary" (names ++ ", " ++ name) headers
  | none => setHeader "vary" name headers

/-! ## Policies -/

structure Cors where
  /-- A star stands for every origin. -/
  origins : List String
  /-- Whether pages may send cookies along. -/
  credentials : Bool
  deriving DecidableEq, Repr

namespace Cors

def standard : Cors := ⟨[], true⟩

def admitsAll (c : Cors) : Bool := c.origins.contains "*"

def admits (c : Cors) (origin : String) : Bool := c.admitsAll || c.origins.contains origin

def credentialHeader (c : Cors) : List (String × String) :=
  if c.credentials then [("access-control-allow-credentials", "true")] else []

/-! ## Responses -/

/-- Headers that go to every page. -/
def simpleHeaders (c : Cors) : List (String × String) :=
  (if c.admitsAll then [("access-control-allow-origin", "*")] else []) ++ c.credentialHeader

/-- A star does not do for a request that brings cookies, so its origin is mirrored. -/
def mirrors (c : Cors) (origin : String) (cookies : Bool) : Bool :=
  if c.admitsAll then cookies else c.origins.contains origin

def mark (c : Cors) (origin : String) (cookies : Bool) (headers : List (String × String)) :
    List (String × String) :=
  let marked := c.simpleHeaders.foldl (fun headers h => setHeader h.1 h.2 headers) headers
  if c.mirrors origin cookies then addVary "Origin" (setHeader "access-control-allow-origin" origin marked)
  else marked

/-- What a response becomes for the page that has asked for it. -/
def answer (c : Cors) (r : Request) (response : Response) : Response :=
  match r.header? "origin" with
  | none => response
  | some origin =>
    { response with headers := c.mark origin (r.header? "cookie").isSome response.headers }

/-! ## Preflights -/

def methods : List String := ["DELETE", "GET", "HEAD", "OPTIONS", "PATCH", "POST", "PUT"]

/-- The headers for a page that asks which requests it may send. The names of headers are mirrored. -/
def preflightHeaders (c : Cors) (origin : String) (names : Option String) : List (String × String) :=
  let mirrored := !c.admitsAll || c.credentials
  [if mirrored then ("vary", "Origin") else ("access-control-allow-origin", "*"),
    ("access-control-allow-methods", ", ".intercalate methods), ("access-control-max-age", "600")] ++
  c.credentialHeader ++
  (if mirrored && c.admits origin then [("access-control-allow-origin", origin)] else []) ++
  (names.map fun names => ("access-control-allow-headers", names)).toList

def preflight (c : Cors) (origin method : String) (names : Option String) : Response :=
  let failures := (if c.admits origin then [] else ["origin"]) ++
    if methods.contains method then [] else ["method"]
  let response := if failures.isEmpty then Response.ofText 200 "OK"
    else .ofText 400 ("Disallowed CORS " ++ ", ".intercalate failures)
  { response with headers := c.preflightHeaders origin names ++ response.headers }

/-- The answer to a browser that asks before it sends a request; no other request is one of these. -/
def preflight? (c : Cors) (r : Request) : Option Response :=
  match r.header? "origin", r.header? "access-control-request-method" with
  | some origin, some method =>
    if r.method == "OPTIONS" then
      some (c.preflight origin method (r.header? "access-control-request-headers"))
    else none
  | _, _ => none

end Cors

end Gatehouse.Http
