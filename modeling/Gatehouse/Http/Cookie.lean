import Gatehouse.Text.Blank
import Gatehouse.Text.Lower
import Gatehouse.Text.Quoted
import Gatehouse.Text.Split

/-!
# Cookies

Two cookies carry a session: the signed token and its sealed twin. Values are quoted where a plain
value could not stand, and reading a header back undoes the quotes.
-/

namespace Gatehouse.Cookie

/-! ## Settings -/

inductive SameSite where
  | strict | lax | none
  deriving DecidableEq, Repr

def SameSite.word : SameSite → String
  | .strict => "strict"
  | .lax => "lax"
  | .none => "none"

/-- Reads the setting without regard to case and blanks around; anything else means strict. -/
def SameSite.ofText (s : String) : SameSite :=
  let word := String.ofList (Lower.lowerText (Blank.strip s).toList)
  if word == "lax" then .lax else if word == "none" then .none else .strict

structure Settings where
  domain : Option String
  secure : Bool
  httpOnly : Bool
  sameSite : SameSite

def Settings.standard : Settings := ⟨none, true, true, .strict⟩

def accessName : String := "access_token"

def sealedName : String := "encrypted_token"

/-! ## Values -/

def isPlain (c : Char) : Bool :=
  c.isAlphanum || "!#$%&*+-.^_`|~:".toList.contains c || c == Quoted.singleQuote

/-- The characters that stand for themselves between quotes. -/
def isBare (c : Char) : Bool :=
  isPlain c || " ()/<=>?@[]\x7b\x7d".toList.contains c

def octal (n : Nat) : List Char :=
  [Char.ofNat (48 + n / 64), Char.ofNat (48 + n / 8 % 8), Char.ofNat (48 + n % 8)]

def escape (c : Char) : List Char :=
  if c = '"' then ['\\', '"']
  else if c = '\\' then ['\\', '\\']
  else if isBare c || 255 < c.toNat then [c]
  else '\\' :: octal c.toNat

def quote (value : List Char) : List Char :=
  if !value.isEmpty && value.all isPlain then value
  else '"' :: value.flatMap escape ++ ['"']

/-! ## Writing -/

def pair (name : String) (value : String) : String :=
  name ++ "=" ++ String.ofList (quote value.toList)

/-- One header value. The attributes stand in alphabetical order. -/
def header (settings : Settings) (name value : String) (maxAge : Int) : String :=
  let domain := match settings.domain with
    | some d => ["Domain=" ++ d]
    | none => []
  let flag (on : Bool) (word : String) : List String := if on then [word] else []
  "; ".intercalate
    ([pair name value] ++ domain ++ flag settings.httpOnly "HttpOnly" ++
      ["Max-Age=" ++ toString maxAge, "Path=/", "SameSite=" ++ settings.sameSite.word] ++
      flag settings.secure "Secure")

/-- A header travels as one byte per character, so no character lies beyond U+00FF. -/
def isSendable (s : String) : Bool := s.toList.all (·.toNat < 256)

def session? (settings : Settings) (access sealed : String) (maxAge : Int) :
    Option (List String) :=
  let headers := [header settings accessName access maxAge, header settings sealedName sealed maxAge]
  if headers.all isSendable then some headers else none

/-- Both cookies empty and already over. -/
def cleared? (settings : Settings) : Option (List String) :=
  session? settings "" "" (-1)

/-! ## Reading -/

def isOctal (top : Char) (c : Char) : Bool := '0' ≤ c && c ≤ top

def unescape : List Char → List Char
  | '\\' :: a :: b :: c :: rest =>
    if isOctal '3' a && isOctal '7' b && isOctal '7' c then
      Char.ofNat ((a.toNat - 48) * 64 + (b.toNat - 48) * 8 + (c.toNat - 48)) :: unescape rest
    else if a = '\n' then '\\' :: unescape (a :: b :: c :: rest)
    else a :: unescape (b :: c :: rest)
  | '\\' :: a :: rest =>
    if a = '\n' then '\\' :: unescape (a :: rest) else a :: unescape rest
  | c :: rest => c :: unescape rest
  | [] => []

def unquote (value : List Char) : List Char :=
  match value with
  | '"' :: rest =>
    if rest.getLast? = some '"' then unescape rest.dropLast else value
  | _ => value

/-- One part of a cookie header; without an equals sign it is a value without a name. -/
def readPart (part : List Char) : List Char × List Char :=
  let name := part.takeWhile (· != '=')
  let (name, value) :=
    if name.length < part.length then (name, part.drop (name.length + 1)) else ([], part)
  (Blank.stripBy Blank.isBlank name, unquote (Blank.stripBy Blank.isBlank value))

/-- The value of a cookie in a header; the last of several counts. -/
def find? (cookieHeader : String) (name : String) : Option String :=
  let parts := (Split.on ';' cookieHeader.toList).map readPart
  (parts.reverse.find? fun (n, _) => n == name.toList).map fun (_, v) => String.ofList v

/-! ## Choosing a token -/

/-- The access cookie if it is not empty, then the credentials. -/
def chooseToken (access credentials : Option String) : Option String :=
  match access with
  | some token => if token.isEmpty then credentials else some token
  | none => credentials

def bearer? (authorization : String) : Option String :=
  let cs := authorization.toList
  let scheme := cs.takeWhile (· != ' ')
  let token := Blank.stripBy Blank.isBlank (cs.drop (scheme.length + 1))
  if String.ofList (Lower.lowerText scheme) == "bearer" && !token.isEmpty then
    some (String.ofList token)
  else none

end Gatehouse.Cookie
