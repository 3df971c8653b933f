import Gatehouse.Json.Writer
import Gatehouse.Number.Numeral
import Gatehouse.Token.Fault

/-!
# Token claims

What the payload of a token may say and when it counts. Time claims may be any value that turns into
a whole number.
-/

namespace Gatehouse.Token

abbrev Claims := List (String × Json)

/-! ## Reading claims -/

/-- A claim as a whole number: fractions are dropped and texts are read as numerals. -/
def wholeNumber : Json → Except Fault Int
  | .integer n => .ok n
  | .bool b => .ok (if b then 1 else 0)
  | .real .nan => .error .invalid
  | .real x =>
    match x.toRat? with
    | some r => .ok (Rounding.truncate r)
    | none => .error .claimInfinite
  | .text s =>
    match Numeral.integer 10 s with
    | .ok n => .ok n
    | .error _ => .error .invalid
  | .torn _ => .error .invalid
  | _ => .error .claimShape

/-- A time claim, where it is present. -/
def timeClaim (claims : Claims) (name : String) : Except Fault (Option Int) :=
  match Json.find? claims name with
  | none => .ok none
  | some v => (wholeNumber v).map some

def isTextOrAbsent (claims : Claims) (name : String) : Bool :=
  match Json.find? claims name with
  | none => true
  | some v => v.raw?.isSome

def isAbsent (claims : Claims) (name : String) : Bool := (Json.find? claims name).isNone

/-- The first of the two names of the user that counts as true. -/
def subject? (claims : Claims) : Option Json :=
  match (Json.find? claims "user_id").filter Json.isTruthy with
  | some v => some v
  | none => (Json.find? claims "sub").filter Json.isTruthy

/-! ## Checking claims -/

def require (condition : Bool) (fault : Fault) : Except Fault Unit :=
  if condition then .ok () else .error fault

/-- Checks all claims at a whole second, in a fixed order. -/
def checkClaims (issuer : String) (now : Int) (claims : Claims) : Except Fault Unit := do
  let _ ← timeClaim claims "iat"
  let notBefore ← timeClaim claims "nbf"
  require (match notBefore with | some t => t ≤ now | none => true) .invalid
  let expiry ← timeClaim claims "exp"
  require (match expiry with | some t => now ≤ t | none => true) .expired
  require (isAbsent claims "aud") .invalid
  require (match Json.find? claims "iss" with | some (.text s) => s == issuer | _ => false) .invalid
  require (isTextOrAbsent claims "sub") .invalid
  require (isTextOrAbsent claims "jti") .invalid
  require (isAbsent claims "at_hash") .invalid

end Gatehouse.Token
