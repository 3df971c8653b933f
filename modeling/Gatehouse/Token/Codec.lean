import Gatehouse.Calendar.Instant
import Gatehouse.Token.Claims
import Gatehouse.Token.Key
import Gatehouse.Token.Segments

/-!
# Token codec

Issues signed tokens and verifies them. A token is accepted only if its header names the configured
algorithm, its signature fits the part before the last dot, and its claims hold at the moment.
-/

namespace Gatehouse.Token

structure Codec where
  secret : String
  ttl : Duration.Span
  issuer : String
  algorithm : Algorithm

/-! ## Issuing -/

def headerOf (a : Algorithm) : Json :=
  .object [("alg", .text a.name), ("typ", .text "JWT")]

def claimsOf (issuer user : String) (issued expiry : Int) : Claims :=
  [("user_id", .text user), ("sub", .text user), ("iss", .text issuer), ("iat", .integer issued),
    ("nbf", .integer issued), ("exp", .integer expiry)]

def segmentOf (v : Json) : String :=
  Base64.encodeBare (Utf8.encode (v.write Json.compactAscii))

def Codec.issue (codec : Codec) (now : Instant) (user : String) (ttl : Option Duration.Span) :
    Except Fault String :=
  match now.add? (ttl.getD codec.ttl) with
  | none => .error .beyondCalendar
  | some expiry =>
    if isForeignKey codec.secret then .error .secretRefused
    else
      let claims := claimsOf codec.issuer user now.wholeSeconds expiry.wholeSeconds
      let signed := segmentOf (headerOf codec.algorithm) ++ "." ++ segmentOf (.object claims)
      let mac := Hmac.mac codec.algorithm.variant (Utf8.encode codec.secret) (Utf8.encode signed)
      .ok (signed ++ "." ++ Base64.encodeBare mac)

/-! ## Verifying -/

def payloadClaims (payload : List UInt8) : Except Fault Claims :=
  match object? payload with
  | .ok claims => .ok claims
  | .error .tooDeep => .error .claimDepth
  | .error _ => .error .invalid

/-- The user a token names, if all is well with it at the instant. -/
def Codec.verify (codec : Codec) (now : Instant) (token : String) : Except Fault Json :=
  match segments? token with
  | none => .error .malformed
  | some s => do
    require (match Json.find? s.header "alg" with
      | some (.text a) => a == codec.algorithm.name
      | _ => false) .invalid
    let keys ← keyValues codec.secret
    let authentic ← matchesKey codec.algorithm s.signed s.signature keys
    require authentic .invalid
    let claims ← payloadClaims s.payload
    checkClaims codec.issuer now.wholeSeconds claims
    match subject? claims with
    | some user => .ok user
    | none => .error .invalid

/-! ## Peeking -/

/-- The claims of a token whose signature is not looked at. -/
def peekClaims (token : String) : Except Fault Claims :=
  match segments? token with
  | none => .error .malformed
  | some s => payloadClaims s.payload

/-- The user a token names, for diagnostics; empty for an unreadable token. -/
def peekSubject (token : String) : Except Fault RawText :=
  match peekClaims token with
  | .error .claimDepth => .error .claimDepth
  | .error _ => .ok (.whole "")
  | .ok claims =>
    match subject? claims with
    | some user => .ok ((user.raw?).getD (.whole user.display))
    | none => .ok (.whole "")

/-- The exact value of a numeric claim; not a number compares as false with everything. -/
def isBefore (v : Json) (now : Rat) : Bool :=
  match v with
  | .integer n => (n : Rat) < now
  | .bool b => (if b then 1 else 0 : Rat) < now
  | .real (.infinite negative) => negative
  | .real x =>
    match x.toRat? with
    | some r => r < now
    | none => false
  | _ => true

/-- Whether a token is over, with the fraction of the second taken into account. A token that is
unreadable or has no numeric expiry counts as over. -/
def peekExpired (now : Instant) (token : String) : Except Fault Bool :=
  match peekClaims token with
  | .error .claimDepth => .error .claimDepth
  | .error _ => .ok true
  | .ok claims =>
    match Json.find? claims "exp" with
    | none => .ok true
    | some v => .ok (isBefore v ((now.toReal.toRat?).getD 0))

end Gatehouse.Token
