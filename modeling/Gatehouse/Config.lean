import Gatehouse.Failure
import Gatehouse.Json.Writer
import Gatehouse.Number.Numeral

/-!
# Configuration

The settings of the service with their standard values. A setting is taken as it is given, unless it
has to be a number or a switch.
-/

namespace Gatehouse

structure Config where
  databaseUri : Json
  redisUrl : Json
  redisTimeout : Binary64
  apiPort : Json
  apiHost : Json
  corsOrigins : Json
  corsAllowCredentials : Json
  logLevel : Json
  jwtSecret : Json
  jwtExpiration : Int
  jwtIssuer : Json
  encryptionKey : Json
  cookieDomain : Json
  cookieSecure : Bool
  cookieHttpOnly : Bool
  cookieSameSite : Json
  eventWorkers : Int
  eventQueueSize : Int

namespace Config

/-- A setting as a whole number; a fraction is dropped. -/
def integer : Json → Except Failure Int
  | .integer n => .ok n
  | .bool b => .ok (if b then 1 else 0)
  | .real .nan => .error (.value "cannot convert float NaN to integer")
  | .real x =>
    match x.toRat? with
    | some r => .ok (Rounding.truncate r)
    | none => .error .overflow
  | .text s =>
    match Numeral.integer 10 s with
    | .ok n => .ok n
    | .error .malformed =>
      .error (.value ("invalid literal for int() with base 10: " ++ Quoted.numeral s))
    | .error (.tooLong n) =>
      .error (.value ("Exceeds the limit (4300 digits) for integer string conversion: value has " ++
        toString n ++ " digits; use sys.set_int_max_str_digits() to increase the limit"))
  | _ => .error .wrongType

def real : Json → Except Failure Binary64
  | .integer n =>
    match Binary64.ofInt n with
    | .infinite _ => .error .overflow
    | x => .ok x
  | .bool b => .ok (.ofInt (if b then 1 else 0))
  | .real x => .ok x
  | .text s =>
    match Numeral.real? s with
    | some x => .ok x
    | none => .error (.value ("could not convert string to float: " ++ Quoted.quoted s))
  | _ => .error .wrongType

/-- Reads the settings; whatever is empty stands for no settings. -/
def read (data : Json) : Except Failure Config :=
  match if data.isTruthy then data else .object [] with
  | .object fields => do
    let get (name : String) (start : Json) : Json := (Json.find? fields name).getD start
    let redisTimeout ← real (get "REDIS_TIMEOUT_SECONDS" (.integer 5))
    let jwtExpiration ← integer (get "JWT_EXPIRATION_SECONDS" (.integer 259200))
    let eventWorkers ← integer (get "EVENT_WORKERS" (.integer 2))
    let eventQueueSize ← integer (get "EVENT_QUEUE_SIZE" (.integer 1000))
    .ok {
      databaseUri := get "DB_URI" (.text "sqlite+aiosqlite:///./iam.db")
      redisUrl := get "REDIS_URL" (.text "redis://localhost:6379/0")
      redisTimeout
      apiPort := get "API_PORT" (.integer 8000)
      apiHost := get "API_HOST" (.text "0.0.0.0")
      corsOrigins := get "CORS_ORIGINS" (.array [])
      corsAllowCredentials := get "CORS_ALLOW_CREDENTIALS" (.bool true)
      logLevel := get "LOG_LEVEL" (.text "INFO")
      jwtSecret := get "JWT_SECRET" (.text "dev-secret-key-change-in-production")
      jwtExpiration
      jwtIssuer := get "JWT_ISSUER" (.text "iam_service")
      encryptionKey := get "ENCRYPTION_KEY" (.text "dev-encryption-key-32-bytes-long")
      cookieDomain := get "COOKIE_DOMAIN" .null
      cookieSecure := (get "COOKIE_SECURE" (.bool true)).isTruthy
      cookieHttpOnly := (get "COOKIE_HTTP_ONLY" (.bool true)).isTruthy
      cookieSameSite := get "COOKIE_SAME_SITE" (.text "Strict")
      eventWorkers
      eventQueueSize }
  | _ => .error .missingAttribute

def fields (c : Config) : List (String × Json) :=
  [("DB_URI", c.databaseUri), ("REDIS_URL", c.redisUrl),
    ("REDIS_TIMEOUT_SECONDS", .text c.redisTimeout.text), ("API_PORT", c.apiPort),
    ("API_HOST", c.apiHost), ("CORS_ORIGINS", c.corsOrigins),
    ("CORS_ALLOW_CREDENTIALS", c.corsAllowCredentials), ("LOG_LEVEL", c.logLevel),
    ("JWT_SECRET", c.jwtSecret), ("JWT_EXPIRATION_SECONDS", .integer c.jwtExpiration),
    ("JWT_ISSUER", c.jwtIssuer), ("ENCRYPTION_KEY", c.encryptionKey),
    ("COOKIE_DOMAIN", c.cookieDomain), ("COOKIE_SECURE", .bool c.cookieSecure),
    ("COOKIE_HTTP_ONLY", .bool c.cookieHttpOnly), ("COOKIE_SAME_SITE", c.cookieSameSite),
    ("EVENT_WORKERS", .integer c.eventWorkers), ("EVENT_QUEUE_SIZE", .integer c.eventQueueSize)]

end Config

end Gatehouse
