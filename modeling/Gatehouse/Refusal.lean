import Gatehouse.Text.Quoted

/-!
# Refusals

Every way the service says no, with the code and the words a caller sees. Each refusal has a kind,
and the kind decides how it is answered over HTTP.
-/

namespace Gatehouse

inductive Refusal where
  | passwordTooShort
  | passwordTooLong
  | passwordNoUpper
  | passwordNoLower
  | passwordNoDigit
  | passwordNoSpecial
  | emailAlreadyExists
  | invalidCredentials
  | userInactive
  | userNotFound
  | tokenInvalid
  | tokenMalformed
  | tokenExpired
  | tokenRequired
  | authenticationFailed
  | workspaceCreateForbidden
  | workspaceCreateFailed
  | workspaceSlugGenerationFailed
  | sessionRevocationFailed
  deriving DecidableEq, Repr

inductive RefusalKind where
  | validation
  | conflict
  | authentication
  | authorization
  | notFound
  | generation
  | internal
  deriving DecidableEq, Repr

namespace RefusalKind

def word : RefusalKind → String
  | validation => "validation"
  | conflict => "conflict"
  | authentication => "authentication"
  | authorization => "authorization"
  | notFound => "not_found"
  | generation => "generation"
  | internal => "internal"

def status : RefusalKind → Nat
  | validation => 400
  | conflict => 409
  | authentication => 401
  | authorization => 403
  | notFound => 404
  | generation => 500
  | internal => 500

/-- The caller is told the words of a refusal only if it lies with the caller. -/
def isClient (k : RefusalKind) : Bool := k.status < 500

end RefusalKind

namespace Refusal

def all : List Refusal :=
  [passwordTooShort, passwordTooLong, passwordNoUpper, passwordNoLower, passwordNoDigit,
    passwordNoSpecial, emailAlreadyExists, invalidCredentials, userInactive, userNotFound,
    tokenInvalid, tokenMalformed, tokenExpired, tokenRequired, authenticationFailed,
    workspaceCreateForbidden, workspaceCreateFailed, workspaceSlugGenerationFailed,
    sessionRevocationFailed]

def code : Refusal → String
  | passwordTooShort => "PASSWORD_TOO_SHORT"
  | passwordTooLong => "PASSWORD_TOO_LONG"
  | passwordNoUpper => "PASSWORD_NO_UPPER"
  | passwordNoLower => "PASSWORD_NO_LOWER"
  | passwordNoDigit => "PASSWORD_NO_DIGIT"
  | passwordNoSpecial => "PASSWORD_NO_SPECIAL"
  | emailAlreadyExists => "EMAIL_ALREADY_EXISTS"
  | invalidCredentials => "INVALID_CREDENTIALS"
  | userInactive => "USER_INACTIVE"
  | userNotFound => "USER_NOT_FOUND"
  | tokenInvalid => "TOKEN_INVALID"
  | tokenMalformed => "TOKEN_MALFORMED"
  | tokenExpired => "TOKEN_EXPIRED"
  | tokenRequired => "TOKEN_REQUIRED"
  | authenticationFailed => "AUTHENTICATION_FAILED"
  | workspaceCreateForbidden => "WORKSPACE_CREATE_FORBIDDEN"
  | workspaceCreateFailed => "WORKSPACE_CREATE_FAILED"
  | workspaceSlugGenerationFailed => "WORKSPACE_SLUG_GENERATION_FAILED"
  | sessionRevocationFailed => "SESSION_REVOCATION_FAILED"

def message : Refusal → String
  | passwordTooShort => "Password must be at least 6 characters long"
  | passwordTooLong => "Password must not exceed 128 characters"
  | passwordNoUpper => "Password must contain at least one uppercase letter"
  | passwordNoLower => "Password must contain at least one lowercase letter"
  | passwordNoDigit => "Password must contain at least one digit"
  | passwordNoSpecial => "Password must contain at least one special character"
  | emailAlreadyExists => "Email already exists"
  | invalidCredentials => "Invalid email or password"
  | userInactive => "User account is inactive"
  | userNotFound => "User not found"
  | tokenInvalid => "Token is invalid"
  | tokenMalformed => "Token is malformed"
  | tokenExpired => "Token has expired"
  | tokenRequired => "Token is required"
  | authenticationFailed => "Failed to authenticate user"
  | workspaceCreateForbidden => "Only super admin users can create workspaces"
  | workspaceCreateFailed => "Failed to create workspace"
  | workspaceSlugGenerationFailed => "Failed to generate unique workspace slug"
  | sessionRevocationFailed => "Failed to revoke sessions"

def kind : Refusal → RefusalKind
  | passwordTooShort | passwordTooLong | passwordNoUpper | passwordNoLower | passwordNoDigit
  | passwordNoSpecial => .validation
  | emailAlreadyExists => .conflict
  | invalidCredentials | tokenInvalid | tokenMalformed | tokenExpired | tokenRequired =>
    .authentication
  | userInactive | workspaceCreateForbidden => .authorization
  | userNotFound => .notFound
  | workspaceSlugGenerationFailed => .generation
  | authenticationFailed | workspaceCreateFailed | sessionRevocationFailed => .internal

end Refusal

/-- A code with words of its own, as a caller may meet it. -/
structure Problem where
  code : String
  message : String
  deriving DecidableEq, Repr

namespace Problem

def ofRefusal (r : Refusal) : Problem := ⟨r.code, r.message⟩

/-- The kind goes by the code alone; an unknown code counts as internal, so that it never reaches a
caller as a fault of the caller. -/
def kind (p : Problem) : RefusalKind :=
  match Refusal.all.find? (·.code == p.code) with
  | some r => r.kind
  | none => .internal

def line (p : Problem) : String := p.code ++ ": " ++ p.message

def display (p : Problem) : String :=
  "Error(code=" ++ Quoted.quoted p.code ++ ", message=" ++ Quoted.quoted p.message ++ ")"

end Problem

end Gatehouse
