import Gatehouse.Directory.Draft
import Gatehouse.Directory.Store
import Gatehouse.Number.Significant

/-!
# Rows of drafts

What a table makes of a draft. A column of texts keeps numbers and switches as texts; a value that cannot
be kept at all ends the writing before the constraints of the table are looked at.
-/

namespace Gatehouse.Row

/-! ## Columns -/

def text? : Json → Except Failure (Option String)
  | .null => .ok none
  | .text s => .ok (some s)
  | .bool b => .ok (some (if b then "1" else "0"))
  | .integer n =>
    if -0x8000000000000000 ≤ n ∧ n < 0x8000000000000000 then .ok (some (toString n))
    else .error .overflow
  | .real .nan => .ok none
  | .real (.infinite negative) => .ok (some (if negative then "-Inf" else "Inf"))
  | .real x => .ok ((x.toRat?).map Significant.ofRat)
  | .torn _ => .error .unencodable
  | _ => .error .unbindable

/-- A column of switches takes zero and one for off and on. -/
def switch? : Json → Except Failure (Option Bool)
  | .null => .ok none
  | .bool b => .ok (some b)
  | .integer n => if n = 0 then .ok (some false) else if n = 1 then .ok (some true) else .error .unfit
  | .real x =>
    if x.toRat? = some 0 then .ok (some false)
    else if x.toRat? = some 1 then .ok (some true)
    else .error .unfit
  | _ => .error .unfit

/-- A column of dates takes no value that a draft can hold. -/
def noDate : Json → Except Failure Unit
  | .null => .ok ()
  | _ => .error .unfit

def filled {α : Type} : Option α → Except Failure α
  | some a => .ok a
  | none => .error .violation

/-- A column of JSON values, where nothing at all is a value too. -/
def stored? (v : Json) : Option Json := if v.isNull then none else some v

/-! ## Rows -/

def user (d : Draft) : Except Failure User := do
  let email ← text? (d.value "email")
  let phone ← text? (d.value "phone")
  let id ← filled d.id
  let email ← filled email
  .ok {
    id, email, phone
    emailVerifiedAt := d.stamp "email_verified_at"
    phoneVerifiedAt := d.stamp "phone_verified_at"
    globalRole := d.kindOr "global_role" .customer
    status := d.kindOr "status" .pending
    lastLoginAt := d.stamp "last_login_at"
    createdAt := d.stampOrMade "created_at"
    updatedAt := d.stampOrMade "updated_at" }

def profile (d : Draft) : Except Failure Profile := do
  noDate (d.value "date_of_birth")
  let firstName ← text? (d.value "first_name")
  let lastName ← text? (d.value "last_name")
  let displayName ← text? (d.value "display_name")
  let avatarUrl ← text? (d.value "avatar_url")
  let addressLine1 ← text? (d.value "address_line1")
  let addressLine2 ← text? (d.value "address_line2")
  let city ← text? (d.value "city")
  let state ← text? (d.value "state")
  let postalCode ← text? (d.value "postal_code")
  let country ← text? (d.value "country")
  let timezone ← text? (d.valueOr "timezone" (.text "UTC"))
  let locale ← text? (d.valueOr "locale" (.text "en"))
  let bio ← text? (d.value "bio")
  let userId ← filled (d.ident "user_id")
  let firstName ← filled firstName
  let lastName ← filled lastName
  let timezone ← filled timezone
  let locale ← filled locale
  .ok {
    userId, firstName, lastName, displayName, avatarUrl
    dateOfBirth := none
    addressLine1, addressLine2, city, state, postalCode, country, timezone, locale, bio
    createdAt := d.stampOrMade "created_at"
    updatedAt := d.stampOrMade "updated_at" }

def provider (d : Draft) : Except Failure Provider := do
  let isPrimary ← switch? (d.valueOr "is_primary" (.bool false))
  let providerUserId ← text? (d.value "provider_user_id")
  let providerEmail ← text? (d.value "provider_email")
  let passwordHash ← text? (d.value "password_hash")
  let id ← filled d.id
  let userId ← filled (d.ident "user_id")
  let kind ← filled (d.kind? ProviderKind "provider")
  let providerUserId ← filled providerUserId
  let isPrimary ← filled isPrimary
  .ok {
    id, userId, kind, providerUserId, providerEmail
    providerData := stored? (d.value "provider_data")
    passwordHash, isPrimary
    createdAt := d.stampOrMade "created_at"
    updatedAt := d.stampOrMade "updated_at" }

def workspace (d : Draft) : Except Failure Workspace := do
  let name ← text? (d.value "name")
  let slug ← text? (d.value "slug")
  let description ← text? (d.value "description")
  let avatarUrl ← text? (d.value "avatar_url")
  let id ← filled d.id
  let name ← filled name
  let slug ← filled slug
  let ownerId ← filled (d.ident "owner_id")
  .ok {
    id, name, slug, description, avatarUrl, ownerId
    settings := stored? (d.value "settings")
    status := d.kindOr "status" .active
    createdAt := d.stampOrMade "created_at"
    updatedAt := d.stampOrMade "updated_at" }

def role (d : Draft) : Except Failure Role := do
  let name ← text? (d.value "name")
  let description ← text? (d.value "description")
  let id ← filled d.id
  let workspaceId ← filled (d.ident "workspace_id")
  let name ← filled name
  .ok {
    id, workspaceId, name, description
    permissions := d.valueOr "permissions" (.object [])
    status := d.kindOr "status" .active
    createdAt := d.stampOrMade "created_at"
    updatedAt := d.stampOrMade "updated_at" }

def membership (d : Draft) : Except Failure Membership := do
  let id ← filled d.id
  let userId ← filled (d.ident "user_id")
  let workspaceId ← filled (d.ident "workspace_id")
  let roleId ← filled (d.ident "role_id")
  .ok {
    id, userId, workspaceId, roleId
    status := d.kindOr "status" .pending
    invitedBy := d.ident "invited_by"
    joinedAt := d.stamp "joined_at"
    createdAt := d.stampOrMade "created_at"
    updatedAt := d.stampOrMade "updated_at" }

/-! ## Changes -/

def userColumns : List String :=
  ["id", "email", "phone", "email_verified_at", "phone_verified_at", "global_role", "status",
    "last_login_at", "created_at", "updated_at"]

/-- What a draft with some columns makes of a user. The time of the update is the instant of the draft,
unless the draft names it. -/
def changed (d : Draft) (u : User) : Except Failure User := do
  let given (name : String) : Bool := (d.cell? name).isSome
  let email ← if given "email" then text? (d.value "email") else .ok (some u.email)
  let phone ← if given "phone" then text? (d.value "phone") else .ok u.phone
  let stampOr (name : String) (old : Option Stamp) : Option Stamp :=
    if given name then d.stamp name else old
  let id ← filled (if given "id" then d.ident "id" else some u.id)
  let email ← filled email
  .ok {
    id, email, phone
    emailVerifiedAt := stampOr "email_verified_at" u.emailVerifiedAt
    phoneVerifiedAt := stampOr "phone_verified_at" u.phoneVerifiedAt
    globalRole := d.kindOr "global_role" u.globalRole
    status := d.kindOr "status" u.status
    lastLoginAt := stampOr "last_login_at" u.lastLoginAt
    createdAt := stampOr "created_at" u.createdAt
    updatedAt := d.stampOrMade "updated_at" }

end Gatehouse.Row
