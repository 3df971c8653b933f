import Gatehouse.Directory.Store
import Gatehouse.Directory.View

/-!
# Tables

The store as JSON: every column of every row, the rows in the order of their keys.
-/

namespace Gatehouse.Table

def ident (u : Uuid) : Json := .text u.text

def word {α : Type} [Vocabulary α] (a : α) : Json := .text (Vocabulary.word a)

def optional (s : Option String) : Json := Json.ofOption .text s

/-! ## Rows -/

def user (u : User) : Json :=
  .object [("id", ident u.id), ("email", .text u.email), ("phone", optional u.phone),
    ("email_verified_at", optionalStamp u.emailVerifiedAt),
    ("phone_verified_at", optionalStamp u.phoneVerifiedAt), ("global_role", word u.globalRole),
    ("status", word u.status), ("last_login_at", optionalStamp u.lastLoginAt),
    ("created_at", optionalStamp u.createdAt), ("updated_at", optionalStamp u.updatedAt)]

def profile (p : Profile) : Json :=
  .object [("user_id", ident p.userId), ("first_name", .text p.firstName),
    ("last_name", .text p.lastName), ("display_name", optional p.displayName),
    ("avatar_url", optional p.avatarUrl), ("date_of_birth", optional p.dateOfBirth),
    ("address_line1", optional p.addressLine1), ("address_line2", optional p.addressLine2),
    ("city", optional p.city), ("state", optional p.state),
    ("postal_code", optional p.postalCode), ("country", optional p.country),
    ("timezone", .text p.timezone), ("locale", .text p.locale), ("bio", optional p.bio),
    ("created_at", optionalStamp p.createdAt), ("updated_at", optionalStamp p.updatedAt)]

def provider (p : Provider) : Json :=
  .object [("id", ident p.id), ("user_id", ident p.userId), ("provider", word p.kind),
    ("provider_user_id", .text p.providerUserId), ("provider_email", optional p.providerEmail),
    ("provider_data", p.providerData.getD .null), ("password_hash", optional p.passwordHash),
    ("is_primary", .bool p.isPrimary), ("created_at", optionalStamp p.createdAt),
    ("updated_at", optionalStamp p.updatedAt)]

def workspace (w : Workspace) : Json :=
  .object [("id", ident w.id), ("name", .text w.name), ("slug", .text w.slug),
    ("description", optional w.description), ("avatar_url", optional w.avatarUrl),
    ("owner_id", ident w.ownerId), ("settings", w.settings.getD .null), ("status", word w.status),
    ("created_at", optionalStamp w.createdAt), ("updated_at", optionalStamp w.updatedAt)]

def role (r : Role) : Json :=
  .object [("id", ident r.id), ("workspace_id", ident r.workspaceId), ("name", .text r.name),
    ("description", optional r.description), ("permissions", r.permissions),
    ("status", word r.status), ("created_at", optionalStamp r.createdAt),
    ("updated_at", optionalStamp r.updatedAt)]

def membership (m : Membership) : Json :=
  .object [("id", ident m.id), ("user_id", ident m.userId),
    ("workspace_id", ident m.workspaceId), ("role_id", ident m.roleId),
    ("status", word m.status), ("invited_by", Json.ofOption ident m.invitedBy),
    ("joined_at", optionalStamp m.joinedAt), ("created_at", optionalStamp m.createdAt),
    ("updated_at", optionalStamp m.updatedAt)]

/-! ## Tables -/

def sorted {α : Type} (key : α → Uuid) (row : α → Json) (rows : List α) : Json :=
  .array ((rows.mergeSort fun a b => (key a).bits ≤ (key b).bits).map row)

end Gatehouse.Table

namespace Gatehouse.Store

open Table

def tables (s : Store) : List (String × Json) :=
  [("users", sorted (·.id) user s.users), ("user_profiles", sorted (·.userId) profile s.profiles),
    ("user_auth_providers", sorted (·.id) provider s.providers),
    ("workspaces", sorted (·.id) workspace s.workspaces),
    ("workspace_roles", sorted (·.id) role s.roles),
    ("user_workspace_memberships", sorted (·.id) membership s.memberships)]

end Gatehouse.Store
