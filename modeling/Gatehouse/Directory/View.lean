import Gatehouse.Directory.Entity
import Gatehouse.Directory.Permissions

/-!
# Views

What answers show of users, profiles, workspaces and memberships, and the identity of a caller whose
token was accepted.
-/

namespace Gatehouse

open Shape (Checked)

structure WorkspaceSummary where
  id : String
  name : String
  slug : String
  status : String
  deriving DecidableEq, Repr

structure MembershipInfo where
  id : String
  workspace : Option WorkspaceSummary
  roleId : String
  roleName : Option String
  permissions : List String
  status : String
  joinedAt : Option Stamp
  deriving DecidableEq, Repr

structure ProfileInfo where
  firstName : String
  lastName : String
  displayName : Option String
  timezone : String
  locale : String
  deriving DecidableEq, Repr

structure UserInfo where
  id : String
  email : String
  globalRole : String
  status : String
  lastLoginAt : Option Stamp
  createdAt : Option Stamp
  profile : Option ProfileInfo
  memberships : List MembershipInfo
  deriving DecidableEq, Repr

/-- Who is asking. -/
structure Caller where
  id : Uuid
  email : String
  globalRole : GlobalRole
  status : UserStatus
  deriving DecidableEq, Repr

/-! ## Building views -/

def WorkspaceSummary.of (w : Workspace) : WorkspaceSummary :=
  ⟨w.id.text, w.name, w.slug, Vocabulary.word w.status⟩

def MembershipInfo.of (now : Instant) (m : LoadedMembership) : Checked MembershipInfo := do
  let permissions ← match m.role with
    | some role => (PermissionSet.read now role.permissions).map (·.permissions)
    | none => .ok []
  .ok ⟨m.membership.id.text, m.workspace.map .of, m.membership.roleId.text,
    m.role.map (·.name), permissions, Vocabulary.word m.membership.status, m.membership.joinedAt⟩

def MembershipInfo.ofList (now : Instant) : List LoadedMembership → Checked (List MembershipInfo)
  | [] => .ok []
  | m :: rest => do
    let info ← MembershipInfo.of now m
    let others ← MembershipInfo.ofList now rest
    .ok (info :: others)

def ProfileInfo.of (p : Profile) : ProfileInfo :=
  ⟨p.firstName, p.lastName, p.displayName, p.timezone, p.locale⟩

def UserInfo.of (now : Instant) (user : User) (profile : Option Profile)
    (memberships : List LoadedMembership) : Checked UserInfo := do
  let infos ← MembershipInfo.ofList now memberships
  .ok ⟨user.id.text, user.email, Vocabulary.word user.globalRole, Vocabulary.word user.status,
    user.lastLoginAt, user.createdAt, profile.map .of, infos⟩

namespace Caller

def of (u : User) : Caller := ⟨u.id, u.email, u.globalRole, u.status⟩

def isSuperAdmin (c : Caller) : Bool := c.globalRole == .superAdmin

def read (v : Json) : Checked Caller :=
  match Shape.object .modelType v with
  | .error e => .error e
  | .ok fields =>
    Shape.also (Shape.also (Shape.also (Shape.also (.ok Caller.mk)
      (Shape.required fields "id" Uuid.ofJson))
      (Shape.required fields "email" Shape.text))
      (Shape.required fields "global_role" word))
      (Shape.required fields "status" word)
where
  word {α : Type} [Vocabulary α] (v : Json) : Checked α :=
    match v.text?.bind Vocabulary.ofWord? with
    | some a => .ok a
    | none => Shape.fail .enumeration

end Caller

/-! ## Written views -/

def optionalStamp (s : Option Stamp) : Json := Json.ofOption (fun s => .text s.text) s

def WorkspaceSummary.toJson (w : WorkspaceSummary) : Json :=
  .object [("id", .text w.id), ("name", .text w.name), ("slug", .text w.slug),
    ("status", .text w.status)]

def MembershipInfo.toJson (m : MembershipInfo) : Json :=
  .object [("id", .text m.id), ("workspace", Json.ofOption (·.toJson) m.workspace),
    ("role_id", .text m.roleId), ("role_name", Json.ofOption .text m.roleName),
    ("permissions", .array (m.permissions.map .text)), ("status", .text m.status),
    ("joined_at", optionalStamp m.joinedAt)]

def ProfileInfo.toJson (p : ProfileInfo) : Json :=
  .object [("first_name", .text p.firstName), ("last_name", .text p.lastName),
    ("display_name", Json.ofOption .text p.displayName), ("timezone", .text p.timezone),
    ("locale", .text p.locale)]

def UserInfo.toJson (u : UserInfo) : Json :=
  .object [("id", .text u.id), ("email", .text u.email), ("global_role", .text u.globalRole),
    ("status", .text u.status), ("last_login_at", optionalStamp u.lastLoginAt),
    ("created_at", optionalStamp u.createdAt), ("profile", Json.ofOption (·.toJson) u.profile),
    ("workspace_memberships", .array (u.memberships.map (·.toJson)))]

def Caller.toJson (c : Caller) : Json :=
  .object [("id", .text c.id.text), ("email", .text c.email),
    ("global_role", .text (Vocabulary.word c.globalRole)),
    ("status", .text (Vocabulary.word c.status))]

end Gatehouse
