import Gatehouse.Directory.Permissions
import Gatehouse.Service.Directory
import Gatehouse.Service.Settings
import Gatehouse.Slug

/-!
# Provision of workspaces

A super admin gets a new workspace with its admin role and a membership in it, all three or none. The
slug comes from the name and counts up where it is taken.
-/

namespace Gatehouse.Provision

structure Request where
  actingUser : Uuid
  name : String
  description : Option RawText
  deriving DecidableEq, Repr

structure Response where
  workspace : Workspace
  role : Role
  membership : Membership

def read (v : Json) : Shape.Checked Request :=
  match Shape.object .modelType v with
  | .error e => .error e
  | .ok fields =>
    Shape.also (Shape.also (Shape.also (.ok Request.mk)
      (Shape.required fields "acting_user_id" Uuid.ofJson))
      (Shape.required fields "name" Shape.text))
      (Shape.defaulted fields "description" none Shape.optionalRawText)

def topic : String := "workspace.created"

/-! ## Rows -/

def adminRole : String := "admin"

def allPermissions : List String := ["all"]

def Response.toJson (r : Response) : Json :=
  .object [("id", .text r.workspace.id.text), ("name", .text r.workspace.name),
    ("slug", .text r.workspace.slug), ("description", Json.ofOption .text r.workspace.description),
    ("owner_id", .text r.workspace.ownerId.text),
    ("status", .text (Vocabulary.word r.workspace.status)),
    ("created_at", Json.ofOption (fun s => .text s.text) r.workspace.createdAt),
    ("admin_role", .object [("id", .text r.role.id.text),
      ("name", .text r.role.name),
      ("permissions", .array (allPermissions.map .text))]),
    ("membership_id", .text r.membership.id.text)]

def newWorkspace (now : Instant) (id owner : Uuid) (slug : String) (r : Request) : Workspace where
  id := id
  name := r.name
  slug := slug
  description := r.description.bind (·.whole?)
  avatarUrl := none
  ownerId := owner
  settings := some (.object [])
  status := .active
  createdAt := some (.ofInstant now)
  updatedAt := some (.ofInstant now)

def newRole (now : Instant) (id workspace : Uuid) : Role where
  id := id
  workspaceId := workspace
  name := adminRole
  description := some "Workspace administrator"
  permissions := PermissionSet.dump
    { PermissionSet.standard now allPermissions with
      description := some "Full administrative access" }
  status := .active
  createdAt := some (.ofInstant now)
  updatedAt := some (.ofInstant now)

def newMembership (now : Instant) (id user workspace role : Uuid) : Membership where
  id := id
  userId := user
  workspaceId := workspace
  roleId := role
  status := .active
  invitedBy := none
  joinedAt := some (.ofInstant now)
  createdAt := some (.ofInstant now)
  updatedAt := some (.ofInstant now)

/-! ## The operation -/

def authorize (user : Uuid) : Run (Answer User) := do
  match ← Directory.userById user with
  | none => return .error .userNotFound
  | some found =>
    if found.status != .active then return .error .userInactive
    else if found.globalRole != .superAdmin then return .error .workspaceCreateForbidden
    else return .ok found

/-- A check for a taken slug; none when the check itself fails. -/
def probe (slug : String) : Run (Option Bool) := do
  return (← Run.attempt (Directory.holds (.slug slug))).toOption

/-- Whether the row of the workspace can hold the description. -/
def isStorable (r : Request) : Bool := r.description.all (·.whole?.isSome)

/-- Writes the three rows and commits them. There is no response without a membership. -/
def write (owner : Uuid) (slug : String) (r : Request) : Run (Option Response) := do
  let now := (← get).now
  let workspace := newWorkspace now (← Run.drawId) owner slug r
  Directory.createWorkspace workspace (isStorable r)
  let role := newRole now (← Run.drawId) workspace.id
  Directory.createRole role
  let membership := newMembership now (← Run.drawId) owner workspace.id role.id
  let isMember ← Directory.createMembership membership
  Run.commit
  return if isMember then some ⟨workspace, role, membership⟩ else none

/-- Reports that the rows could not be written. The report names the owner, and a failed transaction
cannot be asked for it. -/
def giveUp (owner : Uuid) (name : String) : Run (Answer Response) := do
  if (← get).transaction.failed then throw .staleTransaction
  else
    Run.log .error ("Failed to create workspace " ++ Quoted.quoted name ++ " for user " ++
      owner.text)
    Run.rollback
    return .error .workspaceCreateFailed

def provision (r : Request) : Run (Answer Response) := do
  match ← authorize r.actingUser with
  | .error refusal => return .error refusal
  | .ok owner =>
    match ← Slug.search probe r.name Slug.maxSuffix with
    | .found slug =>
      match ← Run.attempt (write owner.id slug r) with
      | .ok (some response) => return .ok response
      | .ok none => throw .missingAttribute
      | .error _ => giveUp owner.id r.name
    | _ =>
      Run.log .error ("Slug generation failed for workspace " ++ Quoted.quoted r.name)
      return .error .workspaceSlugGenerationFailed

def run (r : Request) (notify : Bool) : Run (Answer Response) := do
  match ← Run.inTransaction (provision r) with
  | .error refusal => return .error refusal
  | .ok response =>
    if notify then
      Run.emit topic [("workspaceId", .text response.workspace.id.text),
        ("name", .text response.workspace.name), ("slug", .text response.workspace.slug),
        ("createdBy", .text response.workspace.ownerId.text)]
    return .ok response

end Gatehouse.Provision
