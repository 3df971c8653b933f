import Gatehouse.Directory.Entity
import Gatehouse.Directory.Permissions
import Gatehouse.Json.Reader
import Gatehouse.Json.Writer

/-!
# Session snapshots

What the cache remembers of a session: the global role of its user and the active memberships at the
time of login. A snapshot is cached as compact JSON and reads back as it was.
-/

namespace Gatehouse

structure SnapshotItem where
  workspaceId : String
  roleName : String
  permissions : List String
  status : String
  deriving DecidableEq, Repr

structure Snapshot where
  globalRole : String
  memberships : List SnapshotItem
  deriving DecidableEq, Repr

namespace Snapshot

open Shape

/-! ## Writing -/

def itemJson (i : SnapshotItem) : Json :=
  .object [("workspace_id", .text i.workspaceId), ("role_name", .text i.roleName),
    ("permissions", .array (i.permissions.map .text)), ("status", .text i.status)]

def toJson (s : Snapshot) : Json :=
  .object [("global_role", .text s.globalRole),
    ("workspace_memberships", .array (s.memberships.map itemJson))]

def text (s : Snapshot) : String := s.toJson.write Json.compact

/-! ## Reading -/

def readItem (v : Json) : Checked SnapshotItem :=
  match object .modelType v with
  | .error e => .error e
  | .ok fields =>
    also (also (also (also (.ok SnapshotItem.mk)
      (required fields "workspace_id" Shape.text))
      (required fields "role_name" Shape.text))
      (required fields "permissions" (list Shape.text)))
      (required fields "status" Shape.text)

def ofJson (v : Json) : Checked Snapshot :=
  match object .modelType v with
  | .error e => .error e
  | .ok fields =>
    both Snapshot.mk (required fields "global_role" Shape.text)
      (defaulted fields "workspace_memberships" [] (list readItem))

def ofText (s : String) : Checked Snapshot :=
  match Json.read Json.strict s with
  | .error _ => fail .jsonInvalid
  | .ok v => ofJson v

/-! ## Taking a snapshot -/

/-- The item of a membership; one that is not active or has no role has none. -/
def itemOf (now : Instant) (m : LoadedMembership) : Checked (Option SnapshotItem) :=
  match m.role with
  | none => .ok none
  | some role =>
    if m.isActive then
      match PermissionSet.read now role.permissions with
      | .error e => .error e
      | .ok set =>
        .ok (some ⟨m.membership.workspaceId.text, role.name, set.permissions,
          Vocabulary.word m.membership.status⟩)
    else .ok none

def itemsOf (now : Instant) : List LoadedMembership → Checked (List SnapshotItem)
  | [] => .ok []
  | m :: rest => do
    let item ← itemOf now m
    let others ← itemsOf now rest
    .ok (item.toList ++ others)

def ofUser (now : Instant) (u : LoadedUser) : Checked Snapshot :=
  (itemsOf now u.memberships).map fun items => ⟨Vocabulary.word u.user.globalRole, items⟩

end Snapshot

end Gatehouse
