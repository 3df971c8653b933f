import Gatehouse.Directory.Draft
import Gatehouse.Directory.View
import Gatehouse.Session.Snapshot

/-!
# Previews

The views and the snapshot of entities that are still drafts. Values that a view cannot show are misfits
of that view; what no view shows is not looked at.
-/

namespace Gatehouse.Preview

open Shape (Checked)

def text (d : Draft) (name : String) : Checked String := Shape.under name (Shape.text (d.value name))

def optional (d : Draft) (name : String) : Checked (Option String) :=
  Shape.under name (Shape.optionalText (d.value name))

def textOr (d : Draft) (name start : String) : Checked String :=
  Shape.under name (Shape.text (d.valueOr name (.text start)))

def permissions (role : Draft) : Checked (List String) :=
  (PermissionSet.read role.made (role.valueOr "permissions" (.object []))).map (·.permissions)

def workspaceSummary (d : Draft) : Checked WorkspaceSummary :=
  Shape.both
    (fun name slug =>
      ⟨Draft.identText d.id, name, slug,
        Vocabulary.word (d.kindOr "status" WorkspaceStatus.active)⟩)
    (text d "name") (text d "slug")

def membershipStatus (m : Draft.OfMembership) : MembershipStatus :=
  m.membership.kindOr "status" .pending

def membershipInfo (m : Draft.OfMembership) : Checked MembershipInfo := do
  let workspace ← m.workspace.mapM workspaceSummary
  let allowed ← match m.role with
    | some role => permissions role
    | none => .ok []
  let roleName ← match m.role with
    | some role => Shape.under "role_name" (Shape.optionalText (role.value "name"))
    | none => .ok none
  .ok ⟨Draft.identText m.membership.id, workspace, Draft.identText (m.membership.ident "role_id"),
    roleName, allowed, Vocabulary.word (membershipStatus m), m.membership.stamp "joined_at"⟩

def profileInfo (d : Draft) : Checked ProfileInfo :=
  Shape.also (Shape.also (Shape.also (Shape.also (Shape.also (.ok ProfileInfo.mk)
    (text d "first_name"))
    (text d "last_name"))
    (optional d "display_name"))
    (textOr d "timezone" "UTC"))
    (textOr d "locale" "en")

def globalRole (user : Draft) : GlobalRole := user.kindOr "global_role" .customer

def userInfo (u : Draft.OfUser) (memberships : List Draft.OfMembership) : Checked UserInfo := do
  let user := u.user
  let profile ← u.profile.mapM profileInfo
  let infos ← memberships.mapM membershipInfo
  let email ← text user "email"
  .ok ⟨Draft.identText user.id, email, Vocabulary.word (globalRole user),
    Vocabulary.word (user.kindOr "status" UserStatus.pending), user.stamp "last_login_at",
    user.stampOrMade "created_at", profile, infos⟩

/-- The item of an active membership that has a role. -/
def snapshotItem (m : Draft.OfMembership) : Checked (Option SnapshotItem) :=
  match m.role with
  | none => .ok none
  | some role =>
    if membershipStatus m != .active then .ok none
    else do
      let allowed ← permissions role
      let name ← Shape.under "role_name" (Shape.text (role.value "name"))
      .ok (some ⟨Draft.identText (m.membership.ident "workspace_id"), name, allowed,
        Vocabulary.word (membershipStatus m)⟩)

def snapshot (u : Draft.OfUser) (memberships : List Draft.OfMembership) : Checked Snapshot := do
  let items ← memberships.mapM snapshotItem
  .ok ⟨Vocabulary.word (globalRole u.user), items.filterMap id⟩

end Gatehouse.Preview
