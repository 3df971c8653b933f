import Gatehouse.Calendar.Stamp
import Gatehouse.Directory.Kinds
import Gatehouse.Directory.Uuid

/-!
# Entities

The rows of the directory: users with their profiles and sign-in providers, workspaces with their
roles, and the memberships that join them. Stamps that are not set are absent.
-/

namespace Gatehouse

structure User where
  id : Uuid
  email : String
  phone : Option String
  emailVerifiedAt : Option Stamp
  phoneVerifiedAt : Option Stamp
  globalRole : GlobalRole
  status : UserStatus
  lastLoginAt : Option Stamp
  createdAt : Option Stamp
  updatedAt : Option Stamp
  deriving DecidableEq, Repr

structure Profile where
  userId : Uuid
  firstName : String
  lastName : String
  displayName : Option String
  avatarUrl : Option String
  dateOfBirth : Option String
  addressLine1 : Option String
  addressLine2 : Option String
  city : Option String
  state : Option String
  postalCode : Option String
  country : Option String
  timezone : String
  locale : String
  bio : Option String
  createdAt : Option Stamp
  updatedAt : Option Stamp
  deriving DecidableEq, Repr

structure Provider where
  id : Uuid
  userId : Uuid
  kind : ProviderKind
  providerUserId : String
  providerEmail : Option String
  providerData : Option Json
  passwordHash : Option String
  isPrimary : Bool
  createdAt : Option Stamp
  updatedAt : Option Stamp

structure Workspace where
  id : Uuid
  name : String
  slug : String
  description : Option String
  avatarUrl : Option String
  ownerId : Uuid
  settings : Option Json
  status : WorkspaceStatus
  createdAt : Option Stamp
  updatedAt : Option Stamp

structure Role where
  id : Uuid
  workspaceId : Uuid
  name : String
  description : Option String
  permissions : Json
  status : WorkspaceStatus
  createdAt : Option Stamp
  updatedAt : Option Stamp

structure Membership where
  id : Uuid
  userId : Uuid
  workspaceId : Uuid
  roleId : Uuid
  status : MembershipStatus
  invitedBy : Option Uuid
  joinedAt : Option Stamp
  createdAt : Option Stamp
  updatedAt : Option Stamp
  deriving DecidableEq, Repr

/-- A membership with the workspace and the role it refers to, where they exist. -/
structure LoadedMembership where
  membership : Membership
  workspace : Option Workspace
  role : Option Role

structure LoadedUser where
  user : User
  profile : Option Profile
  memberships : List LoadedMembership

namespace LoadedMembership

def isActive (m : LoadedMembership) : Bool := m.membership.status == .active

end LoadedMembership

end Gatehouse
