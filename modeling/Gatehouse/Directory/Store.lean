import Gatehouse.Directory.Entity

/-!
# The directory store

The six tables as lists of rows, in the order of insertion. Insertion checks the constraints of a
table, and stamps lose their zone when they are stored.
-/

namespace Gatehouse

structure Store where
  users : List User
  profiles : List Profile
  providers : List Provider
  workspaces : List Workspace
  roles : List Role
  memberships : List Membership

namespace Store

def empty : Store := ⟨[], [], [], [], [], []⟩

instance : Inhabited Store := ⟨empty⟩

/-! ## Stored rows -/

def naive (s : Option Stamp) : Option Stamp := s.map (·.naive)

def storedUser (u : User) : User :=
  { u with
    emailVerifiedAt := naive u.emailVerifiedAt
    phoneVerifiedAt := naive u.phoneVerifiedAt
    lastLoginAt := naive u.lastLoginAt
    createdAt := naive u.createdAt
    updatedAt := naive u.updatedAt }

def storedProfile (p : Profile) : Profile :=
  { p with createdAt := naive p.createdAt, updatedAt := naive p.updatedAt }

def storedProvider (p : Provider) : Provider :=
  { p with createdAt := naive p.createdAt, updatedAt := naive p.updatedAt }

def storedWorkspace (w : Workspace) : Workspace :=
  { w with createdAt := naive w.createdAt, updatedAt := naive w.updatedAt }

def storedRole (r : Role) : Role :=
  { r with createdAt := naive r.createdAt, updatedAt := naive r.updatedAt }

def storedMembership (m : Membership) : Membership :=
  { m with
    joinedAt := naive m.joinedAt
    createdAt := naive m.createdAt
    updatedAt := naive m.updatedAt }

/-! ## Insertion -/

/-- Whether references are checked on insertion. -/
abbrev References := Bool

def hasUser (s : Store) (id : Uuid) : Bool := s.users.any (·.id == id)

def hasWorkspace (s : Store) (id : Uuid) : Bool := s.workspaces.any (·.id == id)

def hasRole (s : Store) (id : Uuid) : Bool := s.roles.any (·.id == id)

def samePhone (a b : Option String) : Bool :=
  match a, b with
  | some a, some b => a == b
  | _, _ => false

/-- Identifiers, emails and phones are unique. -/
def addUser? (s : Store) (u : User) : Option Store :=
  if s.users.any fun v => v.id == u.id || v.email == u.email || samePhone v.phone u.phone then none
  else some { s with users := s.users ++ [storedUser u] }

/-- A user has one profile. -/
def addProfile? (check : References) (s : Store) (p : Profile) : Option Store :=
  if s.profiles.any (·.userId == p.userId) || (check && !s.hasUser p.userId) then none
  else some { s with profiles := s.profiles ++ [storedProfile p] }

/-- A user has one provider of a kind. -/
def addProvider? (check : References) (s : Store) (p : Provider) : Option Store :=
  if (s.providers.any fun q => q.id == p.id || (q.userId == p.userId && q.kind == p.kind)) ||
      (check && !s.hasUser p.userId) then none
  else some { s with providers := s.providers ++ [storedProvider p] }

/-- Slugs are unique. -/
def addWorkspace? (check : References) (s : Store) (w : Workspace) : Option Store :=
  if (s.workspaces.any fun v => v.id == w.id || v.slug == w.slug) ||
      (check && !s.hasUser w.ownerId) then none
  else some { s with workspaces := s.workspaces ++ [storedWorkspace w] }

def addRole? (check : References) (s : Store) (r : Role) : Option Store :=
  if s.roles.any (·.id == r.id) || (check && !s.hasWorkspace r.workspaceId) then none
  else some { s with roles := s.roles ++ [storedRole r] }

/-- A user has one membership in a workspace. -/
def addMembership? (check : References) (s : Store) (m : Membership) : Option Store :=
  let dangling := !s.hasUser m.userId || !s.hasWorkspace m.workspaceId || !s.hasRole m.roleId ||
    (match m.invitedBy with | some u => !s.hasUser u | none => false)
  if (s.memberships.any fun n =>
      n.id == m.id || (n.userId == m.userId && n.workspaceId == m.workspaceId)) ||
      (check && dangling) then none
  else some { s with memberships := s.memberships ++ [storedMembership m] }

/-! ## Queries -/

def isDeleted (u : User) : Bool := u.status == .deleted

/-- The user with an email, unless deleted. -/
def userByEmail? (s : Store) (email : String) : Option User :=
  s.users.find? fun u => u.email == email && !isDeleted u

/-- The user with an identifier, unless deleted. -/
def userById? (s : Store) (id : Uuid) : Option User :=
  s.users.find? fun u => u.id == id && !isDeleted u

def profileOf? (s : Store) (id : Uuid) : Option Profile := s.profiles.find? (·.userId == id)

def providerOf? (s : Store) (id : Uuid) (kind : ProviderKind) : Option Provider :=
  s.providers.find? fun p => p.userId == id && p.kind == kind

def membershipsOf (s : Store) (id : Uuid) : List LoadedMembership :=
  (s.memberships.filter (·.userId == id)).map fun m =>
    ⟨m, s.workspaces.find? (·.id == m.workspaceId), s.roles.find? (·.id == m.roleId)⟩

def load (s : Store) (u : User) : LoadedUser := ⟨u, s.profileOf? u.id, s.membershipsOf u.id⟩

def emailExists (s : Store) (email : String) : Bool := s.users.any (·.email == email)

def slugExists (s : Store) (slug : String) : Bool := s.workspaces.any (·.slug == slug)

/-! ## Updates -/

/-- Changes the users of a kind and stamps them as updated. -/
def updateUsers (s : Store) (now : Instant) (p : User → Bool) (f : User → User) : Store :=
  let stamp := some (Stamp.ofInstant now).naive
  { s with users := s.users.map fun u => if p u then { f u with updatedAt := stamp } else u }

def refersTo (s : Store) (id : Uuid) : Bool :=
  s.profiles.any (·.userId == id) || s.providers.any (·.userId == id) ||
    s.workspaces.any (·.ownerId == id) ||
    s.memberships.any fun m => m.userId == id || m.invitedBy == some id

def replaceUser? (check : References) (s : Store) (old new : User) : Option Store :=
  let isOther (u : User) : Bool := u.id != old.id
  let collides (u : User) : Bool :=
    isOther u && (u.id == new.id || u.email == new.email || samePhone u.phone new.phone)
  if s.users.any collides || (check && new.id != old.id && s.refersTo old.id) then none
  else some { s with users := s.users.map fun u => if isOther u then u else storedUser new }

def setLastLogin (s : Store) (now : Instant) (id : Uuid) : Store :=
  s.updateUsers now (·.id == id) fun u => { u with lastLoginAt := some (Stamp.ofInstant now).naive }

/-- Marks a user as deleted, if it is not yet. -/
def softDelete (s : Store) (now : Instant) (id : Uuid) : Store × Bool :=
  let isMeant (u : User) : Bool := u.id == id && !isDeleted u
  (s.updateUsers now isMeant fun u => { u with status := .deleted }, s.users.any isMeant)

/-- Gives a provider another hash. The hash that it has already is no change. -/
def setPasswordHash (s : Store) (now : Instant) (id : Uuid) (hash : String) : Store :=
  let stamp := some (Stamp.ofInstant now).naive
  { s with
    providers := s.providers.map fun p =>
      if p.id == id && p.passwordHash != some hash then
        { p with passwordHash := some hash, updatedAt := stamp }
      else p }

end Store

end Gatehouse
