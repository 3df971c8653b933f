import Gatehouse.Directory.Store

/-!
# Updates

The time of a login and a removal change neither the identifier nor the email of a user, and none of
them brings a deleted user back. A new hash leaves a provider with its user and its kind.
-/

namespace Gatehouse.User

/-- A change of users that revives nobody. -/
structure Keeps (f : User → User) : Prop where
  id : ∀ u, (f u).id = u.id
  email : ∀ u, (f u).email = u.email
  role : ∀ u, (f u).globalRole = u.globalRole
  status : ∀ u, (f u).status = u.status ∨ (f u).status = .deleted

theorem Keeps.deleted {f : User → User} (h : Keeps f) (u : User) (hu : u.status = .deleted) :
    (f u).status = .deleted := by
  rcases h.status u with hsame | hdeleted
  · exact hsame.trans hu
  · exact hdeleted

def loggedIn (now : Instant) (id : Uuid) (u : User) : User :=
  if u.id == id then
    { u with
      lastLoginAt := some (Stamp.ofInstant now).naive
      updatedAt := some (Stamp.ofInstant now).naive }
  else u

def removed (now : Instant) (id : Uuid) (u : User) : User :=
  if u.id == id && !Store.isDeleted u then
    { u with status := .deleted, updatedAt := some (Stamp.ofInstant now).naive }
  else u

theorem keeps_loggedIn (now : Instant) (id : Uuid) : Keeps (loggedIn now id) := by
  constructor <;> intro u <;> unfold loggedIn <;> split <;> simp

theorem keeps_removed (now : Instant) (id : Uuid) : Keeps (removed now id) := by
  constructor <;> intro u <;> unfold removed <;> split <;> simp

theorem status_loggedIn (now : Instant) (id : Uuid) (u : User) : (loggedIn now id u).status = u.status := by
  unfold loggedIn
  split <;> rfl

theorem removed_other (now : Instant) {id : Uuid} {u : User} (h : u.id ≠ id) : removed now id u = u := by
  simp [removed, h]

theorem status_removed (now : Instant) (u : User) : (removed now u.id u).status = .deleted := by
  by_cases hd : u.status = .deleted
  · exact (keeps_removed now u.id).deleted u hd
  · simp [removed, Store.isDeleted, hd]

end Gatehouse.User

namespace Gatehouse.Provider

def rehashed (now : Instant) (id : Uuid) (hash : String) (p : Provider) : Provider :=
  if p.id == id && p.passwordHash != some hash then
    { p with passwordHash := some hash, updatedAt := some (Stamp.ofInstant now).naive }
  else p

variable (now : Instant) (id : Uuid) (hash : String) (p : Provider)

@[simp] theorem id_rehashed : (rehashed now id hash p).id = p.id := by
  unfold rehashed
  split <;> rfl

@[simp] theorem userId_rehashed : (rehashed now id hash p).userId = p.userId := by
  unfold rehashed
  split <;> rfl

@[simp] theorem kind_rehashed : (rehashed now id hash p).kind = p.kind := by
  unfold rehashed
  split <;> rfl

theorem passwordHash_rehashed :
    (rehashed now id hash p).passwordHash = if p.id = id then some hash else p.passwordHash := by
  by_cases hid : p.id = id
  · by_cases hsame : p.passwordHash = some hash <;> simp [rehashed, hid, hsame]
  · simp [rehashed, hid]

end Gatehouse.Provider

namespace Gatehouse.Store

variable (s : Store) (now : Instant) (id : Uuid)

theorem users_setLastLogin : (s.setLastLogin now id).users = s.users.map (User.loggedIn now id) := rfl

theorem users_softDelete : (s.softDelete now id).1.users = s.users.map (User.removed now id) := rfl

theorem providers_setPasswordHash (hash : String) :
    (s.setPasswordHash now id hash).providers = s.providers.map (Provider.rehashed now id hash) := rfl

end Gatehouse.Store
