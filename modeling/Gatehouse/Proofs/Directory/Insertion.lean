import Gatehouse.Directory.Store

/-!
# Insertions that succeed

A row that no constraint forbids is put at the end of its table, as it is stored, and no other table
changes.
-/

namespace Gatehouse.Store

section
variable {s t : Store} {check : References}

theorem addUser?_eq_some {u : User} (h : s.addUser? u = some t) :
    t = { s with users := s.users ++ [storedUser u] } := by
  rw [addUser?, Option.ite_none_left_eq_some] at h
  exact (Option.some.inj h.2).symm

theorem addUser?_fresh {u : User} (h : s.addUser? u = some t) :
    ∀ v ∈ s.users, v.id ≠ u.id ∧ v.email ≠ u.email := by
  intro v hv
  rw [addUser?, Option.ite_none_left_eq_some, List.any_eq_true, not_exists] at h
  have hfree := h.1 v
  simp only [hv, true_and, Bool.or_eq_true, beq_iff_eq, not_or] at hfree
  exact hfree.1

theorem addProfile?_eq_some {p : Profile} (h : s.addProfile? check p = some t) :
    t = { s with profiles := s.profiles ++ [storedProfile p] } := by
  rw [addProfile?, Option.ite_none_left_eq_some] at h
  exact (Option.some.inj h.2).symm

theorem addProfile?_fresh {p : Profile} (h : s.addProfile? check p = some t) :
    ∀ q ∈ s.profiles, q.userId ≠ p.userId := by
  intro q hq
  rw [addProfile?, Option.ite_none_left_eq_some, Bool.or_eq_true, not_or, List.any_eq_true, not_exists] at h
  have hfree := h.1.1 q
  simpa [hq] using hfree

theorem addProvider?_eq_some {p : Provider} (h : s.addProvider? check p = some t) :
    t = { s with providers := s.providers ++ [storedProvider p] } := by
  rw [addProvider?, Option.ite_none_left_eq_some] at h
  exact (Option.some.inj h.2).symm

theorem addProvider?_fresh {p : Provider} (h : s.addProvider? check p = some t) :
    ∀ q ∈ s.providers, q.id ≠ p.id := by
  intro q hq
  rw [addProvider?, Option.ite_none_left_eq_some, Bool.or_eq_true, not_or, List.any_eq_true,
    not_exists] at h
  have hfree := h.1.1 q
  simp only [hq, true_and, Bool.or_eq_true, beq_iff_eq, not_or] at hfree
  exact hfree.1

theorem addWorkspace?_eq_some {w : Workspace} (h : s.addWorkspace? check w = some t) :
    t = { s with workspaces := s.workspaces ++ [storedWorkspace w] } := by
  rw [addWorkspace?, Option.ite_none_left_eq_some] at h
  exact (Option.some.inj h.2).symm

theorem addWorkspace?_fresh {w : Workspace} (h : s.addWorkspace? check w = some t) :
    ∀ v ∈ s.workspaces, v.id ≠ w.id ∧ v.slug ≠ w.slug := by
  intro v hv
  rw [addWorkspace?, Option.ite_none_left_eq_some, Bool.or_eq_true, not_or, List.any_eq_true,
    not_exists] at h
  have hfree := h.1.1 v
  simp only [hv, true_and, Bool.or_eq_true, beq_iff_eq, not_or] at hfree
  exact hfree

theorem addRole?_eq_some {r : Role} (h : s.addRole? check r = some t) :
    t = { s with roles := s.roles ++ [storedRole r] } := by
  rw [addRole?, Option.ite_none_left_eq_some] at h
  exact (Option.some.inj h.2).symm

theorem addMembership?_eq_some {m : Membership} (h : s.addMembership? check m = some t) :
    t = { s with memberships := s.memberships ++ [storedMembership m] } := by
  simp only [addMembership?, Option.ite_none_left_eq_some] at h
  exact (Option.some.inj h.2).symm

def withAccount (s : Store) (u : User) (p : Profile) (a : Provider) : Store :=
  { s with
    users := s.users ++ [storedUser u]
    profiles := s.profiles ++ [storedProfile p]
    providers := s.providers ++ [storedProvider a] }

def addAccount? (check : References) (s : Store) (u : User) (p : Profile) (a : Provider) :
    Option Store := do
  let s ← s.addUser? u
  let s ← s.addProfile? check p
  s.addProvider? check a

theorem addAccount?_eq_some_iff {u : User} {p : Profile} {a : Provider} :
    s.addAccount? check u p a = some t ↔ ∃ s₁, s.addUser? u = some s₁ ∧
      ∃ s₂, s₁.addProfile? check p = some s₂ ∧ s₂.addProvider? check a = some t := by
  simp only [addAccount?, bind, Option.bind_eq_some_iff]

theorem addAccount?_eq_some {u : User} {p : Profile} {a : Provider}
    (h : s.addAccount? check u p a = some t) : t = s.withAccount u p a := by
  obtain ⟨s₁, h₁, s₂, h₂, h₃⟩ := addAccount?_eq_some_iff.mp h
  rw [addProvider?_eq_some h₃, addProfile?_eq_some h₂, addUser?_eq_some h₁]
  rfl

/-- The provider of a new account is told apart from all others. -/
theorem addAccount?_fresh {u : User} {p : Profile} {a : Provider}
    (h : s.addAccount? check u p a = some t) : ∀ q ∈ s.providers, q.id ≠ a.id := by
  obtain ⟨s₁, h₁, s₂, h₂, h₃⟩ := addAccount?_eq_some_iff.mp h
  have hproviders : s₂.providers = s.providers := by
    rw [addProfile?_eq_some h₂, addUser?_eq_some h₁]
  rw [← hproviders]
  exact addProvider?_fresh h₃

/-- Neither the identifier nor a profile of the user was there before. -/
theorem addAccount?_alone {u : User} {p : Profile} {a : Provider}
    (h : s.addAccount? check u p a = some t) :
    (∀ v ∈ s.users, v.id ≠ u.id) ∧ ∀ q ∈ s.profiles, q.userId ≠ p.userId := by
  obtain ⟨s₁, h₁, s₂, h₂, -⟩ := addAccount?_eq_some_iff.mp h
  have hprofiles : s₁.profiles = s.profiles := by rw [addUser?_eq_some h₁]
  refine ⟨fun v hv => (addUser?_fresh h₁ v hv).1, ?_⟩
  rw [← hprofiles]
  exact addProfile?_fresh h₂

/-- The email of any row is taken, a deleted user's too. -/
theorem addUser?_taken {u : User} (h : s.emailExists u.email = true) : s.addUser? u = none := by
  rw [emailExists, List.any_eq_true] at h
  obtain ⟨v, hv, hsame⟩ := h
  have hany : (s.users.any fun v => v.id == u.id || v.email == u.email || samePhone v.phone u.phone) = true :=
    List.any_eq_true.mpr ⟨v, hv, by rw [hsame, Bool.or_true, Bool.true_or]⟩
  rw [addUser?, hany]
  rfl

theorem addAccount?_taken {u : User} (h : s.emailExists u.email = true) (p : Profile) (a : Provider) :
    s.addAccount? check u p a = none := by
  rw [addAccount?, addUser?_taken h]
  rfl

theorem addUser?_free {u : User} (hphone : u.phone = none)
    (hfree : ∀ v ∈ s.users, v.id ≠ u.id ∧ v.email ≠ u.email) :
    s.addUser? u = some { s with users := s.users ++ [storedUser u] } := by
  have hsame : ∀ phone : Option String, samePhone phone u.phone = false := by
    intro phone
    rw [hphone]
    cases phone <;> rfl
  have hany : (s.users.any fun v =>
      v.id == u.id || v.email == u.email || samePhone v.phone u.phone) = false := by
    rw [List.any_eq_false]
    intro v hv
    simp [hfree v hv, hsame]
  rw [addUser?, hany]
  rfl

theorem addProfile?_free {p : Profile} (huser : s.hasUser p.userId = true)
    (hfree : ∀ q ∈ s.profiles, q.userId ≠ p.userId) :
    s.addProfile? check p = some { s with profiles := s.profiles ++ [storedProfile p] } := by
  have hany : (s.profiles.any (·.userId == p.userId)) = false := by simpa using hfree
  rw [addProfile?, hany, huser]
  cases check <;> rfl

theorem addProvider?_free {a : Provider} (huser : s.hasUser a.userId = true)
    (hfree : ∀ q ∈ s.providers, q.id ≠ a.id ∧ q.userId ≠ a.userId) :
    s.addProvider? check a = some { s with providers := s.providers ++ [storedProvider a] } := by
  have hany : (s.providers.any fun q => q.id == a.id || (q.userId == a.userId && q.kind == a.kind)) = false := by
    rw [List.any_eq_false]
    intro q hq
    simp [hfree q hq]
  rw [addProvider?, hany, huser]
  cases check <;> rfl

/-- The rows of a user who collides with none. -/
theorem addAccount?_linked {u : User} {p : Profile} {a : Provider} (hphone : u.phone = none)
    (husers : ∀ v ∈ s.users, v.id ≠ u.id ∧ v.email ≠ u.email)
    (hprofiles : ∀ q ∈ s.profiles, q.userId ≠ u.id)
    (hproviders : ∀ q ∈ s.providers, q.id ≠ a.id ∧ q.userId ≠ u.id)
    (hprofile : p.userId = u.id) (hprovider : a.userId = u.id) :
    s.addAccount? check u p a = some (s.withAccount u p a) := by
  have hnewUser : (s.users ++ [storedUser u]).any (·.id == u.id) = true := by simp [storedUser]
  rw [addAccount?_eq_some_iff]
  refine ⟨_, addUser?_free hphone husers, _, addProfile?_free ?_ ?_, addProvider?_free ?_ ?_⟩
  · rw [hprofile]
    exact hnewUser
  · rw [hprofile]
    exact hprofiles
  · rw [hprovider]
    exact hnewUser
  · rw [hprovider]
    exact hproviders

def withWorkspace (s : Store) (w : Workspace) (r : Role) (m : Membership) : Store :=
  { s with
    workspaces := s.workspaces ++ [storedWorkspace w]
    roles := s.roles ++ [storedRole r]
    memberships := s.memberships ++ [storedMembership m] }

def addTenancy? (check : References) (s : Store) (w : Workspace) (r : Role) (m : Membership) :
    Option Store := do
  let s ← s.addWorkspace? check w
  let s ← s.addRole? check r
  s.addMembership? check m

theorem addTenancy?_eq_some_iff {w : Workspace} {r : Role} {m : Membership} :
    s.addTenancy? check w r m = some t ↔ ∃ s₁, s.addWorkspace? check w = some s₁ ∧
      ∃ s₂, s₁.addRole? check r = some s₂ ∧ s₂.addMembership? check m = some t := by
  simp only [addTenancy?, bind, Option.bind_eq_some_iff]

theorem addTenancy?_eq_some {w : Workspace} {r : Role} {m : Membership}
    (h : s.addTenancy? check w r m = some t) : t = s.withWorkspace w r m := by
  obtain ⟨s₁, h₁, s₂, h₂, h₃⟩ := addTenancy?_eq_some_iff.mp h
  rw [addMembership?_eq_some h₃, addRole?_eq_some h₂, addWorkspace?_eq_some h₁]
  rfl

theorem addWorkspace?_free {w : Workspace} (howner : s.hasUser w.ownerId = true)
    (hfree : ∀ v ∈ s.workspaces, v.id ≠ w.id ∧ v.slug ≠ w.slug) :
    s.addWorkspace? check w = some { s with workspaces := s.workspaces ++ [storedWorkspace w] } := by
  have hany : (s.workspaces.any fun v => v.id == w.id || v.slug == w.slug) = false := by simpa using hfree
  rw [addWorkspace?, hany, howner]
  cases check <;> rfl

theorem addRole?_free {r : Role} (hworkspace : s.hasWorkspace r.workspaceId = true)
    (hfree : ∀ q ∈ s.roles, q.id ≠ r.id) :
    s.addRole? check r = some { s with roles := s.roles ++ [storedRole r] } := by
  have hany : (s.roles.any (·.id == r.id)) = false := by simpa using hfree
  rw [addRole?, hany, hworkspace]
  cases check <;> rfl

theorem addMembership?_free {m : Membership} (huser : s.hasUser m.userId = true)
    (hworkspace : s.hasWorkspace m.workspaceId = true) (hrole : s.hasRole m.roleId = true)
    (hinvited : m.invitedBy = none)
    (hfree : ∀ n ∈ s.memberships, n.id ≠ m.id ∧ n.workspaceId ≠ m.workspaceId) :
    s.addMembership? check m = some { s with memberships := s.memberships ++ [storedMembership m] } := by
  have hany : (s.memberships.any fun n =>
      n.id == m.id || (n.userId == m.userId && n.workspaceId == m.workspaceId)) = false := by
    rw [List.any_eq_false]
    intro n hn
    simp [hfree n hn]
  rw [addMembership?, hany, huser, hworkspace, hrole, hinvited]
  cases check <;> rfl

/-- Rows that collide with none and refer to each other and to a user who is there. -/
theorem addTenancy?_linked {w : Workspace} {r : Role} {m : Membership} (howner : s.hasUser w.ownerId = true)
    (hworkspaces : ∀ v ∈ s.workspaces, v.id ≠ w.id ∧ v.slug ≠ w.slug) (hroles : ∀ q ∈ s.roles, q.id ≠ r.id)
    (hmembers : ∀ n ∈ s.memberships, n.id ≠ m.id ∧ n.workspaceId ≠ m.workspaceId)
    (hrole : r.workspaceId = w.id) (huser : m.userId = w.ownerId) (hworkspace : m.workspaceId = w.id)
    (hmember : m.roleId = r.id) (hinvited : m.invitedBy = none) :
    s.addTenancy? check w r m = some (s.withWorkspace w r m) := by
  have hnewWorkspace : (s.workspaces ++ [storedWorkspace w]).any (·.id == w.id) = true := by
    simp [storedWorkspace]
  have hnewRole : (s.roles ++ [storedRole r]).any (·.id == r.id) = true := by simp [storedRole]
  rw [addTenancy?_eq_some_iff]
  refine ⟨_, addWorkspace?_free howner hworkspaces, _, addRole?_free ?_ hroles,
    addMembership?_free ?_ ?_ ?_ hinvited hmembers⟩
  · rw [hrole]
    exact hnewWorkspace
  · rw [huser]
    exact howner
  · rw [hworkspace]
    exact hnewWorkspace
  · rw [hmember]
    exact hnewRole

end

end Gatehouse.Store
