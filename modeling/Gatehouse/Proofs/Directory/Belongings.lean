import Gatehouse.Proofs.Directory.Insertion
import Gatehouse.Proofs.Directory.Update

/-!
# What belongs to a user

The rows of one user: the user, the profile and the sign-in providers, the workspaces the user owns with
their roles, and the memberships. What is written for one user leaves the rows of all others alone.
-/

namespace Gatehouse.Store

def belongings (s : Store) (user : Uuid) : Store where
  users := s.users.filter (·.id == user)
  profiles := s.profiles.filter (·.userId == user)
  providers := s.providers.filter (·.userId == user)
  workspaces := s.workspaces.filter (·.ownerId == user)
  roles := s.roles.filter fun r => s.workspaces.any fun w => w.id == r.workspaceId && w.ownerId == user
  memberships := s.memberships.filter (·.userId == user)

variable {s t : Store} {user : Uuid}

/-- A change that moves no row in or out of a selection, and changes none in it, leaves it as it is. -/
theorem filter_map_unchanged {α : Type} {rows : List α} {f : α → α} {p : α → Bool}
    (hp : ∀ a ∈ rows, p (f a) = p a) (hf : ∀ a ∈ rows, p a = true → f a = a) :
    (rows.map f).filter p = rows.filter p := by
  induction rows with
  | nil => rfl
  | cons a rows ih =>
    have htail := ih (fun b hb => hp b (List.mem_cons_of_mem a hb)) fun b hb => hf b (List.mem_cons_of_mem a hb)
    have hhead := hp a (by simp)
    by_cases h : p a = true
    · simp [htail, hf a (by simp) h, h]
    · simp [htail, hhead, h]

/-! ## Changes -/

theorem belongings_softDelete (now : Instant) {id : Uuid} (h : id ≠ user) :
    (s.softDelete now id).1.belongings user = s.belongings user := by
  have hkeeps := User.keeps_removed now id
  have husers : (s.users.map (User.removed now id)).filter (·.id == user) = s.users.filter (·.id == user) := by
    apply filter_map_unchanged
    · intro u _
      rw [hkeeps.id]
    · intro u _ hu
      rw [beq_iff_eq] at hu
      exact User.removed_other now (hu ▸ Ne.symm h)
  simp only [belongings, users_softDelete, husers]
  rfl

theorem belongings_setPasswordHash (now : Instant) {id : Uuid} (hash : String)
    (h : ∀ p ∈ s.providers, p.id = id → p.userId ≠ user) :
    (s.setPasswordHash now id hash).belongings user = s.belongings user := by
  have hproviders : (s.providers.map (Provider.rehashed now id hash)).filter (·.userId == user) =
      s.providers.filter (·.userId == user) := by
    apply filter_map_unchanged
    · intro p _
      rw [Provider.userId_rehashed]
    · intro p hp hu
      have : p.id ≠ id := by
        intro hid
        exact h p hp hid (by simpa using hu)
      simp [Provider.rehashed, this]
  simp only [belongings, providers_setPasswordHash, hproviders]
  rfl

/-! ## New rows -/

/-- A new workspace, its role and its membership are nobody's but its owner's. -/
theorem belongings_addTenancy? {check : References} {w : Workspace} {r : Role} {m : Membership}
    (h : s.addTenancy? check w r m = some t) (howner : w.ownerId ≠ user) (hrole : r.workspaceId = w.id)
    (hmember : m.userId ≠ user) : t.belongings user = s.belongings user := by
  obtain ⟨s₁, h₁, -⟩ := addTenancy?_eq_some_iff.mp h
  have hfresh : ∀ v ∈ s.workspaces, v.id ≠ r.workspaceId := by
    intro v hv
    rw [hrole]
    exact (addWorkspace?_fresh h₁ v hv).1
  rw [addTenancy?_eq_some h]
  unfold belongings withWorkspace storedWorkspace storedRole storedMembership
  congr 1
  · simp [howner]
  · have hnone : (s.workspaces.any fun v => v.id == r.workspaceId && v.ownerId == user) = false := by
      rw [List.any_eq_false]
      intro v hv
      simp [hfresh v hv]
    simp [List.filter_append, beq_false_of_ne howner, hnone]
  · simp [hmember]

end Gatehouse.Store
