import Gatehouse.Proofs.Directory.Insertion
import Gatehouse.Proofs.Directory.Update
import Gatehouse.Proofs.Slug
import Mathlib.Data.List.Nodup

/-!
# Tables that fit together

When the six tables belong to each other: every user has the rows of an account, every workspace those of
a tenancy, and nothing refers to a row that is not there. Each kind of write keeps it so.
-/

namespace Gatehouse

def Role.IsAdmin (r : Role) : Prop :=
  r.name = "admin" ∧ r.permissions.field? "permissions" = some (.array [.text "all"])

namespace Store

/-! ## What fits -/

/-- Users are told apart, and each has one profile and one local provider with a hash. -/
structure AccountsFit (s : Store) : Prop where
  ids : (s.users.map (·.id)).Nodup
  emails : (s.users.map (·.email)).Nodup
  profile : ∀ u ∈ s.users, ∃ p, s.profiles.filter (·.userId == u.id) = [p]
  provider : ∀ u ∈ s.users, ∃ p,
    s.providers.filter (fun p => p.userId == u.id && p.kind == .localPassword) = [p] ∧ p.passwordHash ≠ none
  profileOwner : ∀ p ∈ s.profiles, ∃ u ∈ s.users, u.id = p.userId
  providerOwner : ∀ p ∈ s.providers, ∃ u ∈ s.users, u.id = p.userId

def HasAdmin (s : Store) (w : Workspace) : Prop :=
  ∃ r, s.roles.filter (·.workspaceId == w.id) = [r] ∧ r.IsAdmin ∧
    ∃ m, s.memberships.filter (fun m => m.userId == w.ownerId && m.workspaceId == w.id) = [m] ∧
      m.status = .active ∧ m.roleId = r.id ∧ m.joinedAt = w.createdAt

/-- A membership of a user who is there, in a workspace that is there, on a role of that workspace. -/
structure Joins (s : Store) (m : Membership) : Prop where
  user : ∃ u ∈ s.users, u.id = m.userId
  workspace : ∃ w ∈ s.workspaces, w.id = m.workspaceId
  role : ∃ r ∈ s.roles, r.id = m.roleId ∧ r.workspaceId = m.workspaceId

structure TenanciesFit (s : Store) : Prop where
  slugs : (s.workspaces.map (·.slug)).Nodup
  slug : ∀ w ∈ s.workspaces, w.slug.length ≤ 100 ∧ Slug.IsForm w.slug.toList
  admin : ∀ w ∈ s.workspaces, s.HasAdmin w
  joins : ∀ m ∈ s.memberships, s.Joins m
  pairs : (s.memberships.map fun m => (m.userId, m.workspaceId)).Nodup

structure IsSound (s : Store) : Prop extends AccountsFit s, TenanciesFit s

def RolesFit (s : Store) : Prop := ∀ r ∈ s.roles, ∃ w ∈ s.workspaces, w.id = r.workspaceId

theorem isSound_empty : Store.empty.IsSound := by
  constructor <;> constructor <;> simp [empty]

/-! ## Lists with one more row -/

section
variable {α β : Type} {rows : List α} {row : α}

theorem nodup_map_append {f : α → β} (h : (rows.map f).Nodup) (hfresh : ∀ a ∈ rows, f a ≠ f row) :
    ((rows ++ [row]).map f).Nodup := by
  rw [List.map_append, List.nodup_append]
  refine ⟨h, by simp, ?_⟩
  intro x hx y hy
  obtain ⟨a, ha, rfl⟩ := List.mem_map.mp hx
  simp only [List.map_cons, List.map_nil, List.mem_singleton] at hy
  rw [hy]
  exact hfresh a ha

theorem filter_append_other {p : α → Bool} (h : p row = false) :
    (rows ++ [row]).filter p = rows.filter p := by
  rw [List.filter_append, List.filter_cons, h]
  simp

theorem filter_append_only {p : α → Bool} (h : ∀ a ∈ rows, p a = false) (hrow : p row = true) :
    (rows ++ [row]).filter p = [row] := by
  rw [List.filter_append, List.filter_cons, hrow, List.filter_eq_nil_iff.mpr]
  · rfl
  · intro a ha
    rw [h a ha]
    decide

/-- With one more key and its row, every key still has one row, and it is as it should be. -/
theorem only_append {keys : List β} {key : β} {fits : β → α → Bool} {Q : β → α → Prop}
    (hold : ∀ k ∈ keys, ∃ a, rows.filter (fits k) = [a] ∧ Q k a) (hother : ∀ k ∈ keys, fits k row = false)
    (hnone : ∀ a ∈ rows, fits key a = false) (hfits : fits key row = true) (hrow : Q key row) :
    ∀ k ∈ keys ++ [key], ∃ a, (rows ++ [row]).filter (fits k) = [a] ∧ Q k a := by
  intro k hk
  rcases List.mem_append.mp hk with hk | hk
  · rw [filter_append_other (hother k hk)]
    exact hold k hk
  · cases List.mem_singleton.mp hk
    exact ⟨row, filter_append_only hnone hfits, hrow⟩

theorem owned_append {γ : Type} {keys : List β} {key : β} {id : β → γ} {owner : α → γ}
    (hold : ∀ a ∈ rows, ∃ k ∈ keys, id k = owner a) (hrow : id key = owner row) :
    ∀ a ∈ rows ++ [row], ∃ k ∈ keys ++ [key], id k = owner a := by
  intro a ha
  rcases List.mem_append.mp ha with ha | ha
  · obtain ⟨k, hk, hid⟩ := hold a ha
    exact ⟨k, List.mem_append_left _ hk, hid⟩
  · cases List.mem_singleton.mp ha
    exact ⟨key, List.mem_append_right _ (List.mem_singleton_self key), hrow⟩

end

variable {s t : Store}

/-! ## Accounts -/

theorem AccountsFit.map (h : s.AccountsFit) {f : User → User} (hf : User.Keeps f)
    (husers : t.users = s.users.map f) (hprofiles : t.profiles = s.profiles)
    (hproviders : t.providers = s.providers) : t.AccountsFit := by
  have hids : (·.id) ∘ f = (·.id) := funext hf.id
  have hemails : (·.email) ∘ f = (·.email) := funext hf.email
  have howner : ∀ id, (∃ u ∈ s.users, u.id = id) → ∃ u ∈ t.users, u.id = id := by
    rintro id ⟨u, hu, hid⟩
    refine ⟨f u, ?_, (hf.id u).trans hid⟩
    rw [husers]
    exact List.mem_map_of_mem hu
  refine ⟨?_, ?_, ?_, ?_, ?_, ?_⟩
  · rw [husers, List.map_map, hids]
    exact h.ids
  · rw [husers, List.map_map, hemails]
    exact h.emails
  · intro u hu
    rw [husers] at hu
    obtain ⟨v, hv, rfl⟩ := List.mem_map.mp hu
    rw [hprofiles, hf.id]
    exact h.profile v hv
  · intro u hu
    rw [husers] at hu
    obtain ⟨v, hv, rfl⟩ := List.mem_map.mp hu
    rw [hproviders, hf.id]
    exact h.provider v hv
  · rw [hprofiles]
    exact fun p hp => howner _ (h.profileOwner p hp)
  · rw [hproviders]
    exact fun p hp => howner _ (h.providerOwner p hp)

theorem AccountsFit.of_eq (h : s.AccountsFit) (husers : t.users = s.users)
    (hprofiles : t.profiles = s.profiles) (hproviders : t.providers = s.providers) : t.AccountsFit :=
  h.map ⟨fun _ => rfl, fun _ => rfl, fun _ => rfl, fun _ => .inl rfl⟩ (husers.trans (List.map_id _).symm)
    hprofiles hproviders

theorem AccountsFit.withAccount (h : s.AccountsFit) {u : User} {p : Profile} {a : Provider}
    (hfresh : ∀ v ∈ s.users, v.id ≠ u.id ∧ v.email ≠ u.email) (hp : p.userId = u.id)
    (ha : a.userId = u.id) (hkind : a.kind = .localPassword) (hhash : a.passwordHash ≠ none) :
    (s.withAccount u p a).AccountsFit := by
  -- every profile and provider has an owner who was there, so none of them is the new user's
  have hother : ∀ v ∈ s.users, ∀ {id : Uuid}, id = u.id → id ≠ v.id :=
    fun v hv _ hid heq => (hfresh v hv).1 (heq.symm.trans hid)
  have hnoProfile : ∀ q ∈ s.profiles, (q.userId == u.id) = false := by
    intro q hq
    obtain ⟨v, hv, hid⟩ := h.profileOwner q hq
    rw [beq_eq_false_iff_ne, ← hid]
    exact (hfresh v hv).1
  have hnoProvider : ∀ q ∈ s.providers, (q.userId == u.id) = false := by
    intro q hq
    obtain ⟨v, hv, hid⟩ := h.providerOwner q hq
    rw [beq_eq_false_iff_ne, ← hid]
    exact (hfresh v hv).1
  refine ⟨nodup_map_append h.ids fun v hv => (hfresh v hv).1,
    nodup_map_append h.emails fun v hv => (hfresh v hv).2, ?_, only_append h.provider ?_ ?_ ?_ hhash,
    owned_append h.profileOwner hp.symm, owned_append h.providerOwner ha.symm⟩
  · have hprofiles : ∀ v ∈ s.users ++ [storedUser u], ∃ q,
        (s.profiles ++ [storedProfile p]).filter (·.userId == v.id) = [q] ∧ True := by
      apply only_append (fun v hv => (h.profile v hv).imp fun _ hq => ⟨hq, trivial⟩)
      · exact fun v hv => beq_eq_false_iff_ne.mpr (hother v hv hp)
      · exact hnoProfile
      · exact beq_iff_eq.mpr hp
      · trivial
    exact fun v hv => (hprofiles v hv).imp fun _ hq => hq.1
  · intro v hv
    rw [Bool.and_eq_false_iff, beq_eq_false_iff_ne]
    exact .inl (hother v hv ha)
  · intro q hq
    rw [Bool.and_eq_false_iff]
    exact .inl (hnoProvider q hq)
  · rw [Bool.and_eq_true, beq_iff_eq, beq_iff_eq]
    exact ⟨ha, hkind⟩

theorem AccountsFit.setPasswordHash (h : s.AccountsFit) (now : Instant) (id : Uuid) (hash : String) :
    (s.setPasswordHash now id hash).AccountsFit := by
  refine ⟨h.ids, h.emails, h.profile, ?_, h.profileOwner, ?_⟩
  · intro u hu
    obtain ⟨p, hp, hhash⟩ := h.provider u hu
    refine ⟨Provider.rehashed now id hash p, ?_, ?_⟩
    · -- a provider that gets a hash keeps its user and its kind, so the filter sees no difference
      rw [providers_setPasswordHash, List.filter_map]
      have hsame : (fun q : Provider => q.userId == u.id && q.kind == .localPassword) ∘
          Provider.rehashed now id hash = fun q => q.userId == u.id && q.kind == .localPassword := by
        funext q
        simp
      rw [hsame, hp, List.map_singleton]
    · rw [Provider.passwordHash_rehashed]
      split
      · exact Option.some_ne_none _
      · exact hhash
  · intro q hq
    rw [providers_setPasswordHash] at hq
    obtain ⟨p, hp, rfl⟩ := List.mem_map.mp hq
    rw [Provider.userId_rehashed]
    exact h.providerOwner p hp

/-! ## Tenancies -/

/-- The users of other tables may change, as long as nobody disappears. -/
theorem TenanciesFit.of_users (h : s.TenanciesFit) (husers : ∀ u ∈ s.users, ∃ v ∈ t.users, v.id = u.id)
    (hworkspaces : t.workspaces = s.workspaces) (hroles : t.roles = s.roles)
    (hmemberships : t.memberships = s.memberships) : t.TenanciesFit := by
  refine ⟨?_, ?_, ?_, ?_, ?_⟩
  · rw [hworkspaces]
    exact h.slugs
  · rw [hworkspaces]
    exact h.slug
  · intro w hw
    rw [hworkspaces] at hw
    rw [HasAdmin, hroles, hmemberships]
    exact h.admin w hw
  · intro m hm
    rw [hmemberships] at hm
    obtain ⟨⟨u, hu, hid⟩, hworkspace, hrole⟩ := h.joins m hm
    obtain ⟨v, hv, hsame⟩ := husers u hu
    refine ⟨⟨v, hv, hsame.trans hid⟩, ?_, ?_⟩
    · rw [hworkspaces]
      exact hworkspace
    · rw [hroles]
      exact hrole
  · rw [hmemberships]
    exact h.pairs

section
variable {w : Workspace} {r : Role} {m : Membership}

structure IsTenancy (s : Store) (w : Workspace) (r : Role) (m : Membership) : Prop where
  owner : ∃ u ∈ s.users, u.id = w.ownerId
  slug : w.slug.length ≤ 100 ∧ Slug.IsForm w.slug.toList
  roleWorkspace : r.workspaceId = w.id
  isAdmin : r.IsAdmin
  user : m.userId = w.ownerId
  workspace : m.workspaceId = w.id
  role : m.roleId = r.id
  active : m.status = .active
  joined : m.joinedAt = w.createdAt

theorem HasAdmin.withWorkspace {v : Workspace} (h : s.HasAdmin v) (hrole : r.workspaceId ≠ v.id)
    (hmember : m.workspaceId ≠ v.id) : (s.withWorkspace w r m).HasAdmin v := by
  have hotherRole : ((storedRole r).workspaceId == v.id) = false := beq_eq_false_iff_ne.mpr hrole
  have hotherMember : ((storedMembership m).userId == v.ownerId &&
      (storedMembership m).workspaceId == v.id) = false := by
    rw [Bool.and_eq_false_iff]
    exact .inr (beq_eq_false_iff_ne.mpr hmember)
  obtain ⟨q, hq, hadmin, n, hn, hrest⟩ := h
  refine ⟨q, ?_, hadmin, n, ?_, hrest⟩
  · rw [← hq]
    exact filter_append_other hotherRole
  · rw [← hn]
    exact filter_append_other hotherMember

theorem IsTenancy.hasAdmin (h : s.IsTenancy w r m) (hroles : ∀ q ∈ s.roles, q.workspaceId ≠ w.id)
    (hmembers : ∀ n ∈ s.memberships, n.workspaceId ≠ w.id) :
    (s.withWorkspace w r m).HasAdmin (storedWorkspace w) := by
  refine ⟨storedRole r, filter_append_only ?_ (beq_iff_eq.mpr h.roleWorkspace), h.isAdmin,
    storedMembership m, filter_append_only ?_ ?_, h.active, h.role, congrArg naive h.joined⟩
  · exact fun q hq => beq_eq_false_iff_ne.mpr (hroles q hq)
  · intro n hn
    rw [Bool.and_eq_false_iff]
    exact .inr (beq_eq_false_iff_ne.mpr (hmembers n hn))
  · rw [Bool.and_eq_true, beq_iff_eq, beq_iff_eq]
    exact ⟨h.user, h.workspace⟩

theorem Joins.withWorkspace {n : Membership} (h : s.Joins n) : (s.withWorkspace w r m).Joins n := by
  obtain ⟨huser, ⟨v, hv, hid⟩, q, hq, hqid⟩ := h
  exact ⟨huser, ⟨v, List.mem_append_left _ hv, hid⟩, q, List.mem_append_left _ hq, hqid⟩

theorem IsTenancy.joins (h : s.IsTenancy w r m) : (s.withWorkspace w r m).Joins (storedMembership m) := by
  obtain ⟨u, hu, hid⟩ := h.owner
  refine ⟨⟨u, hu, hid.trans h.user.symm⟩, ⟨storedWorkspace w, ?_, h.workspace.symm⟩, storedRole r, ?_,
    h.role.symm, h.roleWorkspace.trans h.workspace.symm⟩
  · exact List.mem_append_right _ (List.mem_singleton_self _)
  · exact List.mem_append_right _ (List.mem_singleton_self _)

theorem TenanciesFit.withWorkspace (h : s.TenanciesFit) (hroles : s.RolesFit) (hnew : s.IsTenancy w r m)
    (hfresh : ∀ v ∈ s.workspaces, v.id ≠ w.id ∧ v.slug ≠ w.slug) :
    (s.withWorkspace w r m).TenanciesFit := by
  -- this is where a role without a workspace would do harm
  have hnoRole : ∀ q ∈ s.roles, q.workspaceId ≠ w.id := by
    intro q hq
    obtain ⟨v, hv, hid⟩ := hroles q hq
    rw [← hid]
    exact (hfresh v hv).1
  have hnoMember : ∀ n ∈ s.memberships, n.workspaceId ≠ w.id := by
    intro n hn
    obtain ⟨v, hv, hid⟩ := (h.joins n hn).workspace
    rw [← hid]
    exact (hfresh v hv).1
  have hother : ∀ v ∈ s.workspaces, ∀ {id : Uuid}, id = w.id → id ≠ v.id :=
    fun v hv _ hid heq => (hfresh v hv).1 (heq.symm.trans hid)
  refine ⟨nodup_map_append h.slugs fun v hv => (hfresh v hv).2, ?_, ?_, ?_, ?_⟩
  · intro v hv
    rcases List.mem_append.mp hv with hv | hv
    · exact h.slug v hv
    · cases List.mem_singleton.mp hv
      exact hnew.slug
  · intro v hv
    rcases List.mem_append.mp hv with hv | hv
    · exact (h.admin v hv).withWorkspace (hother v hv hnew.roleWorkspace) (hother v hv hnew.workspace)
    · cases List.mem_singleton.mp hv
      exact hnew.hasAdmin hnoRole hnoMember
  · intro n hn
    rcases List.mem_append.mp hn with hn | hn
    · exact (h.joins n hn).withWorkspace
    · cases List.mem_singleton.mp hn
      exact hnew.joins
  · refine nodup_map_append h.pairs fun n hn heq => ?_
    exact hnoMember n hn ((Prod.mk.inj heq).2.trans hnew.workspace)

theorem RolesFit.withWorkspace (h : s.RolesFit) (hrole : r.workspaceId = w.id) :
    (s.withWorkspace w r m).RolesFit :=
  owned_append h hrole.symm

end

end Store

end Gatehouse
