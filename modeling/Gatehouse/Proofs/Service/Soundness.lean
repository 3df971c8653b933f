import Gatehouse.Proofs.Directory.Soundness
import Gatehouse.Proofs.Service.Step

/-!
# Sound for ever

Whatever is asked of the service and whichever calls fail, tables that fit together still do so
afterwards. A role without a workspace is the one row that could spoil it: a new workspace may get its
identifier.
-/

namespace Gatehouse

open Run Service

theorem Slug.IsCandidate.fits {name slug : String} (h : IsCandidate name slug) :
    slug.length ≤ 100 ∧ IsForm slug.toList := by
  obtain ⟨i, hi, rfl⟩ := h
  have hroom : (base name maxSuffix).length + (1 + (toString 1000).length) ≤ maxLength :=
    length_base name (by decide)
  exact ⟨length_candidate hroom hi, isForm_candidate (isForm_base name maxSuffix) i⟩

/-! ## What operations write -/

structure Store.IsWhole (s : Store) : Prop extends IsSound s where
  roles : s.RolesFit

section
variable {s : Service} {rows : Store} (h : s.store.IsWhole)
include h

theorem Signup.Admitted.isWhole {r : Signup.Request} {response : Signup.Response}
    (hw : Signup.Admitted s r response rows) : rows.IsWhole := by
  obtain ⟨-, account, ⟨plain, -, haccount, hrows⟩, -⟩ := hw
  obtain ⟨_, huser, -⟩ := Store.addAccount?_eq_some_iff.mp hrows
  have hfresh := Store.addUser?_fresh huser
  rw [Store.addAccount?_eq_some hrows]
  rw [haccount] at hfresh ⊢
  have haccounts := h.toAccountsFit.withAccount hfresh
    (p := newProfile s.now (nextUser s) r)
    (a := newProvider s.now (.counted (s.ids + 2)) (nextUser s) (Secret.nextHash s plain) r)
    rfl rfl rfl (Option.some_ne_none _)
  have htenancies : Store.TenanciesFit (s.store.withAccount (newUser s.now (nextUser s) r)
      (newProfile s.now (nextUser s) r)
      (newProvider s.now (.counted (s.ids + 2)) (nextUser s) (Secret.nextHash s plain) r)) :=
    h.toTenanciesFit.of_users (fun u hu => ⟨u, List.mem_append_left _ hu, rfl⟩) rfl rfl rfl
  exact ⟨⟨haccounts, htenancies⟩, h.roles⟩

theorem Store.IsWhole.map_users {f : User → User} (hf : User.Keeps f) {t : Store}
    (ht : t = { s.store with users := s.store.users.map f }) : t.IsWhole := by
  subst ht
  refine ⟨⟨h.toAccountsFit.map hf rfl rfl rfl, h.toTenanciesFit.of_users ?_ rfl rfl rfl⟩, h.roles⟩
  exact fun u hu => ⟨f u, List.mem_map_of_mem hu, hf.id u⟩

theorem PasswordChange.Granted.isWhole {r : PasswordChange.Request}
    (hw : PasswordChange.Granted s r () rows) : rows.IsWhole := by
  obtain ⟨_, provider, plain, -, -, -, -, -, rfl⟩ := hw
  refine ⟨⟨h.toAccountsFit.setPasswordHash s.now provider.id _, ?_⟩, h.roles⟩
  exact h.toTenanciesFit.of_users (fun u hu => ⟨u, hu, rfl⟩) rfl rfl rfl

theorem Provision.Founded.isWhole {r : Provision.Request} {response : Provision.Response}
    (hw : Provision.Founded s r response rows) : rows.IsWhole := by
  obtain ⟨owner, id, role, membership, slug, howner, hslug, rfl, hrows⟩ := hw
  obtain ⟨_, hworkspace, -⟩ := Store.addTenancy?_eq_some_iff.mp hrows
  have hfresh := Store.addWorkspace?_fresh hworkspace
  rw [Store.addTenancy?_eq_some hrows]
  have hmember : ∃ u ∈ s.store.users, u.id = r.actingUser :=
    ⟨owner, List.mem_of_find?_eq_some howner.found, howner.id⟩
  have hnew : s.store.IsTenancy (newWorkspace s.now id r.actingUser slug r) (newRole s.now role id)
      (newMembership s.now membership r.actingUser id role) :=
    ⟨hmember, hslug.fits, rfl, ⟨rfl, rfl⟩, rfl, rfl, rfl, rfl, rfl⟩
  refine ⟨⟨h.toAccountsFit.of_eq rfl rfl rfl, ?_⟩, h.roles.withWorkspace rfl⟩
  exact h.toTenanciesFit.withWorkspace h.roles hnew hfresh

theorem Operation.Writes.isWhole {op : Operation} (hw : op.Writes s rows) : rows.IsWhole := by
  cases op with
  | signUp r notify =>
    obtain ⟨response, hw⟩ := hw
    exact hw.isWhole h
  | logIn settings r notify =>
    rcases hw with rfl | ⟨user, rfl⟩
    · exact h
    · exact h.map_users (User.keeps_loggedIn s.now user) rfl
  | changePassword r => exact PasswordChange.Granted.isWhole h hw
  | remove user =>
    rw [hw.2]
    exact h.map_users (User.keeps_removed s.now user) rfl
  | provision r notify =>
    obtain ⟨response, hw⟩ := hw
    exact hw.isWhole h
  | _ =>
    rw [show rows = s.store from hw]
    exact h

end

/-! ## Histories -/

/-- **Sound for ever.** Tables that fit together fit together after every history. -/
theorem sound_for_ever {s : Service} (hready : s.IsReady) (hsound : s.store.IsSound)
    (hroles : s.store.RolesFit) {moves : List Move} (hmoves : ∀ move ∈ moves, move.IsHonest) :
    (s.after moves).store.IsSound ∧ (s.after moves).store.RolesFit := by
  have h := IsReady.after (P := fun u => u.store.IsWhole) (fun _ _ h => h) (fun _ _ _ h => h)
    (fun u op answer v _ h k => ?_) hmoves hready ⟨hsound, hroles⟩
  · exact ⟨h.2.toIsSound, h.2.roles⟩
  · rcases k.store with hsame | hw
    · rw [hsame]
      exact h
    · exact Operation.Writes.isWhole h hw

/-! ## A founder, with and without a stray role -/

namespace Provision

def founderSignup : Signup.Request := ⟨founder.email, .whole "Passw0rd!", "Ann", "Lee"⟩

def founded (roles : List Role) : Store :=
  { Store.empty.withAccount founder (Signup.newProfile 0 founder.id founderSignup)
      (Signup.newProvider 0 (.counted 9) founder.id "hash" founderSignup) with roles := roles }

def holding (rows : Store) : Service :=
  { Service.start 0 with store := rows, transaction := ⟨rows, false⟩ }

/-- The role of a workspace that is not there, but whose identifier is drawn next. -/
def stray : Role := newRole 0 (.counted 10) (.counted 1)

theorem ready_holding (rows : Store) : (holding rows).IsReady := ⟨rfl, fun _ _ _ => List.not_mem_nil⟩

theorem isSound_founded (roles : List Role) : (founded roles).IsSound := by
  have hfresh : ∀ v ∈ Store.empty.users, v.id ≠ founder.id ∧ v.email ≠ founder.email := by
    simp [Store.empty]
  have haccounts := Store.isSound_empty.toAccountsFit.withAccount hfresh
    (p := Signup.newProfile 0 founder.id founderSignup)
    (a := Signup.newProvider 0 (.counted 9) founder.id "hash" founderSignup) rfl rfl rfl (Option.some_ne_none _)
  refine ⟨haccounts.of_eq rfl rfl rfl, ?_⟩
  constructor <;> simp [founded, Store.withAccount, Store.empty]

theorem sound_for_ever_founder :
    let moves : List Move := [.perform (.provision request true), .arm .commit (.breaksAfter .runtime),
      .perform (.signUp ⟨"bob@example.com", .whole "Passw0rd!", "Bob", "Ray"⟩ true), .wait 1000000,
      .perform (.provision request false), .perform (.remove founder.id)]
    ((holding (founded [])).after moves).store.IsSound ∧
      ((holding (founded [])).after moves).store.RolesFit := by
  intro moves
  have hmoves : ∀ move ∈ moves, move.IsHonest := by
    simp [moves, Move.IsHonest]
  exact sound_for_ever (ready_holding _) (isSound_founded []) (fun _ h => absurd h List.not_mem_nil) hmoves

/-- A role of no workspace becomes the second one of the workspace that gets its identifier. -/
theorem stray_role_joins_workspace :
    (holding (founded [stray])).IsReady ∧ (founded [stray]).IsSound ∧
      ¬ ((holding (founded [stray])).after [.perform (.provision request true)]).store.IsSound := by
  refine ⟨ready_holding _, isSound_founded _, fun h => ?_⟩
  have hids : ((holding (founded [stray])).after [.perform (.provision request true)]).store.workspaces.map
      (·.id) = [.counted 1] := by decide +kernel
  have hroles : (((holding (founded [stray])).after [.perform (.provision request true)]).store.roles.filter
      (·.workspaceId == .counted 1)).length = 2 := by decide +kernel
  have hmem : Uuid.counted 1 ∈ ((holding (founded [stray])).after
      [.perform (.provision request true)]).store.workspaces.map (·.id) := by
    rw [hids]
    exact List.mem_singleton_self _
  obtain ⟨w, hw, hid⟩ := List.mem_map.mp hmem
  obtain ⟨r, hr, -⟩ := h.admin w hw
  rw [hid] at hr
  rw [hr] at hroles
  cases hroles

end Provision

end Gatehouse
