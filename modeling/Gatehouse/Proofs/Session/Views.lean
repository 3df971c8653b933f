import Gatehouse.Directory.View
import Gatehouse.Proofs.Directory.Permissions
import Gatehouse.Proofs.Directory.Update
import Gatehouse.Session.Snapshot
import Mathlib.Data.List.Forall2

/-!
# Two views of a user

What a session remembers of a user and what an answer shows of the same user are built apart from each
other. Both have one entry for every active membership, in the same order and with the same role.
-/

namespace Gatehouse

/-! ## Memberships with their rows -/

namespace Store

variable (s : Store)

def loadMembership (m : Membership) : LoadedMembership :=
  ⟨m, s.workspaces.find? (·.id == m.workspaceId), s.roles.find? (·.id == m.roleId)⟩

theorem membershipsOf_eq (user : Uuid) :
    s.membershipsOf user = (s.memberships.filter (·.userId == user)).map s.loadMembership := rfl

def IsLinked : Prop :=
  ∀ m ∈ s.memberships, s.hasWorkspace m.workspaceId = true ∧ s.hasRole m.roleId = true

def activeOf (user : Uuid) : List Membership :=
  (s.memberships.filter (·.userId == user)).filter (·.status == .active)

theorem userById?_setLastLogin (now : Instant) (id user : Uuid) :
    (s.setLastLogin now id).userById? user = (s.userById? user).map (User.loggedIn now id) := by
  have hsame : (fun u : User => u.id == user && !isDeleted u) ∘ User.loggedIn now id =
      fun u => u.id == user && !isDeleted u := by
    funext u
    simp only [Function.comp, isDeleted, (User.keeps_loggedIn now id).id, User.status_loggedIn]
  rw [userById?, users_setLastLogin, List.find?_map, hsame]
  rfl

end Store

/-! ## What can be shown -/

def LoadedMembership.IsReadable (now : Instant) (m : LoadedMembership) : Prop :=
  ∀ role, m.role = some role → ∃ set, PermissionSet.read now role.permissions = .ok set

theorem Store.readable_unshared {s : Store} (h : s.memberships = []) (user : Uuid) (now : Instant) :
    ∀ m ∈ s.membershipsOf user, m.IsReadable now := by
  intro m hm
  rw [membershipsOf, h] at hm
  cases hm

theorem Store.readable_of_roles {s : Store} {now : Instant}
    (h : ∀ role ∈ s.roles, ∃ set, PermissionSet.read now role.permissions = .ok set) (user : Uuid) :
    ∀ m ∈ s.membershipsOf user, m.IsReadable now := by
  intro m hm role hrole
  rw [membershipsOf_eq] at hm
  obtain ⟨n, -, rfl⟩ := List.mem_map.mp hm
  exact h role (List.mem_of_find?_eq_some hrole)

namespace Snapshot

variable {now : Instant}

theorem itemsOf_cons_eq_ok {m : LoadedMembership} {rest : List LoadedMembership} {items : List SnapshotItem} :
    itemsOf now (m :: rest) = .ok items ↔
      ∃ item others, itemOf now m = .ok item ∧ itemsOf now rest = .ok others ∧ items = item.toList ++ others := by
  rw [itemsOf]
  cases itemOf now m with
  | error e => simp [bind, Except.bind]
  | ok item =>
    cases itemsOf now rest with
    | error e => simp [bind, Except.bind]
    | ok others => simp [bind, Except.bind, eq_comm]

theorem exists_itemOf {m : LoadedMembership} (h : m.IsReadable now) : ∃ item, itemOf now m = .ok item := by
  unfold itemOf
  cases hrole : m.role with
  | none => exact ⟨none, rfl⟩
  | some role =>
    obtain ⟨set, hset⟩ := h role hrole
    simp only [hset]
    split
    · exact ⟨_, rfl⟩
    · exact ⟨none, rfl⟩

theorem exists_itemsOf {ms : List LoadedMembership} (h : ∀ m ∈ ms, m.IsReadable now) :
    ∃ items, itemsOf now ms = .ok items := by
  induction ms with
  | nil => exact ⟨[], rfl⟩
  | cons m rest ih =>
    obtain ⟨item, hitem⟩ := exists_itemOf (h m List.mem_cons_self)
    obtain ⟨others, hothers⟩ := ih fun n hn => h n (List.mem_cons_of_mem m hn)
    exact ⟨_, itemsOf_cons_eq_ok.mpr ⟨item, others, hitem, hothers, rfl⟩⟩

end Snapshot

namespace MembershipInfo

variable {now : Instant}

theorem ofList_cons_eq_ok {m : LoadedMembership} {rest : List LoadedMembership} {infos : List MembershipInfo} :
    ofList now (m :: rest) = .ok infos ↔
      ∃ info others, of now m = .ok info ∧ ofList now rest = .ok others ∧ infos = info :: others := by
  rw [ofList]
  cases of now m with
  | error e => simp [bind, Except.bind]
  | ok info =>
    cases ofList now rest with
    | error e => simp [bind, Except.bind]
    | ok others => simp [bind, Except.bind, eq_comm]

theorem exists_of {m : LoadedMembership} (h : m.IsReadable now) : ∃ info, of now m = .ok info := by
  unfold of
  cases hrole : m.role with
  | none => exact ⟨_, rfl⟩
  | some role =>
    obtain ⟨set, hset⟩ := h role hrole
    simp only [hset]
    exact ⟨_, rfl⟩

theorem exists_ofList {ms : List LoadedMembership} (h : ∀ m ∈ ms, m.IsReadable now) :
    ∃ infos, ofList now ms = .ok infos := by
  induction ms with
  | nil => exact ⟨[], rfl⟩
  | cons m rest ih =>
    obtain ⟨info, hinfo⟩ := exists_of (h m List.mem_cons_self)
    obtain ⟨others, hothers⟩ := ih fun n hn => h n (List.mem_cons_of_mem m hn)
    exact ⟨_, ofList_cons_eq_ok.mpr ⟨info, others, hinfo, hothers, rfl⟩⟩

end MembershipInfo

theorem Snapshot.ofUser_eq_ok {now : Instant} {loaded : LoadedUser} {snapshot : Snapshot}
    (h : ofUser now loaded = .ok snapshot) : snapshot.globalRole = Vocabulary.word loaded.user.globalRole ∧
      itemsOf now loaded.memberships = .ok snapshot.memberships := by
  unfold ofUser at h
  cases hitems : itemsOf now loaded.memberships with
  | error e =>
    rw [hitems] at h
    cases h
  | ok items =>
    rw [hitems] at h
    cases h
    exact ⟨rfl, rfl⟩

theorem UserInfo.of_eq_ok {now : Instant} {user : User} {profile : Option Profile}
    {memberships : List LoadedMembership} {info : UserInfo} (h : of now user profile memberships = .ok info) :
    info.id = user.id.text ∧ MembershipInfo.ofList now memberships = .ok info.memberships := by
  unfold of at h
  cases hinfos : MembershipInfo.ofList now memberships with
  | error e =>
    rw [hinfos] at h
    cases h
  | ok infos =>
    rw [hinfos] at h
    rw [← Except.ok.inj h]
    exact ⟨rfl, rfl⟩

/-- A user whose roles can be read can be shown. -/
theorem LoadedUser.exists_views {now : Instant} {loaded : LoadedUser}
    (h : ∀ m ∈ loaded.memberships, m.IsReadable now) :
    ∃ snapshot info, Snapshot.ofUser now loaded = .ok snapshot ∧
      UserInfo.of now loaded.user loaded.profile (loaded.memberships.filter (·.isActive)) = .ok info := by
  obtain ⟨items, hitems⟩ := Snapshot.exists_itemsOf h
  obtain ⟨infos, hinfos⟩ := MembershipInfo.exists_ofList fun m hm => h m (List.mem_of_mem_filter hm)
  rw [Snapshot.ofUser, hitems, UserInfo.of, hinfos]
  exact ⟨_, _, rfl, rfl⟩

/-! ## One membership in both views -/

/-- A membership as a session remembers it and as an answer shows it. -/
structure Membership.Shows (s : Store) (m : Membership) (item : SnapshotItem) (info : MembershipInfo) : Prop where
  same : info.id = m.id.text
  workspace : item.workspaceId = m.workspaceId.text
  workspaceShown : info.workspace.map (·.id) = some item.workspaceId
  role : ∃ role, s.roles.find? (·.id == m.roleId) = some role ∧ item.roleName = role.name ∧
    PermissionSet.Lists role.permissions item.permissions
  roleShown : info.roleName = some item.roleName
  permissionsShown : info.permissions = item.permissions
  active : item.status = "active"
  activeShown : info.status = item.status

section
variable {s : Store} {now : Instant}

theorem Store.exists_workspace {id : Uuid} (h : s.hasWorkspace id = true) :
    ∃ w, s.workspaces.find? (·.id == id) = some w ∧ w.id = id := by
  obtain ⟨w, hw⟩ := Option.isSome_iff_exists.mp ((List.find?_isSome).mpr (List.any_eq_true.mp h))
  exact ⟨w, hw, by simpa using List.find?_some hw⟩

theorem Store.exists_role {id : Uuid} (h : s.hasRole id = true) :
    ∃ role, s.roles.find? (·.id == id) = some role :=
  Option.isSome_iff_exists.mp ((List.find?_isSome).mpr (List.any_eq_true.mp h))

theorem Snapshot.itemOf_inactive {m : LoadedMembership} (h : m.isActive = false) {item : Option SnapshotItem}
    (hitem : itemOf now m = .ok item) : item = none := by
  unfold itemOf at hitem
  rw [h] at hitem
  split at hitem <;> cases hitem <;> rfl

theorem Membership.shows_of {m : Membership} (hworkspace : s.hasWorkspace m.workspaceId = true)
    (hrole : s.hasRole m.roleId = true) (hactive : m.status = .active) {item : Option SnapshotItem}
    {info : MembershipInfo} (hitem : Snapshot.itemOf now (s.loadMembership m) = .ok item)
    (hinfo : MembershipInfo.of now (s.loadMembership m) = .ok info) :
    ∃ kept, item = some kept ∧ m.Shows s kept info := by
  obtain ⟨w, hw, hid⟩ := Store.exists_workspace hworkspace
  obtain ⟨role, hrole⟩ := Store.exists_role hrole
  have hloaded : s.loadMembership m = ⟨m, some w, some role⟩ := by
    rw [Store.loadMembership, hw, hrole]
  have hisActive : LoadedMembership.isActive ⟨m, some w, some role⟩ = true := by
    rw [LoadedMembership.isActive, hactive]
    rfl
  rw [hloaded] at hitem hinfo
  unfold Snapshot.itemOf at hitem
  unfold MembershipInfo.of at hinfo
  cases hread : PermissionSet.read now role.permissions with
  | error e =>
    simp only [hisActive, hread, if_true] at hitem
    cases hitem
  | ok set =>
    simp only [hisActive, hread, if_true] at hitem hinfo
    cases hitem
    obtain rfl := Except.ok.inj hinfo
    refine ⟨_, rfl, ⟨rfl, rfl, ?_, ⟨role, hrole, rfl, PermissionSet.read_lists hread⟩, rfl, rfl, ?_, rfl⟩⟩
    · show some w.id.text = some m.workspaceId.text
      rw [hid]
    · show Vocabulary.word m.status = "active"
      rw [hactive]
      rfl

/-- **The two views of a user agree.** -/
theorem views_agree {ms : List Membership}
    (hlinked : ∀ m ∈ ms, s.hasWorkspace m.workspaceId = true ∧ s.hasRole m.roleId = true)
    {items : List SnapshotItem} {infos : List MembershipInfo}
    (hitems : Snapshot.itemsOf now (ms.map s.loadMembership) = .ok items)
    (hinfos : MembershipInfo.ofList now ((ms.map s.loadMembership).filter (·.isActive)) = .ok infos) :
    ∃ shown : List (SnapshotItem × MembershipInfo), items = shown.map (·.1) ∧ infos = shown.map (·.2) ∧
      List.Forall₂ (fun m v => m.Shows s v.1 v.2) (ms.filter (·.status == .active)) shown := by
  induction ms generalizing items infos with
  | nil =>
    cases hitems
    cases hinfos
    exact ⟨[], rfl, rfl, .nil⟩
  | cons m rest ih =>
    have hrest : ∀ n ∈ rest, s.hasWorkspace n.workspaceId = true ∧ s.hasRole n.roleId = true :=
      fun n hn => hlinked n (List.mem_cons_of_mem m hn)
    obtain ⟨hworkspace, hrole⟩ := hlinked m List.mem_cons_self
    rw [List.map_cons] at hitems hinfos
    obtain ⟨item, others, hitem, hothers, rfl⟩ := Snapshot.itemsOf_cons_eq_ok.mp hitems
    by_cases hactive : m.status = .active
    · have hkept : (s.loadMembership m).isActive = true := by
        simp [Store.loadMembership, LoadedMembership.isActive, hactive]
      rw [List.filter_cons_of_pos hkept] at hinfos
      obtain ⟨info, more, hinfo, hmore, rfl⟩ := MembershipInfo.ofList_cons_eq_ok.mp hinfos
      obtain ⟨kept, rfl, hshows⟩ := Membership.shows_of hworkspace hrole hactive hitem hinfo
      obtain ⟨shown, rfl, rfl, hall⟩ := ih hrest hothers hmore
      refine ⟨(kept, info) :: shown, rfl, rfl, ?_⟩
      rw [List.filter_cons_of_pos (by simpa using hactive)]
      exact .cons hshows hall
    · have hdropped : (s.loadMembership m).isActive = false := by
        simp [Store.loadMembership, LoadedMembership.isActive, hactive]
      rw [List.filter_cons_of_neg (by simp [hdropped])] at hinfos
      obtain rfl := Snapshot.itemOf_inactive hdropped hitem
      obtain ⟨shown, rfl, rfl, hall⟩ := ih hrest hothers hinfos
      refine ⟨shown, rfl, rfl, ?_⟩
      rw [List.filter_cons_of_neg (by simpa using hactive)]
      exact hall

end

end Gatehouse
