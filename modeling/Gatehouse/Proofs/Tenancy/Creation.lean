import Gatehouse.Proofs.Account.Absent
import Gatehouse.Proofs.Directory.Permissions
import Gatehouse.Proofs.Service.Twin
import Gatehouse.Proofs.Slug.Search
import Gatehouse.Proofs.Tenancy.Writes

/-!
# What a provision does where nothing breaks

With no fault in its way a provision is a function of the store: it is refused for one of four reasons and
leaves everything as it was, or it adds exactly three rows under the first free slug.
-/

namespace Gatehouse

/-! ## Where nothing breaks -/

def Service.IsHealthy (s : Service) : Prop := ∀ call, call.isCached = false → s.fault? call = none

namespace Directory

open Run

theorem exec_createMembership {s : Service} {m : Membership} {rows : Store}
    (hopen : s.transaction.failed = false) (hworks : s.fault? .createMembership = none)
    (h : s.transaction.rows.addMembership? s.references m = some rows) :
    (createMembership m).exec s = (.ok true, { s with transaction := ⟨rows, false⟩ }) := by
  rw [createMembership, exec_guarded, hworks]
  simp only
  rw [exec_bind_ok (exec_insertion hopen h)]
  rfl

end Directory

namespace Slug

open Run

/-- A check that changes nothing and looks at nothing but the slug ends the search as if on record. -/
theorem exec_searchFrom {taken : String → Run (Option Bool)} {answer : String → Option Bool} {s : Service}
    (h : ∀ slug, (taken slug).exec s = (.ok (answer slug), s)) (base : String) :
    ∀ (left i : Nat) (asked : List String), (searchFrom taken base left i).exec s =
      (.ok ((searchFrom (recorded fun _ => answer) base left i).run asked).1, s)
  | 0, _, _ => rfl
  | left + 1, i, asked => by
    have hrun : (recorded (fun _ => answer) (candidate base i)).run asked =
        (answer (candidate base i), asked ++ [candidate base i]) := rfl
    rw [searchFrom, exec_bind_ok (h (candidate base i)), searchFrom, StateT.run_bind, hrun]
    cases answer (candidate base i) with
    | none => rfl
    | some isTaken =>
      cases isTaken with
      | true => exact exec_searchFrom h base left (i + 1) _
      | false => rfl

end Slug

namespace Provision

open Run Service

variable {s : Service} {r : Request}

/-! ## Decisions -/

theorem exec_probe (hsettled : s.IsSettled) (hhealthy : s.IsHealthy) (slug : String) :
    (probe slug).exec s = (.ok (some (s.store.slugExists slug)), s) := by
  have hholds := Directory.exec_holds (c := .slug slug) hsettled (hhealthy .slugExists rfl)
  have hattempt : (attempt (Directory.holds (.slug slug))).exec s =
      (.ok (.ok (s.store.slugExists slug)), s) := by
    rw [exec_attempt, hholds]
    rfl
  rw [probe, exec_bind_ok hattempt]
  rfl

/-- The number of a candidate which no workspace has, while all before it are taken. -/
structure IsFirstFree (rows : Store) (name : String) (k : Nat) : Prop where
  bound : k ≤ 1000
  taken : ∀ j < k, rows.slugExists (Slug.candidate (Slug.base name Slug.maxSuffix) j) = true
  free : rows.slugExists (Slug.candidate (Slug.base name Slug.maxSuffix) k) = false

theorem exec_search_found (hsettled : s.IsSettled) (hhealthy : s.IsHealthy) {name : String} {k : Nat}
    (h : IsFirstFree s.store name k) : (Slug.search probe name Slug.maxSuffix).exec s =
      (.ok (.found (Slug.candidate (Slug.base name Slug.maxSuffix) k)), s) := by
  let answer : List String → String → Option Bool := fun _ slug => some (s.store.slugExists slug)
  have htaken : ∀ j < k, Slug.verdict answer (Slug.base name (1000 : Nat)) j = some true :=
    fun j hj => congrArg some (h.taken j hj)
  have hfree : Slug.verdict answer (Slug.base name (1000 : Nat)) k = some false := congrArg some h.free
  have hsearch := Slug.search_stops h.bound htaken (by rw [hfree]; nofun)
  rw [hfree] at hsearch
  rw [Slug.search, Slug.exec_searchFrom (exec_probe hsettled hhealthy) _ _ _ []]
  exact congrArg (fun run => (Except.ok (Prod.fst run), s)) hsearch

theorem exec_search_exhausted (hsettled : s.IsSettled) (hhealthy : s.IsHealthy) {name : String}
    (h : ∀ k ≤ 1000, s.store.slugExists (Slug.candidate (Slug.base name Slug.maxSuffix) k) = true) :
    (Slug.search probe name Slug.maxSuffix).exec s = (.ok .exhausted, s) := by
  let answer : List String → String → Option Bool := fun _ slug => some (s.store.slugExists slug)
  have htaken : ∀ k ≤ 1000, Slug.verdict answer (Slug.base name (1000 : Nat)) k = some true :=
    fun k hk => congrArg some (h k hk)
  have hsearch := Slug.search_exhausted htaken
  rw [Slug.search, Slug.exec_searchFrom (exec_probe hsettled hhealthy) _ _ _ []]
  exact congrArg (fun run => (Except.ok (Prod.fst run), s)) hsearch

/-! ## Rows -/

structure HasFreshIds (s : Service) : Prop where
  workspace : ∀ w ∈ s.store.workspaces, w.id ≠ .counted (s.ids + 1)
  members : ∀ m ∈ s.store.memberships, m.workspaceId ≠ .counted (s.ids + 1)
  role : ∀ r ∈ s.store.roles, r.id ≠ .counted (s.ids + 2)
  membership : ∀ m ∈ s.store.memberships, m.id ≠ .counted (s.ids + 3)

def nextResponse (s : Service) (slug : String) (r : Request) : Response :=
  responseOf s.now r.actingUser (.counted (s.ids + 1)) (.counted (s.ids + 2)) (.counted (s.ids + 3)) slug r

def nextStore (s : Service) (slug : String) (r : Request) : Store :=
  let response := nextResponse s slug r
  s.store.withWorkspace response.workspace response.role response.membership

theorem addTenancy?_next (hfresh : HasFreshIds s) {slug : String} (hslug : s.store.slugExists slug = false)
    (howner : s.store.hasUser r.actingUser = true) : s.store.addTenancy? s.references
      (nextResponse s slug r).workspace (nextResponse s slug r).role (nextResponse s slug r).membership =
        some (nextStore s slug r) := by
  refine Store.addTenancy?_linked howner (fun v hv => ⟨hfresh.workspace v hv, ?_⟩) hfresh.role
    (fun n hn => ⟨hfresh.membership n hn, hfresh.members n hn⟩) rfl rfl rfl rfl rfl
  rw [Store.slugExists, List.any_eq_false] at hslug
  have hother : v.slug ≠ slug := by simpa using hslug v hv
  exact hother

def staged (s : Service) (drawn : Nat) (rows : Store) : Service :=
  { s with ids := s.ids + drawn, transaction := ⟨rows, false⟩ }

theorem exec_firstId (hsettled : s.IsSettled) :
    drawId.exec s = (.ok (.counted (s.ids + 1)), staged s 1 s.store) := by
  rw [exec_drawId, staged, ← hsettled]

theorem exec_write (hsettled : s.IsSettled) (hhealthy : s.IsHealthy) (hfresh : HasFreshIds s) {slug : String}
    (hslug : s.store.slugExists slug = false) (howner : s.store.hasUser r.actingUser = true)
    (hstorable : isStorable r = true) : (write r.actingUser slug r).exec s =
      (.ok (some (nextResponse s slug r)),
        { staged s 3 (nextStore s slug r) with store := nextStore s slug r }) := by
  have hworks : ∀ call drawn rows, call.isCached = false → (staged s drawn rows).fault? call = none :=
    fun call _ _ hcall => hhealthy call hcall
  obtain ⟨s₁, h₁, s₂, h₂, h₃⟩ := Store.addTenancy?_eq_some_iff.mp (addTenancy?_next hfresh hslug howner)
  have hworkspace : (Directory.createWorkspace (nextResponse s slug r).workspace (isStorable r)).exec
      (staged s 1 s.store) = (.ok (), staged s 1 s₁) := by
    rw [Directory.createWorkspace, exec_guarded, hworks _ _ _ rfl, hstorable]
    exact Directory.exec_insertion rfl h₁
  have hrole : (Directory.createRole (nextResponse s slug r).role).exec (staged s 2 s₁) =
      (.ok (), staged s 2 s₂) := by
    rw [Directory.createRole, exec_guarded, hworks _ _ _ rfl]
    exact Directory.exec_insertion rfl h₂
  have hmembership : (Directory.createMembership (nextResponse s slug r).membership).exec (staged s 3 s₂) =
      (.ok true, staged s 3 (nextStore s slug r)) :=
    Directory.exec_createMembership rfl (hworks _ _ _ rfl) h₃
  have hcommit := Directory.exec_commit (s := staged s 3 (nextStore s slug r)) rfl (hworks _ _ _ rfl)
  -- the rows go in one by one, each after the identifier that it needs
  rw [write, exec_bind_ok exec_get, exec_bind_ok (exec_firstId hsettled)]
  refine (exec_bind_ok hworkspace _).trans ?_
  refine (exec_bind_ok (exec_drawId _) _).trans ?_
  refine (exec_bind_ok hrole _).trans ?_
  refine (exec_bind_ok (exec_drawId _) _).trans ?_
  refine (exec_bind_ok hmembership _).trans ?_
  exact exec_bind_ok hcommit _

/-! ## Whole runs -/

theorem exec_run_unauthorized (hsettled : s.IsSettled) (notify : Bool) {refusal : Refusal}
    (h : (authorize r.actingUser).exec s = (.ok (.error refusal), s)) :
    (run r notify).exec s = (.ok (.error refusal), s) := by
  have hprovision : (provision r).exec s = (.ok (.error refusal), s) := by
    rw [provision, exec_bind_ok h]
    rfl
  rw [exec_run_refused notify hprovision, hsettled.rolledBack]

section
variable (hsettled : s.IsSettled) (hhealthy : s.IsHealthy) {owner : User}
  (howner : MayProvision s r.actingUser owner)
include hsettled hhealthy howner

theorem exec_run_exhausted (notify : Bool)
    (h : ∀ k ≤ 1000, s.store.slugExists (Slug.candidate (Slug.base r.name Slug.maxSuffix) k) = true) :
    (run r notify).exec s = (.ok (.error .workspaceSlugGenerationFailed),
      { s with
        logs := s.logs ++ [⟨.error, "Slug generation failed for workspace " ++ Quoted.quoted r.name⟩] }) := by
  have hauth := exec_authorize hsettled (hhealthy .userById rfl) howner
  have hsearch := exec_search_exhausted hsettled hhealthy h
  have hprovision : (provision r).exec s = (.ok (.error .workspaceSlugGenerationFailed),
      { s with
        logs := s.logs ++ [⟨.error, "Slug generation failed for workspace " ++ Quoted.quoted r.name⟩] }) := by
    rw [provision, exec_bind_ok hauth]
    exact exec_bind_ok hsearch _
  rw [exec_run_refused notify hprovision, rolledBack, ← hsettled]

def provisioned (s : Service) (slug : String) (r : Request) (notify : Bool) : Service :=
  { staged s 3 (nextStore s slug r) with
    store := nextStore s slug r
    events := s.events ++ sent notify (nextResponse s slug r) }

theorem exec_run_provisioned (notify : Bool) (hfresh : HasFreshIds s) (hstorable : isStorable r = true) {k : Nat}
    (hfree : IsFirstFree s.store r.name k) :
    let slug := Slug.candidate (Slug.base r.name Slug.maxSuffix) k
    (run r notify).exec s = (.ok (.ok (nextResponse s slug r)), provisioned s slug r notify) := by
  intro slug
  have hauth := exec_authorize hsettled (hhealthy .userById rfl) howner
  have hsearch := exec_search_found hsettled hhealthy hfree
  have hwrite := exec_write hsettled hhealthy hfresh hfree.free howner.hasUser hstorable
  have hattempt : (attempt (write owner.id slug r)).exec s = (.ok (.ok (some (nextResponse s slug r))),
      { staged s 3 (nextStore s slug r) with store := nextStore s slug r }) := by
    rw [exec_attempt, howner.id, hwrite]
  have hprovision : (provision r).exec s = (.ok (.ok (nextResponse s slug r)),
      { staged s 3 (nextStore s slug r) with store := nextStore s slug r }) := by
    rw [provision, exec_bind_ok hauth]
    refine (exec_bind_ok hsearch _).trans ?_
    exact exec_bind_ok hattempt _
  have htransaction : (inTransaction (provision r)).exec s = (.ok (.ok (nextResponse s slug r)),
      { staged s 3 (nextStore s slug r) with store := nextStore s slug r }) := by
    rw [exec_inTransaction, hprovision]
    rfl
  rw [run, exec_bind_ok htransaction]
  cases notify with
  | true => rfl
  | false =>
    simp only [provisioned, sent, Bool.false_eq_true, if_false, List.append_nil]
    rfl

/-- A description that no column holds fails the insertion, and then the report of that. -/
theorem exec_run_unstorable (notify : Bool) (hstorable : isStorable r = false) {k : Nat}
    (hfree : IsFirstFree s.store r.name k) :
    (run r notify).exec s = (.error .staleTransaction, { s with ids := s.ids + 1 }) := by
  have hauth := exec_authorize hsettled (hhealthy .userById rfl) howner
  have hsearch := exec_search_found hsettled hhealthy hfree
  have hworks : (staged s 1 s.store).fault? .createWorkspace = none := hhealthy .createWorkspace rfl
  have hinsert : ∀ w, (Directory.createWorkspace w (isStorable r)).exec (staged s 1 s.store) =
      (.error .violation, { staged s 1 s.store with transaction := ⟨s.store, true⟩ }) := by
    intro w
    rw [Directory.createWorkspace, exec_guarded, hworks, hstorable]
    rfl
  have hwrite : ∀ slug, (write owner.id slug r).exec s =
      (.error .violation, { staged s 1 s.store with transaction := ⟨s.store, true⟩ }) := by
    intro slug
    rw [write, exec_bind_ok exec_get, exec_bind_ok (exec_firstId hsettled)]
    exact exec_bind_error (hinsert _) _
  have hprovision := exec_provision_failed hauth hsearch (hwrite _)
  rw [exec_giveUp_failed rfl] at hprovision
  rw [exec_run_error notify hprovision]
  show (_, staged s 1 s.store) = _
  rw [staged, ← hsettled]

end

/-! ## What a provision creates -/

/-- One workspace, its role and the membership of its owner are there and nothing else is different, and
the answer and the event name these rows. -/
structure Creates (s t : Service) (r : Request) (slug : String) (notify : Bool) (answer : Response)
    (w : Workspace) (role : Role) (m : Membership) : Prop where
  store : t.store = { s.store with
    workspaces := s.store.workspaces ++ [w]
    roles := s.store.roles ++ [role]
    memberships := s.store.memberships ++ [m] }
  cache : t.cache = s.cache
  name : w.name = r.name
  slug : w.slug = slug
  owner : w.ownerId = r.actingUser
  status : w.status = .active
  created : w.createdAt = some (Stamp.ofInstant s.now).naive
  place : role.workspaceId = w.id
  permissions : ∀ now, ∃ set, PermissionSet.read now role.permissions = .ok set ∧ set.permissions = ["all"]
  member : m.userId = r.actingUser ∧ m.workspaceId = w.id ∧ m.roleId = role.id
  active : m.status = .active
  joined : m.joinedAt = w.createdAt
  answerWorkspace : answer.toJson.field? "id" = some (.text w.id.text) ∧
    answer.toJson.field? "name" = some (.text w.name) ∧ answer.toJson.field? "slug" = some (.text w.slug)
  answerRole : (answer.toJson.field? "admin_role").bind (·.field? "id") = some (.text role.id.text)
  answerMembership : answer.toJson.field? "membership_id" = some (.text m.id.text)
  events : t.events = s.events ++ if notify then
    [⟨"workspace.created", .object [("workspaceId", .text w.id.text), ("name", .text w.name),
      ("slug", .text w.slug), ("createdBy", .text w.ownerId.text)]⟩] else []

theorem permissions_newRole (created : Instant) (id workspace : Uuid) (now : Instant) :
    ∃ set, PermissionSet.read now (newRole created id workspace).permissions = .ok set ∧
      set.permissions = ["all"] :=
  ⟨_, PermissionSet.read_dump now (Stamp.isValid_ofInstant created) Stamp.isWhole_zero, rfl⟩

theorem creates_provisioned (s : Service) (slug : String) (r : Request) (notify : Bool) :
    Creates s (provisioned s slug r notify) r slug notify (nextResponse s slug r)
      (Store.storedWorkspace (nextResponse s slug r).workspace) (Store.storedRole (nextResponse s slug r).role)
      (Store.storedMembership (nextResponse s slug r).membership) where
  store := rfl
  cache := rfl
  name := rfl
  slug := rfl
  owner := rfl
  status := rfl
  created := rfl
  place := rfl
  permissions := permissions_newRole s.now (.counted (s.ids + 2)) (.counted (s.ids + 1))
  member := ⟨rfl, rfl, rfl⟩
  active := rfl
  joined := rfl
  answerWorkspace := ⟨rfl, rfl, rfl⟩
  answerRole := rfl
  answerMembership := rfl
  events := rfl

theorem exhausted_or_firstFree (rows : Store) (name : String) :
    (∀ k ≤ 1000, rows.slugExists (Slug.candidate (Slug.base name Slug.maxSuffix) k) = true) ∨
      ∃ k, IsFirstFree rows name k := by
  rcases Slug.first_or_all (fun _ slug => some (rows.slugExists slug)) (Slug.base name Slug.maxSuffix) 1000
    with ⟨k, hk, htaken, hstop⟩ | hall
  · have hfree : rows.slugExists (Slug.candidate (Slug.base name Slug.maxSuffix) k) ≠ true :=
      fun h => hstop (congrArg some h)
    exact .inr ⟨k, hk, fun j hj => Option.some.inj (htaken j hj), by simpa using hfree⟩
  · exact .inl fun k hk => Option.some.inj (hall k hk)

/-- **What a provision does.** -/
theorem run_creates (hsettled : s.IsSettled) (hhealthy : s.IsHealthy) (r : Request) (notify : Bool) :
    let slug := Slug.candidate (Slug.base r.name Slug.maxSuffix)
    let ends := (run r notify).exec s
    ((∀ u ∈ s.store.users, u.id = r.actingUser → u.status = .deleted) →
      ends = (.ok (.error .userNotFound), s)) ∧
    ∀ owner, s.store.userById? r.actingUser = some owner →
      (owner.status ≠ .active → ends = (.ok (.error .userInactive), s)) ∧
      (owner.status = .active → owner.globalRole ≠ .superAdmin →
        ends = (.ok (.error .workspaceCreateForbidden), s)) ∧
      (owner.status = .active → owner.globalRole = .superAdmin →
        ((∀ k ≤ 1000, s.store.slugExists (slug k) = true) →
          ends = (.ok (.error .workspaceSlugGenerationFailed),
            { s with logs := s.logs ++
              [⟨.error, "Slug generation failed for workspace " ++ Quoted.quoted r.name⟩] })) ∧
        ((∀ k ≤ 1000, s.store.slugExists (slug k) = true) ∨ ∃ k, IsFirstFree s.store r.name k) ∧
        ∀ k, IsFirstFree s.store r.name k →
          (isStorable r = true → HasFreshIds s → ∃ response t w role m,
            ends = (.ok (.ok response), t) ∧ Creates s t r (slug k) notify response w role m) ∧
          (isStorable r = false → ∃ outcome t, ends = (outcome, t) ∧ t.store = s.store ∧
            t.cache = s.cache ∧ t.events = s.events)) := by
  intro slug ends
  have hlook := Directory.exec_userById hsettled (hhealthy .userById rfl) r.actingUser
  refine ⟨fun hgone => ?_, fun owner hfound => ⟨fun hinactive => ?_, fun hactive hcommon => ?_,
    fun hactive hadmin => ⟨fun htaken => ?_, exhausted_or_firstFree s.store r.name, fun k hfree =>
      ⟨fun hstorable hfresh => ?_, fun hunstorable => ?_⟩⟩⟩⟩
  · have hnone : s.store.userById? r.actingUser = none := by
      rw [Store.userById?, List.find?_eq_none]
      intro u hu
      by_cases hid : u.id = r.actingUser
      · simp [Store.isDeleted, hgone u hu hid]
      · simp [hid]
    exact exec_run_unknown hsettled hnone (hhealthy .userById rfl) r.name r.description notify
  · refine exec_run_unauthorized hsettled notify ?_
    rw [authorize, exec_bind_ok hlook, hfound]
    simp [hinactive]
  · refine exec_run_unauthorized hsettled notify ?_
    rw [authorize, exec_bind_ok hlook, hfound]
    simp [hactive, hcommon]
  · exact exec_run_exhausted hsettled hhealthy ⟨hfound, hactive, hadmin⟩ notify htaken
  · exact ⟨_, _, _, _, _, exec_run_provisioned hsettled hhealthy ⟨hfound, hactive, hadmin⟩ notify hfresh hstorable
      hfree, creates_provisioned s (slug k) r notify⟩
  · exact ⟨_, _, exec_run_unstorable hsettled hhealthy ⟨hfound, hactive, hadmin⟩ notify hunstorable hfree, rfl,
      rfl, rfl⟩

/-! ## The founder again -/

/-- The store in which the plain slug is taken, with two identifiers drawn and nothing that breaks. -/
def crowded : Service :=
  { Service.start 0 with ids := 2, store := taken, transaction := ⟨taken, false⟩ }

theorem firstFree_crowded : IsFirstFree crowded.store request.name 1 := by
  refine ⟨by decide, fun j hj => ?_, by decide +kernel⟩
  have hfirst : j = 0 := by omega
  subst hfirst
  decide +kernel

theorem hasFreshIds_crowded : HasFreshIds crowded := by
  constructor <;> decide

theorem run_creates_second :
    crowded.IsSettled ∧ crowded.IsHealthy ∧ ∃ response t w role m,
      (run request true).exec crowded = (.ok (.ok response), t) ∧
        Creates crowded t request "acme-1" true response w role m := by
  have hsettled : crowded.IsSettled := rfl
  have hhealthy : crowded.IsHealthy := fun _ _ => rfl
  have hslug : Slug.candidate (Slug.base "Acme" Slug.maxSuffix) 1 = "acme-1" := by decide +kernel
  have h := ((((run_creates hsettled hhealthy request true).2 founder rfl).2.2 rfl rfl).2.2 1
    firstFree_crowded).1 rfl hasFreshIds_crowded
  have hname : request.name = "Acme" := rfl
  rw [hname, hslug] at h
  exact ⟨hsettled, hhealthy, h⟩

def tornRequest : Request := { request with description := some (.torn [0xDC00]) }

/-- There is no answer at all. -/
theorem torn_description_creates_nothing :
    crowded.IsSettled ∧ crowded.IsHealthy ∧ MayProvision crowded tornRequest.actingUser founder ∧
      IsFirstFree crowded.store tornRequest.name 1 ∧ HasFreshIds crowded ∧
      (run tornRequest true).exec crowded = (.error .staleTransaction, { crowded with ids := 3 }) := by
  have hsettled : crowded.IsSettled := rfl
  have hhealthy : crowded.IsHealthy := fun _ _ => rfl
  have howner : MayProvision crowded tornRequest.actingUser founder := ⟨rfl, rfl, rfl⟩
  have hunstorable : isStorable tornRequest = false := rfl
  refine ⟨hsettled, hhealthy, howner, firstFree_crowded, hasFreshIds_crowded, ?_⟩
  exact exec_run_unstorable hsettled hhealthy howner true hunstorable firstFree_crowded

end Provision

end Gatehouse
