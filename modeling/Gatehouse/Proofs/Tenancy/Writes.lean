import Gatehouse.Proofs.Service.Writes
import Gatehouse.Proofs.Tenancy.Failure

/-!
# What a provision writes

A provision leaves the rows of one workspace, its admin role and the membership of its owner, and one
event that names it, or it leaves nothing.
-/

namespace Gatehouse.Slug

open Run

def IsCandidate (name slug : String) : Prop :=
  ∃ i ≤ maxSuffix.toNat, slug = candidate (base name maxSuffix) i

theorem searchFrom_gives (taken : String → Run (Option Bool)) (base : String) :
    ∀ (left i : Nat) {s : Service}, Gives (searchFrom taken base left i) s fun r _ =>
      ∀ slug, r = .ok (.found slug) → ∃ j < i + left, slug = candidate base j
  | 0, _, _ => Gives.pure fun _ h => by cases h
  | left + 1, i, s => by
    refine Gives.bind (P := fun _ _ => True) trivial (fun found t _ => ?_) fun e t _ _ h => by cases h
    cases found with
    | none => exact Gives.pure fun _ h => by cases h
    | some isTaken =>
      cases isTaken with
      | true =>
        refine (searchFrom_gives taken base left (i + 1)).mono fun r _ h slug hr => ?_
        obtain ⟨j, hj, hslug⟩ := h slug hr
        exact ⟨j, by omega, hslug⟩
      | false =>
        refine Gives.pure fun slug h => ?_
        cases h
        exact ⟨i, by omega, rfl⟩

theorem search_gives (taken : String → Run (Option Bool)) (name : String) {s : Service} :
    Gives (search taken name maxSuffix) s fun r _ =>
      ∀ slug, r = .ok (.found slug) → IsCandidate name slug := by
  refine (searchFrom_gives taken _ _ 0).mono fun r _ h slug hr => ?_
  obtain ⟨j, hj, hslug⟩ := h slug hr
  exact ⟨j, by omega, hslug⟩

end Gatehouse.Slug

namespace Gatehouse.Provision

open Run Service

variable {s : Service}

/-! ## The rows of a provision -/

def responseOf (now : Instant) (owner id role membership : Uuid) (slug : String) (r : Request) :
    Response :=
  ⟨newWorkspace now id owner slug r, newRole now role id, newMembership now membership owner id role⟩

def Recorded (s : Service) (r : Request) (response : Response) (rows : Store) : Prop :=
  (∃ id role membership slug, response = responseOf s.now r.actingUser id role membership slug r) ∧
    rows = s.store.withWorkspace response.workspace response.role response.membership

def sent (notify : Bool) (response : Response) : List Event :=
  if notify then
    [⟨topic, .object [("workspaceId", .text response.workspace.id.text),
      ("name", .text response.workspace.name), ("slug", .text response.workspace.slug),
      ("createdBy", .text response.workspace.ownerId.text)]⟩]
  else []

/-- The rows for a super admin, under a slug from the name, which no constraint has forbidden. -/
def Founded (s : Service) (r : Request) (response : Response) (rows : Store) : Prop :=
  ∃ owner id role membership slug, MayProvision s r.actingUser owner ∧ Slug.IsCandidate r.name slug ∧
    response = responseOf s.now r.actingUser id role membership slug r ∧
    s.store.addTenancy? s.references response.workspace response.role response.membership = some rows

theorem Founded.recorded {r : Request} {response : Response} {rows : Store}
    (h : Founded s r response rows) : Recorded s r response rows := by
  obtain ⟨_, id, role, membership, slug, -, -, hresponse, hrows⟩ := h
  exact ⟨⟨id, role, membership, slug, hresponse⟩, Store.addTenancy?_eq_some hrows⟩

theorem write_lands (hs : s.IsHonest) (hsettled : s.IsSettled) {u : Service} (hu : Untouched s u)
    {r : Request} {owner : User} (howner : MayProvision s r.actingUser owner) {slug : String}
    (hslug : Slug.IsCandidate r.name slug) :
    Gives (write r.actingUser slug r) u (Lands s fun outcome rows =>
      ∃ response, outcome = some response ∧ Founded s r response rows) := by
  -- from `u` on, each state is compared with `s`, and each insertion with the state before it
  refine Gives.step exec_get ?_
  rw [hu.now]
  refine look_lands keeps_drawId hu fun id v hv => ?_
  refine (Directory.createWorkspace_gives (hv.honest hs) _ _).bind (fun _ w hw => ?_)
    fun e w hw => Lands.failed (Frame.trans hv.toUnseen hw.1) e
  have hsw : Unseen s w := Frame.trans hv.toUnseen hw.1
  refine Gives.bind (P := fun _ t => Untouched w t) (keeps_drawId w) (fun role x hx => ?_)
    fun e x hx => Lands.failed (Frame.trans hsw hx.toUnseen) e
  have hsx : Unseen s x := Frame.trans hsw hx.toUnseen
  refine (Directory.createRole_gives (hsx.honest hs) _).bind (fun _ y hy => ?_)
    fun e y hy => Lands.failed (Frame.trans hsx hy.1) e
  have hsy : Unseen s y := Frame.trans hsx hy.1
  refine Gives.bind (P := fun _ t => Untouched y t) (keeps_drawId y) (fun membership z hz => ?_)
    fun e z hz => Lands.failed (Frame.trans hsy hz.toUnseen) e
  have hsz : Unseen s z := Frame.trans hsy hz.toUnseen
  refine (Directory.createMembership_gives (hsz.honest hs) _).bind (fun isMember t ht => ?_)
    fun e t ht => Lands.failed (Frame.trans hsz ht.1) e
  -- the three insertions, each on the rows that the one before has staged
  obtain ⟨-, s₁, hworkspace, hw₁⟩ := hw.2 _ rfl
  obtain ⟨-, s₂, hrole, hy₂⟩ := hy.2 _ rfl
  obtain ⟨rfl, s₃, hmembership, ht₃⟩ := ht.2 _ rfl
  rw [hv.references, hv.transaction, hsettled] at hworkspace
  rw [hsx.references, hx.transaction, hw₁] at hrole
  rw [hsz.references, hz.transaction, hy₂] at hmembership
  have hfree : s.store.addWorkspace? s.references (newWorkspace s.now id r.actingUser slug r) = some s₁ := by
    split at hworkspace
    · exact hworkspace
    · cases hworkspace
  have hfounded : Founded s r (responseOf s.now r.actingUser id role membership slug r)
      t.transaction.rows := by
    refine ⟨owner, id, role, membership, slug, howner, hslug, rfl, ?_⟩
    rw [ht₃]
    exact Store.addTenancy?_eq_some_iff.mpr ⟨s₁, hfree, s₂, hrole, hmembership⟩
  exact commit_lands hs (Frame.trans hsz ht.1) ⟨_, rfl, hfounded⟩

/-! ## The transaction -/

theorem authorize_gives (hsettled : s.IsSettled) (user : Uuid) : Gives (authorize user) s fun r t =>
    Looked s t ∧ ∀ owner, r = .ok (.ok owner) → MayProvision s user owner := by
  refine (Directory.userById_gives user).bind (fun found t ht => ?_) fun e t ht => ?_
  case refine_2 => exact ⟨ht.1, fun _ h => by cases h⟩
  obtain ⟨ht, hfound⟩ := ht
  cases found with
  | none => exact Gives.pure ⟨ht, fun _ h => by cases h⟩
  | some owner =>
    simp only
    split
    · exact Gives.pure ⟨ht, fun _ h => by cases h⟩
    rename_i hactive
    split
    · exact Gives.pure ⟨ht, fun _ h => by cases h⟩
    rename_i hadmin
    refine Gives.pure ⟨ht, fun found hf => ?_⟩
    cases hf
    have hrow := (hfound owner rfl).1
    rw [hsettled] at hrow
    exact ⟨hrow, by simpa using hactive, by simpa using hadmin⟩

theorem giveUp_gives (owner : Uuid) (name : String) : Gives (giveUp owner name) s fun r t =>
    Unseen s t ∧ ∀ response, r ≠ .ok (.ok response) := by
  refine Gives.step exec_get ?_
  split
  · exact Gives.throw ⟨Frame.refl s, fun _ h => by cases h⟩
  · refine Gives.bind (P := fun _ t => Unseen s t) (keeps_log _ _ s).toUnseen (fun _ t ht => ?_)
      fun e t ht => ⟨ht, fun _ h => by cases h⟩
    refine Gives.bind (P := fun _ u => Unseen t u) (keeps_rollback t) (fun _ u hu => ?_)
      fun e u hu => ⟨Frame.trans ht hu, fun _ h => by cases h⟩
    exact Gives.pure ⟨Frame.trans ht hu, fun _ h => by cases h⟩

theorem provision_founds (hs : s.IsHonest) (hsettled : s.IsSettled) (r : Request) :
    Gives (provision r) s (Settles s (Founded s r)) := by
  refine (authorize_gives hsettled r.actingUser).bind (fun owner t ht => ?_)
    fun e t ht => Settles.failed ht.1.untouched.toUnseen e
  obtain ⟨ht, howner⟩ := ht
  cases owner with
  | error refusal => exact Gives.pure (Settles.refused ht.untouched.toUnseen refusal)
  | ok owner =>
    have howner := howner owner rfl
    have hid : owner.id = r.actingUser := by
      have h := List.find?_some howner.found
      simp only [Bool.and_eq_true, beq_iff_eq] at h
      exact h.1
    simp only
    rw [hid]
    refine (Gives.and (P := fun _ u => Looked t u) (keeps_search r.name t)
      (Slug.search_gives probe r.name)).bind (fun search u hu => ?_)
        fun e u hu => Settles.failed (Frame.trans ht hu.1).untouched.toUnseen e
    obtain ⟨hu, hslug⟩ := hu
    have hsu : Untouched s u := (Frame.trans ht hu).untouched
    split
    · rename_i slug
      refine Gives.attempt (write_lands hs hsettled hsu howner (hslug slug rfl)) fun outcome t ht => ?_
      cases outcome with
      | ok outcome =>
        obtain ⟨ho, response, rfl, hrows⟩ := ht
        exact Gives.pure ⟨ho, hrows⟩
      | error e =>
        refine (giveUp_gives r.actingUser r.name).mono fun answer u hu => ?_
        refine Settles.undone ht.1 (ht.2.imp_right fun ⟨hlate, _, response, _, hrows⟩ =>
          ⟨hlate, response, hrows⟩) hu.1 hu.2
    · refine look_settles (keeps_log _ _) hsu fun _ v hv => ?_
      exact Gives.pure (Settles.refused hv.toUnseen _)

theorem run_founds (hs : s.IsHonest) (hsettled : s.IsSettled) (r : Request) (notify : Bool) :
    Gives (run r notify) s (AllOrNothing s (Founded s r) (sent notify)) := by
  refine inTransaction_gives (provision_founds hs hsettled r) (fun response t ht hrows => ?_)
    (fun _ => rfl) fun response rows h => ⟨response, h⟩
  cases notify with
  | false => exact ⟨hrows, ht.events.trans (List.append_nil _).symm⟩
  | true =>
    refine ⟨hrows, ?_⟩
    show t.events ++ _ = s.events ++ _
    rw [ht.events]
    rfl

theorem run_gives (hs : s.IsHonest) (hsettled : s.IsSettled) (r : Request) (notify : Bool) :
    Gives (run r notify) s (AllOrNothing s (Recorded s r) (sent notify)) :=
  (run_founds hs hsettled r notify).mono fun _ _ => AllOrNothing.mono fun _ _ => Founded.recorded

end Gatehouse.Provision
