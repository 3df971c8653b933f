import Gatehouse.Proofs.Service.Settled
import Gatehouse.Proofs.Service.Violation
import Gatehouse.Tenancy.Provision

/-!
# Provisions that fail

What a super admin is told when the three rows cannot be written. Every failure is reported as such,
except for a violated constraint: it leaves the transaction failed, and the report then fails too.
-/

namespace Gatehouse.Slug

open Run

theorem keeps_searchFrom {R : Service → Service → Prop} [Frame R] {taken : String → Run (Option Bool)}
    (h : ∀ slug, Keeps R (taken slug)) (base : String) :
    ∀ left i, Keeps R (searchFrom taken base left i)
  | 0, _ => keeps_pure _
  | left + 1, i => by
    refine (h (candidate base i)).bind fun found => ?_
    cases found with
    | none => exact keeps_pure _
    | some isTaken =>
      cases isTaken with
      | true => exact keeps_searchFrom h base left (i + 1)
      | false => exact keeps_pure _

end Gatehouse.Slug

namespace Gatehouse.Provision

open Run Service

/-! ## Before the rows -/

section
variable {R : Service → Service → Prop} [Frame R]

theorem keeps_probe (slug : String) : Keeps R (probe slug) :=
  (Directory.keeps_holds (R := R) (.slug slug)).attempt.bind fun _ => keeps_pure _

theorem keeps_search (name : String) : Keeps R (Slug.search probe name Slug.maxSuffix) :=
  Slug.keeps_searchFrom keeps_probe _ _ _

end

theorem exec_search_plain {s t : Service} {name : String}
    (h : (probe (Slug.base name Slug.maxSuffix)).exec s = (.ok (some false), t)) :
    (Slug.search probe name Slug.maxSuffix).exec s =
      (.ok (.found (Slug.base name Slug.maxSuffix)), t) := by
  rw [Slug.search, Slug.searchFrom, Slug.candidate, if_pos rfl, exec_bind_ok h, exec_pure]

structure MayProvision (s : Service) (user : Uuid) (owner : User) : Prop where
  found : s.store.userById? user = some owner
  active : owner.status = .active
  admin : owner.globalRole = .superAdmin

theorem MayProvision.id {s : Service} {user : Uuid} {owner : User} (h : MayProvision s user owner) :
    owner.id = user := by
  have hfound := List.find?_some h.found
  simp only [Bool.and_eq_true, beq_iff_eq] at hfound
  exact hfound.1

theorem MayProvision.hasUser {s : Service} {user : Uuid} {owner : User} (h : MayProvision s user owner) :
    s.store.hasUser user = true :=
  List.any_eq_true.mpr ⟨owner, List.mem_of_find?_eq_some h.found, beq_iff_eq.mpr h.id⟩

section
variable {s : Service} {r : Request} {owner : User}

theorem exec_authorize (hsettled : s.IsSettled) (hworks : s.fault? .userById = none)
    (howner : MayProvision s r.actingUser owner) :
    (authorize r.actingUser).exec s = (.ok (.ok owner), s) := by
  rw [authorize, exec_bind_ok (Directory.exec_userById hsettled hworks r.actingUser), howner.found]
  simp [howner.active, howner.admin]

/-! ## The rows -/

theorem tells_write (owner : Uuid) (slug : String) (r : Request) : Tells (write owner slug r) := by
  refine tells_get.bind fun s => tells_drawId.bind fun id => ?_
  refine (Directory.tells_createWorkspace _ _).bind fun _ => tells_drawId.bind fun _ => ?_
  refine (Directory.tells_createRole _).bind fun _ => tells_drawId.bind fun _ => ?_
  refine (Directory.tells_createMembership _).bind fun isMember => ?_
  refine tells_commit.bind fun _ => ?_
  exact tells_pure _

/-! ## Giving up -/

theorem exec_giveUp_failed (h : s.transaction.failed = true) (owner : Uuid) (name : String) :
    (giveUp owner name).exec s = (.error .staleTransaction, s) := by
  rw [giveUp, exec_bind_ok exec_get, if_pos h, exec_throw]

theorem exec_giveUp_open (h : s.transaction.failed = false) (owner : Uuid) (name : String) :
    ∃ t, (giveUp owner name).exec s = (.ok (.error .workspaceCreateFailed), t) := by
  rw [giveUp, exec_bind_ok exec_get, if_neg (by rw [h]; decide)]
  exact ⟨_, rfl⟩

theorem exec_provision_failed (hauth : (authorize r.actingUser).exec s = (.ok (.ok owner), s))
    {slug : String} {u t : Service}
    (hsearch : (Slug.search probe r.name Slug.maxSuffix).exec s = (.ok (.found slug), u)) {f : Failure}
    (hwrite : (write owner.id slug r).exec u = (.error f, t)) :
    (provision r).exec s = (giveUp owner.id r.name).exec t := by
  have hattempt : (attempt (write owner.id slug r)).exec u = (.ok (.error f), t) := by
    rw [exec_attempt, hwrite]
  rw [provision, exec_bind_ok hauth]
  simp only
  rw [exec_bind_ok hsearch]
  simp only
  rw [exec_bind_ok hattempt]

theorem exec_run_error (notify : Bool) {f : Failure} {t : Service}
    (h : (provision r).exec s = (.error f, t)) : (run r notify).exec s = (.error f, t.rolledBack) := by
  have htransaction : (inTransaction (provision r)).exec s = (.error f, t.rolledBack) := by
    rw [exec_inTransaction, h]
  rw [run, exec_bind_error htransaction]

theorem exec_run_refused (notify : Bool) {refusal : Refusal} {t : Service}
    (h : (provision r).exec s = (.ok (.error refusal), t)) :
    (run r notify).exec s = (.ok (.error refusal), t.rolledBack) := by
  have htransaction : (inTransaction (provision r)).exec s = (.ok (.error refusal), t.rolledBack) := by
    rw [exec_inTransaction, h]
  rw [run, exec_bind_ok htransaction]
  rfl

/-! ## Taken slugs -/

theorem addWorkspace?_taken {check : Store.References} {rows : Store} {w : Workspace}
    (h : rows.slugExists w.slug = true) : rows.addWorkspace? check w = none := by
  rw [Store.slugExists, List.any_eq_true] at h
  obtain ⟨v, hv, hs⟩ := h
  have htaken : (rows.workspaces.any fun v => v.id == w.id || v.slug == w.slug) = true :=
    List.any_eq_true.mpr ⟨v, hv, by rw [hs, Bool.or_true]⟩
  rw [Store.addWorkspace?, htaken]
  rfl

theorem exec_createWorkspace_taken (hopen : s.transaction.failed = false)
    (hworks : s.fault? .createWorkspace = none) {w : Workspace}
    (htaken : s.transaction.rows.slugExists w.slug = true) (isStorable : Bool) :
    (Directory.createWorkspace w isStorable).exec s =
      (.error .violation, { s with transaction := ⟨s.store, true⟩ }) := by
  rw [Directory.createWorkspace, exec_guarded, hworks]
  simp only
  rw [exec_insert hopen, addWorkspace?_taken htaken, ite_self]

/-- The row of a workspace with a taken slug violates the constraint on slugs. -/
theorem exec_write_taken (hopen : s.transaction.failed = false)
    (hworks : s.fault? .createWorkspace = none) {slug : String}
    (htaken : s.transaction.rows.slugExists slug = true) (owner : Uuid) :
    ∃ t, (write owner slug r).exec s = (.error .violation, t) := by
  have hdraw : drawId.exec s = (.ok (.counted (s.ids + 1)), { s with ids := s.ids + 1 }) := rfl
  have hcreate := exec_createWorkspace_taken (s := { s with ids := s.ids + 1 }) hopen hworks
    (w := newWorkspace s.now (.counted (s.ids + 1)) owner slug r) htaken (isStorable r)
  rw [write, exec_bind_ok exec_get, exec_bind_ok hdraw]
  exact ⟨_, exec_bind_error hcreate _⟩

/-! ## Reports of failures -/

/-- **What becomes of a failure.** A violated constraint ends the operation without an answer, and so
does a slug that was taken in spite of the check; any other failure is reported. -/
theorem run_reports_failure (hsettled : s.IsSettled) (hworks : s.fault? .userById = none)
    (howner : MayProvision s r.actingUser owner) {slug : String} {u : Service}
    (hsearch : (Slug.search probe r.name Slug.maxSuffix).exec s = (.ok (.found slug), u)) (notify : Bool) :
    (∀ f t, (write owner.id slug r).exec u = (.error f, t) →
        (f ≠ .violation → ((run r notify).exec s).1 = .ok (.error .workspaceCreateFailed)) ∧
        (f = .violation → ((run r notify).exec s).1 = .error .staleTransaction)) ∧
      (s.store.slugExists slug = true → s.fault? .createWorkspace = none →
        ((run r notify).exec s).1 = .error .staleTransaction) := by
  have hauth := exec_authorize hsettled hworks howner
  have hu : Untouched s u := by
    have h := keeps_search (R := Untouched) r.name s
    rwa [hsearch] at h
  have htransaction : u.transaction = ⟨s.store, false⟩ := hu.transaction.trans hsettled
  have hopen : u.transaction.failed = false := by rw [htransaction]
  -- after a violated constraint the log line before the rollback breaks
  have hstale : ∀ t, (write owner.id slug r).exec u = (.error .violation, t) →
      ((run r notify).exec s).1 = .error .staleTransaction := by
    intro t hwrite
    have htold := tells_write owner.id slug r u hopen
    rw [Gives, hwrite] at htold
    have hprovision := exec_provision_failed hauth hsearch hwrite
    rw [exec_giveUp_failed (htold.mpr rfl)] at hprovision
    rw [exec_run_error notify hprovision]
  refine ⟨fun f t hwrite => ⟨fun hf => ?_, ?_⟩, fun htaken hfree => ?_⟩
  · have htold := tells_write owner.id slug r u hopen
    rw [Gives, hwrite] at htold
    have hproper : t.transaction.failed = false := by
      rw [Bool.eq_false_iff]
      exact fun h => hf (htold.mp h)
    obtain ⟨v, hgive⟩ := exec_giveUp_open hproper owner.id r.name
    have hprovision := exec_provision_failed hauth hsearch hwrite
    rw [hgive] at hprovision
    rw [exec_run_refused notify hprovision]
  · rintro rfl
    exact hstale t hwrite
  · have hunarmed : u.fault? .createWorkspace = none := hu.unarmed hfree
    have hrows : u.transaction.rows.slugExists slug = true := by
      rw [htransaction]
      exact htaken
    obtain ⟨t, hwrite⟩ := exec_write_taken (r := r) hopen hunarmed hrows owner.id
    exact hstale t hwrite

end

/-! ## A founder and a taken slug -/

def founder : User :=
  ⟨.counted 1, "ann@example.com", none, none, none, .superAdmin, .active, none, none, none⟩

def request : Request := ⟨founder.id, "Acme", none⟩

def taken : Store :=
  { Store.empty with
    users := [founder]
    workspaces := [newWorkspace 0 (.counted 2) founder.id "acme" request] }

def faulty (call : Call) (fault : Fault) : Service :=
  { Service.start 0 with store := taken, transaction := ⟨taken, false⟩, faults := [(call, fault)] }

theorem run_reports_broken_insertion :
    ((run { request with name := "Apex" } true).exec (faulty .createWorkspace (.breaks .runtime))).1 =
      .ok (.error .workspaceCreateFailed) := by
  have hprobe : (probe (Slug.base "Apex" Slug.maxSuffix)).exec (faulty .createWorkspace (.breaks .runtime)) =
      (.ok (some false), faulty .createWorkspace (.breaks .runtime)) := by
    have hbase : Slug.base "Apex" Slug.maxSuffix = "apex" := by decide +kernel
    rw [hbase]
    rfl
  have hsearch := exec_search_plain hprobe
  have howner : MayProvision (faulty .createWorkspace (.breaks .runtime)) request.actingUser founder :=
    ⟨rfl, rfl, rfl⟩
  have hsettled : (faulty .createWorkspace (.breaks .runtime)).IsSettled := rfl
  have h := run_reports_failure (r := { request with name := "Apex" }) hsettled rfl howner hsearch true
  exact (h.1 (.broken .runtime) _ rfl).1 nofun

theorem eq_stale {α : Type} : ∀ {outcome : Except Failure α},
    (outcome matches .error .staleTransaction) = true → outcome = .error .staleTransaction
  | .error .staleTransaction, _ => rfl

/-- The check says that the slug is free although it is taken: there is no answer at all. -/
theorem run_fails_on_stale_check :
    (faulty .slugExists (.answers (.bool false))).IsSettled ∧
      MayProvision (faulty .slugExists (.answers (.bool false))) request.actingUser founder ∧
      ((run request true).exec (faulty .slugExists (.answers (.bool false)))).1 =
        .error .staleTransaction := by
  refine ⟨rfl, ⟨rfl, rfl, rfl⟩, ?_⟩
  exact eq_stale (by decide +kernel)

end Gatehouse.Provision
