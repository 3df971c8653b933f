import Gatehouse.Proofs.Directory.Update
import Gatehouse.Proofs.Service.Step
import Mathlib.Data.List.Nodup

/-!
# Users who stay

As long as no removal of a user works, the user is found again after every history as the same caller:
with the same email, role and status. The clock does not go back meanwhile.
-/

namespace Gatehouse

open Service

/-! ## Callers in the tables -/

/-- The tables know the user of a caller just as the caller is. -/
def Store.Has (s : Store) (caller : Caller) : Prop := (s.userById? caller.id).map Caller.of = some caller

namespace Store

variable {s t : Store} {caller : Caller}

theorem has_iff : s.Has caller ↔ ∃ user, s.userById? caller.id = some user ∧ Caller.of user = caller :=
  Option.map_eq_some_iff

theorem has_of_mem (hids : (s.users.map (·.id)).Nodup) {user : User} (hmem : user ∈ s.users)
    (hlive : user.status ≠ .deleted) : s.Has (.of user) := by
  have hmeant : ((user.id == user.id) && !isDeleted user) = true := by simp [isDeleted, hlive]
  rw [has_iff]
  cases hfound : s.userById? (Caller.of user).id with
  | none =>
    rw [userById?, List.find?_eq_none] at hfound
    exact absurd hmeant (hfound user hmem)
  | some found =>
    have hid := List.find?_some hfound
    rw [Bool.and_eq_true, beq_iff_eq] at hid
    have hsame : found = user :=
      List.inj_on_of_nodup_map hids (List.mem_of_find?_eq_some hfound) hmem hid.1
    exact ⟨found, rfl, by rw [hsame]⟩

namespace Has

theorem of_users_eq (h : s.Has caller) (husers : t.users = s.users) : t.Has caller := by
  rw [Has, userById?, husers]
  exact h

theorem append (h : s.Has caller) {new : List User} (husers : t.users = s.users ++ new) : t.Has caller := by
  obtain ⟨user, hfound, hsame⟩ := has_iff.mp h
  rw [has_iff, userById?, husers, List.find?_append]
  rw [userById?] at hfound
  rw [hfound]
  exact ⟨user, rfl, hsame⟩

/-- A change of the users that leaves the status of this one alone. -/
theorem map (h : s.Has caller) {f : User → User} (hf : User.Keeps f)
    (hstatus : ∀ u, u.id = caller.id → (f u).status = u.status) (husers : t.users = s.users.map f) :
    t.Has caller := by
  have hmeant : (fun u => u.id == caller.id && !isDeleted u) ∘ f =
      fun u => u.id == caller.id && !isDeleted u := by
    funext u
    by_cases hid : u.id = caller.id
    · simp [hf.id, isDeleted, hstatus u hid]
    · have hother : (u.id == caller.id) = false := beq_eq_false_iff_ne.mpr hid
      simp [hf.id, hother]
  obtain ⟨user, hfound, hsame⟩ := has_iff.mp h
  have hid := List.find?_some hfound
  rw [Bool.and_eq_true, beq_iff_eq] at hid
  rw [userById?] at hfound
  rw [has_iff, userById?, husers, List.find?_map, hmeant, hfound]
  refine ⟨f user, rfl, ?_⟩
  rw [← hsame, Caller.of, hf.id, hf.email, hf.role, hstatus user hid.1]
  rfl

end Has

end Store

/-! ## One step -/

theorem Removal.Marked.userById? {s : Service} {user : Uuid} {rows : Store} (h : Marked s user () rows) :
    rows.userById? user = none := by
  have hkeeps := User.keeps_removed s.now user
  rw [Store.userById?, List.find?_eq_none, h.2, Store.users_softDelete]
  intro u hu
  obtain ⟨v, -, rfl⟩ := List.mem_map.mp hu
  by_cases hid : v.id = user
  · subst hid
    simp [Store.isDeleted, User.status_removed]
  · simp [hkeeps.id, hid]

theorem Operation.Writes.has {s : Service} {op : Operation} {rows : Store} {caller : Caller}
    (hw : op.Writes s rows) (h : s.store.Has caller) (hspared : op ≠ .remove caller.id) :
    rows.Has caller := by
  cases op with
  | signUp r notify =>
    obtain ⟨_, -, account, ⟨plain, -, -, hrows⟩, -⟩ := hw
    have husers : rows.users = s.store.users ++ [Store.storedUser account.1] := by
      rw [Store.addAccount?_eq_some hrows]
      rfl
    exact h.append husers
  | logIn settings r notify =>
    rcases hw with rfl | ⟨user, rfl⟩
    · exact h
    · exact h.map (User.keeps_loggedIn s.now user) (fun u _ => User.status_loggedIn s.now user u) rfl
  | changePassword r =>
    obtain ⟨_, provider, plain, -, -, -, -, -, rfl⟩ := hw
    exact h.of_users_eq rfl
  | remove user =>
    have hother : user ≠ caller.id := fun heq => hspared (by rw [heq])
    rw [hw.2]
    refine h.map (User.keeps_removed s.now user) (fun u hid => ?_) rfl
    rw [User.removed_other s.now fun heq => hother (heq.symm.trans hid)]
  | provision r notify =>
    obtain ⟨_, _, _, _, _, _, -, -, -, hrows⟩ := hw
    rw [Store.addTenancy?_eq_some hrows]
    exact h.of_users_eq rfl
  | _ =>
    rw [show rows = s.store from hw]
    exact h

theorem Service.IsReady.has {s : Service} (hready : s.IsReady) {move : Move} {caller : Caller}
    (h : s.store.Has caller)
    (hspared : move = .perform (.remove caller.id) → (s.move move).store.userById? caller.id ≠ none) :
    (s.move move).store.Has caller := by
  cases move with
  | wait time => exact h
  | arm call fault => exact h
  | perform op =>
    rcases (op.run_steps hready).store with hsame | hw
    · rw [Service.move, hsame]
      exact h
    · refine hw.has h ?_
      rintro rfl
      exact hspared rfl (Removal.Marked.userById? hw)

theorem Service.IsReady.now_le {s : Service} (hready : s.IsReady) (move : Move) :
    s.now ≤ (s.move move).now := by
  cases move with
  | wait time => exact Int.le_add_of_nonneg_right (Int.natCast_nonneg time)
  | arm call fault => exact Int.le_refl _
  | perform op => exact Int.le_of_eq (op.run_steps hready).now.symm

/-! ## Histories -/

/-- Along the history no removal of the user works: right after each of them the user is still there. -/
def Spares (user : Uuid) (s : Service) : List Move → Prop
  | [] => True
  | move :: moves =>
    (move = .perform (.remove user) → (s.move move).store.userById? user ≠ none) ∧
      Spares user (s.move move) moves

theorem Service.IsReady.stays {caller : Caller} : ∀ {moves : List Move} {s : Service}, s.IsReady →
    (∀ move ∈ moves, move.IsHonest) → Spares caller.id s moves → s.store.Has caller →
      (s.after moves).IsReady ∧ (s.after moves).store.Has caller ∧ s.now ≤ (s.after moves).now := by
  intro moves
  induction moves with
  | nil => exact fun hready _ _ h => ⟨hready, h, Int.le_refl _⟩
  | cons move moves ih =>
    intro s hready hmoves hspares h
    have hmove : move.IsHonest := hmoves move List.mem_cons_self
    obtain ⟨hlast, hstays, hlater⟩ := ih (hready.move hmove)
      (fun m hm => hmoves m (List.mem_cons_of_mem _ hm)) hspares.2 (hready.has h hspares.1)
    rw [after_cons]
    exact ⟨hlast, hstays, Int.le_trans (hready.now_le move) hlater⟩

end Gatehouse
