import Gatehouse.Proofs.Service.Frame

/-!
# Failed transactions

A run that starts in a transaction in order leaves it failed exactly when it ends with a violated
constraint. So the kind of a failure tells whether a rollback has to come first.
-/

namespace Gatehouse.Run

variable {α β : Type}

def Told (r : Except Failure α) (t : Service) : Prop :=
  match r with
  | .ok _ => t.transaction.failed = false
  | .error e => t.transaction.failed = true ↔ e = .violation

/-- A run that tells whether the transaction has failed, if it had not before. -/
def Tells (m : Run α) : Prop := ∀ s, s.transaction.failed = false → Gives m s Told

/-! ## How runs are put together -/

theorem tells_pure (a : α) : Tells (pure a : Run α) := fun _ h => h

theorem tells_throw {e : Failure} (h : e ≠ .violation) : Tells (throw e : Run α) := by
  intro s hs
  show s.transaction.failed = true ↔ e = .violation
  rw [hs]
  exact ⟨nofun, fun he => absurd he h⟩

theorem tells_get : Tells (get : Run Service) := fun _ h => h

theorem Tells.bind {m : Run α} {f : α → Run β} (h : Tells m) (k : ∀ a, Tells (f a)) :
    Tells (m >>= f) :=
  fun s hs => (h s hs).bind (fun a t ht => k a t ht) fun _ _ ht => ht

theorem tells_drawId : Tells drawId := fun _ h => h

theorem tells_rows : Tells rows := by
  intro s hs
  unfold Gives
  rw [exec_rows, hs]
  exact hs

theorem tells_stage (rows : Store) : Tells (stage rows) := fun _ _ => rfl

theorem tells_insert (write : Store.References → Store → Option Store) : Tells (insert write) := by
  refine tells_rows.bind fun before => tells_get.bind fun s => ?_
  cases write s.references before with
  | some after => exact tells_stage after
  | none => exact fun _ _ => ⟨fun _ => rfl, fun _ => rfl⟩

theorem Tells.guarded {call : Call} {reading : Json → Run α} {work : Run α}
    (hreading : ∀ v, Tells (reading v)) (hwork : Tells work) : Tells (guarded call reading work) := by
  have htake : Tells (takeFault call) := by
    intro s hs
    unfold Gives
    rw [exec_takeFault]
    exact hs
  refine htake.bind fun fault => ?_
  cases fault with
  | none => exact hwork
  | some fault =>
    cases fault with
    | breaks how => exact tells_throw nofun
    | breaksAfter how => exact hwork.bind fun _ => tells_throw nofun
    | answers value => exact hreading value
    | hangs => exact hwork

theorem tells_commit : Tells commit := by
  refine Tells.guarded (fun _ => tells_pure ()) (tells_rows.bind fun committed => ?_)
  exact fun _ h => h

end Gatehouse.Run

namespace Gatehouse.Directory

open Run

/-! ## Insertions -/

theorem tells_createWorkspace (w : Workspace) (isStorable : Bool) :
    Tells (createWorkspace w isStorable) :=
  Tells.guarded (fun _ => tells_throw nofun) (tells_insert _)

theorem tells_createRole (r : Role) : Tells (createRole r) :=
  Tells.guarded (fun _ => tells_throw nofun) (tells_insert _)

theorem tells_createMembership (m : Membership) : Tells (createMembership m) :=
  Tells.guarded (fun _ => tells_pure false) ((tells_insert _).bind fun _ => tells_pure true)

end Gatehouse.Directory
