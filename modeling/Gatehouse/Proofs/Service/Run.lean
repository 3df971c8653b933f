import Gatehouse.Service.Transaction

/-!
# Runs step by step

The outcome of a run and the state it ends in, for every way runs are put together, and what it means
that a run ends well from a state.
-/

namespace Gatehouse

/-! ## Armed faults -/

namespace Service

variable {s : Service} {call : Call}

def fault? (s : Service) (call : Call) : Option Fault := (s.faults.find? (·.1 == call)).map (·.2)

def disarm (s : Service) (call : Call) : Service :=
  { s with faults := s.faults.filter (·.1 != call) }

theorem disarm_unarmed (h : s.fault? call = none) : s.disarm call = s := by
  have hf : s.faults.filter (·.1 != call) = s.faults := by
    rw [List.filter_eq_self]
    intro f hf
    rw [fault?, Option.map_eq_none_iff, List.find?_eq_none] at h
    simpa using h f hf
  rw [disarm, hf]

end Service

namespace Run

variable {α β : Type} {s : Service}

/-! ## Outcomes -/

def exec (m : Run α) (s : Service) : Except Failure α × Service := ExceptT.run m s

@[simp] theorem exec_pure (a : α) : (pure a : Run α).exec s = (.ok a, s) := rfl

@[simp] theorem exec_throw (e : Failure) : (throw e : Run α).exec s = (.error e, s) := rfl

@[simp] theorem exec_get : (get : Run Service).exec s = (.ok s, s) := rfl

theorem exec_bind (m : Run α) (f : α → Run β) :
    (m >>= f).exec s =
      match m.exec s with
      | (.ok a, t) => (f a).exec t
      | (.error e, t) => (.error e, t) := by
  show (match ExceptT.run m s with | (r, t) => ExceptT.bindCont f r t) = _
  unfold exec
  rcases ExceptT.run m s with ⟨_ | _, t⟩ <;> rfl

theorem exec_bind_ok {m : Run α} {a : α} {t : Service} (h : m.exec s = (.ok a, t)) (f : α → Run β) :
    (m >>= f).exec s = (f a).exec t := by
  rw [exec_bind, h]

theorem exec_bind_error {m : Run α} {e : Failure} {t : Service} (h : m.exec s = (.error e, t))
    (f : α → Run β) : (m >>= f).exec s = (.error e, t) := by
  rw [exec_bind, h]

/-- A run that ends well has done so in both of its halves. -/
theorem exec_bind_eq_ok {m : Run α} {f : α → Run β} {b : β} {t : Service} :
    (m >>= f).exec s = (.ok b, t) ↔ ∃ a u, m.exec s = (.ok a, u) ∧ (f a).exec u = (.ok b, t) := by
  rw [exec_bind]
  rcases hm : m.exec s with ⟨e | a, u⟩
  · simp
  · constructor
    · exact fun h => ⟨a, u, rfl, h⟩
    · rintro ⟨_, _, heq, h⟩
      cases heq
      exact h

@[simp] theorem exec_ofExcept_ok (f : β → Failure) (a : α) :
    (ofExcept f (.ok a)).exec s = (.ok a, s) := rfl

@[simp] theorem exec_ofExcept_error (f : β → Failure) (e : β) :
    (ofExcept f (.error e) : Run α).exec s = (.error (f e), s) := rfl

theorem exec_ofExcept_eq_ok {f : β → Failure} {x : Except β α} {a : α} {t : Service} :
    (ofExcept f x).exec s = (.ok a, t) ↔ x = .ok a ∧ s = t := by
  cases x with
  | ok b => simp
  | error e => simp

theorem exec_ofChecked_eq_ok {x : Shape.Checked α} {a : α} {t : Service} :
    (ofChecked x).exec s = (.ok a, t) ↔ x = .ok a ∧ s = t := by
  cases x with
  | ok b => simp [ofChecked]
  | error details => simp [ofChecked]

theorem exec_tryCatch (m : Run α) (handle : Failure → Run α) :
    (tryCatch m handle).exec s =
      match m.exec s with
      | (.ok a, t) => (.ok a, t)
      | (.error e, t) => (handle e).exec t := by
  unfold exec
  simp only [tryCatch, tryCatchThe, MonadExceptOf.tryCatch, ExceptT.tryCatch, ExceptT.run, ExceptT.mk,
    Bind.bind, StateT.bind]
  rcases m s with ⟨_ | _, t⟩ <;> rfl

theorem exec_attempt (m : Run α) : (attempt m).exec s = (.ok (m.exec s).1, (m.exec s).2) := rfl

theorem exec_drawId (s : Service) :
    drawId.exec s = (.ok (.counted (s.ids + 1)), { s with ids := s.ids + 1 }) := rfl

theorem exec_inTransaction (m : Run α) :
    (inTransaction m).exec s = ((m.exec s).1, (m.exec s).2.rolledBack) := rfl

theorem exec_takeFault (call : Call) :
    (takeFault call).exec s = (.ok (s.fault? call), s.disarm call) := by
  rw [takeFault, exec_bind_ok exec_get, Service.fault?]
  cases hf : s.faults.find? (·.1 == call) with
  | none => rw [Service.disarm_unarmed (by rw [Service.fault?, hf]; rfl)]; rfl
  | some f => rfl

theorem exec_guarded (call : Call) (reading : Json → Run α) (work : Run α) :
    (guarded call reading work).exec s =
      match s.fault? call with
      | none => work.exec s
      | some (.breaks how) => (.error (.broken how), s.disarm call)
      | some (.breaksAfter how) => (work >>= fun _ => throw (.broken how)).exec (s.disarm call)
      | some (.answers value) => (reading value).exec (s.disarm call)
      | some .hangs => work.exec (s.disarm call) := by
  rw [guarded, exec_bind_ok (exec_takeFault call)]
  cases hf : s.fault? call with
  | none => rw [Service.disarm_unarmed hf]
  | some f => cases f <;> rfl

theorem exec_rows : rows.exec s =
    if s.transaction.failed then (.error .staleTransaction, s) else (.ok s.transaction.rows, s) := by
  rw [rows, exec_bind_ok exec_get]
  cases hf : s.transaction.failed <;> simp [hf]

theorem exec_insert {write : Store.References → Store → Option Store} (h : s.transaction.failed = false) :
    (insert write).exec s =
      match write s.references s.transaction.rows with
      | some after => (.ok (), { s with transaction := ⟨after, false⟩ })
      | none => (.error .violation, { s with transaction := ⟨s.store, true⟩ }) := by
  have hrows : rows.exec s = (.ok s.transaction.rows, s) := by rw [exec_rows, h]; rfl
  rw [insert, exec_bind_ok hrows, exec_bind_ok exec_get]
  cases write s.references s.transaction.rows <;> rfl

/-! ## Ending well -/

def Gives (m : Run α) (s : Service) (Q : Except Failure α → Service → Prop) : Prop :=
  Q (m.exec s).1 (m.exec s).2

namespace Gives

variable {P Q : Except Failure α → Service → Prop}

theorem of_exec {m : Run α} (h : ∀ r t, m.exec s = (r, t) → Q r t) : Gives m s Q := h _ _ rfl

theorem ended {m : Run α} {r : Except Failure α} {t : Service} (h : Gives m s Q) (hexec : m.exec s = (r, t)) :
    Q r t := by
  rwa [Gives, hexec] at h

theorem pure {a : α} (h : Q (.ok a) s) : Gives (Pure.pure a) s Q := h

theorem throw {e : Failure} (h : Q (.error e) s) : Gives (MonadExcept.throw e) s Q := h

theorem mono {m : Run α} (h : Gives m s P) (hpq : ∀ r t, P r t → Q r t) : Gives m s Q := hpq _ _ h

theorem and {m : Run α} (h : Gives m s P) (k : Gives m s Q) :
    Gives m s fun r t => P r t ∧ Q r t := ⟨h, k⟩

theorem bind {m : Run α} {f : α → Run β} {R : Except Failure β → Service → Prop} (h : Gives m s P)
    (hok : ∀ a t, P (.ok a) t → Gives (f a) t R) (herror : ∀ e t, P (.error e) t → R (.error e) t) :
    Gives (m >>= f) s R := by
  unfold Gives at *
  rw [exec_bind]
  rcases hm : m.exec s with ⟨_ | a, t⟩
  · rw [hm] at h; exact herror _ t h
  · rw [hm] at h; exact hok a t h

theorem step {m : Run α} {a : α} {t : Service} {f : α → Run β} {R : Except Failure β → Service → Prop}
    (h : m.exec s = (.ok a, t)) (k : Gives (f a) t R) : Gives (m >>= f) s R := by
  unfold Gives
  rw [exec_bind_ok h]
  exact k

theorem tryCatch {m : Run α} {handle : Failure → Run α} (h : Gives m s P)
    (hok : ∀ a t, P (.ok a) t → Q (.ok a) t) (herror : ∀ e t, P (.error e) t → Gives (handle e) t Q) :
    Gives (MonadExcept.tryCatch m handle) s Q := by
  unfold Gives at *
  rw [exec_tryCatch]
  rcases hm : m.exec s with ⟨e | a, t⟩
  · rw [hm] at h; exact herror e t h
  · rw [hm] at h; exact hok a t h

theorem inTransaction {m : Run α} {P : Except Failure α → Prop} (h : Gives m s fun r _ => P r) :
    Gives (Run.inTransaction m) s fun r _ => P r := h

theorem attempt {m : Run α} {f : Except Failure α → Run β} {R : Except Failure β → Service → Prop}
    (h : Gives m s P) (k : ∀ r t, P r t → Gives (f r) t R) : Gives (Run.attempt m >>= f) s R :=
  step (exec_attempt m) (k _ _ h)

theorem guarded {call : Call} {reading : Json → Run α} {work : Run α}
    (hnone : s.fault? call = none → Gives work s Q)
    (hbreaks : ∀ how, s.fault? call = some (.breaks how) → Q (.error (.broken how)) (s.disarm call))
    (hlate : ∀ how, s.fault? call = some (.breaksAfter how) →
      Gives (work >>= fun _ => MonadExcept.throw (.broken how)) (s.disarm call) Q)
    (hanswers : ∀ value, s.fault? call = some (.answers value) →
      Gives (reading value) (s.disarm call) Q)
    (hhangs : s.fault? call = some .hangs → Gives work (s.disarm call) Q) :
    Gives (guarded call reading work) s Q := by
  unfold Gives
  rw [exec_guarded]
  cases hf : s.fault? call with
  | none => exact hnone hf
  | some fault =>
    cases fault with
    | breaks how => exact hbreaks how hf
    | breaksAfter how => exact hlate how hf
    | answers value => exact hanswers value hf
    | hangs => exact hhangs hf

end Gives

end Run

end Gatehouse
