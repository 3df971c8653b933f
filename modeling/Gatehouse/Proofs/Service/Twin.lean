import Gatehouse.Proofs.Service.Frame

/-!
# One run from two states

Two states may differ in faults of calls that a run does not make, and in their rows as far as the run does
not look at the difference. The run then ends alike from both: with the same failure, or well on both sides.
-/

namespace Gatehouse

def Call.isCached : Call → Bool
  | .cacheSet | .cacheGet | .cacheDelete | .cacheScan | .cachePipeline | .cachePing | .cachePublish => true
  | _ => false

namespace Service

/-! ## Faults of some calls -/

theorem fault?_disarmed (s : Service) (call : Call) : (s.disarm call).fault? call = none := by
  rw [fault?, Option.map_eq_none_iff, List.find?_eq_none]
  intro f hf
  simpa using (List.mem_filter.mp hf).2

theorem fault?_disarm_other (s : Service) {call other : Call} (h : call ≠ other) :
    (s.disarm other).fault? call = s.fault? call := by
  have hboth : (fun f : Call × Fault => decide ((f.1 != other) = true ∧ (f.1 == call) = true)) =
      fun f => f.1 == call := by
    funext f
    by_cases hf : f.1 = call
    · simp [hf, h]
    · simp [hf]
  rw [fault?, disarm, List.find?_filter, hboth]
  rfl

def healed (free : Call → Bool) (s : Service) : Service :=
  { s with faults := s.faults.filter fun f => !free f.1 }

variable {free : Call → Bool} {s t u : Service}

theorem fault?_healed (s : Service) {call : Call} (h : free call = false) :
    (s.healed free).fault? call = s.fault? call := by
  have hboth : (fun f : Call × Fault => decide ((!free f.1) = true ∧ (f.1 == call) = true)) =
      fun f => f.1 == call := by
    funext f
    by_cases hf : f.1 = call
    · simp [hf, h]
    · simp [hf]
  rw [fault?, healed, List.find?_filter, hboth]
  rfl

theorem healed_arm {call : Call} (h : free call = true) (s : Service) (fault : Fault) :
    (s.arm call fault).healed free = s.healed free := by
  have hfaults : (s.faults.filter (·.1 != call) ++ [(call, fault)]).filter (fun f => !free f.1) =
      s.faults.filter fun f => !free f.1 := by
    have hlast : [(call, fault)].filter (fun f => !free f.1) = [] := by simp [h]
    rw [List.filter_append, List.filter_filter, hlast, List.append_nil]
    apply List.filter_congr
    intro f _
    by_cases hf : f.1 = call <;> simp [hf, h]
  rw [healed, arm, hfaults]
  rfl

theorem healed_unarmed (h : s.faults = []) : s.healed free = s := by
  rw [healed, h, List.filter_nil, ← h]

/-! ## States side by side -/

structure Beside (free : Call → Bool) (s t : Service) : Prop where
  now : t.now = s.now
  references : t.references = s.references
  ids : t.ids = s.ids
  hashes : t.hashes = s.hashes
  seals : t.seals = s.seals
  events : t.events = s.events
  fault : ∀ call, free call = false → t.fault? call = s.fault? call

theorem Beside.refl (s : Service) : Beside free s s := ⟨rfl, rfl, rfl, rfl, rfl, rfl, fun _ _ => rfl⟩

theorem Beside.symm (h : Beside free s t) : Beside free t s :=
  ⟨h.now.symm, h.references.symm, h.ids.symm, h.hashes.symm, h.seals.symm, h.events.symm,
    fun call hcall => (h.fault call hcall).symm⟩

theorem Beside.trans (h : Beside free s t) (k : Beside free t u) : Beside free s u :=
  ⟨k.now.trans h.now, k.references.trans h.references, k.ids.trans h.ids, k.hashes.trans h.hashes,
    k.seals.trans h.seals, k.events.trans h.events,
    fun call hcall => (k.fault call hcall).trans (h.fault call hcall)⟩

theorem beside_disarm (s : Service) {call : Call} (h : free call = true) : Beside free s (s.disarm call) := by
  refine ⟨rfl, rfl, rfl, rfl, rfl, rfl, fun other hother => fault?_disarm_other s ?_⟩
  rintro rfl
  rw [h] at hother
  cases hother

theorem Beside.disarm (h : Beside free s t) (call : Call) : Beside free (s.disarm call) (t.disarm call) := by
  refine ⟨h.now, h.references, h.ids, h.hashes, h.seals, h.events, fun other hother => ?_⟩
  by_cases hsame : other = call
  · rw [hsame, fault?_disarmed, fault?_disarmed]
  · rw [fault?_disarm_other t hsame, fault?_disarm_other s hsame, h.fault other hother]

abbrev Books := Store × Transaction

def books (s : Service) : Books := (s.store, s.transaction)

structure Alike (free : Call → Bool) (Q : Books → Books → Prop) (s t : Service) : Prop
    extends Beside free s t where
  books : Q s.books t.books

abbrev Twin (free : Call → Bool) : Service → Service → Prop := Alike free Eq

/-- The same change of the rows on both sides. -/
theorem Alike.rewritten {Q Q' : Books → Books → Prop} (h : Alike free Q s t) {b c : Books} (hbooks : Q' b c) :
    Alike free Q' { s with store := b.1, transaction := b.2 } { t with store := c.1, transaction := c.2 } :=
  ⟨⟨h.now, h.references, h.ids, h.hashes, h.seals, h.events, h.fault⟩, hbooks⟩

theorem Alike.store (h : Twin free s t) : t.store = s.store := (congrArg Prod.fst h.books).symm

theorem Alike.transaction (h : Twin free s t) : t.transaction = s.transaction := (congrArg Prod.snd h.books).symm

theorem Alike.rolledBack (h : Twin free s t) : Twin free s.rolledBack t.rolledBack :=
  h.rewritten (congrArg (fun b : Books => (b.1, Transaction.mk b.1 false)) h.books)

theorem twin_healed (s : Service) : Twin free s (s.healed free) :=
  ⟨⟨rfl, rfl, rfl, rfl, rfl, rfl, fun _ h => fault?_healed s h⟩, rfl⟩

end Service

namespace Run

open Service

variable {α β γ δ : Type} {R : Service → Service → Prop} {s t : Service}

/-! ## Runs side by side -/

/-- Both runs fail in the same way or end well with related values, and in related states. -/
inductive Paired (R : Service → Service → Prop) (V : α → β → Prop) (m : Run α) (n : Run β) (s t : Service) :
    Prop
  | ok {a : α} {b : β} {s' t' : Service} : m.exec s = (.ok a, s') → n.exec t = (.ok b, t') → V a b →
      R s' t' → Paired R V m n s t
  | error {e : Failure} {s' t' : Service} : m.exec s = (.error e, s') → n.exec t = (.error e, t') →
      R s' t' → Paired R V m n s t

def Matched (R : Service → Service → Prop) (V : α → β → Prop) (m : Run α) (n : Run β) : Prop :=
  ∀ s t, R s t → Paired R V m n s t

theorem Paired.mono {Q : Service → Service → Prop} {V : α → β → Prop} {m : Run α} {n : Run β}
    (h : Paired R V m n s t) (hq : ∀ {s' t'}, R s' t' → Q s' t') : Paired Q V m n s t := by
  cases h with
  | ok hm hn hv hr => exact .ok hm hn hv (hq hr)
  | error hm hn hr => exact .error hm hn (hq hr)

theorem Paired.bind {Q : Service → Service → Prop} {V : α → β → Prop} {W : γ → δ → Prop} {m : Run α}
    {n : Run β} {f : α → Run γ} {g : β → Run δ} (h : Paired R V m n s t)
    (hok : ∀ {a b s' t'}, m.exec s = (.ok a, s') → n.exec t = (.ok b, t') → V a b → R s' t' →
      Paired Q W (f a) (g b) s' t') (herror : ∀ {s' t'}, R s' t' → Q s' t') :
    Paired Q W (m >>= f) (n >>= g) s t := by
  cases h with
  | ok hm hn hv hr =>
    cases hok hm hn hv hr with
    | ok hf hg hw hq => exact .ok ((exec_bind_ok hm f).trans hf) ((exec_bind_ok hn g).trans hg) hw hq
    | error hf hg hq => exact .error ((exec_bind_ok hm f).trans hf) ((exec_bind_ok hn g).trans hg) hq
  | error hm hn hr => exact .error (exec_bind_error hm f) (exec_bind_error hn g) (herror hr)

theorem Paired.inTransaction {Q : Service → Service → Prop} {V : α → β → Prop} {m : Run α} {n : Run β}
    (h : Paired R V m n s t) (hends : ∀ {u v}, R u v → Q u.rolledBack v.rolledBack) :
    Paired Q V (inTransaction m) (inTransaction n) s t := by
  cases h with
  | ok hm hn hv hr =>
    have hs := exec_inTransaction (s := s) m
    have ht := exec_inTransaction (s := t) n
    rw [hm] at hs
    rw [hn] at ht
    exact .ok hs ht hv (hends hr)
  | error hm hn hr =>
    have hs := exec_inTransaction (s := s) m
    have ht := exec_inTransaction (s := t) n
    rw [hm] at hs
    rw [hn] at ht
    exact .error hs ht (hends hr)

section
variable {V : α → β → Prop} {W : γ → δ → Prop} {m : Run α} {n : Run β} {f : α → Run γ} {g : β → Run δ}

theorem Matched.bind (h : Matched R V m n) (k : ∀ a b, V a b → Matched R W (f a) (g b)) :
    Matched R W (m >>= f) (n >>= g) :=
  fun s t hr => (h s t hr).bind (fun _ _ hv hr' => k _ _ hv _ _ hr') fun hr' => hr'

theorem matched_pure {a : α} {b : β} (h : V a b) : Matched R V (pure a) (pure b) :=
  fun _ _ hr => .ok rfl rfl h hr

theorem matched_throw (e : Failure) : Matched R V (throw e) (throw e) :=
  fun _ _ hr => .error rfl rfl hr

theorem matched_modify {f g : Service → Service} (h : ∀ {s t}, R s t → R (f s) (g t)) :
    Matched R Eq (modify f) (modify g) :=
  fun _ _ hr => .ok rfl rfl rfl (h hr)

theorem matched_ofExcept {ε : Type} (f : ε → Failure) (x : Except ε α) :
    Matched R Eq (ofExcept f x) (ofExcept f x) := by
  cases x with
  | ok a => exact matched_pure rfl
  | error e => exact matched_throw _

/-- Checks that find the same misfits, or values with the same view. -/
theorem matched_ofChecked {view : α → γ} {view' : β → γ} {x : Shape.Checked α} {y : Shape.Checked β}
    (h : x.map view = y.map view') : Matched R (fun a b => view a = view' b) (ofChecked x) (ofChecked y) := by
  cases x with
  | ok a =>
    cases y with
    | ok b => exact matched_pure (Except.ok.inj h)
    | error e => cases h
  | error d =>
    cases y with
    | ok b => cases h
    | error e =>
      cases h
      exact matched_throw _

end

/-! ## Calls -/

section
variable {free : Call → Bool} {Q : Books → Books → Prop} {V : α → β → Prop}

theorem matched_takeFault {call : Call} (h : free call = false) :
    Matched (Alike free Q) Eq (takeFault call) (takeFault call) :=
  fun _ _ hr => .ok (exec_takeFault call) (exec_takeFault call) (hr.fault call h).symm ⟨hr.disarm call, hr.books⟩

theorem Matched.guarded {call : Call} (h : free call = false) {reading : Json → Run α}
    {reading' : Json → Run β} {work : Run α} {work' : Run β}
    (hreading : ∀ v, Matched (Alike free Q) V (reading v) (reading' v))
    (hwork : Matched (Alike free Q) V work work') :
    Matched (Alike free Q) V (guarded call reading work) (guarded call reading' work') := by
  apply (matched_takeFault h).bind
  rintro fault _ rfl
  cases fault with
  | none => exact hwork
  | some fault =>
    cases fault with
    | breaks how => exact matched_throw _
    | breaksAfter how => exact hwork.bind fun _ _ _ => matched_throw _
    | answers value => exact hreading value
    | hangs => exact hwork

theorem matched_rows {V : Store → Store → Prop}
    (h : ∀ {b c : Books}, Q b c → b.2.failed = c.2.failed ∧ V b.2.rows c.2.rows) :
    Matched (Alike free Q) V rows rows := by
  intro s t hr
  obtain ⟨hfailed, hrows⟩ := h hr.books
  have hsame : t.transaction.failed = s.transaction.failed := hfailed.symm
  have hs := exec_rows (s := s)
  have ht := exec_rows (s := t)
  rw [hsame] at ht
  by_cases hf : s.transaction.failed = true
  · rw [if_pos hf] at hs ht
    exact .error hs ht hr
  · rw [if_neg hf] at hs ht
    exact .ok hs ht hrows hr

theorem matched_log (level : Level) (message : String) :
    Matched (Alike free Q) Eq (log level message) (log level message) :=
  matched_modify fun hr =>
    ⟨⟨hr.now, hr.references, hr.ids, hr.hashes, hr.seals, hr.events, hr.fault⟩, hr.books⟩

theorem matched_drawHash : Matched (Alike free Q) Eq drawHash drawHash := by
  intro s t hr
  refine .ok rfl rfl (by rw [hr.hashes])
    ⟨⟨hr.now, hr.references, hr.ids, ?_, hr.seals, hr.events, hr.fault⟩, hr.books⟩
  show t.hashes + 1 = s.hashes + 1
  rw [hr.hashes]

theorem matched_drawSeal : Matched (Alike free Q) Eq drawSeal drawSeal := by
  intro s t hr
  refine .ok rfl rfl (by rw [hr.seals])
    ⟨⟨hr.now, hr.references, hr.ids, hr.hashes, ?_, hr.events, hr.fault⟩, hr.books⟩
  show t.seals + 1 = s.seals + 1
  rw [hr.seals]

/-- A look-up tells as much about both rows as it finds in them. -/
theorem matched_lookup {call : Call} (h : free call = false) {V : Option α → Option α → Prop}
    {look : Store → Option α} (hnone : V none none)
    (hrows : ∀ {b c : Books}, Q b c → b.2.failed = c.2.failed ∧ V (look b.2.rows) (look c.2.rows)) :
    Matched (Alike free Q) V (guarded call Directory.strayRow do return look (← rows))
      (guarded call Directory.strayRow do return look (← rows)) := by
  apply Matched.guarded h
  · intro v
    unfold Directory.strayRow
    split
    · exact matched_pure hnone
    · exact matched_throw _
  · exact (matched_rows hrows).bind fun _ _ hv => matched_pure hv

end

/-! ## Twins -/

/-- The run ends in the same way from twins, and leaves them twins. -/
def Steady (free : Call → Bool) (m : Run α) : Prop := Matched (Twin free) Eq m m

section
variable {free : Call → Bool}

theorem steady_pure (a : α) : Steady free (pure a) := matched_pure rfl

theorem Steady.bind {m : Run α} {f : α → Run β} (h : Steady free m) (k : ∀ a, Steady free (f a)) :
    Steady free (m >>= f) := by
  apply Matched.bind h
  rintro a _ rfl
  exact k a

theorem Steady.guarded {call : Call} (h : free call = false) {reading : Json → Run α} {work : Run α}
    (hreading : ∀ v, Steady free (reading v)) (hwork : Steady free work) :
    Steady free (guarded call reading work) :=
  Matched.guarded h hreading hwork

/-- What is read off the state is the same for twins. -/
theorem steady_get {f : Service → Run α} (hsame : ∀ {s t}, Twin free s t → f t = f s)
    (h : ∀ s, Steady free (f s)) : Steady free (get >>= f) := by
  intro s t hr
  have hs : (get >>= f).exec s = (f s).exec s := rfl
  have ht : (get >>= f).exec t = (f s).exec t := by
    rw [← hsame hr]
    rfl
  cases h s s t hr with
  | ok hf hg hv hr' => exact .ok (hs.trans hf) (ht.trans hg) hv hr'
  | error hf hg hr' => exact .error (hs.trans hf) (ht.trans hg) hr'

theorem steady_rows : Steady free rows := by
  apply matched_rows
  rintro b _ rfl
  exact ⟨rfl, rfl⟩

theorem steady_stage (before : Store) : Steady free (stage before) := by
  apply matched_modify
  intro s t hr
  exact hr.rewritten (congrArg (fun b : Books => (b.1, Transaction.mk before false)) hr.books)

theorem steady_commit (h : free .commit = false) : Steady free commit := by
  apply Steady.guarded h
  · intro _
    exact steady_pure ()
  · apply steady_rows.bind
    intro committed
    apply matched_modify
    intro s t hr
    exact hr.rewritten (congrArg (fun b : Books => (committed, b.2)) hr.books)

theorem steady_log (level : Level) (message : String) : Steady free (log level message) :=
  matched_log level message

theorem steady_ofChecked (x : Shape.Checked α) : Steady free (ofChecked x) := by
  have hsame : x.map id = x.map id := rfl
  exact matched_ofChecked hsame

theorem steady_ofExcept {ε : Type} (f : ε → Failure) (x : Except ε α) : Steady free (ofExcept f x) :=
  matched_ofExcept f x

theorem steady_drawId : Steady free drawId := by
  intro s t hr
  refine .ok rfl rfl (by rw [hr.ids])
    ⟨⟨hr.now, hr.references, ?_, hr.hashes, hr.seals, hr.events, hr.fault⟩, hr.books⟩
  show t.ids + 1 = s.ids + 1
  rw [hr.ids]

theorem steady_emit (topic : String) (payload : List (String × Json)) : Steady free (emit topic payload) := by
  apply matched_modify
  intro s t hr
  refine ⟨⟨hr.now, hr.references, hr.ids, hr.hashes, hr.seals, ?_, hr.fault⟩, hr.books⟩
  rw [hr.events]

theorem steady_rollback : Steady free rollback := by
  apply matched_modify
  intro s t hr
  exact hr.rolledBack

theorem steady_insert (write : Store.References → Store → Option Store) : Steady free (insert write) := by
  apply steady_rows.bind
  intro before
  refine steady_get (fun hr => ?_) fun s => ?_
  · simp only [hr.references]
  · cases write s.references before with
    | some after => exact steady_stage after
    | none =>
      refine Steady.bind (matched_modify ?_) fun _ => matched_throw _
      intro s t hr
      exact hr.rewritten (congrArg (fun b : Books => (b.1, Transaction.mk b.1 true)) hr.books)

theorem Steady.attempt {m : Run α} (h : Steady free m) : Steady free (attempt m) := by
  intro s t hr
  refine .ok (exec_attempt m) (exec_attempt m) ?_ ?_
  · cases h s t hr with
    | ok hm hn hv _ => rw [hm, hn, hv]
    | error hm hn _ => rw [hm, hn]
  · cases h s t hr with
    | ok hm hn _ hr' => rwa [hm, hn]
    | error hm hn hr' => rwa [hm, hn]

theorem Steady.tryCatch {m : Run α} {handle : Failure → Run α} (h : Steady free m)
    (k : ∀ e, Steady free (handle e)) : Steady free (tryCatch m handle) := by
  intro s t hr
  have hs := exec_tryCatch (s := s) m handle
  have ht := exec_tryCatch (s := t) m handle
  cases h s t hr with
  | ok hm hn hv hr' =>
    rw [hm] at hs
    rw [hn] at ht
    exact .ok hs ht hv hr'
  | @error e _ _ hm hn hr' =>
    rw [hm] at hs
    rw [hn] at ht
    cases k e _ _ hr' with
    | ok hf hg hv hq => exact .ok (hs.trans hf) (ht.trans hg) hv hq
    | error hf hg hq => exact .error (hs.trans hf) (ht.trans hg) hq

theorem Steady.inTransaction {m : Run α} (h : Steady free m) : Steady free (inTransaction m) :=
  fun s t hr => (h s t hr).inTransaction Alike.rolledBack

theorem steady_lookup {call : Call} (h : free call = false) (look : Store → Option α) :
    Steady free (guarded call Directory.strayRow do return look (← rows)) := by
  apply matched_lookup h rfl
  rintro b _ rfl
  exact ⟨rfl, rfl⟩

end

/-! ## Foregone conclusions -/

/-- The run ends well in every state, always with this value, and stays within a relation. -/
def Foregone (R : Service → Service → Prop) (m : Run α) (a : α) : Prop :=
  ∀ s, ∃ t, m.exec s = (.ok a, t) ∧ R s t

theorem foregone_pure [Frame R] (a : α) : Foregone R (pure a) a := fun s => ⟨s, rfl, Frame.refl s⟩

theorem Foregone.bind [Frame R] {m : Run α} {f : α → Run β} {a : α} {b : β} (h : Foregone R m a)
    (k : Foregone R (f a) b) : Foregone R (m >>= f) b := by
  intro s
  obtain ⟨t, hm, ht⟩ := h s
  obtain ⟨u, hf, hu⟩ := k t
  exact ⟨u, (exec_bind_ok hm f).trans hf, Frame.trans ht hu⟩

def Concurs (m : Run α) (s t : Service) : Prop :=
  (m.exec s).1 = (m.exec t).1 ∧ (m.exec s).2.store = (m.exec t).2.store

/-- An operation concurs if its transaction does and everything after that is foregone. -/
theorem concurs_of_transaction {free : Call → Bool} {body : Run α} {after : α → Run β}
    (hbody : Steady free body) (hafter : ∀ a, ∃ b, Foregone Stored (after a) b)
    (h : Twin free s t) : Concurs (inTransaction body >>= after) s t := by
  cases hbody.inTransaction s t h with
  | ok hm hn hv hr =>
    cases hv
    obtain ⟨b, hforegone⟩ := hafter _
    obtain ⟨u, hu, hsu⟩ := hforegone _
    obtain ⟨v, hw, htv⟩ := hforegone _
    rw [Concurs, exec_bind_ok hm, exec_bind_ok hn, hu, hw]
    exact ⟨rfl, hsu.store.trans ((congrArg Prod.fst hr.books).trans htv.store.symm)⟩
  | error hm hn hr =>
    rw [Concurs, exec_bind_error hm, exec_bind_error hn]
    exact ⟨rfl, congrArg Prod.fst hr.books⟩

end Run

end Gatehouse
