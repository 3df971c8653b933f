import Gatehouse.Proofs.Service.Run
import Gatehouse.Service.Directory
import Gatehouse.Session.Cache

/-!
# What runs leave alone

Relations between the state before a run and the state after it. A look-up changes nothing but the
bookkeeping; a call to the store before the commit changes nothing that outlives its transaction; the
session cache never reaches the store.
-/

namespace Gatehouse

/-! ## Relations -/

/-- Nothing outside the store and its transaction has changed, except that faults may be used up,
numbers drawn and lines logged. -/
structure Service.Outside (s t : Service) : Prop where
  now : t.now = s.now
  references : t.references = s.references
  cache : t.cache = s.cache
  commands : t.commands = s.commands
  events : t.events = s.events
  faults : t.faults ⊆ s.faults

structure Service.Unseen (s t : Service) : Prop extends Service.Outside s t where
  store : t.store = s.store

structure Service.Unsealed (s t : Service) : Prop extends Service.Outside s t where
  seals : t.seals = s.seals

structure Service.Untouched (s t : Service) : Prop extends Service.Unseen s t where
  transaction : t.transaction = s.transaction

def Service.Looked (s t : Service) : Prop := ∃ faults, faults ⊆ s.faults ∧ t = { s with faults := faults }

structure Service.Stored (s t : Service) : Prop where
  store : t.store = s.store
  transaction : t.transaction = s.transaction
  events : t.events = s.events

/-- The same rows at the same moment, and faults at most used up: what an operation may still do once
its transaction is over. -/
structure Service.Epilogue (s t : Service) : Prop where
  store : t.store = s.store
  transaction : t.transaction = s.transaction
  now : t.now = s.now
  references : t.references = s.references
  faults : t.faults ⊆ s.faults

structure Service.Quiet (s t : Service) : Prop extends Service.Epilogue s t where
  cache : t.cache ⊆ s.cache

structure Service.Posts (user : String) (s t : Service) : Prop extends Service.Epilogue s t where
  cache : ∀ entry ∈ t.cache, entry ∈ s.cache ∨ ∃ cacheKey, entry.1 = SessionCache.key user cacheKey

/-- A relation that composes and does not mind the use of a fault. -/
class Frame (R : Service → Service → Prop) : Prop where
  refl : ∀ s, R s s
  trans : ∀ {s t u}, R s t → R t u → R s u
  disarm : ∀ s call, R s (s.disarm call)

class CommandFrame (R : Service → Service → Prop) : Prop extends Frame R where
  command : ∀ s command, R s { s with commands := s.commands ++ [command] }

class CacheFrame (R : Service → Service → Prop) : Prop extends CommandFrame R where
  erase : ∀ s cache, cache ⊆ s.cache → R s { s with cache := cache }

namespace Service

theorem Outside.refl (s : Service) : Outside s s := ⟨rfl, rfl, rfl, rfl, rfl, fun _ h => h⟩

theorem Outside.trans {s t u : Service} (h : Outside s t) (k : Outside t u) : Outside s u :=
  ⟨k.now.trans h.now, k.references.trans h.references, k.cache.trans h.cache,
    k.commands.trans h.commands, k.events.trans h.events, fun _ hf => h.faults (k.faults hf)⟩

theorem outside_disarm (s : Service) (call : Call) : Outside s (s.disarm call) :=
  ⟨rfl, rfl, rfl, rfl, rfl, fun _ hf => (List.mem_filter.mp hf).1⟩

theorem mem_of_fault? {s : Service} {call : Call} {fault : Fault} (h : s.fault? call = some fault) :
    (call, fault) ∈ s.faults := by
  rw [fault?, Option.map_eq_some_iff] at h
  obtain ⟨⟨c, f⟩, hf, rfl⟩ := h
  have hc := List.find?_some hf
  rw [beq_iff_eq] at hc
  exact hc ▸ List.mem_of_find?_eq_some hf

theorem Outside.unarmed {s t : Service} (h : Outside s t) {call : Call} (hs : s.fault? call = none) :
    t.fault? call = none := by
  cases ht : t.fault? call with
  | none => rfl
  | some fault =>
    have hmem := h.faults (mem_of_fault? ht)
    rw [fault?, Option.map_eq_none_iff, List.find?_eq_none] at hs
    exact absurd (beq_self_eq_true call) (hs _ hmem)

instance : Frame Outside := ⟨Outside.refl, Outside.trans, outside_disarm⟩

instance : Frame Unsealed where
  refl s := ⟨.refl s, rfl⟩
  trans h k := ⟨h.toOutside.trans k.toOutside, k.seals.trans h.seals⟩
  disarm s call := ⟨outside_disarm s call, rfl⟩

instance : Frame Unseen where
  refl s := ⟨.refl s, rfl⟩
  trans h k := ⟨h.toOutside.trans k.toOutside, k.store.trans h.store⟩
  disarm s call := ⟨outside_disarm s call, rfl⟩

instance : Frame Untouched where
  refl s := ⟨⟨.refl s, rfl⟩, rfl⟩
  trans h k := ⟨Frame.trans h.toUnseen k.toUnseen, k.transaction.trans h.transaction⟩
  disarm s call := ⟨⟨outside_disarm s call, rfl⟩, rfl⟩

instance : Frame Looked where
  refl s := ⟨s.faults, fun _ h => h, rfl⟩
  trans := by
    rintro s _ _ ⟨f, hf, rfl⟩ ⟨g, hg, rfl⟩
    exact ⟨g, fun _ h => hf (hg h), rfl⟩
  disarm s call := ⟨s.faults.filter (·.1 != call), fun _ hf => (List.mem_filter.mp hf).1, rfl⟩

instance : CacheFrame Stored where
  refl _ := ⟨rfl, rfl, rfl⟩
  trans h k := ⟨k.store.trans h.store, k.transaction.trans h.transaction, k.events.trans h.events⟩
  disarm _ _ := ⟨rfl, rfl, rfl⟩
  command _ _ := ⟨rfl, rfl, rfl⟩
  erase _ _ _ := ⟨rfl, rfl, rfl⟩

theorem Epilogue.trans {s t u : Service} (h : Epilogue s t) (k : Epilogue t u) : Epilogue s u :=
  ⟨k.store.trans h.store, k.transaction.trans h.transaction, k.now.trans h.now,
    k.references.trans h.references, fun _ hf => h.faults (k.faults hf)⟩

instance : CacheFrame Epilogue where
  refl _ := ⟨rfl, rfl, rfl, rfl, fun _ h => h⟩
  trans := Epilogue.trans
  disarm _ _ := ⟨rfl, rfl, rfl, rfl, fun _ hf => (List.mem_filter.mp hf).1⟩
  command _ _ := ⟨rfl, rfl, rfl, rfl, fun _ h => h⟩
  erase _ _ _ := ⟨rfl, rfl, rfl, rfl, fun _ h => h⟩

instance : CacheFrame Quiet where
  refl s := ⟨Frame.refl s, fun _ h => h⟩
  trans h k := ⟨h.toEpilogue.trans k.toEpilogue, fun _ he => h.cache (k.cache he)⟩
  disarm s call := ⟨Frame.disarm s call, fun _ h => h⟩
  command s command := ⟨CommandFrame.command s command, fun _ h => h⟩
  erase s cache h := ⟨CacheFrame.erase s cache h, h⟩

theorem Quiet.posts {s t : Service} (h : Quiet s t) (user : String) : Posts user s t :=
  ⟨h.toEpilogue, fun _ he => .inl (h.cache he)⟩

instance (user : String) : CacheFrame (Posts user) where
  refl s := (Frame.refl (R := Quiet) s).posts user
  trans h k := ⟨h.toEpilogue.trans k.toEpilogue, fun entry he =>
    (k.cache entry he).elim (h.cache entry) .inr⟩
  disarm s call := (Frame.disarm (R := Quiet) s call).posts user
  command s command := (CommandFrame.command (R := Quiet) s command).posts user
  erase s cache h := (CacheFrame.erase (R := Quiet) s cache h).posts user

theorem Untouched.quiet {s t : Service} (h : Untouched s t) : Quiet s t :=
  ⟨⟨h.store, h.transaction, h.now, h.references, h.faults⟩, fun _ he => h.cache ▸ he⟩

theorem Looked.untouched {s t : Service} (h : Looked s t) : Untouched s t := by
  obtain ⟨faults, hf, rfl⟩ := h
  exact ⟨⟨⟨rfl, rfl, rfl, rfl, rfl, hf⟩, rfl⟩, rfl⟩

theorem Untouched.stored {s t : Service} (h : Untouched s t) : Stored s t :=
  ⟨h.store, h.transaction, h.events⟩

end Service

namespace Run

open Service

variable {α β : Type} {R : Service → Service → Prop}

/-! ## Runs within a relation -/

def Keeps (R : Service → Service → Prop) (m : Run α) : Prop := ∀ s, R s (m.exec s).2

theorem Keeps.mono {Q : Service → Service → Prop} {m : Run α} (h : Keeps Q m)
    (hqr : ∀ {s t}, Q s t → R s t) : Keeps R m := fun s => hqr (h s)

theorem Keeps.attempt {m : Run α} (h : Keeps R m) : Keeps R (attempt m) := h

theorem keeps_modify {f : Service → Service} (h : ∀ s, R s (f s)) : Keeps R (modify f) := h

section
variable [Frame R]

theorem keeps_pure (a : α) : Keeps R (pure a : Run α) := Frame.refl

theorem keeps_throw (e : Failure) : Keeps R (throw e : Run α) := Frame.refl

theorem keeps_get : Keeps R (get : Run Service) := Frame.refl

theorem Keeps.bind {m : Run α} {f : α → Run β} (h : Keeps R m) (k : ∀ a, Keeps R (f a)) :
    Keeps R (m >>= f) := by
  intro s
  have hs := h s
  rw [exec_bind]
  rcases hm : m.exec s with ⟨_ | a, t⟩
  · rw [hm] at hs; exact hs
  · rw [hm] at hs; exact Frame.trans hs (k a t)

theorem keeps_ofExcept {β : Type} (f : β → Failure) (x : Except β α) : Keeps R (ofExcept f x) := by
  cases x with
  | ok a => exact keeps_pure a
  | error e => exact keeps_throw _

theorem keeps_ofChecked (x : Shape.Checked α) : Keeps R (ofChecked x) := by
  cases x with
  | ok a => exact keeps_pure a
  | error details => exact keeps_throw _

/-- A step that stays within a relation to the first state. -/
theorem Keeps.gives {m : Run α} {f : α → Run β} {Q : Except Failure β → Service → Prop} {s u : Service}
    (hm : Keeps R m) (hu : R s u) (hok : ∀ a t, R s t → Gives (f a) t Q)
    (herror : ∀ e t, R s t → Q (.error e) t) : Gives (m >>= f) u Q :=
  Gives.bind (P := fun _ t => R s t) (Frame.trans hu (hm u)) hok herror

theorem keeps_takeFault (call : Call) : Keeps R (takeFault call) := by
  intro s
  rw [exec_takeFault]
  exact Frame.disarm s call

theorem keeps_rows : Keeps R rows := by
  intro s
  rw [exec_rows]
  split <;> exact Frame.refl s

theorem Keeps.guarded {call : Call} {reading : Json → Run α} {work : Run α}
    (hreading : ∀ v, Keeps R (reading v)) (hwork : Keeps R work) :
    Keeps R (guarded call reading work) := by
  -- a fault is used up first, and then decides how much of the work is done
  refine (keeps_takeFault call).bind fun fault => ?_
  cases fault with
  | none => exact hwork
  | some fault =>
    cases fault with
    | breaks how => exact keeps_throw _
    | breaksAfter how => exact hwork.bind fun _ => keeps_throw _
    | answers value => exact hreading value
    | hangs => exact hwork

theorem Keeps.tryCatch {m : Run α} {handle : Failure → Run α} (h : Keeps R m)
    (k : ∀ e, Keeps R (handle e)) : Keeps R (tryCatch m handle) := by
  intro s
  have hs := h s
  rw [exec_tryCatch]
  rcases hm : m.exec s with ⟨e | a, t⟩
  · rw [hm] at hs; exact Frame.trans hs (k e t)
  · rw [hm] at hs; exact hs

end

/-! ## Bookkeeping -/

theorem keeps_log (level : Level) (message : String) : Keeps Untouched (log level message) :=
  fun _ => ⟨⟨⟨rfl, rfl, rfl, rfl, rfl, fun _ h => h⟩, rfl⟩, rfl⟩

theorem keeps_drawId : Keeps Untouched drawId :=
  fun _ => ⟨⟨⟨rfl, rfl, rfl, rfl, rfl, fun _ h => h⟩, rfl⟩, rfl⟩

theorem keeps_drawSeal : Keeps Untouched drawSeal :=
  fun _ => ⟨⟨⟨rfl, rfl, rfl, rfl, rfl, fun _ h => h⟩, rfl⟩, rfl⟩

theorem exec_bestEffort [Frame R] (hlog : ∀ level message, Keeps R (log level message)) {body : Run Unit}
    (h : Keeps R body) (warning : String) (s : Service) :
    ∃ t, (bestEffort warning body).exec s = (.ok (), t) ∧ R s t := by
  have hkeeps : Keeps R (bestEffort warning body) := h.tryCatch fun _ => hlog _ _
  have hs := hkeeps s
  unfold bestEffort at *
  rw [exec_tryCatch] at *
  rcases hm : body.exec s with ⟨e | _, t⟩
  · rw [hm] at hs
    exact ⟨_, rfl, hs⟩
  · rw [hm] at hs
    exact ⟨_, rfl, hs⟩

/-! ## Transactions -/

theorem keeps_stage (rows : Store) : Keeps Unseen (stage rows) :=
  fun _ => ⟨⟨rfl, rfl, rfl, rfl, rfl, fun _ h => h⟩, rfl⟩

theorem keeps_rollback : Keeps Unseen rollback :=
  fun _ => ⟨⟨rfl, rfl, rfl, rfl, rfl, fun _ h => h⟩, rfl⟩

theorem keeps_insert (write : Store.References → Store → Option Store) : Keeps Unseen (insert write) := by
  refine keeps_rows.bind fun before => keeps_get.bind fun s => ?_
  cases write s.references before with
  | some after => exact keeps_stage after
  | none =>
    refine Keeps.bind (keeps_modify fun _ => ?_) fun _ => keeps_throw _
    exact ⟨⟨rfl, rfl, rfl, rfl, rfl, fun _ h => h⟩, rfl⟩

end Run

namespace Directory

open Run Service

/-! ## Look-ups -/

section
variable {R : Service → Service → Prop} [Frame R]

theorem keeps_holds (c : Check) : Keeps R (holds c) :=
  Keeps.bind (Keeps.guarded (fun v => keeps_pure v) (keeps_rows.bind fun _ => keeps_pure _))
    fun _ => keeps_pure _

theorem keeps_strayRow {α : Type} (v : Json) : Keeps R (strayRow v : Run (Option α)) := by
  unfold strayRow
  split
  · exact keeps_pure none
  · exact keeps_throw _

end

end Directory

/-! ## The session cache -/

namespace SessionCache

open Run Service

section
variable {α : Type} {R : Service → Service → Prop}

theorem keeps_issue [CommandFrame R] (call : Call) (command : Command) (work : Service → Service × α)
    (h : ∀ s, R s (work s).1) : Keeps R (issue call command work) := by
  have hdone : Keeps R (modifyGet fun s => ((work s).2, (work s).1) : Run α) := h
  exact Keeps.bind (keeps_modify fun s => CommandFrame.command s command) fun _ =>
    Keeps.guarded (fun _ => hdone) hdone

theorem keeps_wrap [Frame R] (step : CacheStep) (user : String) {work : Run α} (h : Keeps R work) :
    Keeps R (wrap step user work) := by
  refine h.tryCatch fun e => ?_
  split <;> exact keeps_throw _

theorem eraseAll_subset (now : Int) : ∀ (entries : List String) (cache : Cache),
    (eraseAll now cache entries).1 ⊆ cache
  | [], _ => fun _ h => h
  | entry :: rest, cache => fun _ h =>
    (List.mem_filter.mp (eraseAll_subset now rest (cache.erase entry) h)).1

theorem keeps_store (user cacheKey payload : String) (lifetime : Int) :
    Keeps (Posts user) (store user cacheKey payload lifetime) := by
  refine keeps_wrap _ _ (keeps_issue _ _ _ fun s => ⟨⟨rfl, rfl, rfl, rfl, fun _ h => h⟩, ?_⟩)
  intro entry he
  rcases List.mem_append.mp he with he | he
  · exact .inl (List.mem_filter.mp he).1
  · cases List.mem_singleton.mp he
    exact .inr ⟨cacheKey, rfl⟩

variable [CacheFrame R]

theorem keeps_delete (user cacheKey : String) : Keeps R (delete user cacheKey) :=
  keeps_wrap _ _ (keeps_issue _ _ _ fun s =>
    CacheFrame.erase s _ fun _ he => (List.mem_filter.mp he).1)

theorem keeps_invalidateAll (user : String) : Keeps R (invalidateAll user) := by
  refine keeps_wrap _ _ (Keeps.bind (keeps_issue _ _ _ fun s => Frame.refl s) fun keys => ?_)
  split
  · exact keeps_pure _
  · exact keeps_issue _ _ _ fun s => CacheFrame.erase s _ (eraseAll_subset _ _ _)

end

end SessionCache

end Gatehouse
