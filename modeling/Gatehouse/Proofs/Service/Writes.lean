import Gatehouse.Proofs.Directory.Insertion
import Gatehouse.Proofs.Service.Settled
import Gatehouse.Service.Settings

/-!
# Writes and their commit

What the calls of an operation do to the rows of its transaction, and what an operation that commits
at its end leaves behind. Rows are committed all together or not at all, whichever call fails.
-/

namespace Gatehouse

/-! ## Faults of writes -/

def Call.isWrite : Call → Bool
  | .createUser | .updateProvider | .softDelete | .createWorkspace | .createRole | .createMembership
  | .commit => true
  | _ => false

namespace Service

def IsHonest (s : Service) : Prop :=
  ∀ call value, call.isWrite = true → (call, Fault.answers value) ∉ s.faults

def CommitsLate (s : Service) : Prop := ∃ how, (Call.commit, Fault.breaksAfter how) ∈ s.faults

section
variable {s t : Service}

theorem Outside.honest (h : Outside s t) (hs : s.IsHonest) : t.IsHonest :=
  fun call value hw hm => hs call value hw (h.faults hm)

theorem Outside.commitsLate (h : Outside s t) : t.CommitsLate → s.CommitsLate :=
  fun ⟨how, hm⟩ => ⟨how, h.faults hm⟩

theorem Outside.rolledBack (h : Outside s t) : Outside s t.rolledBack :=
  ⟨h.now, h.references, h.cache, h.commands, h.events, h.faults⟩

theorem IsHonest.fault?_ne (h : s.IsHonest) {call : Call} (hw : call.isWrite = true) (value : Json) :
    s.fault? call ≠ some (.answers value) :=
  fun hf => h call value hw (mem_of_fault? hf)

end

end Service

namespace Run

open Service

variable {α β : Type} {s t : Service}

/-- A call that ends well has done its work, or its answer came from elsewhere. -/
theorem exec_guarded_ok {call : Call} {reading : Json → Run α} {work : Run α} {a : α}
    (h : (guarded call reading work).exec s = (.ok a, t)) :
    work.exec (s.disarm call) = (.ok a, t) ∨
      ∃ value, s.fault? call = some (.answers value) ∧
        (reading value).exec (s.disarm call) = (.ok a, t) := by
  rw [exec_guarded] at h
  cases hf : s.fault? call with
  | none =>
    rw [hf] at h
    rw [disarm_unarmed hf]
    exact .inl h
  | some fault =>
    rw [hf] at h
    cases fault with
    | breaks how => cases h
    | breaksAfter how =>
      have hlate : (work >>= fun _ => throw (.broken how)).exec (s.disarm call) = (.ok a, t) := h
      rw [exec_bind] at hlate
      split at hlate <;> cases hlate
    | answers value => exact .inr ⟨value, rfl, h⟩
    | hangs => exact .inl h

/-! ## Look-ups -/

theorem rows_gives : Gives rows s fun r t => t = s ∧ ∀ found, r = .ok found → found = s.transaction.rows := by
  rw [Gives, exec_rows]
  split
  · exact ⟨rfl, fun _ h => by cases h⟩
  · exact ⟨rfl, fun _ h => (Except.ok.inj h).symm⟩

theorem keeps_lookup {R : Service → Service → Prop} [Frame R] (call : Call) (look : Store → Option α) :
    Keeps R (guarded call Directory.strayRow do return look (← rows)) :=
  Keeps.guarded Directory.keeps_strayRow (keeps_rows.bind fun _ => keeps_pure _)

theorem exec_look (look : Store → Option α) :
    (rows >>= fun found => pure (look found)).exec s =
      if s.transaction.failed then (.error .staleTransaction, s)
      else (.ok (look s.transaction.rows), s) := by
  rw [exec_bind, exec_rows]
  cases s.transaction.failed <;> rfl

theorem exec_strayRow_ne_some (value : Json) (a : α) :
    (Directory.strayRow value).exec s ≠ (.ok (some a), t) := by
  unfold Directory.strayRow
  split
  · exact nofun
  · exact nofun

theorem exec_lookup_some {call : Call} {look : Store → Option α} {a : α}
    (h : (guarded call Directory.strayRow do return look (← rows)).exec s = (.ok (some a), t)) :
    look s.transaction.rows = some a := by
  rcases exec_guarded_ok h with hwork | ⟨value, -, hvalue⟩
  · have hlook := exec_look (s := s.disarm call) look
    rw [hlook] at hwork
    split at hwork
    · cases hwork
    · exact Except.ok.inj (congrArg Prod.fst hwork)
  · exact absurd hvalue (exec_strayRow_ne_some value a)

theorem lookup_gives (call : Call) (look : Store → Option α) :
    Gives (guarded call Directory.strayRow do return look (← rows)) s fun r t =>
      Looked s t ∧ ∀ a, r = .ok (some a) → look s.transaction.rows = some a := by
  refine Gives.of_exec fun r t h => ⟨?_, ?_⟩
  · have hkeeps := keeps_lookup (R := Looked) call look s
    rwa [h] at hkeeps
  · rintro a rfl
    exact exec_lookup_some h

/-! ## Insertions -/

def Staged (s : Service) (write : Store.References → Store → Option Store) (answer : α)
    (r : Except Failure α) (t : Service) : Prop :=
  Unseen s t ∧ ∀ a, r = .ok a → a = answer ∧
    ∃ after, write s.references s.transaction.rows = some after ∧ t.transaction = ⟨after, false⟩

section
variable {write : Store.References → Store → Option Store}

theorem insert_gives : Gives (insert write) s (Staged s write ()) := by
  refine ⟨keeps_insert write s, fun _ h => ⟨rfl, ?_⟩⟩
  cases hopen : s.transaction.failed with
  | true =>
    have hrows : rows.exec s = (.error .staleTransaction, s) := by rw [exec_rows, hopen]; rfl
    rw [insert, exec_bind_error hrows] at h
    cases h
  | false =>
    rw [exec_insert hopen] at *
    cases hwrite : write s.references s.transaction.rows with
    | none =>
      rw [hwrite] at h
      cases h
    | some after => exact ⟨after, rfl, rfl⟩

theorem insert_answer_gives (answer : α) :
    Gives (insert write >>= fun _ => pure answer) s (Staged s write answer) := by
  refine insert_gives.bind (fun _ t ht => ?_) fun e t ht => ⟨ht.1, nofun⟩
  obtain ⟨hu, hok⟩ := ht
  exact ⟨hu, fun a ha => ⟨(Except.ok.inj ha).symm, (hok () rfl).2⟩⟩

theorem guarded_gives {call : Call} {reading : Json → Run α} {work : Run α} {answer : α}
    (hs : s.IsHonest) (hw : call.isWrite = true) (hreading : ∀ v, Keeps Unseen (reading v))
    (hwork : ∀ s, Gives work s (Staged s write answer)) :
    Gives (guarded call reading work) s (Staged s write answer) := by
  refine Gives.of_exec fun r t h => ⟨?_, ?_⟩
  · have hkeeps : Keeps Unseen (guarded call reading work) :=
      Keeps.guarded hreading fun s => (hwork s).1
    have hs := hkeeps s
    rwa [h] at hs
  · rintro a rfl
    rcases exec_guarded_ok h with hexec | ⟨value, hf, -⟩
    · exact ((hwork (s.disarm call)).ended hexec).2 a rfl
    · exact absurd hf (hs.fault?_ne hw value)

end

/-! ## Commits -/

theorem exec_store : (rows >>= fun committed => modify fun s => { s with store := committed }).exec s =
    if s.transaction.failed then (.error .staleTransaction, s)
    else (.ok ⟨⟩, { s with store := s.transaction.rows }) := by
  rw [exec_bind, exec_rows]
  cases s.transaction.failed <;> rfl

/-- What a commit has done to the store: all or nothing, and all if it ends well. A commit that fails
has stored the rows only if its fault comes late. -/
def Committed (s : Service) (r : Except Failure α) (t : Service) : Prop :=
  Outside s t ∧ match r with
    | .ok _ => t.store = s.transaction.rows
    | .error _ => t.store = s.store ∨ s.CommitsLate ∧ t.store = s.transaction.rows

theorem store_gives {u : Service} (ho : Outside s u) (hstore : u.store = s.store)
    (htransaction : u.transaction = s.transaction) :
    Gives (rows >>= fun committed => modify fun s => { s with store := committed }) u fun r t =>
      Outside s t ∧ match r with
        | .ok _ => t.store = s.transaction.rows
        | .error _ => t.store = s.store := by
  rw [Gives, exec_store, htransaction]
  split
  · exact ⟨ho, hstore⟩
  · exact ⟨⟨ho.now, ho.references, ho.cache, ho.commands, ho.events, ho.faults⟩, rfl⟩

theorem commit_gives (hs : s.IsHonest) : Gives commit s (Committed s) := by
  -- the work of the commit, whether its fault has been used up or there was none
  have hstore : ∀ u, Outside s u → u.store = s.store → u.transaction = s.transaction →
      Gives (rows >>= fun committed => modify fun s => { s with store := committed }) u
        (Committed s) := by
    intro u ho hstore htransaction
    refine (store_gives ho hstore htransaction).mono fun r t ht => ?_
    cases r with
    | ok => exact ht
    | error => exact ⟨ht.1, .inl ht.2⟩
  refine Gives.guarded (fun _ => hstore s (.refl s) rfl rfl) (fun how _ => ?_) (fun how hf => ?_)
    (fun value hf => absurd hf (hs.fault?_ne rfl value))
    fun _ => hstore (s.disarm .commit) (outside_disarm s .commit) rfl rfl
  · exact ⟨outside_disarm s .commit, .inl rfl⟩
  -- the fault comes after the work
  · refine (store_gives (outside_disarm s .commit) rfl rfl).bind (fun _ t ht => ?_) fun e t ht => ?_
    · exact ⟨ht.1, .inr ⟨⟨how, mem_of_fault? hf⟩, ht.2⟩⟩
    · exact ⟨ht.1, .inl ht.2⟩

/-- A commit that ends well leaves nothing open. -/
theorem commit_settles (hs : s.IsHonest) : Gives commit s fun r t => r = .ok () → t.IsSettled := by
  apply Gives.of_exec
  rintro r t h rfl
  rcases exec_guarded_ok h with hwork | ⟨value, hf, -⟩
  · rw [exec_store] at hwork
    cases hopen : (s.disarm .commit).transaction.failed with
    | true =>
      rw [hopen] at hwork
      cases hwork
    | false =>
      rw [hopen] at hwork
      cases hwork
      rw [IsSettled, ← hopen]
  · exact absurd hf (hs.fault?_ne rfl value)

/-- What a run that commits at its end leaves behind: all that it was to write, or nothing. Where the
commit fails late, all is written although the run fails. -/
def Lands (s : Service) (written : α → Store → Prop) (r : Except Failure α) (t : Service) : Prop :=
  Outside s t ∧ match r with
    | .ok a => written a t.store
    | .error _ => t.store = s.store ∨ s.CommitsLate ∧ ∃ a, written a t.store

theorem Lands.failed {written : α → Store → Prop} (h : Unseen s t) (e : Failure) :
    Lands s written (.error e) t :=
  ⟨h.toOutside, .inl h.store⟩

theorem look_lands {written : β → Store → Prop} {u : Service} {m : Run α} {f : α → Run β}
    (hm : Keeps Untouched m) (hu : Untouched s u)
    (k : ∀ a t, Untouched s t → Gives (f a) t (Lands s written)) : Gives (m >>= f) u (Lands s written) :=
  hm.gives hu k fun e _ ht => Lands.failed ht.toUnseen e

theorem commit_lands {written : α → Store → Prop} {u : Service} (hs : s.IsHonest) (hu : Unseen s u)
    {a : α} (hw : written a u.transaction.rows) :
    Gives (commit >>= fun _ => pure a) u (Lands s written) := by
  refine (commit_gives (hu.honest hs)).bind (fun _ t ht => ?_) fun e t ht => ?_
  · have hstored : written a t.store := by
      rw [ht.2]
      exact hw
    exact Gives.pure ⟨hu.toOutside.trans ht.1, hstored⟩
  · refine ⟨hu.toOutside.trans ht.1, ?_⟩
    rcases ht.2 with hstore | ⟨hlate, hstore⟩
    · exact .inl (hstore.trans hu.store)
    · exact .inr ⟨hu.commitsLate hlate, a, by rw [hstore]; exact hw⟩

/-! ## Whole operations -/

def Settles (s : Service) (written : α → Store → Prop) (r : Except Failure (Answer α)) (t : Service) :
    Prop :=
  Outside s t ∧ match r with
    | .ok (.ok a) => written a t.store
    | _ => t.store = s.store ∨ s.CommitsLate ∧ ∃ a, written a t.store

/-- What an operation with such a transaction leaves behind: all its rows and its events, or nothing.
Where the commit fails late, all the rows are there and no event. -/
def AllOrNothing (s : Service) (written : α → Store → Prop) (sent : α → List Event)
    (r : Except Failure (Answer α)) (t : Service) : Prop :=
  match r with
  | .ok (.ok a) => written a t.store ∧ t.events = s.events ++ sent a
  | _ => t.events = s.events ∧ t.cache = s.cache ∧ t.commands = s.commands ∧
      (t.store = s.store ∨ s.CommitsLate ∧ ∃ a, written a t.store)

section
variable {written : α → Store → Prop}

theorem Settles.mono {weaker : α → Store → Prop} (h : ∀ a rows, written a rows → weaker a rows)
    {r : Except Failure (Answer α)} (hr : Settles s written r t) : Settles s weaker r t := by
  obtain ⟨ho, hr⟩ := hr
  match r, hr with
  | .ok (.ok a), hw => exact ⟨ho, h a _ hw⟩
  | .ok (.error _), hstore => exact ⟨ho, hstore.imp_right fun ⟨hl, a, hw⟩ => ⟨hl, a, h a _ hw⟩⟩
  | .error _, hstore => exact ⟨ho, hstore.imp_right fun ⟨hl, a, hw⟩ => ⟨hl, a, h a _ hw⟩⟩

theorem AllOrNothing.mono {weaker : α → Store → Prop} {sent : α → List Event}
    (h : ∀ a rows, written a rows → weaker a rows) {r : Except Failure (Answer α)}
    (hr : AllOrNothing s written sent r t) : AllOrNothing s weaker sent r t := by
  match r, hr with
  | .ok (.ok a), ⟨hw, hsent⟩ => exact ⟨h a _ hw, hsent⟩
  | .ok (.error _), ⟨he, hc, hm, hstore⟩ =>
    exact ⟨he, hc, hm, hstore.imp_right fun ⟨hl, a, hw⟩ => ⟨hl, a, h a _ hw⟩⟩
  | .error _, ⟨he, hc, hm, hstore⟩ =>
    exact ⟨he, hc, hm, hstore.imp_right fun ⟨hl, a, hw⟩ => ⟨hl, a, h a _ hw⟩⟩

/-- Where no commit breaks late, an operation that fails leaves the rows as they were. -/
theorem AllOrNothing.unchanged {sent : α → List Event}
    {answer : Except Failure (Answer α)} (h : AllOrNothing s written sent answer t)
    (hfailed : ∀ a, answer ≠ .ok (.ok a)) (hearly : ¬ (s.CommitsLate ∧ t.store ≠ s.store)) :
    t.store = s.store := by
  have hstore : t.store = s.store ∨ s.CommitsLate ∧ ∃ a, written a t.store := by
    match answer, h with
    | .ok (.ok a), _ => exact absurd rfl (hfailed a)
    | .ok (.error _), h => exact h.2.2.2
    | .error _, h => exact h.2.2.2
  rcases hstore with hsame | ⟨hlate, -⟩
  · exact hsame
  · exact Classical.byContradiction fun hother => hearly ⟨hlate, hother⟩

theorem Settles.refused (h : Unseen s t) (refusal : Refusal) :
    Settles s written (.ok (.error refusal)) t := ⟨h.toOutside, .inl h.store⟩

theorem Settles.failed (h : Unseen s t) (e : Failure) : Settles s written (.error e) t :=
  ⟨h.toOutside, .inl h.store⟩

theorem Settles.undone {u : Service} {r : Except Failure (Answer α)} (ht : Outside s t)
    (hstore : t.store = s.store ∨ s.CommitsLate ∧ ∃ a, written a t.store) (hu : Unseen t u)
    (hr : ∀ a, r ≠ .ok (.ok a)) : Settles s written r u := by
  refine ⟨ht.trans hu.toOutside, ?_⟩
  rw [hu.store]
  split
  · exact absurd rfl (hr _)
  · exact hstore

theorem look_settles {u : Service} {m : Run β} {f : β → Run (Answer α)} (hm : Keeps Untouched m)
    (hu : Untouched s u) (k : ∀ a t, Untouched s t → Gives (f a) t (Settles s written)) :
    Gives (m >>= f) u (Settles s written) :=
  hm.gives hu k fun e _ ht => Settles.failed ht.toUnseen e

theorem Lands.settles {r : Except Failure (Answer α)}
    (h : Lands s (fun answer rows => ∃ a, answer = .ok a ∧ written a rows) r t) :
    Settles s written r t := by
  obtain ⟨ho, h⟩ := h
  match r, h with
  | .ok (.ok a), ⟨_, rfl, hw⟩ => exact ⟨ho, hw⟩
  | .error e, .inl hstore => exact ⟨ho, .inl hstore⟩
  | .error e, .inr ⟨hlate, _, a, _, hw⟩ => exact ⟨ho, .inr ⟨hlate, a, hw⟩⟩

theorem Settles.rolledBack {r : Except Failure (Answer α)} (h : Settles s written r t) :
    Settles s written r t.rolledBack :=
  ⟨h.1.rolledBack, h.2⟩

/-- An operation whose transaction is refused or fails does nothing more. -/
theorem inTransaction_gives {body : Run (Answer α)} (h : Gives body s (Settles s written))
    {f : Answer α → Run (Answer β)} {done : β → Store → Prop} {sent : β → List Event}
    (hdone : ∀ a t, Outside s t → written a t.store → Gives (f (.ok a)) t (AllOrNothing s done sent))
    (hrefused : ∀ refusal, f (.error refusal) = pure (.error refusal))
    (hlate : ∀ a rows, written a rows → ∃ b, done b rows) :
    Gives (inTransaction body >>= f) s (AllOrNothing s done sent) := by
  have hafter : Gives (inTransaction body) s (Settles s written) := Settles.rolledBack h
  have hstore : ∀ t : Service, (t.store = s.store ∨ s.CommitsLate ∧ ∃ a, written a t.store) →
      t.store = s.store ∨ s.CommitsLate ∧ ∃ b, done b t.store := by
    rintro t (hsame | ⟨hl, a, hw⟩)
    · exact .inl hsame
    · exact .inr ⟨hl, hlate a t.store hw⟩
  refine hafter.bind (fun answer t ht => ?_) fun e t ht => ?_
  · cases answer with
    | ok a => exact hdone a t ht.1 ht.2
    | error refusal =>
      rw [hrefused]
      exact Gives.pure ⟨ht.1.events, ht.1.cache, ht.1.commands, hstore t ht.2⟩
  · exact ⟨ht.1.events, ht.1.cache, ht.1.commands, hstore t ht.2⟩

theorem bestEffort_gives {sent : α → List Event} {body : Run Unit} (hbody : Keeps Stored body)
    (warning : String) {a : α} (ht : Outside s t) (hw : written a t.store) (hsent : sent a = []) :
    Gives (bestEffort warning body >>= fun _ => pure (.ok a)) t (AllOrNothing s written sent) := by
  obtain ⟨u, hexec, hu⟩ := exec_bestEffort
    (fun level message => (keeps_log level message).mono Untouched.stored) hbody warning t
  refine Gives.step hexec (Gives.pure ⟨?_, ?_⟩)
  · rw [hu.store]
    exact hw
  · rw [hu.events, ht.events, hsent, List.append_nil]

end

end Run

namespace Directory

open Run Service

variable {s : Service}

/-! ## The calls of the service -/

theorem userById_gives (user : Uuid) : Gives (userById user) s fun r t =>
    Looked s t ∧ ∀ found, r = .ok (some found) →
      s.transaction.rows.userById? user = some found ∧ found.id = user := by
  refine (lookup_gives .userById (·.userById? user)).mono fun r t ht => ⟨ht.1, fun found hr => ?_⟩
  have hfound := ht.2 found hr
  have hid := List.find?_some hfound
  simp only [Bool.and_eq_true, beq_iff_eq] at hid
  exact ⟨hfound, hid.1⟩

theorem providerOf_gives (user : Uuid) (kind : ProviderKind) :
    Gives (providerOf user kind) s fun r t => Looked s t ∧ ∀ found, r = .ok (some found) →
      s.transaction.rows.providerOf? user kind = some found :=
  lookup_gives .providerOf (·.providerOf? user kind)

theorem createUser_gives (hs : s.IsHonest) (u : User) (p : Profile) (a : Provider) :
    Gives (createUser u p a) s (Staged s (fun check rows => rows.addAccount? check u p a) true) :=
  guarded_gives hs rfl (fun _ => keeps_pure false) fun _ => insert_answer_gives true

theorem createWorkspace_gives (hs : s.IsHonest) (w : Workspace) (isStorable : Bool) :
    Gives (createWorkspace w isStorable) s
      (Staged s (fun check rows => if isStorable then rows.addWorkspace? check w else none) ()) :=
  guarded_gives hs rfl (fun _ => keeps_throw _) fun _ => insert_gives

theorem createRole_gives (hs : s.IsHonest) (r : Role) :
    Gives (createRole r) s (Staged s (fun check rows => rows.addRole? check r) ()) :=
  guarded_gives hs rfl (fun _ => keeps_throw _) fun _ => insert_gives

theorem createMembership_gives (hs : s.IsHonest) (m : Membership) :
    Gives (createMembership m) s (Staged s (fun check rows => rows.addMembership? check m) true) :=
  guarded_gives hs rfl (fun _ => keeps_pure false) fun _ => insert_answer_gives true

theorem exec_restage {α : Type} (step : Service → Store → Store × α) :
    (rows >>= fun before => get >>= fun u => stage (step u before).1 >>= fun _ =>
        pure (step u before).2 : Run α).exec s =
      if s.transaction.failed then (.error .staleTransaction, s)
      else (.ok (step s s.transaction.rows).2,
        { s with transaction := ⟨(step s s.transaction.rows).1, false⟩ }) := by
  rw [exec_bind, exec_rows]
  cases s.transaction.failed <;> rfl

theorem keeps_softDelete (user : Uuid) : Keeps Unseen (softDelete user) :=
  Keeps.guarded (fun _ => keeps_pure _) (keeps_rows.bind fun _ => keeps_get.bind fun _ =>
    (keeps_stage _).bind fun _ => keeps_pure _)

theorem softDelete_gives (hs : s.IsHonest) (user : Uuid) :
    Gives (softDelete user) s fun r t => Unseen s t ∧ ∀ found, r = .ok found →
      found = (s.transaction.rows.softDelete s.now user).2 ∧
        t.transaction = ⟨(s.transaction.rows.softDelete s.now user).1, false⟩ := by
  refine Gives.of_exec fun r t h => ⟨?_, ?_⟩
  · have hkeeps := keeps_softDelete user s
    rwa [h] at hkeeps
  · rintro found rfl
    rcases exec_guarded_ok h with hexec | ⟨value, hv, -⟩
    · have hstep := (exec_restage fun u before => before.softDelete u.now user).symm.trans hexec
      split at hstep
      · cases hstep
      · cases hstep
        exact ⟨rfl, rfl⟩
    · exact absurd hv (hs.fault?_ne rfl value)

/-- The new hash is staged before the call can fail. -/
theorem updateProvider_gives (provider : Uuid) (hash : String) :
    Gives (updateProvider provider hash) s fun r t => Unseen s t ∧ ∀ a, r = .ok a →
      t.transaction = ⟨s.transaction.rows.setPasswordHash s.now provider hash, false⟩ := by
  refine rows_gives.bind (fun before t ht => ?_) fun e t ht => ?_
  case refine_2 =>
    rw [ht.1]
    exact ⟨Frame.refl s, nofun⟩
  obtain ⟨rfl, hbefore⟩ := ht
  have hguard : Keeps Untouched (guarded .updateProvider (fun _ => return ()) (return ()) : Run Unit) :=
    Keeps.guarded (fun _ => keeps_pure ()) (keeps_pure ())
  have h := hguard { t with transaction := ⟨before.setPasswordHash t.now provider hash, false⟩ }
  refine ⟨Frame.trans (keeps_stage _ t) h.toUnseen, fun _ _ => ?_⟩
  rw [← hbefore before rfl]
  exact h.transaction

end Directory

end Gatehouse
