import Gatehouse.Account.PasswordChange
import Gatehouse.Account.Removal
import Gatehouse.Proofs.Service.Twin

/-!
# Transactions leave the cache alone

A transaction makes calls to the store only: after it the cache has the entries that it had before, and what
was going to happen to the next commands to the cache is still going to happen.
-/

namespace Gatehouse

structure Service.Apart (s t : Service) : Prop where
  now : t.now = s.now
  cache : t.cache = s.cache
  faults : t.faults ⊆ s.faults
  fault : ∀ call, call.isCached = true → t.fault? call = s.fault? call

namespace Service.Apart

variable {s t u : Service}

theorem refl (s : Service) : Apart s s := ⟨rfl, rfl, fun _ h => h, fun _ _ => rfl⟩

theorem trans (h : Apart s t) (k : Apart t u) : Apart s u :=
  ⟨k.now.trans h.now, k.cache.trans h.cache, fun _ hf => h.faults (k.faults hf),
    fun call hcall => (k.fault call hcall).trans (h.fault call hcall)⟩

theorem disarm (s : Service) {call : Call} (h : call.isCached = false) : Apart s (s.disarm call) := by
  refine ⟨rfl, rfl, fun _ hf => (List.mem_filter.mp hf).1, fun other hother => fault?_disarm_other s ?_⟩
  rintro rfl
  rw [h] at hother
  cases hother

end Service.Apart

namespace Run

open Service

variable {α β : Type}

/-! ## Runs apart from the cache -/

theorem apart_pure (a : α) : Keeps Apart (pure a) := Apart.refl

theorem apart_throw (e : Failure) : Keeps Apart (throw e : Run α) := Apart.refl

theorem Keeps.bind_apart {m : Run α} {f : α → Run β} (h : Keeps Apart m) (k : ∀ a, Keeps Apart (f a)) :
    Keeps Apart (m >>= f) := by
  intro s
  have hfirst : Gives m s fun _ t => Apart s t := h s
  have hboth : Gives (m >>= f) s fun _ t => Apart s t :=
    hfirst.bind (fun a t ht => ht.trans (k a t)) fun _ _ ht => ht
  exact hboth

theorem Keeps.guarded_apart {call : Call} (hcall : call.isCached = false) {reading : Json → Run α}
    {work : Run α} (hreading : ∀ v, Keeps Apart (reading v)) (hwork : Keeps Apart work) :
    Keeps Apart (Run.guarded call reading work) := by
  intro s
  have hdisarm : Apart s (s.disarm call) := .disarm s hcall
  have hlate : ∀ how, Keeps Apart (work >>= fun _ => throw (.broken how) : Run α) :=
    fun how => hwork.bind_apart fun _ => apart_throw _
  apply Gives.guarded (Q := fun _ t => Apart s t)
  · exact fun _ => hwork s
  · exact fun _ _ => hdisarm
  · exact fun how _ => hdisarm.trans (hlate how _)
  · exact fun value _ => hdisarm.trans (hreading value _)
  · exact fun _ => hdisarm.trans (hwork _)

theorem apart_rows : Keeps Apart rows := by
  intro s
  rw [exec_rows]
  split <;> exact .refl s

theorem apart_log (level : Level) (message : String) : Keeps Apart (log level message) :=
  fun _ => ⟨rfl, rfl, fun _ h => h, fun _ _ => rfl⟩

theorem apart_stage (rows : Store) : Keeps Apart (stage rows) :=
  fun _ => ⟨rfl, rfl, fun _ h => h, fun _ _ => rfl⟩

theorem apart_commit : Keeps Apart commit := by
  refine Keeps.guarded_apart rfl (fun _ => apart_pure ()) (apart_rows.bind_apart fun committed => ?_)
  exact fun _ => ⟨rfl, rfl, fun _ h => h, fun _ _ => rfl⟩

theorem Keeps.inTransaction_apart {m : Run α} (h : Keeps Apart m) : Keeps Apart (inTransaction m) := by
  intro s
  have hs := h s
  exact ⟨hs.now, hs.cache, hs.faults, hs.fault⟩

theorem apart_lookup {call : Call} (hcall : call.isCached = false) (look : Store → Option α) :
    Keeps Apart (Run.guarded call Directory.strayRow do return look (← rows)) := by
  refine Keeps.guarded_apart hcall (fun v => ?_) (apart_rows.bind_apart fun _ => apart_pure _)
  unfold Directory.strayRow
  split
  · exact apart_pure none
  · exact apart_throw _

end Run

open Run Service

/-! ## The transactions of accounts -/

theorem Directory.softDelete_apart (user : Uuid) : Keeps Apart (softDelete user) := by
  refine Keeps.guarded_apart rfl (fun _ => apart_pure _) (apart_rows.bind_apart fun before => ?_)
  refine Keeps.bind_apart (m := get) Apart.refl fun s => ?_
  exact (apart_stage _).bind_apart fun _ => apart_pure _

theorem Directory.updateProvider_apart (provider : Uuid) (hash : String) :
    Keeps Apart (updateProvider provider hash) := by
  refine apart_rows.bind_apart fun before => Keeps.bind_apart (m := get) Apart.refl fun s => ?_
  exact (apart_stage _).bind_apart fun _ => Keeps.guarded_apart rfl (fun _ => apart_pure ()) (apart_pure ())

theorem Secret.hash_apart (password : RawText) : Keeps Apart (hash password) := by
  unfold hash
  split
  · refine Keeps.bind_apart (m := drawHash) ?_ fun _ => apart_pure _
    exact fun _ => ⟨rfl, rfl, fun _ h => h, fun _ _ => rfl⟩
  · exact apart_throw _

theorem Removal.mark_apart (user : Uuid) : Keeps Apart (mark user) := by
  refine (Directory.softDelete_apart user).bind_apart fun found => ?_
  cases found with
  | false => exact apart_pure _
  | true => exact apart_commit.bind_apart fun _ => apart_pure _

theorem PasswordChange.replace_apart (r : Request) : Keeps Apart (replace r) := by
  refine (apart_lookup rfl (·.userById? r.user)).bind_apart fun found => ?_
  cases found with
  | none => exact apart_pure _
  | some user =>
    refine (apart_lookup rfl (·.providerOf? user.id .localPassword)).bind_apart fun found => ?_
    cases found with
    | none => exact apart_pure _
    | some provider =>
      by_cases hopens : (!Secret.opens r.current (some provider)) = true
      · simp only [hopens, if_true]
        exact apart_pure _
      · simp only [hopens]
        cases Password.weakness r.new with
        | some weakness => exact apart_pure _
        | none =>
          refine (Secret.hash_apart r.new).bind_apart fun hash => ?_
          refine (Directory.updateProvider_apart provider.id hash).bind_apart fun _ => ?_
          exact apart_commit.bind_apart fun _ => apart_pure _

end Gatehouse
